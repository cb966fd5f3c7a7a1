import Mathlib.Data.List.Sort
import Mathlib.Data.String.Basic
import MiniRay.Library.Checked
import MiniRay.Library.Dict
import MiniRay.Library.Run

/-! Sparse vectors of integer milli-units, kept in the order of their names. -/

namespace MiniRay

def cpuName : String := "CPU"

/-- An immutable, normalized sparse resource vector. -/
structure ResourceVector where
  items : List (String × Nat)
  sorted : (items.map Prod.fst).Pairwise (· < ·)
  positive : ∀ item ∈ items, 0 < item.2
  deriving DecidableEq

namespace ResourceVector

def oneCpu : ResourceVector := ⟨[(cpuName, 1000)], by simp, by simp⟩

theorem nodup (self : ResourceVector) : (self.items.map Prod.fst).Nodup :=
  self.sorted.imp ne_of_lt

def toDict (self : ResourceVector) : Dict String Nat := ⟨self.items, self.nodup⟩

def units (self : ResourceVector) (name : String) : Nat := (self.toDict.get? name).getD 0

variable {self : ResourceVector}

theorem units_of_mem {item : String × Nat} (h : item ∈ self.items) :
    self.units item.1 = item.2 := by
  have hget : self.toDict.get? item.1 = some item.2 := Dict.get?_eq_some_iff.mpr h
  simp [units, hget]

theorem units_eq_zero {name : String} (h : name ∉ self.items.map Prod.fst) :
    self.units name = 0 := by
  have hget : self.toDict.get? name = none := Dict.get?_eq_none_iff.mpr h
  simp [units, hget]

def byName (a b : String × Nat) : Prop := a.1 ≤ b.1

instance : DecidableRel byName := fun a b => inferInstanceAs (Decidable (a.1 ≤ b.1))

instance : Std.Total byName := ⟨fun a b => le_total a.1 b.1⟩

instance : IsTrans (String × Nat) byName := ⟨fun _ _ _ h h' => le_trans h h'⟩

/-- The nonzero entries in the order of their names. -/
def sortItems (d : Dict String Nat) : List (String × Nat) :=
  (d.items.filter fun item => item.2 ≠ 0).insertionSort byName

theorem sortItems_perm (d : Dict String Nat) :
    (sortItems d).Perm (d.items.filter fun item => item.2 ≠ 0) :=
  List.perm_insertionSort _ _

theorem sorted_sortItems (d : Dict String Nat) :
    ((sortItems d).map Prod.fst).Pairwise (· < ·) := by
  have hnodup : ((sortItems d).map Prod.fst).Nodup :=
    ((sortItems_perm d).map Prod.fst).nodup_iff.mpr (Dict.nodup_filter_items _ d.nodup)
  have hle : ((sortItems d).map Prod.fst).Pairwise (· ≤ ·) :=
    List.pairwise_map.mpr (List.pairwise_insertionSort byName _)
  exact (hle.and hnodup).imp fun h => lt_of_le_of_ne h.1 h.2

/-- A vector from named quantities; zero quantities are dropped. -/
def fromUnits (resources : Dict String Nat) : ResourceVector where
  items := sortItems resources
  sorted := sorted_sortItems resources
  positive := fun item h => by
    have hm := (sortItems_perm resources).mem_iff.mp h
    simp only [List.mem_filter, decide_eq_true_eq] at hm
    exact Nat.pos_of_ne_zero hm.2

@[simp] theorem units_fromUnits (resources : Dict String Nat) (name : String) :
    (fromUnits resources).units name = (resources.get? name).getD 0 := by
  have hmem : ∀ item, item ∈ (fromUnits resources).items ↔
      resources.get? item.1 = some item.2 ∧ item.2 ≠ 0 := by
    intro item
    have hperm := (sortItems_perm resources).mem_iff (a := item)
    rw [List.mem_filter, decide_eq_true_eq] at hperm
    rw [Dict.get?_eq_some_iff]
    exact hperm
  cases hd : resources.get? name with
  | none =>
    have habsent : name ∉ (fromUnits resources).items.map Prod.fst := by
      intro hn
      obtain ⟨item, hi, rfl⟩ := List.mem_map.mp hn
      have hitem := (hmem item).mp hi
      simp [hd] at hitem
    exact units_eq_zero habsent
  | some u =>
    by_cases hu : u = 0
    · have habsent : name ∉ (fromUnits resources).items.map Prod.fst := by
        intro hn
        obtain ⟨item, hi, rfl⟩ := List.mem_map.mp hn
        have hitem := (hmem item).mp hi
        simp [hd, hu, eq_comm] at hitem
      simp [units_eq_zero habsent, hu]
    · exact units_of_mem ((hmem (name, u)).mpr ⟨hd, hu⟩)

def fitsIn (self capacity : ResourceVector) : Bool :=
  self.items.all fun item => item.2 ≤ capacity.units item.1

def empty : ResourceVector := ⟨[], .nil, nofun⟩

@[simp] theorem units_empty (name : String) : empty.units name = 0 := rfl

/-- Quantities add up name by name. -/
def add (self other : ResourceVector) : ResourceVector :=
  fromUnits (.tabulate (self.items.map Prod.fst ++ other.items.map Prod.fst)
    fun name => self.units name + other.units name)

@[simp] theorem units_add (self other : ResourceVector) (name : String) :
    (self.add other).units name = self.units name + other.units name := by
  by_cases h : name ∈ self.items.map Prod.fst ++ other.items.map Prod.fst
  · simp only [add, units_fromUnits, Dict.get?_tabulate, if_pos h, Option.getD_some]
  · simp only [add, units_fromUnits, Dict.get?_tabulate, if_neg h, Option.getD_none]
    rw [List.mem_append, not_or] at h
    simp [units_eq_zero h.1, units_eq_zero h.2]

end ResourceVector

end MiniRay

/-! ## The resource ledger

The local source of truth for resource allocations. CPU availability is signed: a resumed
allocation takes its CPU back at once, and the debt is repaid by later releases. -/

namespace MiniRay

open Checked

/-- An opaque idempotency key for one ledger allocation. -/
@[ext] structure AllocationToken where
  value : String
  value_ne : value ≠ ""

instance : DecidableEq AllocationToken := fun _ _ => decidable_of_iff' _ AllocationToken.ext_iff

inductive AllocationState
  | active
  | cpuYielded
  | released
  deriving DecidableEq

structure AllocationRecord where
  token : AllocationToken
  resources : ResourceVector
  state : AllocationState

/-- What is still charged to it: a blocked task gives back only its CPU. -/
def AllocationRecord.heldResources (self : AllocationRecord) : ResourceVector :=
  match self.state with
  | .released => .empty
  | .cpuYielded => .fromUnits (self.resources.toDict.filter fun name _ => name ≠ cpuName)
  | .active => self.resources

/-- The ledger's exceptions; `insufficientResources` prints its vectors. -/
inductive ResourceError
  | allocationToken (message : String)
  | allocationAlreadyReleased (message : String)
  | insufficientResources (requested available : ResourceVector)
  | assertionError (message : String)
  deriving DecidableEq

structure ResourceLedger where
  total : ResourceVector
  availableUnits : Dict String Int
  records : Dict AllocationToken AllocationRecord

namespace ResourceLedger

def new (total : ResourceVector) : ResourceLedger :=
  ⟨total, total.toDict.mapValues fun _ units => units, .empty⟩

def signedAvailable (self : ResourceLedger) (name : String) : Int :=
  (self.availableUnits.get? name).getD 0

/-- The capacity schedulers see: CPU debt is not schedulable negative capacity. -/
def publicAvailable (self : ResourceLedger) : ResourceVector :=
  .fromUnits (self.availableUnits.mapValues fun name units =>
    (if name = cpuName then max 0 units else units).toNat)

def canAllocate (self : ResourceLedger) (request : ResourceVector) : Bool :=
  request.items.all fun item => (item.2 : Int) ≤ self.signedAvailable item.1

def changeUnits (sign : Int) (available : Dict String Int) (item : String × Nat) :
    Dict String Int :=
  available.set item.1 ((available.get? item.1).getD 0 + sign * item.2)

def changeAvailable (self : ResourceLedger) (resources : ResourceVector) (sign : Int) :
    ResourceLedger :=
  { self with availableUnits := resources.items.foldl (changeUnits sign) self.availableUnits }

def setRecord (self : ResourceLedger) (record : AllocationRecord) : ResourceLedger :=
  { self with records := self.records.set record.token record }

def assertInvariants (self : ResourceLedger) : Except ResourceError Unit :=
  checkAll (fun name => do
    raiseIf (self.signedAvailable name > self.total.units name)
      (.assertionError "resource ledger invariant violated: over-release")
    raiseIf (name ≠ cpuName ∧ self.signedAvailable name < 0)
      (.assertionError "resource ledger invariant violated: non-CPU debt"))
    (self.availableUnits.keys ++ self.total.items.map Prod.fst)

/-- Without a token of its own a call gets a random one. -/
def allocate (self : ResourceLedger) (request : ResourceVector) (token : Option AllocationToken)
    (random : AllocationToken) : Except ResourceError AllocationToken × ResourceLedger :=
  let allocationToken := token.getD random
  match self.records.get? allocationToken with
  | some existing =>
    if existing.resources ≠ request then
      (.error (.allocationToken
        "the same allocation token cannot name different resources"), self)
    else if existing.state = .released then
      (.error (.allocationAlreadyReleased
        "a released allocation token cannot be reacquired"), self)
    else (.ok allocationToken, self)
  | none =>
    if self.canAllocate request then
      let charged :=
        (self.changeAvailable request (-1)).setRecord ⟨allocationToken, request, .active⟩
      (charged.assertInvariants.map fun _ => allocationToken, charged)
    else (.error (.insufficientResources request self.publicAvailable), self)

def tryAllocate (self : ResourceLedger) (request : ResourceVector)
    (token : Option AllocationToken) (random : AllocationToken) :
    Except ResourceError (Option AllocationToken) × ResourceLedger :=
  match self.allocate request token random with
  | (.ok allocationToken, after) => (.ok (some allocationToken), after)
  | (.error (.insufficientResources _ _), after) => (.ok none, after)
  | (.error raised, after) => (.error raised, after)

/-- A yielded allocation has returned its CPU: only what it still holds is credited. -/
def release (self : ResourceLedger) (token : AllocationToken) :
    Except ResourceError Bool × ResourceLedger :=
  match self.records.get? token with
  | none => (.error (.allocationToken "unknown allocation token"), self)
  | some existing =>
    if existing.state = .released then (.ok false, self)
    else
      let credited := (self.changeAvailable existing.heldResources 1).setRecord
        ⟨token, existing.resources, .released⟩
      (credited.assertInvariants.map fun _ => true, credited)

def addCpu (self : ResourceLedger) (units : Int) : ResourceLedger :=
  { self with availableUnits :=
      self.availableUnits.set cpuName ((self.availableUnits.get? cpuName).getD 0 + units) }

/-- Return one live allocation's CPU while retaining all other resources. -/
def yieldCpu (self : ResourceLedger) (token : AllocationToken) :
    Except ResourceError Bool × ResourceLedger :=
  match self.records.get? token with
  | none => (.error (.allocationToken "unknown allocation token"), self)
  | some existing =>
    if existing.state ≠ .active then (.ok false, self)
    else if existing.resources.units cpuName = 0 then (.ok false, self)
    else
      let yielded := (self.addCpu (existing.resources.units cpuName)).setRecord
        ⟨token, existing.resources, .cpuYielded⟩
      (yielded.assertInvariants.map fun _ => true, yielded)

/-- Restore yielded CPU immediately, allowing signed CPU debt. -/
def reacquireCpu (self : ResourceLedger) (token : AllocationToken) :
    Except ResourceError Bool × ResourceLedger :=
  match self.records.get? token with
  | none => (.error (.allocationToken "unknown allocation token"), self)
  | some existing =>
    if existing.state ≠ .cpuYielded then (.ok false, self)
    else if existing.resources.units cpuName = 0 then (.error (.assertionError ""), self)
    else
      let reacquired := (self.addCpu (-existing.resources.units cpuName)).setRecord
        ⟨token, existing.resources, .active⟩
      (reacquired.assertInvariants.map fun _ => true, reacquired)

/-! ## Runs -/

inductive Op
  | allocate (request : ResourceVector) (token : Option AllocationToken)
      (random : AllocationToken)
  | tryAllocate (request : ResourceVector) (token : Option AllocationToken)
      (random : AllocationToken)
  | release (token : AllocationToken)
  | yieldCpu (token : AllocationToken)
  | reacquireCpu (token : AllocationToken)

/-- What a call returns: a token, or whether it changed anything. -/
inductive Reply
  | token (token : Option AllocationToken)
  | changed (changed : Bool)

def call (self : ResourceLedger) : Op → Except ResourceError Reply × ResourceLedger
  | .allocate request token random =>
    let (result, after) := self.allocate request token random
    (result.map fun t => .token (some t), after)
  | .tryAllocate request token random =>
    let (result, after) := self.tryAllocate request token random
    (result.map .token, after)
  | .release token => let (result, after) := self.release token; (result.map .changed, after)
  | .yieldCpu token => let (result, after) := self.yieldCpu token; (result.map .changed, after)
  | .reacquireCpu token =>
    let (result, after) := self.reacquireCpu token
    (result.map .changed, after)

def step (self : ResourceLedger) (op : Op) : ResourceLedger := (self.call op).2

def Op.subject : Op → AllocationToken
  | .allocate _ token random => token.getD random
  | .tryAllocate _ token random => token.getD random
  | .release token => token
  | .yieldCpu token => token
  | .reacquireCpu token => token

end ResourceLedger

end MiniRay
