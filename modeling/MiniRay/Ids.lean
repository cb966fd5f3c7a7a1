import MiniRay.Library.Framing
import Mathlib.Data.Prod.Lex
import Mathlib.Order.Fin.Basic
import Mathlib.Data.String.Basic

/-! Opaque identities are 128-bit values. `TaskID` and `ObjectID` are logical and stable;
`AttemptID` names one physical execution. -/

namespace MiniRay

/-- Equality of a structure is decided field by field. -/
abbrev byFields {α : Type} {p : α → α → Prop} [∀ a b, Decidable (p a b)]
    (h : ∀ {a b : α}, a = b ↔ p a b) : DecidableEq α := fun _ _ => decidable_of_iff' _ h

/-- Sixteen opaque bytes, ordered as the big-endian number they spell. -/
abbrev OpaqueValue := Fin (2 ^ 128)

instance neZeroOpaque : NeZero (2 ^ 128) := ⟨by decide⟩

def OpaqueValue.hex (value : OpaqueValue) : String := String.ofList (Sha256.hexDigits 32 value.val)

theorem OpaqueValue.hex_inj {a b : OpaqueValue} (h : a.hex = b.hex) : a = b := by
  have hdigits := Sha256.hexDigits_inj (String.ofList_injective h)
  have hbound : ∀ v : OpaqueValue, v.val % 16 ^ 32 = v.val := by
    intro v
    exact Nat.mod_eq_of_lt (lt_of_lt_of_eq v.isLt (by decide))
  rw [hbound, hbound] at hdigits
  exact Fin.ext hdigits

def OpaqueValue.bytes (value : OpaqueValue) : List UInt8 := Sha256.bigEndian 16 value.val

theorem OpaqueValue.bytes_inj {a b : OpaqueValue} (h : a.bytes = b.bytes) : a = b := by
  have hbound : ∀ v : OpaqueValue, v.val < 256 ^ 16 := fun v => v.isLt.trans_eq (by decide)
  exact Fin.ext (Framing.bigEndian_inj (hbound a) (hbound b) h)

structure JobID where
  value : OpaqueValue
  deriving DecidableEq

structure TaskID where
  value : OpaqueValue
  deriving DecidableEq

structure NodeID where
  value : OpaqueValue
  deriving DecidableEq

structure WorkerID where
  value : OpaqueValue
  deriving DecidableEq

structure LeaseID where
  value : OpaqueValue
  deriving DecidableEq

structure ActorID where
  value : OpaqueValue
  deriving DecidableEq

structure PlacementGroupID where
  value : OpaqueValue
  deriving DecidableEq

instance : LinearOrder TaskID :=
  LinearOrder.lift' TaskID.value fun a b h => by cases a; cases b; simp_all

instance : LinearOrder NodeID :=
  LinearOrder.lift' NodeID.value fun a b h => by cases a; cases b; simp_all

instance : LinearOrder WorkerID :=
  LinearOrder.lift' WorkerID.value fun a b h => by cases a; cases b; simp_all

/-- One physical execution of a logical task. -/
structure AttemptID where
  taskId : TaskID
  attemptNumber : Nat
  deriving DecidableEq

def AttemptID.next (a : AttemptID) : AttemptID := ⟨a.taskId, a.attemptNumber + 1⟩

/-- A deterministic logical return slot of a task. -/
structure ObjectID where
  taskId : TaskID
  returnIndex : Nat
  deriving DecidableEq

def ObjectID.forTask (taskId : TaskID) (returnIndex : Nat) : ObjectID := ⟨taskId, returnIndex⟩

instance : LinearOrder ObjectID :=
  LinearOrder.lift' (fun o => toLex (o.taskId, o.returnIndex)) fun a b h => by
    cases a; cases b; simp_all

/-- A physical incarnation of a logical actor. -/
structure ActorGeneration where
  actorId : ActorID
  generation : Nat
  deriving DecidableEq

/-- The text `repr` prints, which also orders table scans. -/
def ObjectID.repr (o : ObjectID) : String :=
  "ObjectID(task_id=TaskID('" ++ o.taskId.value.hex ++ "'), return_index=" ++
    toString o.returnIndex ++ ")"

def ObjectID.str (o : ObjectID) : String := o.taskId.value.hex ++ ":" ++ toString o.returnIndex

def TaskID.repr (t : TaskID) : String := "TaskID('" ++ t.value.hex ++ "')"

def NodeID.repr (n : NodeID) : String := "NodeID('" ++ n.value.hex ++ "')"

def WorkerID.repr (w : WorkerID) : String := "WorkerID('" ++ w.value.hex ++ "')"

/-- The range of a `uint64` wire field. -/
def Uint64 (n : Nat) : Prop := n < 2 ^ 64

instance (n : Nat) : Decidable (Uint64 n) := inferInstanceAs (Decidable (n < 2 ^ 64))

end MiniRay
