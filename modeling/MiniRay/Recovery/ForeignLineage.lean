import MiniRay.Ownership.Types
import MiniRay.Recovery.Manager

/-! What a task keeps alive at other owners. Its edges are registered once, renewed hold by hold as
owners acknowledge, and claimed for release when its last output is collected. -/

namespace MiniRay

open Checked Run

/-- A non-empty set of the flags TOP_LEVEL and NESTED. -/
inductive ForeignLineageRole
  | topLevel
  | nested
  | both
  deriving DecidableEq

def ForeignLineageRole.union : ForeignLineageRole → ForeignLineageRole → ForeignLineageRole
  | .topLevel, .topLevel => .topLevel
  | .nested, .nested => .nested
  | _, _ => .both

@[ext] structure ForeignLineageEdge where
  taskId : TaskID
  dependencyObjectId : ObjectID
  ownerWorkerId : WorkerID
  ownerAddress : Address
  borrowerWorkerId : WorkerID
  hold : TaskReferenceHold
  roles : ForeignLineageRole
  retained : hold.kind = .retained
  own_hold : hold.taskId = taskId ∧ hold.submittingWorkerId = borrowerWorkerId

instance : DecidableEq ForeignLineageEdge := byFields ForeignLineageEdge.ext_iff

def ForeignLineageEdge.key (e : ForeignLineageEdge) : ObjectID × WorkerID :=
  (e.dependencyObjectId, e.ownerWorkerId)

structure ForeignLineageTask where
  taskId : TaskID
  outputIds : List ObjectID
  edges : List ForeignLineageEdge
  deriving DecidableEq

def CollectedObjectForgetPlan.removeTask (plan : CollectedObjectForgetPlan) : Bool :=
  match plan.kind with
  | .task _ removeTask _ => removeTask
  | _ => false

/-- Durable intent recorded before local collection authorities commit. -/
@[ext] structure ForeignLineagePreparedCollectionReceipt where
  taskId : TaskID
  outputId : ObjectID
  ownerPlan : ObjectMetadataCollectionPlan
  recoveryPlan : CollectedObjectForgetPlan
  own_output : outputId.taskId = taskId
  same_output : ownerPlan.objectId = outputId ∧ recoveryPlan.objectId = outputId
  of_task : ∃ removeTask active, recoveryPlan.kind = .task taskId removeTask active

instance : DecidableEq ForeignLineagePreparedCollectionReceipt :=
  byFields ForeignLineagePreparedCollectionReceipt.ext_iff

/-- Proof activated only after owner and recovery collection commit. -/
structure ForeignLineageCollectionReceipt where
  prepared : ForeignLineagePreparedCollectionReceipt
  deriving DecidableEq

namespace ForeignLineageCollectionReceipt

def outputId (r : ForeignLineageCollectionReceipt) : ObjectID := r.prepared.outputId

def Final (r : ForeignLineageCollectionReceipt) : Prop := r.prepared.recoveryPlan.removeTask = true

instance (r : ForeignLineageCollectionReceipt) : Decidable r.Final :=
  inferInstanceAs (Decidable (_ = true))

end ForeignLineageCollectionReceipt

structure ForeignLineageCollectionPlan where
  taskId : TaskID
  outputIds : List ObjectID
  edges : List ForeignLineageEdge
  receipts : List ForeignLineageCollectionReceipt
  deriving DecidableEq

inductive ForeignLineageError
  | valueError (text : String)
  | runtimeError (text : String)
  | keyError (taskId : TaskID)

/-- Register once, preserve across attempts, claim at final sibling GC. -/
structure ForeignLineageRegistry where
  tasks : Dict TaskID ForeignLineageTask := .empty
  claimed : Dict TaskID ForeignLineageCollectionPlan := .empty
  deadOwners : Dict WorkerID DeadWorkerReferenceRecord := .empty
  admissionOpen : Bool := true

namespace ForeignLineageRegistry

open ForeignLineageError

/-- Edges of one task sort by the dependency and its owner: no two share both. -/
def sortEdges (edges : List ForeignLineageEdge) : List ForeignLineageEdge :=
  Sorted.sortOn (fun e => toLex e.key) edges

def mergeEdge (taskId : TaskID) (merged : Dict (ObjectID × WorkerID) ForeignLineageEdge)
    (edge : ForeignLineageEdge) :
    Except ForeignLineageError (Dict (ObjectID × WorkerID) ForeignLineageEdge) := do
  raiseIf (edge.taskId ≠ taskId) (valueError "foreign lineage edge belongs to another task")
  match merged.get? edge.key with
  | none => return merged.set edge.key edge
  | some prior => do
      raiseIf (prior.ownerAddress ≠ edge.ownerAddress ∨
          prior.borrowerWorkerId ≠ edge.borrowerWorkerId ∨ prior.hold ≠ edge.hold)
        (valueError "duplicate foreign lineage edge conflicts")
      return merged.set edge.key { prior with roles := prior.roles.union edge.roles }

def normalizeEdges (taskId : TaskID) (edges : List ForeignLineageEdge) :
    Except ForeignLineageError (List ForeignLineageEdge) := do
  let merged ← edges.foldlM (mergeEdge taskId) .empty
  return sortEdges merged.values

section

variable (self : ForeignLineageRegistry)

def register (taskId : TaskID) (outputIds : List ObjectID) (edges : List ForeignLineageEdge) :
    Except ForeignLineageError (ForeignLineageTask × ForeignLineageRegistry) := do
  raiseIf (outputIds = [] ∨ ∃ o ∈ outputIds, o.taskId ≠ taskId)
    (valueError "output_ids must be a non-empty task manifest")
  raiseIf (¬ outputIds.Nodup) (valueError "output_ids must be unique")
  let normalized ← normalizeEdges taskId edges
  let record : ForeignLineageTask := ⟨taskId, outputIds, normalized⟩
  raiseIf (self.claimed.get? taskId ≠ none) (valueError "foreign lineage was already claimed")
  let previous := self.tasks.get? taskId
  raiseIf (previous ≠ none ∧ previous ≠ some record)
    (valueError "task was registered with conflicting foreign lineage")
  raiseIf (previous = none ∧ self.admissionOpen = false)
    (runtimeError "foreign lineage admission is closed")
  return (previous.getD record, { self with tasks := self.tasks.set taskId record })

/-- Fence new task registrations, preserving exact replays. -/
def closeAdmission : Bool × ForeignLineageRegistry :=
  (self.admissionOpen, { self with admissionOpen := false })

def abort (expected : ForeignLineageTask) :
    Except ForeignLineageError (Bool × ForeignLineageRegistry) :=
  match self.tasks.get? expected.taskId with
  | none => .ok (false, self)
  | some current => do
      raiseIf (current ≠ expected) (valueError "foreign lineage changed before abort")
      return (true, { self with tasks := self.tasks.erase expected.taskId })

/-- The same credential under another hold. -/
def SameRoute (e e' : ForeignLineageEdge) : Prop :=
  e.taskId = e'.taskId ∧ e.dependencyObjectId = e'.dependencyObjectId ∧
    e.ownerWorkerId = e'.ownerWorkerId ∧ e.ownerAddress = e'.ownerAddress ∧
    e.borrowerWorkerId = e'.borrowerWorkerId ∧ e.roles = e'.roles

instance (e e' : ForeignLineageEdge) : Decidable (SameRoute e e') :=
  inferInstanceAs (Decidable (_ ∧ _))

def origin (e : ForeignLineageEdge) : Nat := e.hold.originAttemptId.attemptNumber

def byKey (edges : List ForeignLineageEdge) : Dict (ObjectID × WorkerID) ForeignLineageEdge :=
  edges.foldl (fun d e => d.set e.key e) .empty

/-- Record one owner-ACKed `old hold -> new hold` transition. -/
def commitEdgeReplacement (expected replacement : ForeignLineageEdge) :
    Except ForeignLineageError (ForeignLineageTask × ForeignLineageRegistry) := do
  raiseIf (¬ SameRoute expected replacement)
    (valueError "foreign lineage replacement may change only the hold")
  raiseIf (origin replacement ≤ origin expected)
    (valueError "foreign lineage replacement origin attempt must increase")
  let taskId := expected.taskId
  raiseIf (self.claimed.get? taskId ≠ none)
    (valueError "foreign lineage cannot change after collection claim")
  match self.tasks.get? taskId with
  | none => .error (keyError taskId)
  | some record => do
      let current := (byKey record.edges).get? expected.key
      if current = some replacement then
        return (record, self)
      raiseIf (current ≠ some expected)
        (valueError "foreign lineage edge changed before replacement commit")
      let updated : ForeignLineageTask := ⟨taskId, record.outputIds,
        sortEdges ((byKey record.edges).set expected.key replacement).values⟩
      return (updated, { self with tasks := self.tasks.set taskId updated })

/-- Claim from a full set of committed per-output receipts. -/
def claimWithReceipts (taskId : TaskID) (receipts : List ForeignLineageCollectionReceipt) :
    Except ForeignLineageError (Option ForeignLineageCollectionPlan × ForeignLineageRegistry) := do
  raiseIf (∃ r ∈ receipts, r.prepared.taskId ≠ taskId)
    (valueError "collection receipt belongs to another TaskID")
  let outputs := receipts.map ForeignLineageCollectionReceipt.outputId
  raiseIf (¬ outputs.Nodup) (valueError "collection receipts must have unique outputs")
  match self.claimed.get? taskId, self.tasks.get? taskId with
  | some plan, _ => return (some plan, self)
  | none, none => return (none, self)
  | none, some record => do
      if outputs.toFinset ≠ record.outputIds.toFinset then
        return (none, self)
      raiseIf (receipts.countP (fun r => decide r.Final) ≠ 1)
        (valueError "complete collection receipts require exactly one final recovery plan")
      let plan : ForeignLineageCollectionPlan := ⟨record.taskId, record.outputIds, record.edges,
        Sorted.sortOn ForeignLineageCollectionReceipt.outputId receipts⟩
      return (some plan, { self with claimed := self.claimed.set taskId plan })

def completeClaim (plan : ForeignLineageCollectionPlan) :
    Except ForeignLineageError (Bool × ForeignLineageRegistry) := do
  raiseIf (self.claimed.get? plan.taskId ≠ some plan)
    (valueError "foreign lineage collection claim changed")
  return (true, { self with
    claimed := self.claimed.erase plan.taskId
    tasks := self.tasks.erase plan.taskId })

/-- Install only a locally validated owner-table death proof. -/
def markOwnerDead (record : DeadWorkerReferenceRecord) :
    Except ForeignLineageError (List TaskID × ForeignLineageRegistry) := do
  let previous := self.deadOwners.get? record.workerId
  raiseIf (previous ≠ none ∧ previous ≠ some record)
    (valueError "owner death proof conflicts with tombstone")
  let affected := self.tasks.items.filter fun item =>
    item.2.edges.any fun e => e.ownerWorkerId = record.workerId
  return ((affected.map Prod.fst).insertionSort (· ≤ ·),
    { self with deadOwners := self.deadOwners.set record.workerId record })

end

/-! ## Edges in the order of their keys -/

variable {s s' : ForeignLineageRegistry} {t : TaskID} {e e' x : ForeignLineageEdge}
  {edges : List ForeignLineageEdge}

/-- Edges of the task `t`, one for each dependency and owner. -/
structure Ordered (t : TaskID) (edges : List ForeignLineageEdge) : Prop where
  own : ∀ e ∈ edges, e.taskId = t
  sorted : edges.Pairwise fun a b => toLex a.key < toLex b.key

theorem Ordered.nodup (h : Ordered t edges) : (edges.map ForeignLineageEdge.key).Nodup :=
  List.pairwise_map.mpr (h.sorted.imp fun hlt heq => hlt.ne (congrArg toLex heq))

theorem mem_sortEdges {d : Dict (ObjectID × WorkerID) ForeignLineageEdge} :
    e ∈ sortEdges d.values ↔ ∃ k, d.get? k = some e := by
  rw [sortEdges, Sorted.mem_sortOn, Dict.mem_values_iff]

theorem ordered_values {d : Dict (ObjectID × WorkerID) ForeignLineageEdge}
    (h : ∀ k e, d.get? k = some e → e.key = k ∧ e.taskId = t) : Ordered t (sortEdges d.values) where
  own e he := by
    obtain ⟨k, hk⟩ := mem_sortEdges.mp he
    exact (h k e hk).2
  sorted := by
    refine Sorted.pairwise_sortOn ?_
    have hkeys : d.values.map ForeignLineageEdge.key = d.keys := by
      rw [Dict.values, Dict.keys, List.map_map]
      exact List.map_congr_left fun item hitem => (h _ _ (Dict.get?_eq_some_iff.mpr hitem)).1
    have hnodup : (d.keys.map toLex).Nodup := d.nodup.map toLex.injective
    rwa [← hkeys, List.map_map] at hnodup

theorem get?_byKey (h : (edges.map ForeignLineageEdge.key).Nodup) {k : ObjectID × WorkerID} :
    (byKey edges).get? k = some x ↔ x ∈ edges ∧ x.key = k := by
  induction edges using List.reverseRecOn with
  | nil => simp [byKey]
  | append_singleton edges e ih =>
    rw [List.map_append, List.nodup_append] at h
    have hnew : ∀ y ∈ edges, y.key ≠ e.key :=
      fun y hy => h.2.2 _ (List.mem_map_of_mem hy) _ (by simp)
    have hset : byKey (edges ++ [e]) = (byKey edges).set e.key e := by simp [byKey]
    rw [hset, Dict.get?_set]
    split
    · rename_i hk
      constructor
      · intro hx
        cases hx
        exact ⟨by simp, hk⟩
      · rintro ⟨hx, hxk⟩
        rcases List.mem_append.mp hx with hx | hx
        · exact absurd (hxk.trans hk.symm) (hnew x hx)
        · rw [List.mem_singleton.mp hx]
    · rename_i hk
      rw [ih h.1, List.mem_append, List.mem_singleton]
      refine ⟨fun hx => ⟨.inl hx.1, hx.2⟩, fun hx => ⟨hx.1.resolve_right ?_, hx.2⟩⟩
      rintro rfl
      exact hk hx.2

/-- A replacement takes the place of the edge with its key. -/
theorem mem_replaced (h : Ordered t edges) :
    x ∈ sortEdges ((byKey edges).set e.key e').values ↔ x = e' ∨ x ∈ edges ∧ x.key ≠ e.key := by
  rw [mem_sortEdges]
  constructor
  · rintro ⟨k, hk⟩
    rw [Dict.get?_set] at hk
    split at hk
    · exact .inl (Option.some.inj hk).symm
    · rename_i hne
      obtain ⟨hx, rfl⟩ := (get?_byKey h.nodup).mp hk
      exact .inr ⟨hx, Ne.symm hne⟩
  · rintro (rfl | ⟨hx, hne⟩)
    · exact ⟨_, Dict.get?_set_self _ _ _⟩
    · refine ⟨x.key, ?_⟩
      rw [Dict.get?_set_of_ne _ _ (Ne.symm hne)]
      exact (get?_byKey h.nodup).mpr ⟨hx, rfl⟩

theorem ordered_replaced (h : Ordered t edges) (hkey : e'.key = e.key) (hown : e'.taskId = t) :
    Ordered t (sortEdges ((byKey edges).set e.key e').values) := by
  refine ordered_values fun k x hx => ?_
  rcases Dict.of_get?_set hx with ⟨rfl, rfl⟩ | hx
  · exact ⟨hkey, hown⟩
  · obtain ⟨hx, hk⟩ := (get?_byKey h.nodup).mp hx
    exact ⟨hk, h.own x hx⟩

theorem normalizeEdges_ordered {normalized : List ForeignLineageEdge}
    (h : normalizeEdges t edges = .ok normalized) : Ordered t normalized := by
  have hmerge : ∀ (edges : List ForeignLineageEdge) (d merged : Dict _ ForeignLineageEdge),
      (∀ k e, d.get? k = some e → e.key = k ∧ e.taskId = t) →
      edges.foldlM (mergeEdge t) d = .ok merged →
      ∀ k e, merged.get? k = some e → e.key = k ∧ e.taskId = t := by
    intro edges
    induction edges with
    | nil =>
      intro d merged hd hok
      obtain rfl : d = merged := by simpa using hok
      exact hd
    | cons edge edges ih =>
      intro d merged hd hok
      rw [List.foldlM_cons, bind_eq_ok] at hok
      obtain ⟨next, hnext, hok⟩ := hok
      refine ih next merged ?_ hok
      simp only [mergeEdge, bind_eq_ok, raiseIf_eq_ok, not_not] at hnext
      obtain ⟨_, hown, hnext⟩ := hnext
      intro k e he
      cases hprior : d.get? edge.key with
      | none =>
        simp only [hprior, pure_eq_ok] at hnext
        subst hnext
        rcases Dict.of_get?_set he with ⟨rfl, rfl⟩ | he
        · exact ⟨rfl, hown⟩
        · exact hd k e he
      | some prior =>
        simp only [hprior, bind_eq_ok, pure_eq_ok] at hnext
        obtain ⟨_, _, rfl⟩ := hnext
        rcases Dict.of_get?_set he with ⟨rfl, rfl⟩ | he
        · exact hd _ prior hprior
        · exact hd k e he
  simp only [normalizeEdges, bind_eq_ok, pure_eq_ok] at h
  obtain ⟨merged, hmerged, rfl⟩ := h
  exact ordered_values (hmerge edges .empty merged (by simp) hmerged)

/-! ## Calls -/

inductive Call
  | register (taskId : TaskID) (outputIds : List ObjectID) (edges : List ForeignLineageEdge)
  | closeAdmission
  | abort (expected : ForeignLineageTask)
  | commitEdgeReplacement (expected replacement : ForeignLineageEdge)
  | claimWithReceipts (taskId : TaskID) (receipts : List ForeignLineageCollectionReceipt)
  | completeClaim (plan : ForeignLineageCollectionPlan)
  | markOwnerDead (record : DeadWorkerReferenceRecord)

/-- The registry after a call: one that raises leaves it alone. -/
def after {β : Type} (s : ForeignLineageRegistry) :
    Except ForeignLineageError (β × ForeignLineageRegistry) → ForeignLineageRegistry
  | .ok (_, s') => s'
  | .error _ => s

def step (s : ForeignLineageRegistry) : Call → ForeignLineageRegistry
  | .register taskId outputIds edges => s.after (s.register taskId outputIds edges)
  | .closeAdmission => s.closeAdmission.2
  | .abort expected => s.after (s.abort expected)
  | .commitEdgeReplacement expected replacement =>
    s.after (s.commitEdgeReplacement expected replacement)
  | .claimWithReceipts taskId receipts => s.after (s.claimWithReceipts taskId receipts)
  | .completeClaim plan => s.after (s.completeClaim plan)
  | .markOwnerDead record => s.after (s.markOwnerDead record)

structure Recorded (t : TaskID) (r : ForeignLineageTask) : Prop where
  named : r.taskId = t
  outputs : r.outputIds ≠ []
  once : r.outputIds.Nodup
  own : ∀ o ∈ r.outputIds, o.taskId = t
  ordered : Ordered t r.edges

/-- A claim carries one receipt for each output, and exactly one of them is final. -/
structure Claims (t : TaskID) (p : ForeignLineageCollectionPlan) : Prop where
  named : p.taskId = t
  own : ∀ r ∈ p.receipts, r.prepared.taskId = t
  covers : ∀ o, o ∈ p.outputIds ↔ ∃ r ∈ p.receipts, r.outputId = o
  sorted : p.receipts.Pairwise fun a b => a.outputId < b.outputId
  final : p.receipts.countP (fun r => decide r.Final) = 1

/-- The next hold of a credential comes from a later attempt. -/
def Succeeds (e e' : ForeignLineageEdge) : Prop := SameRoute e e' ∧ origin e < origin e'

/-- What a call can do. -/
inductive Moves (s : ForeignLineageRegistry) : Call → ForeignLineageRegistry → Prop
  | same {c : Call} : Moves s c s
  | registered {c : Call} {t : TaskID} (r : ForeignLineageTask) (recorded : Recorded t r)
      (new : s.tasks.get? t = none) (unclaimed : s.claimed.get? t = none)
      (admitted : s.admissionOpen = true) : Moves s c { s with tasks := s.tasks.set t r }
  | closed {c : Call} : Moves s c { s with admissionOpen := false }
  | aborted {c : Call} (t : TaskID) : Moves s c { s with tasks := s.tasks.erase t }
  | replaced {c : Call} (e e' : ForeignLineageEdge) (r : ForeignLineageTask)
      (known : s.tasks.get? e.taskId = some r) (unclaimed : s.claimed.get? e.taskId = none)
      (current : (byKey r.edges).get? e.key = some e) (succeeds : Succeeds e e') :
      Moves s c { s with tasks := s.tasks.set e.taskId ⟨e.taskId, r.outputIds,
        sortEdges ((byKey r.edges).set e.key e').values⟩ }
  | claims {c : Call} {t : TaskID} (r : ForeignLineageTask) (p : ForeignLineageCollectionPlan)
      (known : s.tasks.get? t = some r) (unclaimed : s.claimed.get? t = none)
      (same : p.outputIds = r.outputIds ∧ p.edges = r.edges) (claims : r.taskId = t → Claims t p) :
      Moves s c { s with claimed := s.claimed.set t p }
  | completed (p : ForeignLineageCollectionPlan) (held : s.claimed.get? p.taskId = some p) :
      Moves s (.completeClaim p) { s with
        claimed := s.claimed.erase p.taskId, tasks := s.tasks.erase p.taskId }
  | buried {c : Call} (d : DeadWorkerReferenceRecord) (new : s.deadOwners.get? d.workerId = none) :
      Moves s c { s with deadOwners := s.deadOwners.set d.workerId d }

variable {c : Call}

theorem register_moves {outputIds : List ObjectID} {r : ForeignLineageTask}
    (h : s.register t outputIds edges = .ok (r, s')) : Moves s c s' := by
  simp only [register, bind_eq_ok, raiseIf_eq_ok, pure_eq_ok, Prod.mk.injEq, not_not, not_or,
    not_and, not_exists] at h
  obtain ⟨_, ⟨hsome, hown⟩, _, honce, normalized, hnormalized, _, hunclaimed, _, hsame, _,
    hadmitted, _, rfl⟩ := h
  have hrecorded : Recorded t ⟨t, outputIds, normalized⟩ :=
    ⟨rfl, hsome, honce, hown, normalizeEdges_ordered hnormalized⟩
  cases hprevious : s.tasks.get? t with
  | none =>
    exact .registered _ hrecorded hprevious hunclaimed (by simpa using hadmitted hprevious)
  | some previous =>
    rw [hprevious] at hsame
    cases hsame (by simp)
    rw [Dict.set_get? hprevious]
    exact .same

theorem abort_moves {r : ForeignLineageTask} {b : Bool}
    (h : s.abort r = .ok (b, s')) : Moves s c s' := by
  rw [abort] at h
  cases hcurrent : s.tasks.get? r.taskId with
  | none =>
    rw [hcurrent] at h
    cases h
    exact .same
  | some current =>
    simp only [hcurrent, bind_eq_ok, pure_eq_ok, Prod.mk.injEq] at h
    obtain ⟨_, _, _, rfl⟩ := h
    exact .aborted _

theorem replacement_moves {r : ForeignLineageTask}
    (h : s.commitEdgeReplacement e e' = .ok (r, s')) : Moves s c s' := by
  simp only [commitEdgeReplacement, bind_eq_ok, raiseIf_eq_ok, not_not, not_le] at h
  obtain ⟨_, hroute, _, hlater, _, hunclaimed, h⟩ := h
  cases hknown : s.tasks.get? e.taskId with
  | none =>
    rw [hknown] at h
    cases h
  | some record =>
    simp only [hknown, ite_eq_ok, bind_eq_ok, raiseIf_eq_ok, pure_eq_ok, Prod.mk.injEq,
      not_not] at h
    rcases h with ⟨_, _, rfl⟩ | ⟨_, _, hcurrent, _, rfl⟩
    · exact .same
    · exact .replaced e e' record hknown hunclaimed hcurrent ⟨hroute, hlater⟩

theorem claim_moves {receipts : List ForeignLineageCollectionReceipt}
    {p : Option ForeignLineageCollectionPlan} (h : s.claimWithReceipts t receipts = .ok (p, s')) :
    Moves s c s' := by
  simp only [claimWithReceipts, bind_eq_ok, raiseIf_eq_ok, not_exists, not_and, not_not] at h
  obtain ⟨_, hown, _, honce, h⟩ := h
  cases hclaimed : s.claimed.get? t with
  | some plan =>
    simp only [hclaimed, pure_eq_ok, Prod.mk.injEq] at h
    exact h.2 ▸ .same
  | none =>
    cases hknown : s.tasks.get? t with
    | none =>
      simp only [hclaimed, hknown, pure_eq_ok, Prod.mk.injEq] at h
      exact h.2 ▸ .same
    | some record =>
      simp only [hclaimed, hknown, ite_eq_ok, bind_eq_ok, raiseIf_eq_ok, pure_eq_ok,
        Prod.mk.injEq, not_not] at h
      rcases h with ⟨_, _, rfl⟩ | ⟨hcovers, _, hfinal, _, rfl⟩
      · exact .same
      · refine .claims record _ hknown hclaimed ⟨rfl, rfl⟩ fun hnamed => ⟨hnamed, ?_, ?_, ?_, ?_⟩
        · exact fun r hr => hown r (Sorted.mem_sortOn.mp hr)
        · intro o
          rw [← List.mem_toFinset, ← hcovers, List.mem_toFinset, List.mem_map]
          simp only [Sorted.mem_sortOn]
        · exact Sorted.pairwise_sortOn honce
        · rw [Sorted.sortOn_perm.countP_eq, hfinal]

theorem step_moves (s : ForeignLineageRegistry) (c : Call) : Moves s c (s.step c) := by
  have hafter : ∀ {β : Type} (x : Except ForeignLineageError (β × ForeignLineageRegistry)),
      (∀ b s', x = .ok (b, s') → Moves s c s') → Moves s c (s.after x) := by
    intro β x hx
    cases x with
    | ok b => exact hx b.1 b.2 rfl
    | error _ => exact .same
  cases c with
  | register taskId outputIds edges => exact hafter _ fun _ _ h => register_moves h
  | closeAdmission => exact .closed
  | abort expected => exact hafter _ fun _ _ h => abort_moves h
  | commitEdgeReplacement expected replacement => exact hafter _ fun _ _ h => replacement_moves h
  | claimWithReceipts taskId receipts => exact hafter _ fun _ _ h => claim_moves h
  | completeClaim plan =>
    refine hafter _ fun _ _ h => ?_
    simp only [completeClaim, bind_eq_ok, raiseIf_eq_ok, pure_eq_ok, Prod.mk.injEq, not_not] at h
    obtain ⟨_, hheld, _, rfl⟩ := h
    exact .completed plan hheld
  | markOwnerDead record =>
    refine hafter _ fun _ _ h => ?_
    simp only [markOwnerDead, bind_eq_ok, raiseIf_eq_ok, pure_eq_ok, Prod.mk.injEq, not_and,
      not_not] at h
    obtain ⟨_, hsame, _, rfl⟩ := h
    cases hprevious : s.deadOwners.get? record.workerId with
    | none => exact .buried record hprevious
    | some previous =>
      rw [hprevious] at hsame
      cases hsame (by simp)
      rw [Dict.set_get? hprevious]
      exact .same

/-! ## Every reachable state -/

structure Inv (s : ForeignLineageRegistry) : Prop where
  recorded : ∀ t r, s.tasks.get? t = some r → Recorded t r
  claims : ∀ t p, s.claimed.get? t = some p → Claims t p
  frozen : ∀ t p r, s.claimed.get? t = some p → s.tasks.get? t = some r →
    r.outputIds = p.outputIds ∧ r.edges = p.edges

theorem Inv.moves (h : Inv s) (hmoves : Moves s c s') : Inv s' := by
  cases hmoves with
  | same => exact h
  | closed => exact ⟨h.recorded, h.claims, h.frozen⟩
  | buried => exact ⟨h.recorded, h.claims, h.frozen⟩
  | registered r recorded new unclaimed =>
    refine ⟨fun t' r' hr => ?_, h.claims, fun t' p r' hp hr => ?_⟩
    · rcases Dict.of_get?_set hr with ⟨rfl, rfl⟩ | hr
      · exact recorded
      · exact h.recorded t' r' hr
    · rcases Dict.of_get?_set hr with ⟨rfl, rfl⟩ | hr
      · rw [unclaimed] at hp
        cases hp
      · exact h.frozen t' p r' hp hr
  | aborted t =>
    exact ⟨fun t' r hr => h.recorded t' r (Dict.of_get?_erase hr).2, h.claims,
      fun t' p r hp hr => h.frozen t' p r hp (Dict.of_get?_erase hr).2⟩
  | replaced e e' r known unclaimed current succeeds =>
    have hr := h.recorded _ r known
    have hkey : e'.key = e.key := by simp [ForeignLineageEdge.key, succeeds.1.2.1, succeeds.1.2.2.1]
    refine ⟨fun t' r' hr' => ?_, h.claims, fun t' p r' hp hr' => ?_⟩
    · rcases Dict.of_get?_set hr' with ⟨rfl, rfl⟩ | hr'
      · exact ⟨rfl, hr.outputs, hr.once, hr.own,
          ordered_replaced hr.ordered hkey succeeds.1.1.symm⟩
      · exact h.recorded t' r' hr'
    · rcases Dict.of_get?_set hr' with ⟨rfl, rfl⟩ | hr'
      · rw [unclaimed] at hp
        cases hp
      · exact h.frozen t' p r' hp hr'
  | claims r p known unclaimed same claims =>
    refine ⟨h.recorded, fun t' p' hp => ?_, fun t' p' r' hp hr => ?_⟩
    · rcases Dict.of_get?_set hp with ⟨rfl, rfl⟩ | hp
      · exact claims (h.recorded _ r known).named
      · exact h.claims t' p' hp
    · rcases Dict.of_get?_set hp with ⟨rfl, rfl⟩ | hp
      · cases known.symm.trans hr
        exact ⟨same.1.symm, same.2.symm⟩
      · exact h.frozen t' p' r' hp hr
  | completed p held =>
    exact ⟨fun t r hr => h.recorded t r (Dict.of_get?_erase hr).2,
      fun t p' hp => h.claims t p' (Dict.of_get?_erase hp).2,
      fun t p' r hp hr => h.frozen t p' r (Dict.of_get?_erase hp).2 (Dict.of_get?_erase hr).2⟩

theorem inv_run (calls : List Call) : Inv (run step {} calls) :=
  run_invariant (fun s c h => h.moves (step_moves s c))
    ⟨by rintro _ _ ⟨⟩, by rintro _ _ ⟨⟩, by rintro _ _ _ ⟨⟩⟩ calls

/-- Records name their task, their outputs and one edge for each dependency; a claim has one
receipt for each output, and what it releases is what its task still records. -/
theorem registry_wellFormed (calls : List Call) : Inv (run step {} calls) := inv_run calls

/-! ## What lasts -/

/-- The same outputs, and for each credential the one its holds were exchanged for, if any. -/
structure Renewed (r r' : ForeignLineageTask) : Prop where
  outputs : r'.outputIds = r.outputIds
  forth : ∀ e ∈ r.edges, ∃ e' ∈ r'.edges, Relation.ReflTransGen Succeeds e e'
  back : ∀ e' ∈ r'.edges, ∃ e ∈ r.edges, Relation.ReflTransGen Succeeds e e'

theorem Renewed.refl (r : ForeignLineageTask) : Renewed r r :=
  ⟨rfl, fun e he => ⟨e, he, .refl⟩, fun e he => ⟨e, he, .refl⟩⟩

theorem Renewed.trans {r r' r'' : ForeignLineageTask} (h : Renewed r r') (h' : Renewed r' r'') :
    Renewed r r'' where
  outputs := h'.outputs.trans h.outputs
  forth e he := by
    obtain ⟨e', he', hlater⟩ := h.forth e he
    obtain ⟨e'', he'', hlater'⟩ := h'.forth e' he'
    exact ⟨e'', he'', hlater.trans hlater'⟩
  back e'' he'' := by
    obtain ⟨e', he', hlater'⟩ := h'.back e'' he''
    obtain ⟨e, he, hlater⟩ := h.back e' he'
    exact ⟨e, he, hlater.trans hlater'⟩

theorem renewed_replaced {r : ForeignLineageTask} (hr : Ordered t r.edges) (he : e ∈ r.edges)
    (h : Succeeds e e') : Renewed r ⟨e.taskId, r.outputIds,
      sortEdges ((byKey r.edges).set e.key e').values⟩ where
  outputs := rfl
  forth x hx := by
    by_cases hkey : x.key = e.key
    · have hsame := (get?_byKey hr.nodup).mpr ⟨hx, hkey⟩
      cases hsame.symm.trans ((get?_byKey hr.nodup).mpr ⟨he, rfl⟩)
      exact ⟨e', (mem_replaced hr).mpr (.inl rfl), .single h⟩
    · exact ⟨x, (mem_replaced hr).mpr (.inr ⟨hx, hkey⟩), .refl⟩
  back x hx := by
    rcases (mem_replaced hr).mp hx with rfl | ⟨hx, _⟩
    · exact ⟨e, he, .single h⟩
    · exact ⟨x, hx, .refl⟩

theorem Moves.renewed (hmoves : Moves s c s') (h : Inv s) {r : ForeignLineageTask}
    (hr : s.tasks.get? t = some r) :
    s'.tasks.get? t = none ∨ ∃ r', s'.tasks.get? t = some r' ∧ Renewed r r' := by
  have hkept : (∃ r', s.tasks.get? t = some r' ∧ Renewed r r') := ⟨r, hr, .refl r⟩
  have herase : ∀ k, (s.tasks.erase k).get? t = none ∨
      ∃ r', (s.tasks.erase k).get? t = some r' ∧ Renewed r r' := by
    intro k
    rw [Dict.get?_erase]
    split
    · exact .inl rfl
    · exact .inr hkept
  cases hmoves with
  | aborted k => exact herase k
  | completed p => exact herase p.taskId
  | registered r' recorded new => exact .inr ⟨r, Dict.get?_set_kept new hr, .refl r⟩
  | replaced e e' r' known unclaimed current succeeds =>
    right
    rw [Dict.get?_set]
    split
    · rename_i hk
      cases (hk ▸ known).symm.trans hr
      have hordered := (h.recorded t r hr).ordered
      exact ⟨_, rfl, renewed_replaced hordered ((get?_byKey hordered.nodup).mp current).1 succeeds⟩
    · exact hkept
  | _ => exact .inr hkept

/-- While a task stays recorded its holds are only exchanged for those of later attempts. -/
theorem credentials_move_forward (calls later : List Call) {t : TaskID} {r : ForeignLineageTask}
    (hr : (run step {} calls).tasks.get? t = some r) :
    (∃ xs ys, later = xs ++ ys ∧ (run step {} (calls ++ xs)).tasks.get? t = none) ∨
      ∃ r', (run step {} (calls ++ later)).tasks.get? t = some r' ∧ Renewed r r' := by
  induction later using List.reverseRecOn with
  | nil => exact .inr ⟨r, by simpa using hr, .refl r⟩
  | append_singleton later c ih =>
    rcases ih with ⟨xs, ys, rfl, hgone⟩ | ⟨r', hr', hrenewed⟩
    · exact .inl ⟨xs, ys ++ [c], by simp, hgone⟩
    · rw [← List.append_assoc, run_concat]
      rcases (step_moves _ c).renewed (inv_run _) hr' with hgone | ⟨r'', hr'', hrenewed'⟩
      · exact .inl ⟨later ++ [c], [], by simp, by rwa [← List.append_assoc, run_concat]⟩
      · exact .inr ⟨r'', hr'', hrenewed.trans hrenewed'⟩

def sampleEdge (attemptNumber : Nat) : ForeignLineageEdge where
  taskId := ⟨1⟩
  dependencyObjectId := ⟨⟨2⟩, 0⟩
  ownerWorkerId := ⟨3⟩
  ownerAddress := default
  borrowerWorkerId := ⟨4⟩
  hold := ⟨.retained, ⟨4⟩, ⟨1⟩, ⟨⟨1⟩, attemptNumber⟩, rfl⟩
  roles := .topLevel
  retained := rfl
  own_hold := ⟨rfl, rfl⟩

theorem credential_moves_forward :
    (∃ xs ys, [.commitEdgeReplacement (sampleEdge 0) (sampleEdge 1)] = xs ++ ys ∧
      (run step {} ([.register ⟨1⟩ [⟨⟨1⟩, 0⟩] [sampleEdge 0]] ++ xs)).tasks.get? ⟨1⟩ = none) ∨
    ∃ r', (run step {} [.register ⟨1⟩ [⟨⟨1⟩, 0⟩] [sampleEdge 0],
      .commitEdgeReplacement (sampleEdge 0) (sampleEdge 1)]).tasks.get? ⟨1⟩ = some r' ∧
      Renewed ⟨⟨1⟩, [⟨⟨1⟩, 0⟩], [sampleEdge 0]⟩ r' :=
  credentials_move_forward [.register ⟨1⟩ [⟨⟨1⟩, 0⟩] [sampleEdge 0]] _ (by decide)

theorem Moves.claimed (hmoves : Moves s c s') {p : ForeignLineageCollectionPlan}
    (hp : s.claimed.get? t = some p) : c = .completeClaim p ∨ s'.claimed.get? t = some p := by
  cases hmoves with
  | claims r p' known unclaimed => exact .inr (Dict.get?_set_kept unclaimed hp)
  | completed p' held =>
    by_cases hk : p'.taskId = t
    · cases (hk ▸ held).symm.trans hp
      exact .inl rfl
    · exact .inr ((Dict.get?_erase_of_ne _ hk).trans hp)
  | _ => exact .inr hp

theorem Moves.vacant (hmoves : Moves s c s')
    (h : s.admissionOpen = false ∧ s.tasks.get? t = none) :
    s'.admissionOpen = false ∧ s'.tasks.get? t = none := by
  have herase : ∀ k, (s.tasks.erase k).get? t = none := by
    intro k
    rw [Dict.get?_erase, h.2, ite_self]
  cases hmoves with
  | registered r recorded new unclaimed admitted =>
    rw [h.1] at admitted
    cases admitted
  | closed => exact ⟨rfl, h.2⟩
  | aborted k => exact ⟨h.1, herase k⟩
  | completed p => exact ⟨h.1, herase p.taskId⟩
  | replaced e e' r known =>
    refine ⟨h.1, (Dict.get?_set_of_ne _ _ ?_).trans h.2⟩
    rintro rfl
    rw [h.2] at known
    cases known
  | _ => exact h

theorem Moves.dead (hmoves : Moves s c s') {w : WorkerID} {d : DeadWorkerReferenceRecord}
    (hd : s.deadOwners.get? w = some d) : s'.deadOwners.get? w = some d := by
  cases hmoves with
  | buried d' new => exact Dict.get?_set_kept new hd
  | _ => exact hd

/-- A claim stands until exactly it is completed, behind a closed admission no task is recorded
anew, and a death proof is kept for good. -/
structure Lasts (s s' : ForeignLineageRegistry) (later : List Call) : Prop where
  claims : ∀ t p, s.claimed.get? t = some p →
    .completeClaim p ∈ later ∨ s'.claimed.get? t = some p
  admission : s.admissionOpen = false → ∀ t, s.tasks.get? t = none → s'.tasks.get? t = none
  deaths : ∀ w d, s.deadOwners.get? w = some d → s'.deadOwners.get? w = some d

theorem run_lasts (calls later : List Call) :
    Lasts (run step {} calls) (run step {} (calls ++ later)) later := by
  rw [run_append]
  generalize run step {} calls = s
  refine ⟨fun t p hp => ?_, fun hclosed t hnone => ?_, fun w d hd => ?_⟩
  · induction later using List.reverseRecOn with
    | nil => exact .inr hp
    | append_singleton later c ih =>
      rw [run_concat, List.mem_append, List.mem_singleton]
      rcases ih with hdone | hheld
      · exact .inl (.inl hdone)
      · exact (step_moves _ c).claimed hheld |>.imp_left fun hc => .inr hc.symm
  · exact (run_invariant (p := fun s => s.admissionOpen = false ∧ s.tasks.get? t = none)
      (fun s c h => (step_moves s c).vacant h) ⟨hclosed, hnone⟩ later).2
  · exact run_invariant (p := fun s => s.deadOwners.get? w = some d)
      (fun s c h => (step_moves s c).dead h) hd later

end ForeignLineageRegistry

end MiniRay
