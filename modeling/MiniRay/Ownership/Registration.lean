import MiniRay.Ownership.ReferenceSpec
import MiniRay.Ownership.ResultSpec

/-! An object is registered pending, repeats its registration exactly, and may be unregistered again
while nothing has happened to it. -/

namespace MiniRay

open Checked

/-- `_execution`: an execution key inside the wire range. -/
def requireExecution (execution : TaskExecutionKey) : Except Raised Unit :=
  raiseIf (¬ Uint64 execution.attemptId.attemptNumber)
    ⟨.valueError, "attempt_number must be a non-negative uint64"⟩

namespace ObjectOwnerTable

variable {ε : Type} {self s' : ObjectOwnerTable ε} {keeps : ObjectID → ReferenceToken → Prop}
  {c : CallerConditions}

/-! ## Registering -/

/-- A handle joins a registered object. -/
def addLocalToken (self : ObjectOwnerTable ε) (e : ObjectOwnerEntry ε) (token : ReferenceToken) :
    ObjectOwnerTable ε :=
  self.setEntry { e with localTokens := insert token e.localTokens }

variable {o : ObjectID} {token : ReferenceToken}

theorem local_added {h : ReferenceHistory} {idle : Prop} {f : ReferenceFields} (hidle : idle) :
    ReferenceMove h h o idle f { f with localTokens := insert token f.localTokens } := by
  refine .added (.localRef token) ?_ ?_ id (by simp [Reference.workerId]) hidle
  · rintro (t | t | t | t | t | t) <;> simp [ReferenceFields.Holds, or_comm]
  · rintro (t | t | t | t | t | t) <;> exact .rfl

variable {e : ObjectOwnerEntry ε}

theorem addLocalToken_references (he : self.entries.get? e.objectId = some e)
    (hidle : e.collectionPending = false) : ReferenceSpec keeps self (self.addLocalToken e token) :=
  .of_entry he rfl rfl rfl rfl (fun o _ => .refl _ o) (local_added (.inl hidle))

theorem addLocalToken_results (he : self.entries.get? e.objectId = some e) :
    ResultSpec c self (self.addLocalToken e token) :=
  .of_references he rfl rfl rfl rfl rfl rfl

/-- Register a pending logical object. Repeating the exact registration is harmless. -/
def register (self : ObjectOwnerTable ε) (objectId : ObjectID) (currentAttempt : Option AttemptID)
    (producerTaskSpec : Option TaskSpec) (localToken : Option ReferenceToken) :
    Except Raised (Unit × ObjectOwnerTable ε) :=
  if h : ∀ a, currentAttempt = some a → a.taskId = objectId.taskId then do
    raiseIf (self.IsCollected objectId)
      ⟨.objectAlreadyRegistered, "object was already collected: " ++ objectId.repr⟩
    match self.entries.get? objectId with
    | some existing => do
        raiseIf (existing.currentAttempt ≠ currentAttempt ∨
            existing.producerTaskSpec ≠ producerTaskSpec)
          ⟨.objectAlreadyRegistered, "conflicting registration for " ++ objectId.repr⟩
        match localToken with
        | none => return ((), self)
        | some token => do
            requireNotCollecting existing (collectionIsPending objectId)
            return ((), self.addLocalToken existing token)
    | none =>
      return ((), self.setEntry (.fresh objectId currentAttempt producerTaskSpec localToken h))
  else .error ⟨.valueError, "attempt_id must belong to object_id.task_id"⟩

structure Registers (table s' : ObjectOwnerTable ε) (objectId : ObjectID) : Prop where
  uncollected : ¬ table.IsCollected objectId
  effect : s' = table ∨
    (∃ e token, table.entries.get? objectId = some e ∧ e.collectionPending = false ∧
      s' = table.addLocalToken e token) ∨
    table.entries.get? objectId = none ∧
      ∃ attempt spec token h, s' = table.setEntry (.fresh objectId attempt spec token h)

theorem Registers.references (h : Registers self s' o) : ReferenceSpec keeps self s' := by
  rcases h.effect with rfl | ⟨e, token, he, hidle, rfl⟩ | ⟨ho, attempt, spec, token, ht, rfl⟩
  · exact .refl _
  · exact addLocalToken_references (get?_objectId he) hidle
  · exact .of_register ho h.uncollected ⟨token, rfl⟩

theorem Registers.results (h : Registers self s' o) (hnamed : c.registers o) :
    ResultSpec c self s' := by
  rcases h.effect with rfl | ⟨e, token, he, hidle, rfl⟩ | ⟨ho, attempt, spec, token, ht, rfl⟩
  · exact .refl _
  · exact addLocalToken_results (get?_objectId he)
  · refine ⟨?_, Finset.Subset.refl _, fun _ h => h, fun _ h => .inl h, fun _ h => .inl h,
      fun _ _ _ _ _ _ _ _ h => h⟩
    intro x
    rw [get?_setEntry]
    by_cases hx : o = x
    · subst hx
      simpa [ho, ObjectOwnerEntry.fresh] using
        SlotMove.registered (.fresh o attempt spec token ht) ⟨attempt, spec, rfl⟩ rfl
          h.uncollected hnamed
    · simpa [ObjectOwnerEntry.fresh, hx] using SlotMove.refl c self _ x _

theorem register_cases {attempt : Option AttemptID} {spec : Option TaskSpec}
    {token : Option ReferenceToken} {u : Unit}
    (h : self.register o attempt spec token = .ok (u, s')) : Registers self s' o := by
  unfold register at h
  split at h
  · next ht =>
      simp only [bind_eq_ok, raiseIf_eq_ok] at h
      obtain ⟨_, hc, h⟩ := h
      refine ⟨hc, ?_⟩
      cases he : self.entries.get? o with
      | none =>
        simp only [he, pure_eq_ok, Prod.mk.injEq] at h
        exact .inr (.inr ⟨rfl, attempt, spec, token, ht, h.2.symm⟩)
      | some e =>
        simp only [he, bind_eq_ok] at h
        obtain ⟨_, _, h⟩ := h
        cases token with
        | none =>
          simp only [pure_eq_ok, Prod.mk.injEq] at h
          exact .inl h.2.symm
        | some t =>
          simp only [bind_eq_ok, requireNotCollecting_eq_ok, pure_eq_ok, Prod.mk.injEq] at h
          obtain ⟨_, hidle, _, rfl⟩ := h
          exact .inr (.inl ⟨e, t, rfl, hidle, rfl⟩)
  · simp at h

/-! ## Task outputs -/

/-- Whether the output is already registered, for the same execution. -/
def validateRegisterTaskOutputs (self : ObjectOwnerTable ε) (plan : TaskOutputRegistrationPlan) :
    Except Raised Bool := do
  requireExecution plan.execution
  let objectId := plan.execution.output
  raiseIf (self.IsCollected objectId)
    ⟨.objectAlreadyRegistered, "task output was already collected: " ++ objectId.repr⟩
  match self.entries.get? objectId with
  | none => return false
  | some e => do
      raiseIf (e.currentAttempt ≠ some plan.execution.attemptId ∨
          e.producerTaskSpec ≠ some plan.producerTaskSpec)
        ⟨.objectAlreadyRegistered,
          "conflicting task output registration for " ++ objectId.repr⟩
      raiseIf (e.collectionPending = true ∧ plan.localToken ≠ none)
        ⟨.objectCollectionInProgress, collectionIsPending objectId⟩
      return true

def commitRegisterTaskOutputs (self : ObjectOwnerTable ε) (plan : TaskOutputRegistrationPlan) :
    Except Raised (Unit × ObjectOwnerTable ε) := do
  let existing ← self.validateRegisterTaskOutputs plan
  if existing then
    match plan.localToken with
    | none => return ((), self)
    | some token => do
        let e ← self.subscript plan.execution.output
        return ((), self.addLocalToken e.val token)
  else
    return ((), self.setEntry
      (.fresh plan.execution.output (some plan.execution.attemptId) (some plan.producerTaskSpec)
        plan.localToken fun a h => by cases h; exact plan.execution.attempt_taskId))

variable {plan : TaskOutputRegistrationPlan}

theorem commitRegisterTaskOutputs_cases {u : Unit}
    (h : self.commitRegisterTaskOutputs plan = .ok (u, s')) :
    Registers self s' plan.execution.output := by
  simp only [commitRegisterTaskOutputs, validateRegisterTaskOutputs, bind_eq_ok,
    raiseIf_eq_ok] at h
  obtain ⟨existing, ⟨_, _, _, hc, hv⟩, h⟩ := h
  refine ⟨hc, ?_⟩
  cases he : self.entries.get? plan.execution.output with
  | none =>
    simp only [he, pure_eq_ok] at hv
    subst hv
    simp only [Bool.false_eq_true, if_false, pure_eq_ok, Prod.mk.injEq] at h
    exact .inr (.inr ⟨rfl, _, _, _, _, h.2.symm⟩)
  | some e =>
    simp only [he, bind_eq_ok, raiseIf_eq_ok, pure_eq_ok] at hv
    obtain ⟨_, _, _, hidle, rfl⟩ := hv
    simp only [if_true] at h
    cases ht : plan.localToken with
    | none =>
      simp only [ht, pure_eq_ok, Prod.mk.injEq] at h
      exact .inl h.2.symm
    | some t =>
      simp only [ht, bind_eq_ok, subscript_eq_ok, pure_eq_ok, Prod.mk.injEq] at h
      obtain ⟨e', he', _, rfl⟩ := h
      cases he.symm.trans he'
      exact .inr (.inl ⟨_, t, rfl, by simpa [ht] using hidle, rfl⟩)

/-! ## Unregistering -/

/-- CAS-remove exactly the unexposed task-level obligations. -/
def abortTaskLineageEdgesLocked (self : ObjectOwnerTable ε) (taskId : TaskID)
    (expectedEdges : List LineageReferenceEdge) (expectedOutputIds : Option (List ObjectID)) :
    Except Raised (Bool × ObjectOwnerTable ε) :=
  let expected : Finset TaskLineageObligation :=
    (expectedEdges.map fun e => ⟨taskId, e.dependencyObjectId, e.token, e.token_ne⟩).toFinset
  match self.taskLineage.get? taskId with
  | none => do
      raiseIf (expected ≠ ∅)
        ⟨.invalidObjectTransition, "task lineage authority is missing during abort"⟩
      return (false, self)
  | some authority => do
      raiseIf (∃ ids ∈ expectedOutputIds, authority.outputIds ≠ ids)
        ⟨.invalidObjectTransition, "task lineage manifest changed during abort"⟩
      raiseIf (authority.obligations ≠ expected)
        ⟨.invalidObjectTransition, "task lineage obligations changed during abort"⟩
      return (true, { self with taskLineage := self.taskLineage.erase taskId })

variable {edges : List LineageReferenceEdge} {b : Bool}

theorem abortTaskLineageEdgesLocked_cases {t : TaskID} {ids : Option (List ObjectID)}
    (h : self.abortTaskLineageEdgesLocked t edges ids = .ok (b, s')) :
    s' = self ∨ s' = { self with taskLineage := self.taskLineage.erase t } ∧
      ∀ authority, self.taskLineage.get? t = some authority →
        ∀ outputIds, ids = some outputIds → authority.outputIds = outputIds := by
  unfold abortTaskLineageEdgesLocked at h
  cases ha : self.taskLineage.get? t with
  | none =>
    simp only [ha, bind_eq_ok, pure_eq_ok, Prod.mk.injEq] at h
    obtain ⟨_, _, _, rfl⟩ := h
    exact .inl rfl
  | some authority =>
    simp only [ha, bind_eq_ok, raiseIf_eq_ok, pure_eq_ok, Prod.mk.injEq] at h
    obtain ⟨_, hids, _, _, _, rfl⟩ := h
    refine .inr ⟨rfl, ?_⟩
    rintro _ ⟨⟩ outputIds rfl
    by_contra hne
    exact hids ⟨outputIds, rfl, hne⟩

def Abortable (plan : TaskOutputRegistrationPlan) (e : ObjectOwnerEntry ε) : Prop :=
  e.currentAttempt = some plan.execution.attemptId ∧
    e.producerTaskSpec = some plan.producerTaskSpec ∧ e.state = .pending ∧ e.inlineData = none ∧
    e.error.isNone = true ∧ e.locationAttempts.items = [] ∧
    e.localTokens = plan.localToken.toFinset ∧ e.submittedTokens = ∅ ∧ e.borrowedTokens = ∅ ∧
    e.retainedTokens = ∅ ∧ e.containedHolds = ∅ ∧ e.lineageTokens = ∅ ∧
    e.outgoingContainedEdges = ∅ ∧ e.outgoingLineageEdges = ∅ ∧ e.collectionPending = false

instance (plan : TaskOutputRegistrationPlan) (e : ObjectOwnerEntry ε) :
    Decidable (Abortable plan e) := inferInstanceAs (Decidable (_ ∧ _))

/-- Remove an exact, still-pending initial registration. -/
def abortRegisteredTaskOutputs (self : ObjectOwnerTable ε) (plan : TaskOutputRegistrationPlan)
    (outgoingLineageEdges : List LineageReferenceEdge) :
    Except Raised (Bool × ObjectOwnerTable ε) := do
  requireExecution plan.execution
  let objectId := plan.execution.output
  match self.entries.get? objectId with
  | none => return (false, self)
  | some e => do
      raiseIf (∃ edge ∈ outgoingLineageEdges, edge.producerObjectId ∉ plan.execution.outputIds)
        ⟨.valueError, "abort lineage edges must belong to this output manifest"⟩
      raiseIf (¬ Abortable plan e)
        ⟨.invalidObjectTransition, "task output registration is no longer abortable"⟩
      let (_, aborted) ← self.abortTaskLineageEdgesLocked plan.execution.taskId
        outgoingLineageEdges (some plan.execution.outputIds)
      return (true, aborted.eraseEntry objectId)

/-- The registration and its lineage can be withdrawn together. -/
structure Withdrawable (table : ObjectOwnerTable ε) (plan : TaskOutputRegistrationPlan)
    (edges : List LineageReferenceEdge) (e : ObjectOwnerEntry ε) : Prop where
  execution : requireExecution plan.execution = .ok ()
  own : ∀ edge ∈ edges, edge.producerObjectId ∈ plan.execution.outputIds
  abortable : Abortable plan e
  lineage : ∃ aborted, table.abortTaskLineageEdgesLocked plan.execution.taskId edges
    (some plan.execution.outputIds) = .ok aborted

theorem abortRegisteredTaskOutputs_cases
    (h : self.abortRegisteredTaskOutputs plan edges = .ok (b, s')) :
    s' = self ∨ ∃ e aborted, self.entries.get? plan.execution.output = some e ∧
      Withdrawable self plan edges e ∧ s' = aborted.eraseEntry plan.execution.output ∧
      (aborted = self ∨
        aborted = { self with taskLineage := self.taskLineage.erase plan.execution.taskId } ∧
          ∀ authority, self.taskLineage.get? plan.execution.taskId = some authority →
            authority.outputIds = [plan.execution.output]) := by
  simp only [abortRegisteredTaskOutputs, bind_eq_ok] at h
  obtain ⟨_, hexecution, h⟩ := h
  cases he : self.entries.get? plan.execution.output with
  | none =>
    simp only [he, pure_eq_ok, Prod.mk.injEq] at h
    exact .inl h.2.symm
  | some e =>
    simp only [he, bind_eq_ok, raiseIf_eq_ok, not_not] at h
    obtain ⟨_, hown, _, ha, ⟨_, aborted⟩, habort, h⟩ := h
    simp only [pure_eq_ok, Prod.mk.injEq] at h
    refine .inr ⟨e, aborted, rfl, ⟨hexecution, by simpa using hown, ha, _, habort⟩, h.2.symm, ?_⟩
    rcases abortTaskLineageEdgesLocked_cases habort with hs | ⟨hs, hids⟩
    · exact .inl hs
    · exact .inr ⟨hs, fun authority hget => by simpa using hids authority hget _ rfl⟩

theorem Abortable.holds (h : Abortable plan e) (ref : Reference) (hh : e.Holds ref) :
    ref.IsLocal := by
  obtain ⟨_, _, _, _, _, _, _, h2, h3, h4, h5, h6, _⟩ := h
  cases ref <;> simp_all [ReferenceFields.Holds, Reference.IsLocal]

theorem abortRegisteredTaskOutputs_references
    (h : self.abortRegisteredTaskOutputs plan edges = .ok (b, s'))
    (hkeeps : ∀ t, keeps plan.execution.output t → ∀ e,
      self.entries.get? plan.execution.output = some e → Withdrawable self plan edges e →
      t ∉ e.releasedBorrowedTokens) :
    ReferenceSpec keeps self s' := by
  rcases abortRegisteredTaskOutputs_cases h with rfl | ⟨e, aborted, he, ha, rfl, rfl | ⟨rfl, _⟩⟩
  · exact .refl _
  · exact .of_forget he ha.abortable.holds rfl rfl (fun _ _ => .rfl)
      fun t hk => .inl (hkeeps t hk e he ha)
  · exact .of_forget he ha.abortable.holds rfl rfl (fun _ _ => .rfl)
      fun t hk => .inl (hkeeps t hk e he ha)

theorem abortRegisteredTaskOutputs_results
    (h : self.abortRegisteredTaskOutputs plan edges = .ok (b, s')) : ResultSpec c self s' := by
  rcases abortRegisteredTaskOutputs_cases h with rfl | ⟨e, aborted, he, ha, rfl, hs⟩
  · exact .refl _
  · obtain ⟨_, _, hpending, _, _, _, _, _, _, _, _, _, _, _, hidle⟩ := ha.abortable
    rcases hs with rfl | ⟨rfl, howner⟩
    · exact .of_forget he rfl (.forgotten e hidle (.inr hpending)) (Finset.Subset.refl _)
        (fun _ hx => hx) (fun _ hx => .inl hx) (fun _ hx => .inl hx) fun x l _ hl => hl
    · exact .of_forget he rfl (.forgotten e hidle (.inr hpending)) (Finset.Subset.refl _)
        (fun _ hx => hx) (fun _ hx => .inl hx) (fun _ hx => .inl hx)
        fun x l hx hl => finalTaskLineage_erase rfl hx howner hl

end ObjectOwnerTable

end MiniRay
