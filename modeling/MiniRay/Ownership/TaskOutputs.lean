import MiniRay.Ownership.Results

/-! Attempts, results and errors of one registered task output. Every plan has a validator and two
commits: one repeats the validation, the other trusts its caller to have just done it. -/

namespace MiniRay

open Checked

theorem TaskOutputAttemptAdvancePlan.next_taskId (plan : TaskOutputAttemptAdvancePlan) :
    plan.nextExecution.attemptId.taskId = plan.expected.output.taskId := by
  have h := plan.nextExecution.attempt_task
  rw [← plan.same_manifest] at h
  exact h

namespace ObjectOwnerTable

variable {ε : Type} {self s' : ObjectOwnerTable ε} {c : CallerConditions}

/-- Bind the single-output operation to its registered lineage. -/
def taskOutputEntry (self : ObjectOwnerTable ε) (execution : TaskExecutionKey) :
    Except Raised {e : ObjectOwnerEntry ε // e.objectId = execution.output} := do
  requireExecution execution
  let e ← self.keyedEntry execution.output
  match e.val.producerTaskSpec with
  | none => return e
  | some spec => do
      raiseIf ((TaskExecutionKey.fromTaskSpec spec).manifest ≠ execution.manifest)
        ⟨.invalidObjectTransition, "registered producer lineage changed its output manifest"⟩
      return e

theorem taskOutputEntry_get? {execution : TaskExecutionKey}
    {e : {e : ObjectOwnerEntry ε // e.objectId = execution.output}}
    (h : self.taskOutputEntry execution = .ok e) :
    self.entries.get? execution.output = some e.val := by
  simp only [taskOutputEntry, bind_eq_ok, keyedEntry_eq_ok] at h
  obtain ⟨_, _, e₁, he₁, h⟩ := h
  cases hs : e₁.val.producerTaskSpec with
  | none =>
    simp only [hs, pure_eq_ok] at h
    rw [← h, he₁]
  | some spec =>
    simp only [hs, bind_eq_ok, pure_eq_ok] at h
    obtain ⟨_, _, h⟩ := h
    rw [← h, he₁]

/-! ## Attempts -/

inductive AdvanceForecast
  | replay
  | stale
  | apply

def validateAdvanceTaskOutputs (self : ObjectOwnerTable ε) (plan : TaskOutputAttemptAdvancePlan) :
    Except Raised AdvanceForecast := do
  let e ← self.taskOutputEntry plan.expected
  requireNotCollecting e.val "task output metadata collection is pending"
  requireNoOutputRetirement e.val
  if e.val.currentAttempt = some plan.nextExecution.attemptId then return .replay
  if e.val.currentAttempt ≠ some plan.expected.attemptId then return .stale
  requireOutputMembershipsRetired e.val
  raiseIf (¬ (e.val.state = .pending ∨ e.val.state = .lost))
    ⟨.invalidObjectTransition, "cannot advance task output " ++ e.val.objectId.repr ++
      " from state " ++ e.val.state.value⟩
  raiseIf (e.val.locationAttempts.items ≠ [])
    ⟨.invalidObjectTransition, "cannot advance a task output while replicas remain"⟩
  return .apply

/-- The output starts over for the next attempt. -/
def restart (plan : TaskOutputAttemptAdvancePlan) (e : ObjectOwnerEntry ε)
    (he : e.objectId = plan.expected.output) : ObjectOwnerEntry ε :=
  { e with
    currentAttempt := some plan.nextExecution.attemptId
    state := .pending
    inlineData := none
    error := none
    canonicalStoredResult := none
    attempt_task := fun a ha => by
      cases ha
      rw [he]
      exact plan.next_taskId }

/-- Reset the task output to one new publishing attempt. -/
def commitAdvanceTaskOutputs (self : ObjectOwnerTable ε) (plan : TaskOutputAttemptAdvancePlan) :
    Except Raised (Bool × ObjectOwnerTable ε) := do
  match ← self.validateAdvanceTaskOutputs plan with
  | .stale => return (false, self)
  | .replay => return (true, self)
  | .apply => do
      let e ← self.subscript plan.expected.output
      return (true, self.setEntry (restart plan e.val e.property))

/-- Apply a caller-held validated plan using assignment only. -/
def commitValidatedAdvanceTaskOutputs (self : ObjectOwnerTable ε)
    (plan : TaskOutputAttemptAdvancePlan) : Except Raised (Unit × ObjectOwnerTable ε) := do
  let e ← self.subscript plan.expected.output
  requireNoOutputRetirement e.val
  requireOutputMembershipsRetired e.val
  return ((), self.setEntry (restart plan e.val e.property))

variable {e : ObjectOwnerEntry ε}

theorem restart_restarts {plan : TaskOutputAttemptAdvancePlan}
    (he : e.objectId = plan.expected.output)
    (hnow : e.currentAttempt = some plan.expected.attemptId) (hfree : e.outputPublication = none)
    (hstate : e.state = .pending ∨ e.state = .lost) (hloc : e.locationAttempts.items = []) :
    Restarts e (restart plan e he) plan.nextExecution.attemptId := by
  have hlater := plan.increasing
  refine ⟨⟨rfl, rfl, rfl⟩, hfree, ?_, ?_, hstate, hloc, rfl⟩
  · rw [hnow, ne_eq, Option.some.injEq]
    intro heq
    rw [heq] at hlater
    exact lt_irrefl _ hlater
  · intro a ha
    cases hnow.symm.trans ha
    exact hlater

theorem validateAdvanceTaskOutputs_cases {plan : TaskOutputAttemptAdvancePlan}
    {f : AdvanceForecast} (h : self.validateAdvanceTaskOutputs plan = .ok f) :
    ∃ e, ∃ he : e.objectId = plan.expected.output, Admits self plan.expected.output e ∧
      (f = .replay ∧ e.currentAttempt = some plan.nextExecution.attemptId ∨
        f = .stale ∧ ¬ (e.currentAttempt = some plan.nextExecution.attemptId ∨
          e.currentAttempt = some plan.expected.attemptId) ∨
        f = .apply ∧ e.currentAttempt = some plan.expected.attemptId ∧
          Restarts e (restart plan e he) plan.nextExecution.attemptId) := by
  simp only [validateAdvanceTaskOutputs, bind_eq_ok, requireNotCollecting_eq_ok,
    requireNoOutputRetirement_eq_ok, requireOutputMembershipsRetired_eq_ok, raiseIf_eq_ok,
    ite_eq_ok, pure_eq_ok, ne_eq, not_not] at h
  obtain ⟨e, he, _, hidle, _, hopen, h⟩ := h
  refine ⟨e.val, e.property, ⟨taskOutputEntry_get? he, hopen, hidle⟩, ?_⟩
  rcases h with ⟨hreplay, rfl⟩ | ⟨hnext, ⟨hstale, rfl⟩ | ⟨hnow, _, hfree, _, hstate, _, hloc, rfl⟩⟩
  · exact .inl ⟨rfl, hreplay⟩
  · exact .inr (.inl ⟨rfl, not_or.mpr ⟨hnext, hstale⟩⟩)
  · exact .inr (.inr ⟨rfl, hnow, restart_restarts e.property hnow hfree hstate hloc⟩)

variable {b : Bool}

theorem commitAdvanceTaskOutputs_cases {plan : TaskOutputAttemptAdvancePlan}
    (h : self.commitAdvanceTaskOutputs plan = .ok (b, s')) :
    ∃ e, Admits self plan.expected.output e ∧
      Answer self s' (e.currentAttempt = some plan.nextExecution.attemptId ∨
          e.currentAttempt = some plan.expected.attemptId)
        (e.currentAttempt = some plan.nextExecution.attemptId)
        (Restarts e · plan.nextExecution.attemptId) b := by
  simp only [commitAdvanceTaskOutputs, bind_eq_ok] at h
  obtain ⟨f, hv, h⟩ := h
  obtain ⟨e, hid, he, hforecast⟩ := validateAdvanceTaskOutputs_cases hv
  refine ⟨e, he, ?_⟩
  rcases hforecast with ⟨rfl, hreplay⟩ | ⟨rfl, hstale⟩ | ⟨rfl, hnow, hrestarts⟩
  · simp only [pure_eq_ok, Prod.mk.injEq] at h
    obtain ⟨rfl, rfl⟩ := h
    exact .replayed (.inl hreplay) hreplay rfl
  · simp only [pure_eq_ok, Prod.mk.injEq] at h
    obtain ⟨rfl, rfl⟩ := h
    exact .stale hstale rfl
  · simp only [bind_eq_ok, subscript_eq_ok, pure_eq_ok, Prod.mk.injEq] at h
    obtain ⟨e₁, he₁, rfl, rfl⟩ := h
    cases he.entry.symm.trans he₁
    exact .rewritten (.inr hnow) _ hrestarts rfl

theorem commitAdvanceTaskOutputs_moves {plan : TaskOutputAttemptAdvancePlan}
    (h : self.commitAdvanceTaskOutputs plan = .ok (b, s'))
    (hc : c.advances plan.expected.output plan.nextExecution.attemptId) : Moves c self s' := by
  obtain ⟨e, he, hanswer⟩ := commitAdvanceTaskOutputs_cases h
  have hid := self.keyed _ e he.entry
  exact hanswer.moves he fun e' hr => ⟨hr.frame, hr.move (hid ▸ hc)⟩

/-- The trusted advance starts over from a result without replicas. -/
def AdvancesVacant (self : ObjectOwnerTable ε) (plan : TaskOutputAttemptAdvancePlan) : Prop :=
  ∀ e, self.entries.get? plan.expected.output = some e → e.outputRetirementId = none →
    e.outputPublication = none → e.locationAttempts.items = []

/-- The trusted advance does not repeat an attempt whose descriptor is known. -/
def AdvancesRenewed (self : ObjectOwnerTable ε) (plan : TaskOutputAttemptAdvancePlan) : Prop :=
  ∀ e, self.entries.get? plan.expected.output = some e → e.outputRetirementId = none →
    e.outputPublication = none → e.canonicalStoredResult ≠ none →
      e.currentAttempt ≠ some plan.nextExecution.attemptId

/-- The trusted advance moves on to a later attempt, or repeats one without an outcome. -/
def AdvancesInOrder (self : ObjectOwnerTable ε) (plan : TaskOutputAttemptAdvancePlan) : Prop :=
  ∀ e, self.entries.get? plan.expected.output = some e → e.outputRetirementId = none →
    e.outputPublication = none → e.StartsOver plan.nextExecution.attemptId

variable {u : Unit}

theorem commitValidatedAdvanceTaskOutputs_cases {plan : TaskOutputAttemptAdvancePlan}
    (h : self.commitValidatedAdvanceTaskOutputs plan = .ok (u, s')) :
    ∃ e, ∃ he : e.objectId = plan.expected.output,
      self.entries.get? plan.expected.output = some e ∧ e.outputRetirementId = none ∧
      e.outputPublication = none ∧ s' = self.setEntry (restart plan e he) := by
  simp only [commitValidatedAdvanceTaskOutputs, bind_eq_ok, subscript_eq_ok,
    requireNoOutputRetirement_eq_ok, requireOutputMembershipsRetired_eq_ok, pure_eq_ok,
    Prod.mk.injEq] at h
  obtain ⟨e, he, _, hopen, _, hfree, _, rfl⟩ := h
  exact ⟨e.val, e.property, he, hopen, hfree, rfl⟩

/-- The trusted advance starts over from whatever it finds but memberships and retirements. -/
theorem commitValidatedAdvanceTaskOutputs_moves {plan : TaskOutputAttemptAdvancePlan}
    (h : self.commitValidatedAdvanceTaskOutputs plan = .ok (u, s'))
    (hvalidated : c.validated → ∃ f, self.validateAdvanceTaskOutputs plan = .ok f)
    (hvacant : c.vacant → self.AdvancesVacant plan)
    (hrenewed : c.renewed → self.AdvancesRenewed plan)
    (hordered : c.ordered → self.AdvancesInOrder plan)
    (hnamed : c.advances plan.expected.output plan.nextExecution.attemptId) : Moves c self s' := by
  obtain ⟨e, hid, he, hopen, hfree, hset⟩ := commitValidatedAdvanceTaskOutputs_cases h
  have hidle : c.validated → e.collectionPending = false := by
    intro hc
    obtain ⟨f, hf⟩ := hvalidated hc
    obtain ⟨e₁, _, he₁, _⟩ := validateAdvanceTaskOutputs_cases hf
    cases he.symm.trans he₁.entry
    exact he₁.idle
  exact .set he hset rfl rfl rfl hidle (.advanced plan.nextExecution.attemptId hfree
    (fun hc => hvacant hc e he hopen hfree) (fun hc => hrenewed hc e he hopen hfree)
    (fun hc => hordered hc e he hopen hfree) (hid ▸ hnamed))

/-! ## Results -/

/-- Whether the result may be published; `false` for a superseded attempt. -/
def validatePublishTaskOutputs (self : ObjectOwnerTable ε) (plan : TaskOutputPublicationPlan) :
    Except Raised Bool := do
  let e ← self.taskOutputEntry plan.execution
  let d := plan.result
  raiseIf (∃ spec ∈ e.val.producerTaskSpec, d.ownerWorkerId ≠ spec.ownerWorkerId)
    ⟨.valueError, "result owner must match the registered task output owner"⟩
  requireNotCollecting e.val "task output metadata collection is pending"
  requireNoOutputRetirement e.val
  if e.val.currentAttempt ≠ some plan.execution.attemptId then return false
  if d.storage = .inline then
    if e.val.state = .readyInline then
      raiseIf (e.val.inlineData ≠ d.inlineData)
        ⟨.conflictingObjectResult, "attempt published conflicting inline task output"⟩
      return true
    self.requirePublishable e.val false
    return true
  if e.val.state = .readyStored then
    raiseIf (e.val.canonicalStoredResult = none)
      ⟨.conflictingObjectResult, "stored task output has no canonical replay descriptor"⟩
    raiseIf (e.val.canonicalStoredResult ≠ some d)
      ⟨.conflictingObjectResult,
        "attempt replay changed stored task output identity or integrity metadata"⟩
    raiseIf (e.val.locationAttempts.get? d.nodeId ≠ some (some plan.execution.attemptId))
      ⟨.conflictingObjectResult, "task output location has a different attempt epoch"⟩
    return true
  self.requirePublishable e.val true
  return true

def assignResult (plan : TaskOutputPublicationPlan) (e : ObjectOwnerEntry ε) :
    ObjectOwnerEntry ε :=
  let d := plan.result
  if d.storage = .inline then
    { e with
      state := .readyInline
      inlineData := d.inlineData
      error := none
      canonicalStoredResult := none }
  else
    { e with
      state := .readyStored
      inlineData := none
      error := none
      canonicalStoredResult := some d
      locationAttempts := e.locationAttempts.set d.nodeId (some plan.execution.attemptId) }

/-- Publish the task output under one owner lock or publish nothing. -/
def commitPublishTaskOutputs (self : ObjectOwnerTable ε) (plan : TaskOutputPublicationPlan) :
    Except Raised (Bool × ObjectOwnerTable ε) := do
  let e ← self.subscript plan.execution.output
  requireNoOutputRetirement e.val
  let publishable ← self.validatePublishTaskOutputs plan
  if publishable then return (true, self.setEntry (assignResult plan e.val))
  return (false, self)

/-- Apply a caller-held validated success plan without revalidation. -/
def commitValidatedPublishTaskOutputs (self : ObjectOwnerTable ε)
    (plan : TaskOutputPublicationPlan) : Except Raised (Unit × ObjectOwnerTable ε) := do
  let e ← self.subscript plan.execution.output
  requireNoOutputRetirement e.val
  return ((), self.setEntry (assignResult plan e.val))

theorem assignResult_objectId (plan : TaskOutputPublicationPlan) (e : ObjectOwnerEntry ε) :
    (assignResult plan e).objectId = e.objectId := by
  simp only [assignResult]
  split <;> rfl

theorem assignResult_references (plan : TaskOutputPublicationPlan) (e : ObjectOwnerEntry ε) :
    (assignResult plan e).toReferenceFields = e.toReferenceFields := by
  simp only [assignResult]
  split <;> rfl

theorem assignResult_collection (plan : TaskOutputPublicationPlan) (e : ObjectOwnerEntry ε) :
    (assignResult plan e).toCollectionFields = e.toCollectionFields := by
  simp only [assignResult]
  split <;> rfl

/-- A plan accepted for a lost result keeps the integrity of the known descriptor. -/
def RepublishesIdentically (self : ObjectOwnerTable ε) (plan : TaskOutputPublicationPlan) : Prop :=
  self.validatePublishTaskOutputs plan = .ok true → plan.result.storage ≠ .inline →
    ∀ e, self.entries.get? plan.execution.output = some e → e.state = .lost →
      ∀ d, e.canonicalStoredResult = some d → SameIntegrity d plan.result

variable {plan : TaskOutputPublicationPlan}

theorem describesStored_result {o : ObjectID} (hs : plan.result.storage ≠ .inline)
    (ho : o = plan.execution.output) : DescribesStored o plan.result := by
  refine ⟨plan.result_objectId.trans ho.symm, ?_⟩
  cases h : plan.result.storage with
  | inline => exact absurd h hs
  | objectStore => rfl

/-- The plan repeats the entry's result, or may still give it one. -/
def AcceptsResult (self : ObjectOwnerTable ε) (plan : TaskOutputPublicationPlan)
    (e : ObjectOwnerEntry ε) : Prop :=
  if plan.result.storage = .inline then
    e.state = .readyInline ∧ e.inlineData = plan.result.inlineData ∨
      self.requirePublishable e false = .ok ()
  else
    e.state = .readyStored ∧ e.canonicalStoredResult = some plan.result ∧
        e.locationAttempts.get? plan.result.nodeId = some (some plan.execution.attemptId) ∨
      self.requirePublishable e true = .ok ()

variable {publishable : Bool}

theorem validatePublishTaskOutputs_cases
    (h : self.validatePublishTaskOutputs plan = .ok publishable) :
    ∃ e, Admits self plan.execution.output e ∧
      (publishable = false ∧ e.currentAttempt ≠ some plan.execution.attemptId ∨
        publishable = true ∧ e.currentAttempt = some plan.execution.attemptId ∧
          AcceptsResult self plan e) := by
  simp only [validatePublishTaskOutputs, bind_eq_ok, requireNotCollecting_eq_ok,
    requireNoOutputRetirement_eq_ok, raiseIf_eq_ok, ite_eq_ok, pure_eq_ok, ne_eq, not_not] at h
  obtain ⟨e, he, _, _, _, hidle, _, hopen, h⟩ := h
  refine ⟨e.val, ⟨taskOutputEntry_get? he, hopen, hidle⟩, ?_⟩
  rcases h with ⟨hstale, rfl⟩ | ⟨hnow, h⟩
  · exact .inl ⟨rfl, hstale⟩
  · rcases h with ⟨hinline, ⟨hstate, _, hdata, rfl⟩ | ⟨_, _, hpublish, rfl⟩⟩ |
      ⟨hstored, ⟨hstate, _, _, _, hcanonical, _, hnode, rfl⟩ | ⟨_, _, hpublish, rfl⟩⟩
    · exact .inr ⟨rfl, hnow, by simp [AcceptsResult, hinline, hstate, hdata]⟩
    · exact .inr ⟨rfl, hnow, by simp only [AcceptsResult, if_pos hinline]; exact .inr hpublish⟩
    · exact .inr ⟨rfl, hnow, by
        simp only [AcceptsResult, if_neg hstored]; exact .inl ⟨hstate, hcanonical, hnode⟩⟩
    · exact .inr ⟨rfl, hnow, by simp only [AcceptsResult, if_neg hstored]; exact .inr hpublish⟩

theorem assignResult_rewrites (plan : TaskOutputPublicationPlan) (e : ObjectOwnerEntry ε) :
    Rewrites e (assignResult plan e) :=
  ⟨assignResult_objectId .., assignResult_references .., assignResult_collection ..⟩

theorem assignResult_move (he : self.entries.get? plan.execution.output = some e)
    (hv : self.validatePublishTaskOutputs plan = .ok true)
    (hidentical : c.identical → self.RepublishesIdentically plan) :
    e.collectionPending = false ∧ ResultMove c self.toPublicationHistory
      self.toPublicationHistory e.objectId e.toResultFields
      (assignResult plan e).toResultFields := by
  obtain ⟨e₁, he₁, ⟨hfalse, _⟩ | ⟨_, hattempt, haccepts⟩⟩ := validatePublishTaskOutputs_cases hv
  · cases hfalse
  cases he.symm.trans he₁.entry
  refine ⟨he₁.idle, ?_⟩
  by_cases hs : plan.result.storage = .inline
  · rw [AcceptsResult, if_pos hs] at haccepts
    obtain ⟨data, hdata, _⟩ := Option.map_eq_some_iff.mp (plan.result.inline_payload hs).1
    rcases haccepts with ⟨hstate, hsame⟩ | hpublish
    · simpa [assignResult, hs, hstate, hsame] using ResultMove.republishedInline hstate
    · obtain ⟨hr, hstate, hloc⟩ := requirePublishable_eq_ok.mp hpublish
      simpa [assignResult, hs, hdata] using ResultMove.publishedInline data
        e.putIdentity e.outgoingContainedEdges (by simpa using hstate) hloc
        (unretired_of_not hr) (.inl rfl)
  · rw [AcceptsResult, if_neg hs] at haccepts
    rcases haccepts with ⟨hstate, hcanonical, hnode⟩ | hpublish
    · simpa [assignResult, hs, hstate, hcanonical, hattempt] using
        ResultMove.republishedStored plan.result.nodeId hstate (by rw [hnode, hattempt])
    · obtain ⟨hr, hstate, hloc⟩ := requirePublishable_eq_ok.mp hpublish
      simpa [assignResult, hs, hattempt] using
        ResultMove.publishedStored plan.result.nodeId (some plan.result) e.putIdentity
          e.outgoingContainedEdges (by simpa using hstate) hloc (unretired_of_not hr)
          (fun hc hlost d hd => ⟨_, rfl, hidentical hc hv hs e he hlost d hd⟩) (.inl rfl)
          fun d hd => .inr (by cases hd; exact describesStored_result hs (self.keyed _ _ he))

theorem commitPublishTaskOutputs_cases (h : self.commitPublishTaskOutputs plan = .ok (b, s')) :
    self.validatePublishTaskOutputs plan = .ok b ∧ ∃ e, Admits self plan.execution.output e ∧
      Answer self s' (e.currentAttempt = some plan.execution.attemptId) False
        (fun e' => AcceptsResult self plan e ∧ e' = assignResult plan e) b := by
  simp only [commitPublishTaskOutputs, bind_eq_ok, subscript_eq_ok, ite_eq_ok, pure_eq_ok,
    Prod.mk.injEq] at h
  obtain ⟨e, he, _, _, publishable, hv, h⟩ := h
  obtain ⟨e₁, he₁, hcases⟩ := validatePublishTaskOutputs_cases hv
  cases he.symm.trans he₁.entry
  rcases hcases with ⟨rfl, hstale⟩ | ⟨rfl, hnow, haccepts⟩
  · rcases h with ⟨htrue, _⟩ | ⟨_, rfl, rfl⟩
    · cases htrue
    · exact ⟨hv, e.val, he₁, .stale hstale rfl⟩
  · rcases h with ⟨_, rfl, rfl⟩ | ⟨hfalse, _⟩
    · exact ⟨hv, e.val, he₁, .rewritten hnow _ ⟨haccepts, rfl⟩ rfl⟩
    · exact absurd rfl hfalse

theorem commitPublishTaskOutputs_moves (h : self.commitPublishTaskOutputs plan = .ok (b, s'))
    (hidentical : c.identical → self.RepublishesIdentically plan) : Moves c self s' := by
  obtain ⟨hv, e, he, hanswer⟩ := commitPublishTaskOutputs_cases h
  cases hanswer with
  | stale _ same => exact same ▸ .same
  | replayed _ known => exact known.elim
  | rewritten _ e' effect set =>
    obtain ⟨_, rfl⟩ := effect
    have hframe := assignResult_rewrites plan e
    obtain ⟨hidle, hmove⟩ := assignResult_move he.entry hv hidentical
    exact .set he.entry set hframe.objectId hframe.references hframe.collection
      (fun _ => hidle) hmove

theorem commitValidatedPublishTaskOutputs_cases
    (h : self.commitValidatedPublishTaskOutputs plan = .ok (u, s')) :
    ∃ e, self.entries.get? plan.execution.output = some e ∧ e.outputRetirementId = none ∧
      s' = self.setEntry (assignResult plan e) := by
  simp only [commitValidatedPublishTaskOutputs, bind_eq_ok, subscript_eq_ok,
    requireNoOutputRetirement_eq_ok, pure_eq_ok, Prod.mk.injEq] at h
  obtain ⟨e, he, _, hopen, _, rfl⟩ := h
  exact ⟨e.val, he, hopen, rfl⟩

theorem commitValidatedPublishTaskOutputs_moves
    (h : self.commitValidatedPublishTaskOutputs plan = .ok (u, s'))
    (hvalidated : c.validated → self.validatePublishTaskOutputs plan = .ok true)
    (hidentical : c.identical → self.RepublishesIdentically plan) : Moves c self s' := by
  obtain ⟨e, he, _, hset⟩ := commitValidatedPublishTaskOutputs_cases h
  have hframe := assignResult_rewrites plan e
  by_cases hc : c.validated
  · obtain ⟨hidle, hmove⟩ := assignResult_move he (hvalidated hc) hidentical
    exact .set he hset hframe.objectId hframe.references hframe.collection (fun _ => hidle) hmove
  · refine .set he hset hframe.objectId hframe.references hframe.collection
      (fun hv => absurd hv hc) ?_
    refine .assigned _ hc ?_ ?_ ?_ ?_ ?_ ?_ <;> simp only [assignResult] <;> split <;> simp

/-! ## Errors -/

/-- Whether the error may be published; `false` for a superseded attempt. -/
def validatePublishTaskError [BEq ε] (self : ObjectOwnerTable ε) (plan : TaskOutputErrorPlan ε) :
    Except Raised Bool := do
  let e ← self.taskOutputEntry plan.execution
  requireNotCollecting e.val "task output metadata collection is pending"
  requireNoOutputRetirement e.val
  if e.val.currentAttempt ≠ some plan.execution.attemptId then return false
  if e.val.state = .error then
    raiseIf ((e.val.error == plan.error) = false)
      ⟨.conflictingObjectResult, "attempt published conflicting task errors"⟩
    return true
  self.requirePublishable e.val false
  return true

def assignError (plan : TaskOutputErrorPlan ε) (e : ObjectOwnerEntry ε) : ObjectOwnerEntry ε :=
  { e with
    state := .error
    error := plan.error
    inlineData := none
    canonicalStoredResult := none }

def commitPublishTaskError [BEq ε] (self : ObjectOwnerTable ε) (plan : TaskOutputErrorPlan ε) :
    Except Raised (Bool × ObjectOwnerTable ε) := do
  let e ← self.subscript plan.execution.output
  requireNoOutputRetirement e.val
  let publishable ← self.validatePublishTaskError plan
  if publishable then return (true, self.setEntry (assignError plan e.val))
  return (false, self)

/-- Apply a caller-held validated error plan without revalidation. -/
def commitValidatedPublishTaskError (self : ObjectOwnerTable ε) (plan : TaskOutputErrorPlan ε) :
    Except Raised (Unit × ObjectOwnerTable ε) := do
  let e ← self.subscript plan.execution.output
  requireNoOutputRetirement e.val
  return ((), self.setEntry (assignError plan e.val))

theorem validatePublishTaskError_cases [BEq ε] {plan : TaskOutputErrorPlan ε}
    (h : self.validatePublishTaskError plan = .ok publishable) :
    ∃ e, Admits self plan.execution.output e ∧
      (publishable = false ∧ e.currentAttempt ≠ some plan.execution.attemptId ∨
        publishable = true ∧ e.currentAttempt = some plan.execution.attemptId ∧
          (e.state = .error ∧ (e.error == plan.error) = true ∨
            self.requirePublishable e false = .ok ())) := by
  simp only [validatePublishTaskError, bind_eq_ok, requireNotCollecting_eq_ok,
    requireNoOutputRetirement_eq_ok, raiseIf_eq_ok, ite_eq_ok, pure_eq_ok, ne_eq, not_not,
    Bool.not_eq_false] at h
  obtain ⟨e, he, _, hidle, _, hopen, h⟩ := h
  refine ⟨e.val, ⟨taskOutputEntry_get? he, hopen, hidle⟩, ?_⟩
  rcases h with ⟨hstale, rfl⟩ | ⟨hnow, ⟨hstate, _, herror, rfl⟩ | ⟨_, _, hpublish, rfl⟩⟩
  · exact .inl ⟨rfl, hstale⟩
  · exact .inr ⟨rfl, hnow, .inl ⟨hstate, herror⟩⟩
  · exact .inr ⟨rfl, hnow, .inr hpublish⟩

theorem assignError_rewrites (plan : TaskOutputErrorPlan ε) (e : ObjectOwnerEntry ε) :
    Rewrites e (assignError plan e) := ⟨rfl, rfl, rfl⟩

theorem assignError_move [BEq ε] {plan : TaskOutputErrorPlan ε}
    (he : self.entries.get? plan.execution.output = some e)
    (hv : self.validatePublishTaskError plan = .ok true) (hc : c.restates) :
    e.collectionPending = false ∧ ResultMove c self.toPublicationHistory
      self.toPublicationHistory e.objectId e.toResultFields
      (assignError plan e).toResultFields := by
  obtain ⟨e₁, he₁, ⟨hfalse, _⟩ | ⟨_, _, h⟩⟩ := validatePublishTaskError_cases hv
  · cases hfalse
  cases he.symm.trans he₁.entry
  refine ⟨he₁.idle, .failed plan.error none ?_ (.inr rfl)⟩
  rcases h with ⟨hstate, _⟩ | hpublish
  · exact .inr ⟨hstate, hc⟩
  · obtain ⟨hr, hstate, hloc⟩ := requirePublishable_eq_ok.mp hpublish
    exact .inl ⟨by simpa using hstate, hloc, unretired_of_not hr⟩

theorem commitPublishTaskError_cases [BEq ε] {plan : TaskOutputErrorPlan ε}
    (h : self.commitPublishTaskError plan = .ok (b, s')) :
    self.validatePublishTaskError plan = .ok b ∧ ∃ e, Admits self plan.execution.output e ∧
      Answer self s' (e.currentAttempt = some plan.execution.attemptId) False
        (fun e' => (e.state = .error ∧ (e.error == plan.error) = true ∨
            self.requirePublishable e false = .ok ()) ∧ e' = assignError plan e) b := by
  simp only [commitPublishTaskError, bind_eq_ok, subscript_eq_ok, ite_eq_ok, pure_eq_ok,
    Prod.mk.injEq] at h
  obtain ⟨e, he, _, _, publishable, hv, h⟩ := h
  obtain ⟨e₁, he₁, hcases⟩ := validatePublishTaskError_cases hv
  cases he.symm.trans he₁.entry
  rcases hcases with ⟨rfl, hstale⟩ | ⟨rfl, hnow, haccepts⟩
  · rcases h with ⟨htrue, _⟩ | ⟨_, rfl, rfl⟩
    · cases htrue
    · exact ⟨hv, e.val, he₁, .stale hstale rfl⟩
  · rcases h with ⟨_, rfl, rfl⟩ | ⟨hfalse, _⟩
    · exact ⟨hv, e.val, he₁, .rewritten hnow _ ⟨haccepts, rfl⟩ rfl⟩
    · exact absurd rfl hfalse

theorem commitPublishTaskError_moves [BEq ε] {plan : TaskOutputErrorPlan ε}
    (h : self.commitPublishTaskError plan = .ok (b, s')) (hc : c.restates) : Moves c self s' := by
  obtain ⟨hv, e, he, hanswer⟩ := commitPublishTaskError_cases h
  cases hanswer with
  | stale _ same => exact same ▸ .same
  | replayed _ known => exact known.elim
  | rewritten _ e' effect set =>
    obtain ⟨_, rfl⟩ := effect
    obtain ⟨hidle, hmove⟩ := assignError_move he.entry hv hc
    exact .set he.entry set rfl rfl rfl (fun _ => hidle) hmove

theorem commitValidatedPublishTaskError_cases {plan : TaskOutputErrorPlan ε}
    (h : self.commitValidatedPublishTaskError plan = .ok (u, s')) :
    ∃ e, self.entries.get? plan.execution.output = some e ∧ e.outputRetirementId = none ∧
      s' = self.setEntry (assignError plan e) := by
  simp only [commitValidatedPublishTaskError, bind_eq_ok, subscript_eq_ok,
    requireNoOutputRetirement_eq_ok, pure_eq_ok, Prod.mk.injEq] at h
  obtain ⟨e, he, _, hopen, _, rfl⟩ := h
  exact ⟨e.val, he, hopen, rfl⟩

theorem commitValidatedPublishTaskError_moves [BEq ε] {plan : TaskOutputErrorPlan ε}
    (h : self.commitValidatedPublishTaskError plan = .ok (u, s'))
    (hvalidated : c.validated → self.validatePublishTaskError plan = .ok true)
    (hrestates : c.restates) : Moves c self s' := by
  obtain ⟨e, he, _, hset⟩ := commitValidatedPublishTaskError_cases h
  by_cases hc : c.validated
  · obtain ⟨hidle, hmove⟩ := assignError_move he (hvalidated hc) hrestates
    exact .set he hset rfl rfl rfl (fun _ => hidle) hmove
  · exact .set he hset rfl rfl rfl (fun hv => absurd hv hc)
      (.assigned _ hc (by simp [assignError]) rfl rfl rfl rfl rfl)

end ObjectOwnerTable

end MiniRay
