import MiniRay.Recovery.Attempts
import MiniRay.Recovery.Coordinator
import MiniRay.Recovery.PreflightSpec

/-! What each call can do, and what one call of the recovery manager leaves alone. -/

namespace MiniRay

open Checked Run

/-! ## One recovery call -/

/-- No further attempt of the task can be started. -/
def TaskRecord.Closed (r : TaskRecord) : Prop :=
  r.state = .systemFailed ∨ r.state = .applicationFailed ∨
    r.state = .succeeded ∧ r.retriesRemaining = 0

namespace RecoveryManager

variable {s : RecoveryManager} {t : TaskID} {r r' : TaskRecord}

theorem ahead_of_step (hs : Coherent s) (op : Op) (hr : s.tasks.get? t = some r)
    (hr' : (s.step op).tasks.get? t = some r') : Ahead r r' := by
  cases taskStep hs.filed op t with
  | same tasks =>
    cases (tasks.symm.trans hr').symm.trans hr
    exact ahead_refl _
  | born spec outputs n new =>
    obtain ⟨l, hl, -⟩ := hs.numbered t r hr
    rw [new] at hl
    cases hl
  | gone tasks =>
    rw [tasks] at hr'
    cases hr'
  | ran r₀ known live tasks =>
    cases known.symm.trans hr
    cases tasks.symm.trans hr'
    exact ahead_refl _
  | reported r₀ r₁ a report isOp d active' known result own names moves tasks =>
    cases known.symm.trans hr
    cases tasks.symm.trans hr'
    exact moves.ahead
  | requested r₀ r₁ o isOp d active' known result own names requests tasks =>
    cases known.symm.trans hr
    cases tasks.symm.trans hr'
    exact requests.ahead

theorem next_ne (a : AttemptID) : a.next ≠ a := by
  intro h
  have hnumber : a.attemptNumber + 1 = a.attemptNumber := congrArg AttemptID.attemptNumber h
  omega

variable {active active' : Option AttemptID} {a : AttemptID} {action : RecoveryAction}

theorem Moves.active_before {b : AttemptID} (h : Moves r active a action r' active')
    (hsame : r'.currentAttempt = r.currentAttempt) (hactive : active' = some b) :
    active = some b := by
  cases h with
  | fenced => exact hactive
  | succeeded => exact (endActive_eq_some.mp hactive).1
  | failed => exact (endActive_eq_some.mp hactive).1
  | exhausted => exact (endActive_eq_some.mp hactive).1
  | repeated => exact (endActive_eq_some.mp hactive).1
  | retried => exact absurd hsame (next_ne _)
  | targeted => cases hactive

theorem Requests.active_before {b : AttemptID} (h : Requests r active action r' active')
    (hsame : r'.currentAttempt = r.currentAttempt) (hactive : active' = some b) :
    active = some b := by
  cases h with
  | joined => exact hactive
  | started => exact absurd hsame (next_ne _)
  | exhausted => cases hactive
  | refused => cases hactive

theorem active_before (hs : Coherent s) (op : Op) (hr : s.tasks.get? t = some r)
    (hr' : (s.step op).tasks.get? t = some r') (hsame : r'.currentAttempt = r.currentAttempt)
    (hactive : (s.step op).activeRecoveries.get? t = some a) :
    s.activeRecoveries.get? t = some a := by
  cases taskStep hs.filed op t with
  | same tasks lineages active => exact active.symm.trans hactive
  | born spec outputs n new own tasks lineages active => exact active.symm.trans hactive
  | gone tasks =>
    rw [tasks] at hr'
    cases hr'
  | ran r₀ known live tasks lineages active => exact active.symm.trans hactive
  | reported r₀ r₁ b report isOp d active' known result own names moves tasks lineages active =>
    cases known.symm.trans hr
    cases tasks.symm.trans hr'
    exact Moves.active_before moves hsame (active.symm.trans hactive)
  | requested r₀ r₁ o isOp d active' known result own names requests tasks lineages active =>
    cases known.symm.trans hr
    cases tasks.symm.trans hr'
    exact Requests.active_before requests hsame (active.symm.trans hactive)

variable {o : ObjectID} {plan : RecoveryTransitionPlan}

theorem commit_of_validated (h : s.validateRequestReconstruction o = .ok plan) :
    ∃ s', s.commitTransition plan = .ok (plan.decision, s') := by
  rcases validateRequestReconstruction_cases h with
    ⟨-, hscope, -⟩ | ⟨t, l, r, r', active', -, -, hplans, -⟩
  · exact ⟨s, by rw [commitTransition, hscope]⟩
  · have hknown : subscript s.tasks t = .ok r := subscript_eq_ok.mpr hplans.known
    rw [commitTransition, hplans.scope]
    simp only [hknown]
    exact ⟨_, rfl⟩

variable {d : RecoveryDecision} {s' : RecoveryManager}

theorem step_of_commit (hplan : s.validateRequestReconstruction o = .ok plan)
    (hcommit : s.commitTransition plan = .ok (d, s')) : s.step (.requestReconstruction o) = s' := by
  have hcall : s.call (.requestReconstruction o) = .ok (.decision d, s') := by
    rw [call, hplan]
    change (s.commitTransition plan >>= _) = _
    rw [hcommit]
    rfl
  rw [step, hcall]
  rfl

/-! ## Closed records -/

/-- A closed record of the same attempt. -/
structure Settles (r r' : TaskRecord) : Prop where
  task : r'.taskId = r.taskId
  attempt : r'.currentAttempt = r.currentAttempt
  retries : r'.retriesStarted = r.retriesStarted
  closed : r'.Closed

theorem Settles.toward {r'' : TaskRecord} (h : Settles r r') (h' : Settles r r'') :
    Settles r' r'' where
  task := h'.task.trans h.task.symm
  attempt := h'.attempt.trans h.attempt.symm
  retries := h'.retries.trans h.retries.symm
  closed := h'.closed

theorem settles_refl (h : r.Closed) : Settles r r := ⟨rfl, rfl, rfl, h⟩

theorem Moves.settles (h : Moves r none a action r' active') (hr : r.Closed) :
    Settles r r' ∧ active' = none := by
  cases h with
  | fenced => exact ⟨settles_refl hr, rfl⟩
  | succeeded current live =>
    obtain hstate | hstate | ⟨-, hleft⟩ := hr
    · exact absurd hstate live.2
    · exact absurd hstate live.1
    · exact ⟨⟨rfl, rfl, rfl, .inr (.inr ⟨rfl, hleft⟩)⟩, rfl⟩
  | failed => exact ⟨⟨rfl, rfl, rfl, .inr (.inl rfl)⟩, rfl⟩
  | exhausted => exact ⟨⟨rfl, rfl, rfl, .inl rfl⟩, rfl⟩
  | repeated => exact ⟨settles_refl hr, rfl⟩
  | retried current live =>
    obtain hstate | hstate | ⟨hstate, -⟩ := hr
    · exact absurd hstate live.2.2
    · exact absurd hstate live.1
    · exact absurd hstate live.2.1
  | targeted current marked => cases marked

theorem Requests.settles (h : Requests r none action r' active') (hr : r.Closed) :
    Settles r r' ∧ active' = none := by
  cases h with
  | joined a marked => cases marked
  | started idle succeeded error hleft =>
    obtain hstate | hstate | ⟨-, hnone⟩ := hr
    · rw [succeeded] at hstate
      cases hstate
    · rw [succeeded] at hstate
      cases hstate
    · exact absurd hnone hleft
  | exhausted => exact ⟨⟨rfl, rfl, rfl, .inl rfl⟩, rfl⟩
  | refused => exact ⟨settles_refl hr, rfl⟩

/-- A request that neither starts nor joins finds a closed record. -/
theorem Requests.refuses (h : Requests r active action r' active')
    (hstart : action ≠ .startReconstruction) (hjoin : action ≠ .joinReconstruction) :
    active = none ∧ active' = none ∧ r.Closed ∧ Settles r r' := by
  cases h with
  | joined => exact absurd rfl hjoin
  | started => exact absurd rfl hstart
  | exhausted idle succeeded error hleft =>
    exact ⟨idle, rfl, .inr (.inr ⟨succeeded, hleft⟩), ⟨rfl, rfl, rfl, .inl rfl⟩⟩
  | refused idle action closed =>
    have hclosed : r.Closed := by
      obtain ⟨hstate, -⟩ | ⟨hstate, -⟩ := closed
      · exact .inl hstate
      · exact .inr (.inl hstate)
    exact ⟨idle, rfl, hclosed, settles_refl hclosed⟩

theorem settles_of_step (hs : Coherent s) (op : Op) (hr : s.tasks.get? t = some r)
    (hr' : (s.step op).tasks.get? t = some r') (hclosed : r.Closed)
    (hidle : s.activeRecoveries.get? t = none) :
    Settles r r' ∧ (s.step op).activeRecoveries.get? t = none := by
  cases taskStep hs.filed op t with
  | same tasks lineages active =>
    cases (tasks.symm.trans hr').symm.trans hr
    exact ⟨settles_refl hclosed, active.trans hidle⟩
  | born spec outputs n new =>
    obtain ⟨l, hl, -⟩ := hs.numbered t r hr
    rw [new] at hl
    cases hl
  | gone tasks =>
    rw [tasks] at hr'
    cases hr'
  | ran r₀ known live =>
    cases known.symm.trans hr
    obtain hstate | hstate | ⟨hstate, -⟩ := hclosed
    · exact absurd hstate live.2.1
    · exact absurd hstate live.1
    · exact absurd hstate live.2.2
  | reported r₀ r₁ a report isOp d active' known result own names moves tasks lineages active =>
    cases known.symm.trans hr
    cases tasks.symm.trans hr'
    rw [hidle] at moves
    rw [active]
    exact Moves.settles moves hclosed
  | requested r₀ r₁ o isOp d active' known result own names requests tasks lineages active =>
    cases known.symm.trans hr
    cases tasks.symm.trans hr'
    rw [hidle] at requests
    rw [active]
    exact Requests.settles requests hclosed

theorem Coherent.install (hs : Coherent s) (h : Installs s s' t r' none)
    (hr : s.tasks.get? t = some r) (hsettles : Settles r r') : Coherent s' where
  filed := by
    intro u x hx
    rw [h.tasks] at hx
    by_cases hu : t = u
    · rw [if_pos hu] at hx
      cases hx
      rw [hsettles.task, hs.filed t r hr, hu]
    · rw [if_neg hu] at hx
      exact hs.filed u x hx
  numbered := by
    intro u x hx
    rw [h.tasks] at hx
    rw [h.lineages]
    by_cases hu : t = u
    · rw [if_pos hu] at hx
      cases hx
      subst hu
      rw [hsettles.attempt, hsettles.retries]
      exact hs.numbered t r hr
    · rw [if_neg hu] at hx
      exact hs.numbered u x hx
  marked := by
    intro u a ha
    rw [h.active] at ha ⊢
    rw [h.tasks]
    by_cases hu : t = u
    · rw [if_pos hu] at ha
      cases ha
    · rw [if_neg hu] at ha ⊢
      rw [if_neg hu]
      exact hs.marked u a ha

/-! ## What the coordinator relies on -/

/-- How the recovery manager may change under the coordinator: the tasks in question are not
recorded again, attempts only move ahead, and closed records stay closed. -/
structure Evolves (known : TaskID → Prop) (s s' : RecoveryManager) : Prop where
  coherent : Coherent s'
  ahead : ∀ t r r', s.tasks.get? t = some r → s'.tasks.get? t = some r' → Ahead r r'
  marked : ∀ t r r' a, s.tasks.get? t = some r → s'.tasks.get? t = some r' →
    r'.currentAttempt = r.currentAttempt → s'.activeRecoveries.get? t = some a →
    s.activeRecoveries.get? t = some a
  settles : ∀ t r r', s.tasks.get? t = some r → s'.tasks.get? t = some r' → r.Closed →
    s.activeRecoveries.get? t = none → Settles r r' ∧ s'.activeRecoveries.get? t = none
  forgotten : ∀ t, known t → s.tasks.get? t = none → s'.tasks.get? t = none

variable {known : TaskID → Prop}

theorem evolves_refl (hs : Coherent s) : Evolves known s s where
  coherent := hs
  ahead t r r' hr hr' := by
    cases hr.symm.trans hr'
    exact ahead_refl _
  marked _ _ _ _ _ _ _ h := h
  settles t r r' hr hr' hclosed hidle := by
    cases hr.symm.trans hr'
    exact ⟨settles_refl hclosed, hidle⟩
  forgotten _ _ h := h

theorem evolves_step (hs : Coherent s) (op : Op)
    (hforgotten : ∀ t, known t → s.tasks.get? t = none → (s.step op).tasks.get? t = none) :
    Evolves known s (s.step op) where
  coherent := hs.step op
  ahead _ _ _ hr hr' := ahead_of_step hs op hr hr'
  marked _ _ _ _ hr hr' hsame hactive := active_before hs op hr hr' hsame hactive
  settles _ _ _ hr hr' hclosed hidle := settles_of_step hs op hr hr' hclosed hidle
  forgotten := hforgotten

theorem evolves_install (hs : Coherent s) (h : Installs s s' t r' none)
    (hr : s.tasks.get? t = some r) (hsettles : Settles r r') :
    Evolves known s s' where
  coherent := hs.install h hr hsettles
  ahead u x x' hx hx' := by
    rw [h.tasks] at hx'
    by_cases hu : t = u
    · rw [if_pos hu] at hx'
      cases hx'
      subst hu
      cases hr.symm.trans hx
      refine ⟨hsettles.task, hsettles.retries.ge, ?_⟩
      rw [hsettles.attempt, hsettles.retries]
    · rw [if_neg hu] at hx'
      cases hx.symm.trans hx'
      exact ahead_refl _
  marked u x x' a hx hx' hsame hactive := by
    rw [h.active] at hactive
    by_cases hu : t = u
    · rw [if_pos hu] at hactive
      cases hactive
    · rw [if_neg hu] at hactive
      exact hactive
  settles u x x' hx hx' hclosed hidle := by
    rw [h.tasks] at hx'
    rw [h.active]
    by_cases hu : t = u
    · rw [if_pos hu] at hx' ⊢
      cases hx'
      subst hu
      cases hr.symm.trans hx
      exact ⟨hsettles, rfl⟩
    · rw [if_neg hu] at hx' ⊢
      cases hx.symm.trans hx'
      exact ⟨settles_refl hclosed, hidle⟩
  forgotten u _ hu := by
    rw [h.tasks]
    by_cases htu : t = u
    · subst htu
      rw [hr] at hu
      cases hu
    · rw [if_neg htu]
      exact hu

theorem known_of_commit {scope : TransitionScope} (h : s.commitTransition plan = .ok (d, s'))
    (hscope : plan.scope = some scope) : ∃ r, s.tasks.get? scope.taskId = some r := by
  rw [commitTransition, hscope] at h
  simp only [bind_eq_ok, subscript_eq_ok] at h
  obtain ⟨r, hr, -⟩ := h
  exact ⟨r, hr⟩

/-- A START that is committed at once: its task, and the attempt it moves to. -/
theorem started_of_validated (hplan : s.validateRequestReconstruction o = .ok plan)
    (haction : plan.decision.action = .startReconstruction)
    (hattempt : plan.decision.attemptId = some a) (hcommit :
      s.commitTransition plan = .ok (d, s')) :
    ∃ t r r', plan.decision.taskId = some t ∧ s.tasks.get? t = some r ∧
      s.activeRecoveries.get? t = none ∧ r'.currentAttempt = a ∧
      a = r.currentAttempt.next ∧ Installs s s' t r' (some a) := by
  rcases validateRequestReconstruction_cases hplan with
    ⟨-, -, haction'⟩ | ⟨t, l, r, r', active', -, -, hplans, hnames, hrequests⟩
  · rw [haction'] at haction
    cases haction
  · obtain ⟨-, ⟨hscope, -⟩ | ⟨scope, hscope, hinstalls⟩⟩ := commitTransition_cases hcommit
    · rw [hplans.scope] at hscope
      cases hscope
    · rw [hplans.scope] at hscope
      cases hscope
      have hnext : some r'.currentAttempt = some a := (hnames haction).symm.trans hattempt
      cases hnext
      rw [haction] at hrequests
      cases hrequests with
      | started idle succeeded error hleft =>
        rw [hplans.after] at hinstalls
        exact ⟨t, r, _, hplans.task, hplans.known, idle, rfl, rfl, hinstalls⟩
      | refused idle action closed =>
        obtain ⟨-, hfailed⟩ | ⟨-, hfailed⟩ := closed <;> cases hfailed

theorem evolves_started (hs : Coherent s) (hplan : s.validateRequestReconstruction o = .ok plan)
    (haction : plan.decision.action = .startReconstruction)
    (hattempt : plan.decision.attemptId = some a) (hcommit :
      s.commitTransition plan = .ok (d, s')) :
    Evolves known s s' := by
  obtain ⟨t, r, r', -, hr, -, -, -, hinstalls⟩ :=
    started_of_validated hplan haction hattempt hcommit
  have hstep := step_of_commit hplan hcommit
  rw [← hstep]
  refine evolves_step hs _ ?_
  intro u _ hu
  rw [hstep, hinstalls.tasks]
  by_cases htu : t = u
  · subst htu
    rw [hr] at hu
    cases hu
  · rw [if_neg htu]
    exact hu

end RecoveryManager

namespace ReconstructionCoordinator

open Preflight

variable {ε : Type} {args : TaskArguments} {self : ReconstructionCoordinator ε} {o : ObjectID}

/-! ## Prepared transactions -/

/-- The parts of a START transaction fit together. -/
structure StartSpec (prepared : PreparedReconstruction) (plan : ReconstructionPlan)
    (recoveryPlan : RecoveryTransitionPlan) : Prop where
  planned : prepared.outcome.plan = some plan
  recovery : prepared.recoveryPlan = some recoveryPlan
  action : prepared.outcome.decision.action = .startReconstruction
  task : prepared.outcome.decision.taskId = some plan.taskId
  attempt : prepared.outcome.decision.attemptId = some plan.attemptId
  outputs : prepared.outcome.decision.outputIds = plan.outputIds
  attempt_task : plan.attemptId.taskId = plan.taskId
  advance : ∀ ownerPlan, prepared.ownerPlan = some ownerPlan →
    ownerPlan.nextExecution.attemptId = plan.attemptId ∧
      ownerPlan.expected.attemptId.next = plan.attemptId ∧
      plan.outputIds = [ownerPlan.expected.output] ∧
      plan.requestedObjectId = ownerPlan.expected.output

/-- What every prepared transaction carries. -/
structure Shaped (prepared : PreparedReconstruction) : Prop where
  fresh : prepared.outcome.commit = none ∧ prepared.outcome.admission = none
  decided : ∀ recoveryPlan, prepared.recoveryPlan = some recoveryPlan →
    recoveryPlan.decision = prepared.outcome.decision
  start : prepared.outcome.disposition = .start →
    ∃ plan recoveryPlan, StartSpec prepared plan recoveryPlan

structure PreparedSpec (c : ReconstructionCoordinator ε) (o : ObjectID)
    (prepared : PreparedReconstruction) : Prop extends Shaped prepared where
  validated : ∃ recoveryPlan, prepared.recoveryPlan = some recoveryPlan ∧
    c.recovery.validateRequestReconstruction o = .ok recoveryPlan
  failed : prepared.outcome.disposition = .failed →
    (prepared.outcome.decision.action ≠ .startReconstruction ∧
      prepared.outcome.decision.action ≠ .joinReconstruction) ∨
    ∃ entry, c.owner.entry o = .ok entry ∧ entry.producerTaskSpec = none

variable {spec : TaskSpec} {previous : AttemptID}

theorem advancePlan_eq_ok {next : AttemptID} {plan : TaskOutputAttemptAdvancePlan}
    (h : advancePlan spec previous next = .ok plan) :
    plan.expected.attemptId = previous ∧ plan.nextExecution.attemptId = next ∧
      plan.expected.output = ObjectID.forTask spec.taskId 0 := by
  unfold advancePlan at h
  by_cases hprevious : previous.taskId = spec.taskId
  · rw [dif_pos hprevious] at h
    by_cases hnext : next.taskId = spec.taskId
    · rw [dif_pos hnext] at h
      by_cases hlater : previous.attemptNumber < next.attemptNumber
      · rw [dif_pos hlater] at h
        cases h
        exact ⟨rfl, rfl, rfl⟩
      · rw [dif_neg hlater] at h
        cases h
    · rw [dif_neg hnext] at h
      cases h
  · rw [dif_neg hprevious] at h
    cases h

variable {recoveryPlan : RecoveryTransitionPlan}

theorem PreparedSpec.decision {disposition : ReconstructionDisposition}
    (hstart : disposition ≠ .start)
    (hplan : self.recovery.validateRequestReconstruction o = .ok recoveryPlan)
    (hfailed : disposition = .failed → (recoveryPlan.decision.action ≠ .startReconstruction ∧
      recoveryPlan.decision.action ≠ .joinReconstruction) ∨
      ∃ entry, self.owner.entry o = .ok entry ∧ entry.producerTaskSpec = none) :
    PreparedSpec self o ⟨{ disposition := disposition, decision := recoveryPlan.decision },
      some recoveryPlan, none⟩ where
  fresh := ⟨rfl, rfl⟩
  decided := by
    intro plan hsame
    cases hsame
    rfl
  start h := absurd h hstart
  validated := ⟨recoveryPlan, rfl, hplan⟩
  failed := hfailed

theorem preflightAdvance_eq {plan plan' : TaskOutputAttemptAdvancePlan} {flag : Bool}
    (h : self.preflightAdvance plan flag = .ok (some plan')) : plan' = plan := by
  cases flag with
  | true =>
    simp only [preflightAdvance, bind_eq_ok, pure_eq_ok, Option.some.injEq] at h
    obtain ⟨-, -, hsame⟩ := h
    exact hsame.symm
  | false => cases h

theorem next_of_validated {recovery : RecoveryManager} {snapshot : ReconstructionSnapshot}
    {next : AttemptID} (hsnapshot : recovery.reconstructionSnapshot o = .ok snapshot)
    (hprevious : snapshot.currentAttempt = some previous)
    (hplan : recovery.validateRequestReconstruction o = .ok recoveryPlan)
    (haction : recoveryPlan.decision.action = .startReconstruction)
    (hnext : recoveryPlan.decision.attemptId = some next) : previous.next = next := by
  rcases RecoveryManager.validateRequestReconstruction_cases hplan with
    ⟨-, -, haction'⟩ | ⟨t, l, r, r', active', hproducer, hl, hplans, hnames, hrequests⟩
  · rw [haction'] at haction
    cases haction
  · have hattempt : some r'.currentAttempt = some next := (hnames haction).symm.trans hnext
    cases hattempt
    simp only [RecoveryManager.reconstructionSnapshot, hproducer, bind_eq_ok,
      RecoveryManager.subscript_eq_ok, pure_eq_ok] at hsnapshot
    obtain ⟨lineage, -, record, hrecord, rfl⟩ := hsnapshot
    cases hplans.known.symm.trans hrecord
    cases hprevious
    rw [haction] at hrequests
    cases hrequests with
    | started => rfl
    | refused idle action closed =>
      obtain ⟨-, hfailed⟩ | ⟨-, hfailed⟩ := closed <;> cases hfailed

variable {preflightOwner : Bool} {prepared : PreparedReconstruction}

theorem prepareStart_spec {outputIds : List ObjectID} {inputs : LineageInputs}
    (houtputs : outputIds = [ObjectID.forTask spec.taskId 0]) (hmem : o ∈ outputIds)
    (hprevious : ∀ next, recoveryPlan.decision.attemptId = some next → previous.next = next)
    (hplan : self.recovery.validateRequestReconstruction o = .ok recoveryPlan)
    (haction : recoveryPlan.decision.action = .startReconstruction)
    (h : prepareStart args self o spec outputIds previous inputs recoveryPlan preflightOwner =
      .ok prepared) :
    PreparedSpec self o prepared := by
  simp only [prepareStart, bind_eq_ok, raiseIf_eq_ok, exists_const, not_not] at h
  obtain ⟨-, hids, h⟩ := h
  cases hnext : recoveryPlan.decision.attemptId with
  | none =>
    rw [hnext] at h
    cases h
  | some next =>
    rw [hnext] at h
    simp only [bind_eq_ok, raiseIf_eq_ok, exists_const, not_or, not_not] at h
    obtain ⟨⟨htask, hnextTask⟩, -, advance, hadvance, ownerPlan, hpreflight, _, -, h⟩ := h
    rw [pure_eq_ok] at h
    subst h
    obtain ⟨hexpected, hattempt, houtput⟩ := advancePlan_eq_ok hadvance
    have ho : o = ObjectID.forTask spec.taskId 0 := by
      rw [houtputs, List.mem_singleton] at hmem
      exact hmem
    exact {
      fresh := ⟨rfl, rfl⟩
      decided := by
        intro plan hsame
        cases hsame
        rfl
      start := fun _ => ⟨_, recoveryPlan, {
        planned := rfl
        recovery := rfl
        action := haction
        task := htask
        attempt := hnext
        outputs := hids
        attempt_task := hnextTask
        advance := by
          intro plan hsome
          have hsome : ownerPlan = some plan := hsome
          rw [hsome] at hpreflight
          rw [preflightAdvance_eq hpreflight, hexpected, houtput]
          exact ⟨hattempt, hprevious next hnext, houtputs, ho⟩ }⟩
      validated := ⟨recoveryPlan, rfl, hplan⟩
      failed := by rintro ⟨⟩ }

theorem prepareProducer_spec {before : ObjectOwnerEntry ε}
    (h : prepareProducer args self o before spec preflightOwner = .ok prepared) :
    PreparedSpec self o prepared := by
  simp only [prepareProducer, bind_eq_ok] at h
  obtain ⟨snapshot, hsnapshot, h⟩ := h
  cases hlineage : snapshot.lineage with
  | none =>
    rw [hlineage] at h
    cases h
  | some lineage =>
    rw [hlineage] at h
    simp only [bind_eq_ok, validateGraphLineage_eq_ok, raiseIf_eq_ok, exists_const,
      not_not] at h
    obtain ⟨⟨-, hmem, hmanifest⟩, hspec, hagree, h⟩ := h
    cases hattempt : before.currentAttempt with
    | none =>
      rw [hattempt] at h
      cases h
    | some previous =>
      rw [hattempt] at h
      simp only [bind_eq_ok, raiseIf_eq_ok, mapError_eq_ok, exists_const] at h
      obtain ⟨states, -, -, inputs, -, recoveryPlan, hplan, h⟩ := h
      by_cases hjoin : recoveryPlan.decision.action = .joinReconstruction
      · rw [if_pos hjoin, pure_eq_ok] at h
        subst h
        exact .decision (by decide) hplan (by rintro ⟨⟩)
      rw [if_neg hjoin] at h
      by_cases hstart : recoveryPlan.decision.action = .startReconstruction
      · rw [if_neg (not_not_intro hstart)] at h
        refine prepareStart_spec ?_ hmem (fun next hnext => ?_) hplan hstart h
        · rw [hmanifest, hspec]
          rfl
        · exact next_of_validated (mapError_eq_ok.mp hsnapshot) (hagree.trans hattempt) hplan
            hstart hnext
      · rw [if_pos hstart, pure_eq_ok] at h
        subst h
        exact .decision (by decide) hplan fun _ => .inl ⟨hstart, hjoin⟩

theorem prepare_spec (h : prepare args self o preflightOwner = .ok prepared) :
    PreparedSpec self o prepared := by
  simp only [prepare, bind_eq_ok, raiseIf_eq_ok, exists_const] at h
  obtain ⟨before, hbefore, -, h⟩ := h
  cases hsession : self.sessions.get? o.taskId with
  | some session =>
    rw [hsession] at h
    simp only [prepareJoin, bind_eq_ok, raiseIf_eq_ok, mapError_eq_ok, pure_eq_ok,
      exists_const] at h
    obtain ⟨-, recoveryPlan, hplan, -, rfl⟩ := h
    exact .decision (by decide) hplan (by rintro ⟨⟩)
  | none =>
    rw [hsession] at h
    simp only [bind_eq_ok, raiseIf_eq_ok, exists_const] at h
    obtain ⟨-, h⟩ := h
    cases hspec : before.producerTaskSpec with
    | none =>
      rw [hspec] at h
      simp only [bind_eq_ok, mapError_eq_ok, pure_eq_ok] at h
      obtain ⟨recoveryPlan, hplan, rfl⟩ := h
      exact .decision (by decide) hplan fun _ =>
        .inr ⟨before, mapError_eq_ok.mp hbefore, hspec⟩
    | some spec =>
      rw [hspec] at h
      exact prepareProducer_spec h

/-! ## Commits -/

/-- What a commit does to the state, besides returning its outcome. -/
inductive Commits (self : ReconstructionCoordinator ε) (prepared : PreparedReconstruction) :
    Except ReconstructionError ReconstructionOutcome → ReconstructionCoordinator ε → Prop
  | raised (e : ReconstructionError) : Commits self prepared (.error e) self
  | joined (outcome : ReconstructionOutcome) (hjoin : outcome.disposition = .join)
      (hfresh : outcome.admission = none) : Commits self prepared (.ok outcome) self
  | failed (hfailed : prepared.outcome.disposition = .failed) (recovery : RecoveryManager)
      (hrecovery : recovery = self.recovery ∨ ∃ recoveryPlan,
        prepared.recoveryPlan = some recoveryPlan ∧
          self.recovery.commitTransition recoveryPlan = .ok (recoveryPlan.decision, recovery)) :
      Commits self prepared (.ok prepared.outcome) { self with recovery := recovery }
  | started (hstart : prepared.outcome.disposition = .start) (plan : ReconstructionPlan)
      (recoveryPlan : RecoveryTransitionPlan) (ownerPlan : TaskOutputAttemptAdvancePlan)
      (hplan : prepared.outcome.plan = some plan)
      (hrecoveryPlan : prepared.recoveryPlan = some recoveryPlan)
      (hownerPlan : prepared.ownerPlan = some ownerPlan)
      (hsession : self.sessions.get? plan.taskId = none)
      (hvalid : self.recovery.validateRequestReconstruction plan.requestedObjectId =
        .ok recoveryPlan)
      (owner : ObjectOwnerTable ε)
      (howner : self.owner.commitAdvanceTaskOutputs ownerPlan = .ok (true, owner))
      (recovery : RecoveryManager)
      (hrecovery : self.recovery.commitTransition recoveryPlan =
        .ok (recoveryPlan.decision, recovery)) :
      Commits self prepared (.ok prepared.outcome.committed) { self with
        owner := owner
        recovery := recovery
        sessions := self.sessions.set plan.taskId plan }

theorem commitStart_commits {plan : ReconstructionPlan} {ownerPlan : TaskOutputAttemptAdvancePlan}
    (hshaped : Shaped prepared) (hstart : prepared.outcome.disposition = .start)
    (hplan : prepared.outcome.plan = some plan)
    (hrecoveryPlan : prepared.recoveryPlan = some recoveryPlan)
    (hownerPlan : prepared.ownerPlan = some ownerPlan)
    (hsession : self.sessions.get? plan.taskId = none) :
    Commits self prepared (self.commitStart prepared.outcome plan recoveryPlan ownerPlan).1
      (self.commitStart prepared.outcome plan recoveryPlan ownerPlan).2 := by
  unfold commitStart
  cases hvalid : self.recovery.validateRequestReconstruction plan.requestedObjectId with
  | error e => exact .raised _
  | ok refreshed =>
    simp only []
    by_cases hsame : refreshed = recoveryPlan
    · rw [if_neg (not_not_intro hsame)]
      subst hsame
      cases howner : self.owner.commitAdvanceTaskOutputs ownerPlan with
      | error e => exact .raised _
      | ok result =>
        obtain ⟨advanced, owner⟩ := result
        cases advanced with
        | false => exact .raised _
        | true =>
          obtain ⟨recovery, hcommit⟩ := RecoveryManager.commit_of_validated hvalid
          simp only [hcommit]
          have hdecision := hshaped.decided _ hrecoveryPlan
          rw [if_neg (not_not_intro hdecision)]
          exact .started hstart plan _ ownerPlan hplan hrecoveryPlan hownerPlan hsession
            hvalid owner howner recovery hcommit
    · rw [if_pos hsame]
      exact .raised _

theorem commitPlanned_commits (hshaped : Shaped prepared)
    (hstart : prepared.outcome.disposition = .start) :
    Commits self prepared (self.commitPlanned prepared).1 (self.commitPlanned prepared).2 := by
  unfold commitPlanned
  cases hplan : prepared.outcome.plan with
  | none => exact .raised _
  | some plan =>
    cases hrecoveryPlan : prepared.recoveryPlan with
    | none => exact .raised _
    | some recoveryPlan =>
      cases hownerPlan : prepared.ownerPlan with
      | none => exact .raised _
      | some ownerPlan =>
        simp only []
        cases hsession : self.sessions.get? plan.taskId with
        | some existing =>
          simp only []
          by_cases hattempt : existing.attemptId = plan.attemptId
          · rw [if_pos hattempt]
            exact .joined _ rfl rfl
          · rw [if_neg hattempt]
            exact .raised _
        | none =>
          exact commitStart_commits hshaped hstart hplan hrecoveryPlan hownerPlan hsession

theorem commitJoin_commits (hshaped : Shaped prepared)
    (hjoin : prepared.outcome.disposition = .join) :
    Commits self prepared (self.commitJoin prepared.outcome).1
      (self.commitJoin prepared.outcome).2 := by
  unfold commitJoin
  cases prepared.outcome.decision.taskId with
  | none => exact .raised _
  | some taskId =>
    simp only []
    cases self.sessions.get? taskId with
    | none => exact .raised _
    | some active =>
      simp only []
      by_cases hsame : prepared.outcome.decision.outputIds ≠ active.outputIds ∨
          self.recovery.activeRecoveries.get? taskId ≠ prepared.outcome.decision.attemptId
      · rw [if_pos hsame]
        exact .raised _
      · rw [if_neg hsame]
        exact .joined _ hjoin hshaped.fresh.2

theorem commitFailed_commits (hshaped : Shaped prepared)
    (hfailed : prepared.outcome.disposition = .failed) :
    Commits self prepared (self.commitFailed prepared).1 (self.commitFailed prepared).2 := by
  unfold commitFailed
  cases hplan : prepared.recoveryPlan with
  | none => exact .failed hfailed self.recovery (.inl rfl)
  | some recoveryPlan =>
    simp only []
    cases hcommit : self.recovery.commitTransition recoveryPlan with
    | error e => exact .raised _
    | ok result =>
      obtain ⟨committed, recovery⟩ := result
      have hcommitted := (RecoveryManager.commitTransition_cases hcommit).1
      have hdecision := hshaped.decided _ hplan
      simp only []
      rw [if_neg (not_not_intro (hcommitted.trans hdecision))]
      rw [hcommitted] at hcommit
      exact .failed hfailed recovery (.inr ⟨recoveryPlan, hplan, hcommit⟩)

theorem commitPrepared_commits (hshaped : Shaped prepared) :
    Commits self prepared (self.commitPrepared prepared).1 (self.commitPrepared prepared).2 := by
  unfold commitPrepared
  cases hdisposition : prepared.outcome.disposition with
  | join => exact commitJoin_commits hshaped hdisposition
  | failed => exact commitFailed_commits hshaped hdisposition
  | start => exact commitPlanned_commits hshaped hdisposition

/-! ## Handoffs -/

/-- The session of an attempt that is marked active. -/
structure Current (c : ReconstructionCoordinator ε) (attempt : AttemptID)
    (session : ReconstructionPlan) : Prop where
  session : c.sessions.get? attempt.taskId = some session
  active : c.recovery.activeRecoveries.get? attempt.taskId = some attempt

variable {session : ReconstructionPlan}

theorem requireCurrentHandoffAttempt_spec {taskId : Option TaskID} {attempt : Option AttemptID}
    {a : AttemptID} (h : self.requireCurrentHandoffAttempt taskId attempt = .ok (a, session)) :
    taskId = some a.taskId ∧ attempt = some a ∧ Current self a session := by
  unfold requireCurrentHandoffAttempt at h
  cases taskId with
  | none => cases h
  | some t =>
    cases attempt with
    | none => cases h
    | some b =>
      simp only [] at h
      cases hsession : self.sessions.get? t with
      | none =>
        rw [hsession] at h
        cases h
      | some plan =>
        rw [hsession] at h
        simp only [bind_eq_ok, raiseIf_eq_ok, exists_const, not_or, not_not, pure_eq_ok,
          Prod.mk.injEq] at h
        obtain ⟨⟨htask, hactive⟩, _, -, _, -, -, rfl, rfl⟩ := h
        subst htask
        exact ⟨rfl, rfl, hsession, hactive⟩

/-- What a handoff does: nothing, or one attempt enters the queue. -/
inductive Hands (self : ReconstructionCoordinator ε) (outcome : ReconstructionOutcome) :
    Except ReconstructionError ReconstructionOutcome → ReconstructionCoordinator ε → Prop
  | raised (e : ReconstructionError) : Hands self outcome (.error e) self
  | known (attempt : AttemptID) (hattempt : outcome.decision.attemptId = some attempt)
      (hqueued : self.handoffs.get? attempt ≠ none) :
      Hands self outcome (.ok (receipted outcome)) self
  | queued (attempt : AttemptID) (session : ReconstructionPlan)
      (hattempt : outcome.decision.attemptId = some attempt)
      (hcurrent : Current self attempt session)
      (hnew : self.handoffs.get? attempt = none) :
      Hands self outcome (.ok (receipted outcome))
        (self.enqueued attempt session)

variable {outcome : ReconstructionOutcome} {attempt : AttemptID}

theorem acceptStart_hands {accepts : Bool} (hattempt : outcome.decision.attemptId = some attempt)
    (hcurrent : Current self attempt session) :
    Hands self outcome (self.acceptStart outcome attempt session accepts).1
      (self.acceptStart outcome attempt session accepts).2 := by
  unfold acceptStart
  by_cases haction : outcome.decision.action ≠ .startReconstruction ∨ outcome.plan ≠ some session
  · rw [if_pos haction]
    exact .raised _
  rw [if_neg haction]
  cases hknown : self.handoffs.get? attempt with
  | some outputs =>
    refine .known attempt hattempt ?_
    rw [hknown]
    exact Option.some_ne_none _
  | none =>
    cases accepts with
    | true => exact .queued attempt session hattempt hcurrent hknown
    | false => exact .raised _

theorem acceptJoin_hands (hattempt : outcome.decision.attemptId = some attempt) :
    Hands self outcome (self.acceptJoin outcome attempt session).1
      (self.acceptJoin outcome attempt session).2 := by
  unfold acceptJoin
  by_cases hjoin : outcome.disposition ≠ .join ∨
      outcome.decision.action ≠ .joinReconstruction ∨
        self.handoffs.get? attempt ≠ some session.outputIds
  · rw [if_pos hjoin]
    exact .raised _
  · rw [if_neg hjoin]
    simp only [not_or, not_not] at hjoin
    refine .known attempt hattempt ?_
    rw [hjoin.2.2]
    exact Option.some_ne_none _

theorem handoff_hands (accepts : Bool) :
    Hands self outcome (self.handoff outcome accepts).1 (self.handoff outcome accepts).2 := by
  unfold handoff
  by_cases hcommit : outcome.commit ≠ some outcome.identity
  · rw [if_pos hcommit]
    exact .raised _
  rw [if_neg hcommit]
  cases hrequire : self.requireCurrentHandoffAttempt outcome.decision.taskId
      outcome.decision.attemptId with
  | error e => exact .raised _
  | ok pair =>
    obtain ⟨attempt, session⟩ := pair
    obtain ⟨-, hattempt, hcurrent⟩ := requireCurrentHandoffAttempt_spec hrequire
    simp only []
    by_cases houtputs : outcome.decision.outputIds ≠ session.outputIds
    · rw [if_pos houtputs]
      exact .raised _
    rw [if_neg houtputs]
    by_cases hstart : outcome.disposition = .start
    · rw [if_pos hstart]
      exact acceptStart_hands hattempt hcurrent
    · rw [if_neg hstart]
      exact acceptJoin_hands hattempt

inductive Retries (self : ReconstructionCoordinator ε) (previous attempt : AttemptID) :
    Except ReconstructionError Bool → ReconstructionCoordinator ε → Prop
  | raised (e : ReconstructionError) : Retries self previous attempt (.error e) self
  | known : Retries self previous attempt (.ok false) self
  | queued (session : ReconstructionPlan) (hcurrent : Current self attempt session)
      (hnew : self.handoffs.get? attempt ≠ some session.outputIds) (hne : previous ≠ attempt)
      (htask : previous.taskId = attempt.taskId) :
      Retries self previous attempt (.ok true)
        { self.enqueued attempt session with
          handoffs := (self.enqueued attempt session).handoffs.erase previous }

theorem handoffRetry_retries (taskId : TaskID) (accepts : Bool) :
    Retries self previous attempt (self.handoffRetry taskId previous attempt accepts).1
      (self.handoffRetry taskId previous attempt accepts).2 := by
  unfold handoffRetry
  cases hrequire : self.requireCurrentHandoffAttempt (some taskId) (some attempt) with
  | error e => exact .raised _
  | ok pair =>
    obtain ⟨a, session⟩ := pair
    obtain ⟨htask, hattempt, hcurrent⟩ := requireCurrentHandoffAttempt_spec hrequire
    cases hattempt
    simp only []
    by_cases hidentity : previous.taskId ≠ taskId ∨
        attempt.attemptNumber ≠ previous.attemptNumber + 1
    · rw [if_pos hidentity]
      exact .raised _
    rw [if_neg hidentity]
    by_cases hknown : self.handoffs.get? attempt = some session.outputIds
    · rw [if_pos hknown]
      exact .known
    rw [if_neg hknown]
    by_cases hprevious : self.handoffs.get? previous = some session.outputIds
    · rw [if_neg (not_not_intro hprevious)]
      cases accepts with
      | true =>
        cases htask
        refine .queued session hcurrent hknown ?_ (not_not.mp (not_or.mp hidentity).1)
        intro hsame
        rw [hsame] at hprevious
        exact hknown hprevious
      | false => exact .raised _
    · rw [if_pos hprevious]
      exact .raised _

inductive Completes (self : ReconstructionCoordinator ε) (taskId : TaskID) (attempt : AttemptID) :
    Except ReconstructionError Bool → ReconstructionCoordinator ε → Prop
  | raised (e : ReconstructionError) : Completes self taskId attempt (.error e) self
  | open : Completes self taskId attempt (.ok false) self
  | closed (record : TaskRecord) (hrecord : self.recovery.tasks.get? taskId = some record)
      (hattempt : record.currentAttempt = attempt) :
      Completes self taskId attempt (.ok true) { self with
        sessions := self.sessions.erase taskId
        handoffs := self.handoffs.erase attempt }

theorem complete_completes {taskId : TaskID} :
    Completes self taskId attempt (self.complete taskId attempt).1
      (self.complete taskId attempt).2 := by
  unfold complete
  cases self.sessions.get? taskId with
  | none => exact .open
  | some session =>
    simp only []
    cases hrecord : self.recovery.taskRecord taskId with
    | error e => exact .raised _
    | ok record =>
      simp only []
      by_cases hopen : record.currentAttempt ≠ attempt ∨
          self.recovery.activeRecoveries.get? taskId ≠ none
      · rw [if_pos hopen]
        exact .open
      · rw [if_neg hopen]
        simp only [not_or, not_not] at hopen
        exact .closed record (RecoveryManager.taskRecord_eq_ok.mp hrecord) hopen.1

end ReconstructionCoordinator

end MiniRay
