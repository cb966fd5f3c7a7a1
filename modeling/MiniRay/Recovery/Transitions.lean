import MiniRay.Recovery.Manager

/-! What one call can do to one task. -/

namespace MiniRay

open Checked

/-- The active marker after attempt `a` ended. -/
def endActive (active : Option AttemptID) (a : AttemptID) : Option AttemptID :=
  if active = some a then none else active

/-- What a report about attempt `a` does to a record and its marker. -/
inductive Moves (r : TaskRecord) (active : Option AttemptID) (a : AttemptID) :
    RecoveryAction → TaskRecord → Option AttemptID → Prop
  | fenced (stale : a ≠ r.currentAttempt) : Moves r active a .fenceStaleAttempt r active
  | succeeded (current : a = r.currentAttempt)
      (live : r.state ≠ .applicationFailed ∧ r.state ≠ .systemFailed) :
      Moves r active a .acceptSuccess (r.settle .succeeded none) (endActive active a)
  | failed (current : a = r.currentAttempt)
      (live : r.state ≠ .systemFailed ∧ r.state ≠ .succeeded) (error : Option TaskFailure) :
      Moves r active a .failApplication (r.settle .applicationFailed error) (endActive active a)
  | exhausted (current : a = r.currentAttempt)
      (live : r.state ≠ .applicationFailed ∧ r.state ≠ .succeeded)
      (error : Option TaskFailure) :
      Moves r active a .failRetryExhausted (r.settle .systemFailed error) (endActive active a)
  | repeated (current : a = r.currentAttempt) (closed : r.state = .systemFailed) :
      Moves r active a .failRetryExhausted r (endActive active a)
  | retried (current : a = r.currentAttempt)
      (live : r.state ≠ .applicationFailed ∧ r.state ≠ .succeeded ∧ r.state ≠ .systemFailed)
      (error : Option TaskFailure) (h : r.retriesRemaining ≠ 0) :
      Moves r active a .retryTask (r.advance error h)
        (if active = some a then some r.currentAttempt.next else active)
  | targeted (current : a = r.currentAttempt) (marked : active = some a)
      (started : r.state = .retryPending) (error : Option TaskFailure) :
      Moves r active a .failReconstructionTargets (r.settle .succeeded error) none

inductive Requests (r : TaskRecord) (active : Option AttemptID) :
    RecoveryAction → TaskRecord → Option AttemptID → Prop
  | joined (a : AttemptID) (marked : active = some a) :
      Requests r active .joinReconstruction r active
  | started (idle : active = none) (succeeded : r.state = .succeeded)
      (error : Option TaskFailure) (h : r.retriesRemaining ≠ 0) :
      Requests r active .startReconstruction (r.advance error h) (some r.currentAttempt.next)
  | exhausted (idle : active = none) (succeeded : r.state = .succeeded)
      (error : Option TaskFailure) (h : r.retriesRemaining = 0) :
      Requests r active .failRetryExhausted (r.settle .systemFailed error) none
  | refused (idle : active = none) (action : RecoveryAction)
      (closed : r.state = .systemFailed ∧ action = .failRetryExhausted ∨
        r.state = .applicationFailed ∧ action = .failApplication) :
      Requests r active action r none

theorem Moves.taskId {r r' : TaskRecord} {active active' : Option AttemptID} {a : AttemptID}
    {action : RecoveryAction} (h : Moves r active a action r' active') : r'.taskId = r.taskId := by
  cases h <;> rfl

namespace RecoveryManager

variable {s s' : RecoveryManager}

@[simp] theorem withLineage_action (d : RecoveryDecision) :
    (s.withLineage d).action = d.action := by
  unfold withLineage
  split <;> rfl

@[simp] theorem withLineage_attemptId (d : RecoveryDecision) :
    (s.withLineage d).attemptId = d.attemptId := by
  unfold withLineage
  split <;> rfl

@[simp] theorem withLineage_taskId (d : RecoveryDecision) :
    (s.withLineage d).taskId = d.taskId := by
  unfold withLineage
  split <;> rfl

theorem taskRecord_eq_ok {t : TaskID} {r : TaskRecord} :
    s.taskRecord t = .ok r ↔ s.tasks.get? t = some r := by
  unfold taskRecord
  split <;> simp [*]

theorem subscript_eq_ok {ν : Type} {d : Dict TaskID ν} {t : TaskID} {v : ν} :
    subscript d t = .ok v ↔ d.get? t = some v := by
  unfold subscript
  split <;> simp [*]

/-- Records are filed under their own task. -/
def Filed (s : RecoveryManager) : Prop := ∀ t r, s.tasks.get? t = some r → r.taskId = t

/-- A plan for one task: what it was validated against, and what it installs. -/
structure Plans (s : RecoveryManager) (t : TaskID) (r r' : TaskRecord)
    (active' : Option AttemptID) (plan : RecoveryTransitionPlan) : Prop where
  known : s.tasks.get? t = some r
  scope : plan.scope = some ⟨t, r, r'⟩
  before : plan.activeBefore = s.activeRecoveries.get? t
  after : plan.activeAfter = active'
  task : plan.decision.taskId = some t

end RecoveryManager

namespace TaskRecord

variable {r r' : TaskRecord} {a : AttemptID} {d : RecoveryDecision}

theorem isCurrent_eq_ok {b : Bool} :
    r.isCurrent a = .ok b ↔ a.taskId = r.taskId ∧ decide (a = r.currentAttempt) = b := by
  simp [isCurrent]

def Names (d : RecoveryDecision) (r' : TaskRecord) : Prop :=
  d.taskId = some r'.taskId ∧ (d.action = .retryTask → d.attemptId = some r'.currentAttempt)

variable {error : Option TaskFailure}

theorem advanceOrExhaust_cases {reason : String} :
    (r.retriesRemaining = 0 ∧ r.advanceOrExhaust error reason =
        (r.retryExhausted error, r.settle .systemFailed error)) ∨
      ∃ h : r.retriesRemaining ≠ 0, r.advanceOrExhaust error reason =
        (.about .retryTask r.currentAttempt.next (some .system) error
          ("retry admitted after " ++ reason), r.advance error h) := by
  by_cases h : r.retriesRemaining = 0
  · exact .inl ⟨h, by simp [advanceOrExhaust, h]⟩
  · exact .inr ⟨h, by simp [advanceOrExhaust, h]⟩

theorem recordSuccess_moves (h : r.recordSuccess a = .ok (d, r')) (active : Option AttemptID) :
    a.taskId = r.taskId ∧ Names d r' ∧ Moves r active a d.action r'
      (if d.action = .acceptSuccess then endActive active a else active) := by
  simp only [recordSuccess, bind_eq_ok, isCurrent_eq_ok] at h
  obtain ⟨current, ⟨htask, rfl⟩, h⟩ := h
  by_cases hcurrent : a = r.currentAttempt
  · simp only [hcurrent, decide_true, not_true_eq_false, if_false, bind_eq_ok, raiseIf_eq_ok,
      pure_eq_ok, Prod.mk.injEq] at h
    obtain ⟨_, hlive, rfl, rfl⟩ := h
    push Not at hlive
    refine ⟨htask, ⟨?_, by rintro ⟨⟩⟩, ?_⟩
    · exact congrArg some (hcurrent ▸ htask)
    · exact .succeeded hcurrent hlive
  · simp only [hcurrent, decide_false, Bool.false_eq_true, not_false_eq_true, if_true,
      pure_eq_ok, Prod.mk.injEq] at h
    obtain ⟨rfl, rfl⟩ := h
    exact ⟨htask, ⟨congrArg some htask, by rintro ⟨⟩⟩, .fenced hcurrent⟩

def failureActive (active : Option AttemptID) (a : AttemptID) (d : RecoveryDecision) :
    Option AttemptID :=
  if d.action = .retryTask then if active = some a then d.attemptId else active
  else if d.action = .failApplication ∨ d.action = .failRetryExhausted then endActive active a
  else active

theorem recordFailure_moves {failure : TaskFailure}
    (h : r.recordFailure a failure error = .ok (d, r')) (active : Option AttemptID) :
    a.taskId = r.taskId ∧ Names d r' ∧ Moves r active a d.action r' (failureActive active a d) := by
  simp only [recordFailure, bind_eq_ok, isCurrent_eq_ok] at h
  obtain ⟨current, ⟨htask, rfl⟩, h⟩ := h
  by_cases hcurrent : a = r.currentAttempt
  · simp only [hcurrent, decide_true, not_true_eq_false, if_false, bind_eq_ok] at h
    refine ⟨htask, ?_⟩
    rw [hcurrent] at htask
    obtain ⟨kind, _, h⟩ := h
    cases kind with
    | application =>
      simp only [bind_eq_ok, raiseIf_eq_ok, pure_eq_ok, Prod.mk.injEq] at h
      obtain ⟨_, hsystem, _, hsucceeded, rfl, rfl⟩ := h
      exact ⟨⟨congrArg some htask, by rintro ⟨⟩⟩, .failed hcurrent ⟨hsystem, hsucceeded⟩ _⟩
    | system =>
      simp only [bind_eq_ok, raiseIf_eq_ok] at h
      obtain ⟨_, happlication, _, hsucceeded, h⟩ := h
      by_cases hsystem : r.state = .systemFailed
      · simp only [hsystem, if_true, pure_eq_ok, Prod.mk.injEq] at h
        obtain ⟨rfl, rfl⟩ := h
        exact ⟨⟨congrArg some htask, by rintro ⟨⟩⟩, .repeated hcurrent hsystem⟩
      · simp only [hsystem, if_false, pure_eq_ok] at h
        rcases advanceOrExhaust_cases with ⟨_, hresult⟩ | ⟨hleft, hresult⟩
        · rw [hresult, Prod.mk.injEq] at h
          obtain ⟨rfl, rfl⟩ := h
          exact ⟨⟨congrArg some htask, by rintro ⟨⟩⟩,
            .exhausted hcurrent ⟨happlication, hsucceeded⟩ _⟩
        · rw [hresult, Prod.mk.injEq] at h
          obtain ⟨rfl, rfl⟩ := h
          exact ⟨⟨congrArg some htask, fun _ => rfl⟩,
            .retried hcurrent ⟨happlication, hsucceeded, hsystem⟩ _ hleft⟩
  · simp only [hcurrent, decide_false, Bool.false_eq_true, not_false_eq_true, if_true,
      pure_eq_ok, Prod.mk.injEq] at h
    obtain ⟨rfl, rfl⟩ := h
    exact ⟨htask, ⟨congrArg some htask, by rintro ⟨⟩⟩, .fenced hcurrent⟩

theorem beginReconstruction_cases (h : r.beginReconstruction = .ok (d, r')) :
    ((r.state = .systemFailed ∧ d.action = .failRetryExhausted ∨
        r.state = .applicationFailed ∧ d.action = .failApplication) ∧ r' = r) ∨
      (r.state = .succeeded ∧ r.retriesRemaining = 0 ∧ d.action = .failRetryExhausted ∧
        ∃ error, r' = r.settle .systemFailed error) ∨
      (r.state = .succeeded ∧ d.action = .retryTask ∧ d.attemptId = some r'.currentAttempt ∧
        ∃ h error, r' = r.advance error h) := by
  unfold beginReconstruction at h
  cases hs : r.state with
  | systemFailed =>
    simp only [hs, Except.ok.injEq, Prod.mk.injEq] at h
    obtain ⟨rfl, rfl⟩ := h
    exact .inl ⟨.inl ⟨rfl, rfl⟩, rfl⟩
  | applicationFailed =>
    simp only [hs, Except.ok.injEq, Prod.mk.injEq] at h
    obtain ⟨rfl, rfl⟩ := h
    exact .inl ⟨.inr ⟨rfl, rfl⟩, rfl⟩
  | succeeded =>
    simp only [hs, Except.ok.injEq] at h
    right
    rcases advanceOrExhaust_cases with ⟨hnone, hresult⟩ | ⟨hleft, hresult⟩
    · rw [hresult, Prod.mk.injEq] at h
      obtain ⟨rfl, rfl⟩ := h
      exact .inl ⟨rfl, hnone, rfl, _, rfl⟩
    · rw [hresult, Prod.mk.injEq] at h
      obtain ⟨rfl, rfl⟩ := h
      exact .inr ⟨rfl, rfl, rfl, hleft, _, rfl⟩
  | _ => simp [hs] at h

end TaskRecord

namespace RecoveryManager

variable {s s' : RecoveryManager}

open TaskRecord

variable {a : AttemptID} {plan : RecoveryTransitionPlan}

theorem validateReport_moves {t : TaskID} {report : Report} (hkey : s.Filed)
    (h : s.validateReport t a report = .ok plan) :
    ∃ r r' active', Plans s t r r' active' plan ∧ a.taskId = t ∧
      (plan.decision.action = .retryTask → plan.decision.attemptId = some r'.currentAttempt) ∧
      Moves r (s.activeRecoveries.get? t) a plan.decision.action r' active' := by
  cases report with
  | success =>
    simp only [validateReport, validateTaskSuccess, bind_eq_ok, taskRecord_eq_ok, pure_eq_ok] at h
    obtain ⟨r, hr, ⟨d, r'⟩, hsuccess, rfl⟩ := h
    obtain ⟨htask, hnames, hmoves⟩ := recordSuccess_moves hsuccess (s.activeRecoveries.get? t)
    have hr' : r'.taskId = t := hmoves.taskId.trans (hkey t r hr)
    refine ⟨r, r', _, ⟨hr, rfl, rfl, rfl, ?_⟩, htask.trans (hkey t r hr), ?_, ?_⟩
    · simpa [planFor, hr'] using hnames.1
    · simpa [planFor] using hnames.2
    · simp only [planFor, withLineage_action]
      exact hmoves
  | failure failure error =>
    simp only [validateReport, validateTaskFailure, bind_eq_ok, taskRecord_eq_ok, pure_eq_ok] at h
    obtain ⟨r, hr, ⟨d, r'⟩, hfailure, rfl⟩ := h
    obtain ⟨htask, hnames, hmoves⟩ := recordFailure_moves hfailure (s.activeRecoveries.get? t)
    have hr' : r'.taskId = t := hmoves.taskId.trans (hkey t r hr)
    refine ⟨r, r', _, ⟨hr, rfl, rfl, rfl, ?_⟩, htask.trans (hkey t r hr), ?_, ?_⟩
    · simpa [planFor, hr'] using hnames.1
    · simpa [planFor] using hnames.2
    · simp only [planFor, withLineage_action]
      exact hmoves
  | terminalSystemFailure error =>
    simp only [validateReport, validateTerminalSystemFailure, bind_eq_ok, taskRecord_eq_ok,
      isCurrent_eq_ok] at h
    obtain ⟨r, hr, current, ⟨htask, rfl⟩, h⟩ := h
    have ha : a.taskId = t := htask.trans (hkey t r hr)
    by_cases hcurrent : a = r.currentAttempt
    · simp only [hcurrent, decide_true, not_true_eq_false, if_false, bind_eq_ok, raiseIf_eq_ok,
        pure_eq_ok] at h
      obtain ⟨_, hsucceeded, _, happlication, rfl⟩ := h
      rw [hcurrent] at ha
      refine ⟨r, _, _, ⟨hr, rfl, rfl, rfl, ?_⟩, hcurrent ▸ ha, ?_, ?_⟩
      · simpa [planFor, RecoveryDecision.about] using ha
      · simp [planFor, RecoveryDecision.about]
      · simp only [planFor, withLineage_action, hcurrent]
        exact .exhausted rfl ⟨happlication, hsucceeded⟩ error
    · simp only [hcurrent, decide_false, Bool.false_eq_true, not_false_eq_true, if_true,
        pure_eq_ok] at h
      subst h
      refine ⟨r, r, _, ⟨hr, rfl, rfl, rfl, ?_⟩, ha, ?_, ?_⟩
      · simpa [planFor, fenced, RecoveryDecision.about] using ha
      · simp [planFor, fenced, RecoveryDecision.about]
      · simp only [planFor, withLineage_action]
        exact .fenced hcurrent
  | terminalReconstructionFailure error =>
    simp only [validateReport, validateTerminalReconstructionFailure, bind_eq_ok,
      taskRecord_eq_ok, isCurrent_eq_ok] at h
    obtain ⟨r, hr, current, ⟨htask, rfl⟩, h⟩ := h
    have ha : a.taskId = t := htask.trans (hkey t r hr)
    by_cases hcurrent : a = r.currentAttempt
    · simp only [hcurrent, decide_true, not_true_eq_false, if_false, bind_eq_ok, raiseIf_eq_ok,
        pure_eq_ok] at h
      obtain ⟨_, hopen, rfl⟩ := h
      push Not at hopen
      rw [hcurrent] at ha
      refine ⟨r, _, _, ⟨hr, rfl, rfl, rfl, ?_⟩, hcurrent ▸ ha, ?_, ?_⟩
      · simpa [planFor, RecoveryDecision.about] using ha
      · simp [planFor, RecoveryDecision.about]
      · simp only [planFor, withLineage_action, hcurrent]
        exact .targeted rfl hopen.1 hopen.2 error
    · simp only [hcurrent, decide_false, Bool.false_eq_true, not_false_eq_true, if_true,
        pure_eq_ok] at h
      subst h
      refine ⟨r, r, _, ⟨hr, rfl, rfl, rfl, ?_⟩, ha, ?_, ?_⟩
      · simpa [planFor, fenced, RecoveryDecision.about] using ha
      · simp [planFor, fenced, RecoveryDecision.about]
      · simp only [planFor, withLineage_action]
        exact .fenced hcurrent

variable {o : ObjectID}

theorem validateRequestReconstruction_cases (h : s.validateRequestReconstruction o = .ok plan) :
    (s.objectProducers.get? o = none ∧ plan.scope = none ∧
        plan.decision.action = .unreconstructableObject) ∨
      ∃ t l r r' active', s.objectProducers.get? o = some t ∧ s.lineages.get? t = some l ∧
        Plans s t r r' active' plan ∧
        (plan.decision.action = .startReconstruction →
          plan.decision.attemptId = some r'.currentAttempt) ∧
        Requests r (s.activeRecoveries.get? t) plan.decision.action r' active' := by
  cases ht : s.objectProducers.get? o with
  | none =>
    simp only [validateRequestReconstruction, ht, Except.ok.injEq] at h
    subst h
    exact .inl ⟨rfl, rfl, rfl⟩
  | some t =>
    right
    simp only [validateRequestReconstruction, ht, bind_eq_ok, subscript_eq_ok] at h
    obtain ⟨l, hl, r, hr, h⟩ := h
    cases hactive : s.activeRecoveries.get? t with
    | some active =>
      simp only [hactive, pure_eq_ok] at h
      subst h
      refine ⟨t, l, r, r, some active, rfl, hl, ⟨hr, rfl, hactive.symm, rfl, rfl⟩, by rintro ⟨⟩, ?_⟩
      rw [hactive]
      exact .joined active rfl
    | none =>
      simp only [hactive, bind_eq_ok] at h
      obtain ⟨⟨retry, after⟩, hbegin, h⟩ := h
      have hplans : ∀ action active' plan, plan.scope = some ⟨t, r, after⟩ →
          plan.activeBefore = none → plan.activeAfter = active' →
          plan.decision.taskId = some t → plan.decision.action = action →
          (action = .startReconstruction →
            plan.decision.attemptId = some after.currentAttempt) →
          Requests r none action after active' →
          ∃ t' l r r' active', some t = some t' ∧ s.lineages.get? t' = some l ∧
            Plans s t' r r' active' plan ∧
            (plan.decision.action = .startReconstruction →
              plan.decision.attemptId = some r'.currentAttempt) ∧
            Requests r (s.activeRecoveries.get? t') plan.decision.action r' active' := by
        rintro action active' plan hscope hbefore hafter htask rfl hattempt hrequests
        exact ⟨t, l, r, after, active', rfl, hl,
          ⟨hr, hscope, hbefore.trans hactive.symm, hafter, htask⟩, hattempt,
          hactive.symm ▸ hrequests⟩
      rcases beginReconstruction_cases hbegin with
        ⟨hclosed, rfl⟩ | ⟨hsucceeded, hnone, haction, error, rfl⟩ |
          ⟨hsucceeded, haction, hattempt, hleft, error, rfl⟩
      · have hother : retry.action ≠ .retryTask ∧ retry.action ≠ .startReconstruction := by
          rcases hclosed with ⟨_, haction⟩ | ⟨_, haction⟩ <;> simp [haction]
        simp only [hother.1, ne_eq, not_false_eq_true, if_true, pure_eq_ok] at h
        subst h
        exact hplans retry.action none _ rfl rfl rfl rfl rfl
          (fun hstart => absurd hstart hother.2) (.refused rfl _ hclosed)
      · simp only [haction, ne_eq, reduceCtorEq, not_false_eq_true, if_true, pure_eq_ok] at h
        subst h
        exact hplans .failRetryExhausted none _ rfl rfl rfl rfl rfl (by rintro ⟨⟩)
          (.exhausted rfl hsucceeded error hnone)
      · simp only [haction, ne_eq, not_true_eq_false, if_false, pure_eq_ok] at h
        subst h
        exact hplans .startReconstruction _ _ rfl rfl hattempt rfl rfl (fun _ => hattempt)
          (.started rfl hsucceeded error hleft)

/-! ## One call and one task -/

/-- One task gets another record and marker, and nothing else changes. -/
structure Installs (s s' : RecoveryManager) (k : TaskID) (r' : TaskRecord)
    (active' : Option AttemptID) : Prop where
  lineages : s'.lineages = s.lineages
  tasks : ∀ t, s'.tasks.get? t = if k = t then some r' else s.tasks.get? t
  active : ∀ t, s'.activeRecoveries.get? t = if k = t then active' else s.activeRecoveries.get? t

theorem commitTransition_cases {d : RecoveryDecision} (h : s.commitTransition plan = .ok (d, s')) :
    d = plan.decision ∧ ((plan.scope = none ∧ s' = s) ∨ ∃ scope, plan.scope = some scope ∧
      Installs s s' scope.taskId scope.after plan.activeAfter) := by
  unfold commitTransition at h
  cases hscope : plan.scope with
  | none =>
    simp only [hscope, Except.ok.injEq, Prod.mk.injEq] at h
    exact ⟨h.1.symm, .inl ⟨rfl, h.2.symm⟩⟩
  | some scope =>
    simp only [hscope, bind_eq_ok, pure_eq_ok, Prod.mk.injEq] at h
    obtain ⟨_, _, rfl, rfl⟩ := h
    refine ⟨rfl, .inr ⟨scope, rfl, rfl, fun t => Dict.get?_set _ _ _ _, ?_⟩⟩
    intro t
    cases plan.activeAfter with
    | none => exact Dict.get?_erase _ _ _
    | some active => exact Dict.get?_set _ _ _ _

variable {k : TaskID} {reply : Reply}

theorem report_cases (hkey : s.Filed) {report : Report}
    (h : s.call (.report k a report) = .ok (reply, s')) :
    ∃ d r r' active', reply = .decision d ∧ s.tasks.get? k = some r ∧ a.taskId = k ∧
      d.taskId = some k ∧ (d.action = .retryTask → d.attemptId = some r'.currentAttempt) ∧
      Moves r (s.activeRecoveries.get? k) a d.action r' active' ∧ Installs s s' k r' active' := by
  simp only [call, bind_eq_ok, pure_eq_ok, Prod.mk.injEq] at h
  obtain ⟨plan, hplan, ⟨d, after⟩, hcommit, rfl, rfl⟩ := h
  obtain ⟨r, r', active', hplans, hown, hnames, hmoves⟩ := validateReport_moves hkey hplan
  obtain ⟨rfl, hnone | ⟨scope, hscope, hinstalls⟩⟩ := commitTransition_cases hcommit
  · rw [hplans.scope] at hnone
    cases hnone.1
  · rw [hplans.scope, Option.some.injEq] at hscope
    subst hscope
    exact ⟨_, r, r', active', rfl, hplans.known, hown, hplans.task, hnames, hmoves,
      hplans.after ▸ hinstalls⟩

theorem request_cases (h : s.call (.requestReconstruction o) = .ok (reply, s')) :
    ∃ d, reply = .decision d ∧ ((s' = s ∧ d.action = .unreconstructableObject) ∨
      ∃ k r r' active', s.tasks.get? k = some r ∧ d.taskId = some k ∧
        (d.action = .startReconstruction → d.attemptId = some r'.currentAttempt) ∧
        Requests r (s.activeRecoveries.get? k) d.action r' active' ∧
        Installs s s' k r' active') := by
  simp only [call, bind_eq_ok, pure_eq_ok, Prod.mk.injEq] at h
  obtain ⟨plan, hplan, ⟨d, after⟩, hcommit, rfl, rfl⟩ := h
  obtain ⟨rfl, hdone⟩ := commitTransition_cases hcommit
  refine ⟨_, rfl, ?_⟩
  rcases validateRequestReconstruction_cases hplan with
    ⟨_, hnone, haction⟩ | ⟨k, l, r, r', active', _, _, hplans, hnames, hrequests⟩
  · rcases hdone with ⟨_, rfl⟩ | ⟨scope, hscope, _⟩
    · exact .inl ⟨rfl, haction⟩
    · rw [hnone] at hscope
      cases hscope
  · rcases hdone with ⟨hnone, _⟩ | ⟨scope, hscope, hinstalls⟩
    · rw [hplans.scope] at hnone
      cases hnone
    · rw [hplans.scope, Option.some.injEq] at hscope
      subst hscope
      exact .inr ⟨k, r, r', active', hplans.known, hplans.task, hnames, hrequests,
        hplans.after ▸ hinstalls⟩

inductive TaskStep (s s' : RecoveryManager) (op : Op) (t : TaskID) : Prop
  | same (tasks : s'.tasks.get? t = s.tasks.get? t)
      (lineages : s'.lineages.get? t = s.lineages.get? t)
      (active : s'.activeRecoveries.get? t = s.activeRecoveries.get? t)
  | born (spec : TaskSpec) (outputs : List ObjectID) (n : Nat) (new : s.lineages.get? t = none)
      (own : spec.taskId = t) (tasks : s'.tasks.get? t = some (.initial spec n))
      (lineages : s'.lineages.get? t = some ⟨t, spec, outputs⟩)
      (active : s'.activeRecoveries.get? t = s.activeRecoveries.get? t)
  | gone (tasks : s'.tasks.get? t = none) (lineages : s'.lineages.get? t = none)
      (active : s'.activeRecoveries.get? t = none)
  | ran (r : TaskRecord) (known : s.tasks.get? t = some r)
      (live : r.state ≠ .applicationFailed ∧ r.state ≠ .systemFailed ∧ r.state ≠ .succeeded)
      (tasks : s'.tasks.get? t = some { r with state := .running })
      (lineages : s'.lineages.get? t = s.lineages.get? t)
      (active : s'.activeRecoveries.get? t = s.activeRecoveries.get? t)
  | reported (r r' : TaskRecord) (a : AttemptID) (report : Report) (isOp : op = .report t a report)
      (d : RecoveryDecision) (active' : Option AttemptID) (known : s.tasks.get? t = some r)
      (result : s.call op = .ok (.decision d, s')) (own : a.taskId = t ∧ d.taskId = some t)
      (names : d.action = .retryTask → d.attemptId = some r'.currentAttempt)
      (moves : Moves r (s.activeRecoveries.get? t) a d.action r' active')
      (tasks : s'.tasks.get? t = some r') (lineages : s'.lineages.get? t = s.lineages.get? t)
      (active : s'.activeRecoveries.get? t = active')
  | requested (r r' : TaskRecord) (o : ObjectID) (isOp : op = .requestReconstruction o)
      (d : RecoveryDecision) (active' : Option AttemptID) (known : s.tasks.get? t = some r)
      (result : s.call op = .ok (.decision d, s')) (own : d.taskId = some t)
      (names : d.action = .startReconstruction → d.attemptId = some r'.currentAttempt)
      (requests : Requests r (s.activeRecoveries.get? t) d.action r' active')
      (tasks : s'.tasks.get? t = some r') (lineages : s'.lineages.get? t = s.lineages.get? t)
      (active : s'.activeRecoveries.get? t = active')

variable {outputIds : Option (List ObjectID)}

theorem TaskStep.registerTask {spec : TaskSpec} {maxRetries : Int} {record : TaskRecord}
    (h : s.registerTask spec outputIds maxRetries = .ok (record, s')) (t : TaskID) :
    TaskStep s s' (.registerTask spec outputIds maxRetries) t := by
  simp only [RecoveryManager.registerTask, bind_eq_ok] at h
  obtain ⟨forecast, hforecast, h⟩ := h
  cases forecast with
  | known record' =>
    simp only [pure_eq_ok, Prod.mk.injEq] at h
    obtain ⟨_, rfl⟩ := h
    exact .same rfl rfl rfl
  | fresh outputs n =>
    simp only [pure_eq_ok, Prod.mk.injEq] at h
    obtain ⟨_, rfl⟩ := h
    by_cases ht : spec.taskId = t
    · have hnew : s.lineages.get? spec.taskId = none := by
        simp only [validateRegisterTask, bind_eq_ok] at hforecast
        obtain ⟨_, _, _, _, hforecast⟩ := hforecast
        cases hl : s.lineages.get? spec.taskId with
        | none => rfl
        | some old =>
          simp only [hl] at hforecast
          cases hr : s.tasks.get? spec.taskId <;> simp [hr] at hforecast
      subst ht
      exact .born spec outputs n hnew rfl (Dict.get?_set_self _ _ _) (Dict.get?_set_self _ _ _)
        rfl
    · exact .same (Dict.get?_set_of_ne _ _ ht) (Dict.get?_set_of_ne _ _ ht) rfl

theorem TaskStep.abortRegisteredTask {spec : TaskSpec} {maxRetries : Int} {b : Bool}
    (h : s.abortRegisteredTask spec outputIds maxRetries = .ok (b, s')) (t : TaskID) :
    TaskStep s s' (.abortRegisteredTask spec outputIds maxRetries) t := by
  simp only [RecoveryManager.abortRegisteredTask, bind_eq_ok] at h
  obtain ⟨outputs, _, h⟩ := h
  cases hl : s.lineages.get? spec.taskId with
  | none =>
    simp only [hl, pure_eq_ok, Prod.mk.injEq] at h
    obtain ⟨_, rfl⟩ := h
    exact .same rfl rfl rfl
  | some lineage =>
    cases hr : s.tasks.get? spec.taskId with
    | none => simp [hl, hr] at h
    | some record =>
      simp only [hl, hr, bind_eq_ok, raiseIf_eq_ok, not_not, pure_eq_ok, Prod.mk.injEq] at h
      obtain ⟨_, habortable, _, rfl⟩ := h
      obtain ⟨_, _, _, _, _, _, _, hidle, _⟩ := habortable
      by_cases ht : spec.taskId = t
      · subst ht
        exact .gone (Dict.get?_erase_self _ _) (Dict.get?_erase_self _ _) hidle
      · exact .same (Dict.get?_erase_of_ne _ ht) (Dict.get?_erase_of_ne _ ht) rfl

theorem TaskStep.markRunning {b : Bool} (h : s.markRunning k a = .ok (b, s')) (t : TaskID) :
    TaskStep s s' (.markRunning k a) t := by
  simp only [RecoveryManager.markRunning, bind_eq_ok, taskRecord_eq_ok, pure_eq_ok,
    Prod.mk.injEq] at h
  obtain ⟨r, hr, ⟨running, r'⟩, hmark, _, rfl⟩ := h
  by_cases ht : k = t
  swap
  · exact .same (Dict.get?_set_of_ne _ _ ht) rfl rfl
  subst ht
  simp only [TaskRecord.markRunning, bind_eq_ok, TaskRecord.isCurrent_eq_ok] at hmark
  obtain ⟨current, ⟨_, rfl⟩, hmark⟩ := hmark
  by_cases hcurrent : a = r.currentAttempt
  · simp only [hcurrent, decide_true, not_true_eq_false, if_false, bind_eq_ok, raiseIf_eq_ok,
      pure_eq_ok, Prod.mk.injEq] at hmark
    obtain ⟨_, hlive, _, hsucceeded, _, rfl⟩ := hmark
    push Not at hlive
    exact .ran r hr ⟨hlive.1, hlive.2, hsucceeded⟩ (Dict.get?_set_self _ _ _) rfl rfl
  · simp only [hcurrent, decide_false, Bool.false_eq_true, not_false_eq_true, if_true,
      pure_eq_ok, Prod.mk.injEq] at hmark
    obtain ⟨_, rfl⟩ := hmark
    exact .same ((Dict.get?_set_self _ _ _).trans hr.symm) rfl rfl

variable {expectedTaskSpec : Option TaskSpec} {expectedAttempt : Option AttemptID}

theorem validateForgetCollectedObject_task {plan : CollectedObjectForgetPlan} {removeTask : Bool}
    {active : Option AttemptID}
    (h : s.validateForgetCollectedObject o expectedTaskSpec expectedAttempt = .ok plan)
    (hkind : plan.kind = .task k removeTask active) : active = s.activeRecoveries.get? k := by
  unfold validateForgetCollectedObject at h
  by_cases hput : o ∈ s.putObjects
  · simp only [hput, if_true, bind_eq_ok, pure_eq_ok] at h
    obtain ⟨_, _, rfl⟩ := h
    cases hkind
  · cases hproducer : s.objectProducers.get? o with
    | none =>
      simp only [hput, hproducer, if_false, Except.ok.injEq] at h
      subst h
      cases hkind
    | some t =>
      simp only [hput, hproducer, if_false, bind_eq_ok, pure_eq_ok] at h
      obtain ⟨_, _, _, _, _, _, rfl⟩ := h
      cases hkind
      rfl

theorem TaskStep.forgetCollectedObject {plan : CollectedObjectForgetPlan}
    (h : s.validateForgetCollectedObject o expectedTaskSpec expectedAttempt = .ok plan)
      (t : TaskID) :
    TaskStep s (s.commitForgetCollectedObject plan).2
      (.forgetCollectedObject o expectedTaskSpec expectedAttempt) t := by
  cases hkind : plan.kind with
  | none =>
    simp only [commitForgetCollectedObject, hkind]
    exact .same rfl rfl rfl
  | put =>
    simp only [commitForgetCollectedObject, hkind]
    exact .same rfl rfl rfl
  | task k removeTask active =>
    have hactive := validateForgetCollectedObject_task h hkind
    simp only [commitForgetCollectedObject, hkind]
    cases removeTask with
    | false =>
      simp only [Bool.and_false, Bool.false_eq_true, if_false]
      exact .same rfl rfl rfl
    | true =>
      simp only [Bool.and_true, if_true]
      by_cases ht : k = t
      · subst ht
        refine .gone (Dict.get?_erase_self _ _) (Dict.get?_erase_self _ _) ?_
        cases hs : s.activeRecoveries.get? k <;> simp [hactive, hs]
      · refine .same (Dict.get?_erase_of_ne _ ht) (Dict.get?_erase_of_ne _ ht) ?_
        cases active with
        | none => rfl
        | some a => exact Dict.get?_erase_of_ne _ ht

theorem TaskStep.report (hkey : s.Filed) {report : Report}
    (h : s.call (.report k a report) = .ok (reply, s')) (t : TaskID) :
    TaskStep s s' (.report k a report) t := by
  obtain ⟨d, r, r', active', rfl, hr, hown, htask, hnames, hmoves, hinstalls⟩ :=
    report_cases hkey h
  have htasks := hinstalls.tasks t
  have hactive := hinstalls.active t
  by_cases ht : k = t
  · subst ht
    rw [if_pos rfl] at htasks hactive
    exact .reported r r' a report rfl d active' hr h ⟨hown, htask⟩ hnames hmoves htasks
      (by rw [hinstalls.lineages]) hactive
  · rw [if_neg ht] at htasks hactive
    exact .same htasks (by rw [hinstalls.lineages]) hactive

theorem TaskStep.requestReconstruction (h : s.call (.requestReconstruction o) = .ok (reply, s'))
    (t : TaskID) : TaskStep s s' (.requestReconstruction o) t := by
  obtain ⟨d, rfl, ⟨rfl, _⟩ | ⟨k, r, r', active', hr, htask, hnames, hrequests, hinstalls⟩⟩ :=
    request_cases h
  · exact .same rfl rfl rfl
  have htasks := hinstalls.tasks t
  have hactive := hinstalls.active t
  by_cases ht : k = t
  · subst ht
    rw [if_pos rfl] at htasks hactive
    exact .requested r r' o rfl d active' hr h htask hnames hrequests htasks
      (by rw [hinstalls.lineages]) hactive
  · rw [if_neg ht] at htasks hactive
    exact .same htasks (by rw [hinstalls.lineages]) hactive

theorem TaskStep.call (hkey : s.Filed) {op : Op} (h : s.call op = .ok (reply, s')) (t : TaskID) :
    TaskStep s s' op t := by
  cases op with
  | report k a report => exact .report hkey h t
  | requestReconstruction o => exact .requestReconstruction h t
  | registerPut o =>
    simp only [RecoveryManager.call, registerPut, bind_eq_ok, pure_eq_ok, Prod.mk.injEq] at h
    obtain ⟨⟨b, after⟩, ⟨_, _, h⟩, _, rfl⟩ := h
    by_cases hput : o ∈ s.putObjects
    · simp only [hput, if_true, pure_eq_ok, Prod.mk.injEq] at h
      obtain ⟨_, rfl⟩ := h
      exact .same rfl rfl rfl
    · simp only [hput, if_false, pure_eq_ok, Prod.mk.injEq] at h
      obtain ⟨_, rfl⟩ := h
      exact .same rfl rfl rfl
  | registerTask spec outputIds maxRetries =>
    simp only [RecoveryManager.call, bind_eq_ok, pure_eq_ok, Prod.mk.injEq] at h
    obtain ⟨⟨record, after⟩, h, _, rfl⟩ := h
    exact .registerTask h t
  | abortRegisteredTask spec outputIds maxRetries =>
    simp only [RecoveryManager.call, bind_eq_ok, pure_eq_ok, Prod.mk.injEq] at h
    obtain ⟨⟨b, after⟩, h, _, rfl⟩ := h
    exact .abortRegisteredTask h t
  | markRunning k a =>
    simp only [RecoveryManager.call, bind_eq_ok, pure_eq_ok, Prod.mk.injEq] at h
    obtain ⟨⟨b, after⟩, h, _, rfl⟩ := h
    exact .markRunning h t
  | forgetCollectedObject o expectedTaskSpec expectedAttempt =>
    simp only [RecoveryManager.call, bind_eq_ok, pure_eq_ok, Prod.mk.injEq] at h
    obtain ⟨plan, h, _, rfl⟩ := h
    exact .forgetCollectedObject h t

theorem taskStep (hkey : s.Filed) (op : Op) (t : TaskID) : TaskStep s (s.step op) op t := by
  rw [step]
  cases h : s.call op with
  | error e => exact .same rfl rfl rfl
  | ok r =>
    obtain ⟨reply, s'⟩ := r
    exact .call hkey h t

end RecoveryManager

end MiniRay
