import MiniRay.Recovery.Transitions

/-! Attempts are numbered by the retries they consumed, the marker follows the current one, and an
attempt ends once, as far as the records can tell. -/

namespace MiniRay

open Checked Run

/-- How a report ends an attempt. -/
inductive TerminalOutcome
  | success
  | applicationFailure
  | systemFailure
  | targetedFailure

def RecoveryAction.outcome : RecoveryAction → Option TerminalOutcome
  | .acceptSuccess => some .success
  | .failApplication => some .applicationFailure
  | .retryTask => some .systemFailure
  | .failRetryExhausted => some .systemFailure
  | .failReconstructionTargets => some .targetedFailure
  | _ => none

/-- The state an outcome leaves its task in, unless the attempt was retried. -/
def TerminalOutcome.state : TerminalOutcome → TaskState
  | .success => .succeeded
  | .applicationFailure => .applicationFailed
  | .systemFailure => .systemFailed
  | .targetedFailure => .succeeded

variable {active : Option AttemptID} {a : AttemptID}

theorem endActive_eq_some {b : AttemptID} :
    endActive active a = some b ↔ active = some b ∧ b ≠ a := by
  unfold endActive
  split
  · next h => simp [h, eq_comm]
  · next h =>
    constructor
    · rintro rfl
      exact ⟨rfl, fun hb => h (hb ▸ rfl)⟩
    · exact And.left

/-! ## One record -/

def Marked (r : TaskRecord) (active : Option AttemptID) : Prop :=
  ∀ a, active = some a → a = r.currentAttempt ∧ (r.state = .retryPending ∨ r.state = .running)

variable {r r' : TaskRecord}

theorem marked_endActive (h : Marked r active) : Marked r' (endActive active r.currentAttempt) := by
  intro b hb
  obtain ⟨hactive, hne⟩ := endActive_eq_some.mp hb
  exact absurd (h b hactive).1 hne

variable {active' : Option AttemptID} {action : RecoveryAction}

theorem Moves.marked (h : Moves r active a action r' active') (hr : Marked r active) :
    Marked r' active' := by
  cases h with
  | fenced => exact hr
  | succeeded current => exact current ▸ marked_endActive hr
  | failed current => exact current ▸ marked_endActive hr
  | exhausted current => exact current ▸ marked_endActive hr
  | repeated current => exact current ▸ marked_endActive hr
  | retried current live error hleft =>
    intro b hb
    by_cases hactive : active = some a
    · rw [if_pos hactive, Option.some.injEq] at hb
      exact ⟨hb.symm, .inl rfl⟩
    · rw [if_neg hactive] at hb
      exact absurd (hb.trans (congrArg some ((hr b hb).1.trans current.symm))) hactive
  | targeted => exact nofun

theorem Requests.marked (h : Requests r active action r' active') (hr : Marked r active) :
    Marked r' active' := by
  cases h with
  | joined => exact hr
  | started idle succeeded error hleft =>
    intro b hb
    rw [Option.some.injEq] at hb
    exact ⟨hb.symm, .inl rfl⟩
  | exhausted => exact nofun
  | refused => exact nofun

/-- Every retry consumed is one attempt further. -/
def Ahead (r r' : TaskRecord) : Prop :=
  r'.taskId = r.taskId ∧ r.retriesStarted ≤ r'.retriesStarted ∧
    r'.currentAttempt.attemptNumber + r.retriesStarted =
      r.currentAttempt.attemptNumber + r'.retriesStarted

theorem ahead_refl (r : TaskRecord) : Ahead r r := ⟨rfl, le_rfl, rfl⟩

theorem ahead_advance (r : TaskRecord) (error : Option TaskFailure)
    (h : r.retriesRemaining ≠ 0) : Ahead r (r.advance error h) := by
  refine ⟨rfl, Nat.le_succ _, ?_⟩
  simp only [TaskRecord.advance, AttemptID.next]
  omega

theorem Moves.ahead (h : Moves r active a action r' active') : Ahead r r' := by
  cases h with
  | retried current live error hleft => exact ahead_advance r error hleft
  | _ => exact ahead_refl r

theorem Requests.ahead (h : Requests r active action r' active') : Ahead r r' := by
  cases h with
  | started idle succeeded error hleft => exact ahead_advance r error hleft
  | _ => exact ahead_refl r

namespace RecoveryManager

variable {s : RecoveryManager}

/-! ## The invariant -/

/-- Attempts are numbered by retries, and the markers follow them. -/
structure Coherent (s : RecoveryManager) : Prop where
  filed : s.Filed
  numbered : ∀ t r, s.tasks.get? t = some r → ∃ l, s.lineages.get? t = some l ∧
    r.currentAttempt.attemptNumber = l.taskSpec.attemptId.attemptNumber + r.retriesStarted
  marked : ∀ t a, s.activeRecoveries.get? t = some a → ∃ r, s.tasks.get? t = some r ∧
    Marked r (s.activeRecoveries.get? t)

theorem coherent_empty : Coherent empty := by
  constructor <;> simp [empty, Filed]

variable {t : TaskID} {r : TaskRecord}

theorem Coherent.marked_of (hs : Coherent s) (hr : s.tasks.get? t = some r) :
    Marked r (s.activeRecoveries.get? t) := by
  intro a ha
  obtain ⟨r', hr', hmarked⟩ := hs.marked t a ha
  cases hr.symm.trans hr'
  exact hmarked a ha

theorem Coherent.step (hs : Coherent s) (op : Op) : Coherent (s.step op) := by
  have hmoved : ∀ t r r', s.tasks.get? t = some r → Ahead r r' →
      (s.step op).lineages.get? t = s.lineages.get? t → r'.taskId = t ∧
        ∃ l, (s.step op).lineages.get? t = some l ∧ r'.currentAttempt.attemptNumber =
          l.taskSpec.attemptId.attemptNumber + r'.retriesStarted := by
    intro t r r' hr hahead hlineage
    obtain ⟨l, hl, hnumber⟩ := hs.numbered t r hr
    obtain ⟨htask, hle, hretries⟩ := hahead
    exact ⟨htask.trans (hs.filed t r hr), l, hlineage.trans hl, by omega⟩
  have hrecords : ∀ t r', (s.step op).tasks.get? t = some r' → r'.taskId = t ∧
      ∃ l, (s.step op).lineages.get? t = some l ∧ r'.currentAttempt.attemptNumber =
        l.taskSpec.attemptId.attemptNumber + r'.retriesStarted := by
    intro t r' hr'
    cases taskStep hs.filed op t with
    | same tasks lineages => exact hmoved t r' r' (tasks ▸ hr') (ahead_refl r') lineages
    | born spec outputs n new own tasks lineages =>
      cases tasks.symm.trans hr'
      exact ⟨own, _, lineages, rfl⟩
    | gone tasks => simp [tasks] at hr'
    | ran r known live tasks lineages =>
      cases tasks.symm.trans hr'
      exact hmoved t r _ known (ahead_refl r) lineages
    | reported r r'' a report isOp d active' known result own names moves tasks lineages =>
      cases tasks.symm.trans hr'
      exact hmoved t r _ known moves.ahead lineages
    | requested r r'' o isOp d active' known result own names requests tasks lineages =>
      cases tasks.symm.trans hr'
      exact hmoved t r _ known requests.ahead lineages
  refine ⟨fun t r' hr' => (hrecords t r' hr').1, fun t r' hr' => (hrecords t r' hr').2, ?_⟩
  intro t a ha
  cases taskStep hs.filed op t with
  | same tasks lineages active =>
    obtain ⟨r, hr, hmarked⟩ := hs.marked t a (active ▸ ha)
    exact ⟨r, tasks.trans hr, active ▸ hmarked⟩
  | born spec outputs n new own tasks lineages active =>
    obtain ⟨r, hr, _⟩ := hs.marked t a (active ▸ ha)
    obtain ⟨l, hl, _⟩ := hs.numbered t r hr
    simp [new] at hl
  | gone tasks lineages active => simp [active] at ha
  | ran r known live tasks lineages active =>
    refine ⟨_, tasks, ?_⟩
    rw [active]
    intro b hb
    exact ⟨(hs.marked_of known b hb).1, .inr rfl⟩
  | reported r r' b report isOp d active' known result own names moves tasks lineages active =>
    exact ⟨r', tasks, active ▸ moves.marked (hs.marked_of known)⟩
  | requested r r' o isOp d active' known result own names requests tasks lineages active =>
    exact ⟨r', tasks, active ▸ requests.marked (hs.marked_of known)⟩

theorem coherent_run (ops : List Op) : Coherent (run RecoveryManager.step empty ops) :=
  run_invariant (fun _ op hs => hs.step op) coherent_empty ops

/-! ## Outcomes -/

/-- The report accepted in this step: its attempt, and how the attempt ended. -/
def accepts (s : RecoveryManager) (op : Op) : Option (AttemptID × TerminalOutcome) :=
  match op, s.call op with
  | .report _ a _, .ok (.decision d, _) => d.action.outcome.map (a, ·)
  | _, _ => none

/-- The task whose reconstruction was refused for lack of budget in this step. -/
def exhausts (s : RecoveryManager) (op : Op) : List TaskID :=
  match op, s.call op with
  | .requestReconstruction _, .ok (.decision d, _) =>
    if d.action = .failRetryExhausted then d.taskId.toList else []
  | _, _ => []

def Keeps (t : TaskID) (s : RecoveryManager) (op : Op) : Prop :=
  ((s.step op).tasks.get? t).isSome

/-- The attempt ended so, in a record that only another attempt or a lack of budget reopens. -/
def Settled (a : AttemptID) (o : TerminalOutcome) (e : List TaskID) (s : RecoveryManager) : Prop :=
  ∃ r, s.tasks.get? a.taskId = some r ∧ (a.attemptNumber < r.currentAttempt.attemptNumber ∨
    r.currentAttempt = a ∧ (r.state = o.state ∨
      r.state = .systemFailed ∧ o.state = .succeeded ∧ a.taskId ∈ e))

variable {op : Op} {a : AttemptID} {o : TerminalOutcome}

theorem accepts_cases (hs : s.Filed) (h : s.accepts op = some (a, o)) :
    ∃ (d : RecoveryDecision) (r r' : TaskRecord) (active' : Option AttemptID),
      s.tasks.get? a.taskId = some r ∧ d.action.outcome = some o ∧
      Moves r (s.activeRecoveries.get? a.taskId) a d.action r' active' ∧
      (s.step op).tasks.get? a.taskId = some r' := by
  unfold accepts at h
  split at h
  · next k b report d s' hcall =>
    obtain ⟨o', ho, heq⟩ := Option.map_eq_some_iff.mp h
    obtain ⟨rfl, rfl⟩ := Prod.mk.inj heq
    obtain ⟨d', r, r', active', hd, hr, rfl, _, _, hmoves, hinstalls⟩ := report_cases hs hcall
    cases hd
    refine ⟨d, r, r', active', hr, ho, hmoves, ?_⟩
    rw [step, hcall]
    exact (hinstalls.tasks _).trans (if_pos rfl)
  · cases h

theorem settled_accepts (hs : s.Filed) (h : s.accepts op = some (a, o)) :
    Settled a o [] (s.step op) := by
  obtain ⟨d, r, r', active', _, ho, hmoves, hr'⟩ := accepts_cases hs h
  refine ⟨r', hr', ?_⟩
  generalize d.action = action at ho hmoves
  cases hmoves with
  | fenced => cases ho
  | succeeded current => cases ho; exact .inr ⟨current.symm, .inl rfl⟩
  | failed current => cases ho; exact .inr ⟨current.symm, .inl rfl⟩
  | exhausted current => cases ho; exact .inr ⟨current.symm, .inl rfl⟩
  | repeated current closed => cases ho; exact .inr ⟨current.symm, .inl closed⟩
  | retried current => cases ho; exact .inl (current ▸ Nat.lt_succ_self _)
  | targeted current => cases ho; exact .inr ⟨current.symm, .inl rfl⟩

variable {d : RecoveryDecision} {s' : RecoveryManager}

theorem exhausts_of {o : ObjectID}
    (hcall : s.call (.requestReconstruction o) = .ok (.decision d, s'))
    (haction : d.action = .failRetryExhausted) (htask : d.taskId = some t) :
    t ∈ s.exhausts (.requestReconstruction o) := by
  simp [exhausts, hcall, haction, htask]

theorem Settled.step {e : List TaskID} (h : Settled a o e s) (hs : Coherent s)
    (hkeeps : Keeps a.taskId s op) : Settled a o (e ++ s.exhausts op) (s.step op) := by
  obtain ⟨r, hr, hsettled⟩ := h
  have hmem : a.taskId ∈ e → a.taskId ∈ e ++ s.exhausts op := List.mem_append_left _
  -- a record of the same attempt and state, or of a later attempt
  have hkept : ∀ r', (s.step op).tasks.get? a.taskId = some r' →
      r.currentAttempt.attemptNumber ≤ r'.currentAttempt.attemptNumber →
      (r.currentAttempt = a → a.attemptNumber < r'.currentAttempt.attemptNumber ∨
        r'.currentAttempt = r.currentAttempt ∧ (r'.state = r.state ∨
          r'.state = .systemFailed ∧ o.state = .succeeded ∧ a.taskId ∈ e ++ s.exhausts op)) →
      Settled a o (e ++ s.exhausts op) (s.step op) := by
    intro r' hr' hle hsame
    refine ⟨r', hr', ?_⟩
    rcases hsettled with hlater | ⟨hcurrent, hstate⟩
    · exact .inl (hlater.trans_le hle)
    · rcases hsame hcurrent with hlater | ⟨hcurrent', hstate' | hexhausted⟩
      · exact .inl hlater
      · rw [hstate']
        exact .inr ⟨hcurrent'.trans hcurrent,
          hstate.imp_right (And.imp_right (And.imp_right hmem))⟩
      · exact .inr ⟨hcurrent'.trans hcurrent, .inr hexhausted⟩
  have hclosed : r.currentAttempt = a →
      r.state = .succeeded ∨ r.state = .applicationFailed ∨ r.state = .systemFailed := by
    intro hcurrent
    rcases hsettled with hlater | ⟨_, hstate | ⟨hstate, _⟩⟩
    · rw [hcurrent] at hlater
      exact absurd hlater (lt_irrefl _)
    · rw [hstate]
      cases o <;> simp [TerminalOutcome.state]
    · exact .inr (.inr hstate)
  cases taskStep hs.filed op a.taskId with
  | same tasks => exact hkept r (tasks.trans hr) le_rfl fun _ => .inr ⟨rfl, .inl rfl⟩
  | born spec outputs n new =>
    obtain ⟨l, hl, _⟩ := hs.numbered _ r hr
    simp [new] at hl
  | gone tasks => simp [Keeps, tasks] at hkeeps
  | ran r₁ known live tasks =>
    cases hr.symm.trans known
    refine hkept _ tasks le_rfl ?_
    intro hcurrent
    rcases hclosed hcurrent with hstate | hstate | hstate
    · exact absurd hstate live.2.2
    · exact absurd hstate live.1
    · exact absurd hstate live.2.1
  | reported r₁ r' b report isOp d active' known result own names moves tasks =>
    cases hr.symm.trans known
    have hahead := moves.ahead
    refine hkept r' tasks (by have h := hahead.2; omega) ?_
    intro hcurrent
    have hstate := hclosed hcurrent
    right
    generalize d.action = action at moves
    cases moves with
    | fenced => exact ⟨rfl, .inl rfl⟩
    | succeeded _ live => exact ⟨rfl, .inl (by grind [TaskRecord.settle])⟩
    | failed _ live => exact ⟨rfl, .inl (by grind [TaskRecord.settle])⟩
    | exhausted _ live => exact ⟨rfl, .inl (by grind [TaskRecord.settle])⟩
    | repeated => exact ⟨rfl, .inl rfl⟩
    | retried _ live => exact absurd hstate (by grind)
    | targeted _ _ started => exact absurd hstate (by grind)
  | requested r₁ r' object isOp d active' known result own names requests tasks =>
    cases hr.symm.trans known
    have hahead := requests.ahead
    refine hkept r' tasks (by have h := hahead.2; omega) ?_
    intro hcurrent
    subst isOp
    have hnow : d.action = .failRetryExhausted →
        a.taskId ∈ e ++ s.exhausts (.requestReconstruction object) := by
      intro haction
      exact List.mem_append_right _ (exhausts_of result haction own)
    generalize d.action = action at requests hnow
    cases requests with
    | joined => exact .inr ⟨rfl, .inl rfl⟩
    | started => exact .inl (hcurrent ▸ Nat.lt_succ_self _)
    | exhausted idle succeeded =>
      have hsucceeded : o.state = .succeeded := by
        rcases hsettled with hlater | ⟨_, hstate | ⟨_, hstate, _⟩⟩
        · rw [hcurrent] at hlater
          exact absurd hlater (lt_irrefl _)
        · exact hstate.symm.trans succeeded
        · exact hstate
      exact .inr ⟨rfl, .inr ⟨rfl, hsucceeded, hnow rfl⟩⟩
    | refused => exact .inr ⟨rfl, .inl rfl⟩

theorem Settled.accepts {o' : TerminalOutcome} {e : List TaskID} (h : Settled a o e s)
    (hs : s.Filed) (haccepts : s.accepts op = some (a, o')) :
    o' = o ∨ o = .targetedFailure ∧ o' = .success ∨
      o.state = .succeeded ∧ o' = .systemFailure ∧ a.taskId ∈ e := by
  obtain ⟨r, hr, hsettled⟩ := h
  obtain ⟨d, r₁, r', active', hr₁, ho', hmoves, _⟩ := accepts_cases hs haccepts
  cases hr.symm.trans hr₁
  have hcurrent : a = r.currentAttempt := by
    generalize d.action = action at ho' hmoves
    cases hmoves with
    | fenced => cases ho'
    | _ => assumption
  have hstate : r.state = o.state ∨
      r.state = .systemFailed ∧ o.state = .succeeded ∧ a.taskId ∈ e := by
    rcases hsettled with hlater | ⟨_, hstate⟩
    · rw [← hcurrent] at hlater
      exact absurd hlater (lt_irrefl _)
    · exact hstate
  have houtcome : (r.state = .succeeded → o' = .success) ∧
      (r.state = .applicationFailed → o' = .applicationFailure) ∧
      (r.state = .systemFailed → o' = .systemFailure) := by
    generalize d.action = action at ho' hmoves
    cases hmoves <;> cases ho' <;> grind
  rcases hstate with hstate | ⟨hstate, hsucceeded, hmem⟩
  · cases o with
    | success => exact .inl (houtcome.1 hstate)
    | applicationFailure => exact .inl (houtcome.2.1 hstate)
    | systemFailure => exact .inl (houtcome.2.2 hstate)
    | targetedFailure => exact .inr (.inl ⟨rfl, houtcome.1 hstate⟩)
  · exact .inr (.inr ⟨hsucceeded, houtcome.2.2 hstate, hmem⟩)

/-! ## Stale and consuming calls -/

/-- Records and markers are as they were. -/
def Untouched (s s' : RecoveryManager) : Prop :=
  ∀ t, s'.tasks.get? t = s.tasks.get? t ∧ s'.activeRecoveries.get? t = s.activeRecoveries.get? t

theorem Installs.untouched {k : TaskID} (h : Installs s s' k r (s.activeRecoveries.get? k))
    (hr : s.tasks.get? k = some r) : Untouched s s' := by
  intro t
  rw [h.tasks, h.active]
  by_cases hk : k = t
  · subst hk
    rw [if_pos rfl, if_pos rfl]
    exact ⟨hr.symm, rfl⟩
  · rw [if_neg hk, if_neg hk]
    exact ⟨rfl, rfl⟩

def Op.About (t : TaskID) (a : AttemptID) (op : Op) : Prop :=
  op = .markRunning t a ∨ ∃ report, op = .report t a report

theorem markRunning_stale {b : Bool} (hr : s.tasks.get? t = some r) (hstale : a ≠ r.currentAttempt)
    (h : s.markRunning t a = .ok (b, s')) : Untouched s s' := by
  simp only [markRunning, TaskRecord.markRunning, bind_eq_ok, taskRecord_eq_ok, hr,
    Option.some.injEq, pure_eq_ok, Prod.mk.injEq] at h
  obtain ⟨_, rfl, ⟨_, after⟩, ⟨current, hcurrent, hafter⟩, _, rfl⟩ := h
  obtain ⟨_, rfl⟩ := TaskRecord.isCurrent_eq_ok.mp hcurrent
  simp only [hstale, decide_false, Bool.false_eq_true, not_false_eq_true, if_true, pure_eq_ok,
    Prod.mk.injEq] at hafter
  obtain ⟨_, rfl⟩ := hafter
  intro k
  refine ⟨?_, rfl⟩
  rw [Dict.get?_set]
  split
  · next hk => exact hk ▸ hr.symm
  · rfl

theorem step_stale (hs : s.Filed) (hr : s.tasks.get? t = some r) (hstale : a ≠ r.currentAttempt)
    (hop : op.About t a) : Untouched s (s.step op) := by
  unfold RecoveryManager.step
  cases hcall : s.call op with
  | error e => exact fun _ => ⟨rfl, rfl⟩
  | ok result =>
    obtain ⟨reply, s'⟩ := result
    rcases hop with rfl | ⟨report, rfl⟩
    · simp only [call, bind_eq_ok, pure_eq_ok, Prod.mk.injEq] at hcall
      obtain ⟨⟨_, after⟩, hrunning, _, rfl⟩ := hcall
      exact markRunning_stale hr hstale hrunning
    · obtain ⟨d, r₁, r', active', _, hr₁, _, _, _, hmoves, hinstalls⟩ := report_cases hs hcall
      cases hr.symm.trans hr₁
      generalize d.action = action at hmoves
      cases hmoves with
      | fenced => exact hinstalls.untouched hr
      | _ => contradiction

/-- One slot of one task bought the attempt that the decision names. -/
def Consumes (s s' : RecoveryManager) (d : RecoveryDecision) : Prop :=
  ∃ t r r', d.taskId = some t ∧ s.tasks.get? t = some r ∧ s'.tasks.get? t = some r' ∧
    r'.retriesStarted = r.retriesStarted + 1 ∧ r'.currentAttempt = r.currentAttempt.next ∧
    d.attemptId = some r'.currentAttempt ∧ ∀ t', t' ≠ t → s'.tasks.get? t' = s.tasks.get? t'

theorem Installs.consumes {error : Option TaskFailure} {hleft : r.retriesRemaining ≠ 0}
    (h : Installs s s' t (r.advance error hleft) active') (hr : s.tasks.get? t = some r)
    (htask : d.taskId = some t) (hattempt : d.attemptId = some r.currentAttempt.next) :
    Consumes s s' d := by
  refine ⟨t, r, _, htask, hr, (h.tasks t).trans (if_pos rfl), rfl, rfl, hattempt, ?_⟩
  intro t' hne
  exact (h.tasks t').trans (if_neg hne.symm)

theorem call_consumes (hs : s.Filed) (h : s.call op = .ok (.decision d, s')) :
    (d.action = .startReconstruction ∨ d.action = .retryTask → Consumes s s' d) ∧
      (d.action = .joinReconstruction → Untouched s s') := by
  cases op with
  | report t a report =>
    obtain ⟨d', r, r', active', hd, hr, _, htask, hnames, hmoves, hinstalls⟩ :=
      report_cases hs h
    cases hd
    generalize haction : d.action = action at hmoves hnames
    cases hmoves with
    | retried current live error hleft =>
      exact ⟨fun _ => hinstalls.consumes hr htask (hnames rfl), nofun⟩
    | _ => exact ⟨by simp, nofun⟩
  | requestReconstruction o =>
    obtain ⟨d', hd, ⟨rfl, haction⟩ | ⟨k, r, r', active', hr, htask, hnames, hrequests,
      hinstalls⟩⟩ := request_cases h
    · cases hd
      simp [haction]
    · cases hd
      generalize haction : d.action = action at hrequests hnames
      cases hrequests with
      | started idle succeeded error hleft =>
        exact ⟨fun _ => hinstalls.consumes hr htask (hnames rfl), nofun⟩
      | joined a marked => exact ⟨by simp, fun _ => hinstalls.untouched hr⟩
      | exhausted => exact ⟨by simp, nofun⟩
      | refused idle action closed =>
        rcases closed with ⟨_, rfl⟩ | ⟨_, rfl⟩ <;> exact ⟨by simp, nofun⟩
  | _ =>
    simp only [call, bind_eq_ok, pure_eq_ok, Prod.mk.injEq, reduceCtorEq, false_and, and_false,
      exists_false] at h

/-! ## Every run -/

/-- The two reports about one attempt of a registered task, in the order they were accepted.
A success restores what a targeted failure restored; the refusal of a reconstruction for lack
of budget is a later end of the task. -/
def Agree (a : AttemptID) (o o' : TerminalOutcome) (refused : List TaskID) : Prop :=
  o' = o ∨ o = .targetedFailure ∧ o' = .success ∨
    o.state = .succeeded ∧ o' = .systemFailure ∧ a.taskId ∈ refused

/-- Attempts count retries, stale reports change nothing, markers follow the current
attempt, a slot buys one attempt, and accepted reports about one attempt agree. -/
theorem attempts_sound (ops : List Op) :
    let s := run RecoveryManager.step empty ops
    (∀ t r, s.tasks.get? t = some r → r.retriesStarted ≤ r.maxRetries ∧
      ∃ l, s.lineages.get? t = some l ∧
        r.currentAttempt.attemptNumber = l.taskSpec.attemptId.attemptNumber + r.retriesStarted) ∧
    (∀ t r a, s.tasks.get? t = some r → a ≠ r.currentAttempt →
      ∀ op : Op, op.About t a → Untouched s (s.step op)) ∧
    (∀ t a, s.activeRecoveries.get? t = some a → ∃ r, s.tasks.get? t = some r ∧
      a = r.currentAttempt ∧ (r.state = .retryPending ∨ r.state = .running)) ∧
    (∀ op d s', s.call op = .ok (.decision d, s') →
      (d.action = .startReconstruction ∨ d.action = .retryTask → Consumes s s' d) ∧
        (d.action = .joinReconstruction → Untouched s s')) ∧
    (∀ first between second a o o', s.accepts first = some (a, o) →
      Admissible RecoveryManager.step (Keeps a.taskId) (s.step first) between →
      (run RecoveryManager.step (s.step first) between).accepts second = some (a, o') →
      Agree a o o' (outputs RecoveryManager.step exhausts (s.step first) between)) := by
  have hs := coherent_run ops
  generalize run RecoveryManager.step empty ops = s at hs
  refine ⟨fun t r hr => ⟨r.budget, hs.numbered t r hr⟩,
    fun t r a hr hstale op hop => step_stale hs.filed hr hstale hop, ?_,
    fun op d s' hcall => call_consumes hs.filed hcall, ?_⟩
  · intro t a ha
    obtain ⟨r, hr, hmarked⟩ := hs.marked t a ha
    exact ⟨r, hr, hmarked a ha⟩
  · intro first between second a o o' hfirst hkeeps hsecond
    have hinv : Coherent (run RecoveryManager.step (s.step first) between) ∧
        Settled a o (outputs RecoveryManager.step exhausts (s.step first) between)
          (run RecoveryManager.step (s.step first) between) := by
      refine hkeeps.outputs_invariant
        (p := fun refused s => Coherent s ∧ Settled a o refused s) ?_
        ⟨hs.step first, settled_accepts hs.filed hfirst⟩
      intro refused s' op hok h
      exact ⟨h.1.step op, h.2.step h.1 hok⟩
    exact hinv.2.accepts hinv.1.filed hsecond

/-! ## Two outcomes of one attempt -/

/-- How the outcomes of two accepted reports about one attempt of a registered task relate. -/
def OutcomesRelate (related : TerminalOutcome → TerminalOutcome → Prop) : Prop :=
  ∀ (ops : List Op) (first : Op) (between : List Op) (second : Op) (a : AttemptID)
    (o o' : TerminalOutcome),
    (run RecoveryManager.step empty ops).accepts first = some (a, o) →
    Admissible RecoveryManager.step (Keeps a.taskId)
      ((run RecoveryManager.step empty ops).step first) between →
    (run RecoveryManager.step empty (ops ++ first :: between)).accepts second = some (a, o') →
    related o o'

namespace Sample

def producer (attemptNumber : Nat) : AttemptID := ⟨⟨1⟩, attemptNumber⟩

def producerSpec : TaskSpec := ⟨⟨2⟩, ⟨1⟩, producer 0, ⟨3⟩, "produce", rfl⟩

def succeed (attemptNumber : Nat) : Op := .report ⟨1⟩ (producer attemptNumber) .success

def reconstruct : Op := .requestReconstruction (ObjectID.forTask ⟨1⟩ 0)

end Sample

open Sample in
/-- A late success follows the targeted failure of its attempt; and a system failure follows
a success once a reconstruction was refused. -/
theorem outcomes_differ :
    ¬ OutcomesRelate (fun o o' => o' = o ∨ o.state = .succeeded ∧ o' = .systemFailure) ∧
      ¬ OutcomesRelate (fun o o' => o' = o ∨ o = .targetedFailure ∧ o' = .success) := by
  constructor
  · intro h
    have houtcomes := h [.registerTask producerSpec none 1, succeed 0, reconstruct]
      (.report ⟨1⟩ (producer 1) (.terminalReconstructionFailure none)) [] (succeed 1)
      (producer 1) .targetedFailure .success rfl trivial rfl
    simp [TerminalOutcome.state] at houtcomes
  · intro h
    have houtcomes := h [.registerTask producerSpec none 0] (succeed 0) [reconstruct]
      (.report ⟨1⟩ (producer 0) (.terminalSystemFailure none)) (producer 0) .success
      .systemFailure rfl ⟨rfl, trivial⟩ rfl
    simp at houtcomes

end RecoveryManager

end MiniRay
