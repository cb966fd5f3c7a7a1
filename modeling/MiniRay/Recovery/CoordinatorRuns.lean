import MiniRay.Recovery.CoordinatorCalls

/-! Callers prepare, commit and hand off transactions in any order, while the owner table and the
recovery manager also move on their own. -/

namespace MiniRay

open Checked Run

/-- The coordinator, the values its callers hold, and the attempts whose START was
committed. -/
structure ReconstructionRun (ε : Type) where
  coordinator : ReconstructionCoordinator ε
  prepared : List PreparedReconstruction
  outcomes : List ReconstructionOutcome
  started : List AttemptID

namespace ReconstructionRun

open ReconstructionCoordinator RecoveryManager

variable {ε : Type}

def empty : ReconstructionRun ε := ⟨.empty, [], [], []⟩

/-- A call by any thread under the composition lock. -/
inductive Action (ε : Type)
  | prepare (o : ObjectID) (preflightOwner : Bool)
  | commit (prepared : PreparedReconstruction)
  | handoff (outcome : ReconstructionOutcome) (accepts : Bool)
  | handoffRetry (taskId : TaskID) (previous attempt : AttemptID) (accepts : Bool)
  | complete (taskId : TaskID) (attempt : AttemptID)
  | owner (op : Op ε)
  | recovery (op : RecoveryManager.Op)

def startedBy (outcome : ReconstructionOutcome) : List AttemptID :=
  if outcome.disposition = .start then outcome.decision.attemptId.toList else []

def afterCommit (s : ReconstructionRun ε) : Call ε ReconstructionOutcome → ReconstructionRun ε
  | (.error _, coordinator) => { s with coordinator := coordinator }
  | (.ok outcome, coordinator) => { s with
      coordinator := coordinator
      outcomes := outcome :: s.outcomes
      started := s.started ++ startedBy outcome }

def afterHandoff (s : ReconstructionRun ε) : Call ε ReconstructionOutcome → ReconstructionRun ε
  | (.error _, coordinator) => { s with coordinator := coordinator }
  | (.ok outcome, coordinator) => { s with
      coordinator := coordinator, outcomes := outcome :: s.outcomes }

def recover (s : ReconstructionRun ε) (recovery : RecoveryManager) : ReconstructionRun ε :=
  { s with coordinator := { s.coordinator with recovery := recovery } }

/-- Only values that were handed out can be committed or handed off. -/
def step [BEq ε] (args : TaskArguments) (s : ReconstructionRun ε) :
    Action ε → ReconstructionRun ε
  | .prepare o preflightOwner =>
    match s.coordinator.prepare args o preflightOwner with
    | .error _ => s
    | .ok prepared => { s with prepared := prepared :: s.prepared }
  | .commit prepared =>
    if prepared ∈ s.prepared then s.afterCommit (s.coordinator.commitPrepared prepared) else s
  | .handoff outcome accepts =>
    if outcome ∈ s.outcomes then s.afterHandoff (s.coordinator.handoff outcome accepts) else s
  | .handoffRetry taskId previous attempt accepts =>
    { s with coordinator := (s.coordinator.handoffRetry taskId previous attempt accepts).2 }
  | .complete taskId attempt =>
    { s with coordinator := (s.coordinator.complete taskId attempt).2 }
  | .owner op =>
    { s with coordinator := { s.coordinator with owner := s.coordinator.owner.step op } }
  | .recovery op => s.recover (s.coordinator.recovery.step op)

/-- A transaction was prepared for the task. -/
def Known (s : ReconstructionRun ε) (t : TaskID) : Prop :=
  ∃ prepared ∈ s.prepared, prepared.outcome.decision.taskId = some t

/-- Outputs are registered with both authorities, and a forgotten task is not prepared again. -/
def Regular (s : ReconstructionRun ε) : Action ε → Prop
  | .prepare o _ => s.coordinator.recovery.objectProducers.get? o ≠ none →
      ∀ entry ∈ s.coordinator.owner.entries.get? o, entry.producerTaskSpec ≠ none
  | .recovery op => ∀ prepared ∈ s.prepared, ∀ t ∈ prepared.outcome.decision.taskId,
      s.coordinator.recovery.tasks.get? t = none →
        (s.coordinator.recovery.step op).tasks.get? t = none
  | _ => True

instance (s : ReconstructionRun ε) (a : Action ε) : Decidable (s.Regular a) :=
  match a with
  | .prepare _ _ => inferInstanceAs (Decidable (_ → _))
  | .recovery _ => inferInstanceAs (Decidable (∀ prepared ∈ s.prepared, _))
  | .commit _ | .handoff _ _ | .handoffRetry _ _ _ _ | .complete _ _ | .owner _ =>
    inferInstanceAs (Decidable True)

/-! ## The invariant -/

/-- The attempt is not ahead of the record of its task. -/
structure Passed (s : ReconstructionRun ε) (a : AttemptID) : Prop where
  known : s.Known a.taskId
  behind : ∀ r, s.coordinator.recovery.tasks.get? a.taskId = some r →
    a.attemptNumber ≤ r.currentAttempt.attemptNumber

/-- A prepared failure, however old: its task can only be settled again. -/
def Refusal (s : ReconstructionRun ε) (prepared : PreparedReconstruction) : Prop :=
  prepared.outcome.disposition = .failed → ∀ plan scope, prepared.recoveryPlan = some plan →
    plan.scope = some scope → plan.activeAfter = none ∧ s.Known scope.taskId ∧
      ∀ r, s.coordinator.recovery.tasks.get? scope.taskId = some r →
        r.Closed ∧ s.coordinator.recovery.activeRecoveries.get? scope.taskId = none ∧
          RecoveryManager.Settles r scope.after

def Begun (started : List AttemptID) (identity : AdmissionIdentity) : Prop :=
  identity.disposition = .start → ∃ a ∈ started, identity.attemptId = some a

/-- The attempt of an identity entered the queue, and was started if it says so. -/
structure Queued (queue started : List AttemptID) (identity : AdmissionIdentity) : Prop where
  queued : ∃ a ∈ queue, identity.attemptId = some a
  begun : Begun started identity

theorem Begun.append {started : List AttemptID} {identity : AdmissionIdentity}
    (h : Begun started identity) (more : List AttemptID) : Begun (started ++ more) identity := by
  intro hstart
  obtain ⟨a, ha, hattempt⟩ := h hstart
  exact ⟨a, List.mem_append_left _ ha, hattempt⟩

structure Inv (s : ReconstructionRun ε) : Prop where
  coherent : s.coordinator.recovery.Coherent
  shaped : ∀ prepared ∈ s.prepared, Shaped prepared ∧ s.Refusal prepared
  sessions : ∀ t session, s.coordinator.sessions.get? t = some session → s.Known t
  queued : ∀ a ∈ s.coordinator.queue, s.Passed a
  started : ∀ a ∈ s.started, s.Passed a
  handed : ∀ a, s.coordinator.handoffs.get? a ≠ none → a ∈ s.coordinator.queue
  kept : ∀ a session, a ∈ s.coordinator.queue → Current s.coordinator a session →
    s.coordinator.handoffs.get? a = some session.outputIds
  queue_nodup : s.coordinator.queue.Nodup
  started_nodup : s.started.Nodup
  begun : ∀ outcome ∈ s.outcomes, Begun s.started outcome.identity
  receipted : ∀ outcome ∈ s.outcomes, ∀ identity ∈ outcome.admission,
    Queued s.coordinator.queue s.started identity

theorem inv_empty : Inv (empty : ReconstructionRun ε) where
  coherent := coherent_empty
  shaped _ h := absurd h List.not_mem_nil
  sessions _ _ h := nomatch h
  queued _ h := absurd h List.not_mem_nil
  started _ h := absurd h List.not_mem_nil
  handed _ h := absurd rfl h
  kept _ _ h := absurd h List.not_mem_nil
  queue_nodup := List.nodup_nil
  started_nodup := List.nodup_nil
  begun _ h := absurd h List.not_mem_nil
  receipted _ h := absurd h List.not_mem_nil

variable {args : TaskArguments} {s : ReconstructionRun ε}

/-! ## The recovery manager moves -/

variable {recovery : RecoveryManager} {a : AttemptID}

theorem Passed.recover (h : s.Passed a)
    (hevolves : Evolves s.Known s.coordinator.recovery recovery) :
    (s.recover recovery).Passed a where
  known := h.known
  behind r' hr' := by
    have hr' : recovery.tasks.get? a.taskId = some r' := hr'
    cases hr : s.coordinator.recovery.tasks.get? a.taskId with
    | none =>
      rw [hevolves.forgotten _ h.known hr] at hr'
      cases hr'
    | some r =>
      have hbefore := h.behind r hr
      obtain ⟨-, hretries, hnumber⟩ := hevolves.ahead _ r r' hr hr'
      omega

variable {prepared : PreparedReconstruction}

theorem Refusal.recover (h : s.Refusal prepared)
    (hevolves : Evolves s.Known s.coordinator.recovery recovery) :
    (s.recover recovery).Refusal prepared := by
  intro hfailed plan scope hplan hscope
  obtain ⟨hactive, hknown, hclosed⟩ := h hfailed plan scope hplan hscope
  refine ⟨hactive, hknown, ?_⟩
  intro r' hr'
  have hr' : recovery.tasks.get? scope.taskId = some r' := hr'
  cases hr : s.coordinator.recovery.tasks.get? scope.taskId with
  | none =>
    rw [hevolves.forgotten _ hknown hr] at hr'
    cases hr'
  | some r =>
    obtain ⟨hrclosed, hidle, hsettles⟩ := hclosed r hr
    obtain ⟨hsettles', hidle'⟩ := hevolves.settles _ r r' hr hr' hrclosed hidle
    exact ⟨hsettles'.closed, hidle', hsettles'.toward hsettles⟩

theorem attempt_ext {b : AttemptID} (htask : a.taskId = b.taskId)
    (hnumber : a.attemptNumber = b.attemptNumber) : a = b := by
  cases a
  cases b
  cases htask
  cases hnumber
  rfl

theorem Inv.active_before (h : Inv s) (hevolves : Evolves s.Known s.coordinator.recovery recovery)
    (ha : a ∈ s.coordinator.queue) (hactive : recovery.activeRecoveries.get? a.taskId = some a) :
    s.coordinator.recovery.activeRecoveries.get? a.taskId = some a := by
  obtain ⟨r', hr', hmarked⟩ := hevolves.coherent.marked _ _ hactive
  have hattempt := (hmarked a hactive).1
  cases hr : s.coordinator.recovery.tasks.get? a.taskId with
  | none =>
    rw [hevolves.forgotten _ (h.queued a ha).known hr] at hr'
    cases hr'
  | some r =>
    -- the record has not moved on: the attempt was queued no later
    have hbehind := (h.queued a ha).behind r hr
    obtain ⟨-, hretries, hnumber⟩ := hevolves.ahead _ r r' hr hr'
    have hsame : r'.currentAttempt = r.currentAttempt := by
      rw [← hattempt] at hnumber ⊢
      refine attempt_ext ?_ (by omega)
      rw [r.attempt_task, h.coherent.filed _ _ hr]
    exact hevolves.marked _ r r' a hr hr' hsame hactive

theorem Inv.recover (h : Inv s) (hevolves : Evolves s.Known s.coordinator.recovery recovery) :
    Inv (s.recover recovery) where
  coherent := hevolves.coherent
  shaped prepared hprepared :=
    ⟨(h.shaped prepared hprepared).1, (h.shaped prepared hprepared).2.recover hevolves⟩
  sessions := h.sessions
  queued a ha := (h.queued a ha).recover hevolves
  started a ha := (h.started a ha).recover hevolves
  handed := h.handed
  kept a session ha hcurrent := by
    obtain ⟨hsession, hactive⟩ := hcurrent
    exact h.kept a session ha ⟨hsession, h.active_before hevolves ha hactive⟩
  queue_nodup := h.queue_nodup
  started_nodup := h.started_nodup
  begun := h.begun
  receipted := h.receipted

/-! ## Prepare -/

theorem Known.prepare {t : TaskID} (h : s.Known t) :
    Known { s with prepared := prepared :: s.prepared } t := by
  obtain ⟨known, hmem, htask⟩ := h
  exact ⟨known, List.mem_cons_of_mem _ hmem, htask⟩

theorem Passed.prepare (h : s.Passed a) : Passed { s with prepared := prepared :: s.prepared } a :=
  ⟨h.known.prepare, h.behind⟩

theorem Refusal.prepare {old : PreparedReconstruction} (h : s.Refusal old) :
    Refusal { s with prepared := prepared :: s.prepared } old := by
  intro hfailed plan scope hplan hscope
  obtain ⟨hactive, hknown, hclosed⟩ := h hfailed plan scope hplan hscope
  exact ⟨hactive, hknown.prepare, hclosed⟩

theorem refusal_of_prepared {o : ObjectID} (h : PreparedSpec s.coordinator o prepared)
    (hregular : s.coordinator.recovery.objectProducers.get? o ≠ none →
      ∀ entry ∈ s.coordinator.owner.entries.get? o, entry.producerTaskSpec ≠ none) :
    Refusal { s with prepared := prepared :: s.prepared } prepared := by
  intro hfailed plan scope hplan hscope
  obtain ⟨plan', hplan', hvalidated⟩ := h.validated
  cases hplan.symm.trans hplan'
  rcases validateRequestReconstruction_cases hvalidated with
    ⟨-, hnone, -⟩ | ⟨t, l, r, r', active', hproducer, -, hplans, -, hrequests⟩
  · rw [hscope] at hnone
    cases hnone
  have hdecided := h.decided plan hplan
  obtain ⟨hstart, hjoin⟩ | ⟨entry, hentry, hspec⟩ := h.failed hfailed
  · rw [← hdecided] at hstart hjoin
    obtain ⟨hidle, hidle', hclosed, hsettles⟩ :=
      Requests.refuses hrequests hstart hjoin
    have hsame := hscope.symm.trans hplans.scope
    cases hsame
    refine ⟨hplans.after.trans hidle', ⟨prepared, List.mem_cons_self, ?_⟩, ?_⟩
    · rw [← hdecided]
      exact hplans.task
    · intro r₀ hr₀
      cases hplans.known.symm.trans hr₀
      exact ⟨hclosed, hidle, hsettles⟩
  · refine absurd hspec (hregular ?_ entry (ObjectOwnerTable.entry_eq_ok.mp hentry))
    rw [hproducer]
    exact Option.some_ne_none _

theorem Inv.prepare {o : ObjectID} (h : Inv s) (hprepared : PreparedSpec s.coordinator o prepared)
    (hregular : s.coordinator.recovery.objectProducers.get? o ≠ none →
      ∀ entry ∈ s.coordinator.owner.entries.get? o, entry.producerTaskSpec ≠ none) :
    Inv { s with prepared := prepared :: s.prepared } where
  coherent := h.coherent
  shaped old hold := by
    rcases List.mem_cons.mp hold with rfl | hold
    · exact ⟨hprepared.toShaped, refusal_of_prepared hprepared hregular⟩
    · exact ⟨(h.shaped old hold).1, (h.shaped old hold).2.prepare⟩
  sessions t session hsession := (h.sessions t session hsession).prepare
  queued a ha := (h.queued a ha).prepare
  started a ha := (h.started a ha).prepare
  handed := h.handed
  kept := h.kept
  queue_nodup := h.queue_nodup
  started_nodup := h.started_nodup
  begun := h.begun
  receipted := h.receipted

/-! ## Commits -/

theorem Inv.told {outcome : ReconstructionOutcome} (h : Inv s)
    (hbegun : Begun s.started outcome.identity)
    (hreceipted : ∀ identity, outcome.admission = some identity →
      Queued s.coordinator.queue s.started identity) :
    Inv { s with outcomes := outcome :: s.outcomes } where
  coherent := h.coherent
  shaped := h.shaped
  sessions := h.sessions
  queued a ha := ⟨(h.queued a ha).known, (h.queued a ha).behind⟩
  started a ha := ⟨(h.started a ha).known, (h.started a ha).behind⟩
  handed := h.handed
  kept := h.kept
  queue_nodup := h.queue_nodup
  started_nodup := h.started_nodup
  begun old hold := by
    rcases List.mem_cons.mp hold with rfl | hold
    · exact hbegun
    · exact h.begun old hold
  receipted old hold identity hadmission := by
    rcases List.mem_cons.mp hold with rfl | hold
    · exact hreceipted identity hadmission
    · exact h.receipted old hold identity hadmission

theorem Inv.outcome {outcome : ReconstructionOutcome} (h : Inv s)
    (hfresh : outcome.admission = none) (hbegun : Begun s.started outcome.identity) :
    Inv { s with outcomes := outcome :: s.outcomes } :=
  h.told hbegun fun _ hadmission => nomatch hfresh.symm.trans hadmission

theorem Passed.ne_next {r : TaskRecord} (h : s.Passed a)
    (hr : s.coordinator.recovery.tasks.get? r.currentAttempt.next.taskId = some r) :
    a ≠ r.currentAttempt.next := by
  intro hsame
  rw [← hsame] at hr
  have hbehind := h.behind r hr
  have hnumber : a.attemptNumber = r.currentAttempt.attemptNumber + 1 :=
    congrArg AttemptID.attemptNumber hsame
  omega

variable {recoveryPlan : RecoveryTransitionPlan}

theorem Inv.start {plan : ReconstructionPlan} {owner : ObjectOwnerTable ε} (h : Inv s)
    (hmem : prepared ∈ s.prepared) (hspec : StartSpec prepared plan recoveryPlan)
    (hvalid : s.coordinator.recovery.validateRequestReconstruction plan.requestedObjectId =
      .ok recoveryPlan)
    (hcommit : s.coordinator.recovery.commitTransition recoveryPlan =
      .ok (recoveryPlan.decision, recovery)) :
    Inv { s with
      coordinator := { s.coordinator with
        owner := owner
        recovery := recovery
        sessions := s.coordinator.sessions.set plan.taskId plan }
      started := s.started ++ [plan.attemptId] } := by
  have hdecision := (h.shaped prepared hmem).1.decided recoveryPlan hspec.recovery
  have haction : recoveryPlan.decision.action = .startReconstruction := by
    rw [hdecision]
    exact hspec.action
  have hattempt : recoveryPlan.decision.attemptId = some plan.attemptId := by
    rw [hdecision]
    exact hspec.attempt
  obtain ⟨t, r, r', htask, hr, hidle, hattempt', hnext, hinstalls⟩ :=
    started_of_validated hvalid haction hattempt hcommit
  have hevolves : Evolves s.Known s.coordinator.recovery recovery :=
    evolves_started h.coherent hvalid haction hattempt hcommit
  have hknown : s.Known plan.taskId := ⟨prepared, hmem, hspec.task⟩
  have htask : plan.taskId = t := by
    rw [hdecision, hspec.task] at htask
    exact Option.some.inj htask
  have hplanTask := hspec.attempt_task
  have hr' : recovery.tasks.get? plan.attemptId.taskId = some r' := by
    rw [hplanTask, htask, hinstalls.tasks, if_pos rfl]
  have hpast : ∀ a, s.Passed a → a ≠ plan.attemptId := by
    intro a ha
    rw [hnext]
    apply ha.ne_next
    rw [← hnext, hplanTask, htask]
    exact hr
  have hrecovered := h.recover hevolves
  exact {
    coherent := hrecovered.coherent
    shaped := hrecovered.shaped
    sessions := by
      intro u session hsession
      change (s.coordinator.sessions.set plan.taskId plan).get? u = some session at hsession
      rw [Dict.get?_set] at hsession
      by_cases hu : plan.taskId = u
      · exact hu ▸ hknown
      · rw [if_neg hu] at hsession
        exact h.sessions u session hsession
    queued := fun a ha => ⟨(hrecovered.queued a ha).known, (hrecovered.queued a ha).behind⟩
    started := by
      intro a ha
      rcases List.mem_append.mp ha with ha | ha
      · exact ⟨(hrecovered.started a ha).known, (hrecovered.started a ha).behind⟩
      · rw [List.mem_singleton] at ha
        subst ha
        refine ⟨hplanTask ▸ hknown, ?_⟩
        intro x hx
        cases hr'.symm.trans hx
        rw [hattempt']
    handed := h.handed
    kept := by
      intro a session ha hcurrent
      obtain ⟨hsession, hactive⟩ := hcurrent
      change (s.coordinator.sessions.set plan.taskId plan).get? a.taskId = some session at hsession
      change recovery.activeRecoveries.get? a.taskId = some a at hactive
      rw [Dict.get?_set] at hsession
      by_cases hu : plan.taskId = a.taskId
      · rw [hinstalls.active, if_pos (htask.symm.trans hu)] at hactive
        exact absurd (Option.some.inj hactive).symm (hpast a (h.queued a ha))
      · rw [if_neg hu] at hsession
        exact h.kept a session ha ⟨hsession, h.active_before hevolves ha hactive⟩
    queue_nodup := h.queue_nodup
    started_nodup := by
      rw [List.nodup_append]
      refine ⟨h.started_nodup, List.nodup_singleton _, ?_⟩
      intro a ha b hb
      rw [List.mem_singleton] at hb
      rw [hb]
      exact hpast a (h.started a ha)
    begun := fun outcome houtcome => (h.begun outcome houtcome).append _
    receipted := by
      intro outcome houtcome identity hadmission
      obtain ⟨hqueued, hbegun⟩ := h.receipted outcome houtcome identity hadmission
      exact ⟨hqueued, hbegun.append _⟩ }

theorem Inv.evolves_failed (h : Inv s) (hmem : prepared ∈ s.prepared)
    (hfailed : prepared.outcome.disposition = .failed)
    (hplan : prepared.recoveryPlan = some recoveryPlan)
    (hcommit : s.coordinator.recovery.commitTransition recoveryPlan =
      .ok (recoveryPlan.decision, recovery)) :
    Evolves s.Known s.coordinator.recovery recovery := by
  obtain ⟨-, ⟨-, hsame⟩ | ⟨scope, hscope, hinstalls⟩⟩ := commitTransition_cases hcommit
  · rw [hsame]
    exact evolves_refl h.coherent
  · obtain ⟨hactive, -, hclosed⟩ :=
      (h.shaped prepared hmem).2 hfailed recoveryPlan scope hplan hscope
    obtain ⟨r, hr⟩ := known_of_commit hcommit hscope
    rw [hactive] at hinstalls
    exact evolves_install h.coherent hinstalls hr (hclosed r hr).2.2

theorem startedBy_of_ne {outcome : ReconstructionOutcome} (h : outcome.disposition ≠ .start) :
    startedBy outcome = [] :=
  if_neg h

theorem startedBy_committed {plan : ReconstructionPlan} (h : StartSpec prepared plan recoveryPlan)
    (hstart : prepared.outcome.disposition = .start) :
    startedBy prepared.outcome.committed = [plan.attemptId] := by
  have hdisposition : prepared.outcome.committed.disposition = .start := hstart
  rw [startedBy, if_pos hdisposition]
  change prepared.outcome.decision.attemptId.toList = _
  rw [h.attempt]
  rfl

theorem Inv.commit (h : Inv s) (hmem : prepared ∈ s.prepared) :
    Inv (s.afterCommit (s.coordinator.commitPrepared prepared)) := by
  have hshaped := (h.shaped prepared hmem).1
  have hcommits : Commits s.coordinator prepared _ _ := commitPrepared_commits hshaped
  generalize hcall : s.coordinator.commitPrepared prepared = call at hcommits ⊢
  obtain ⟨result, coordinator⟩ := call
  cases hcommits with
  | raised e => exact h
  | joined outcome hjoin hfresh =>
    have hne : outcome.disposition ≠ .start := by
      rw [hjoin]
      decide
    have hinv := h.outcome hfresh fun hstart => absurd hstart hne
    simp only [afterCommit]
    rw [startedBy_of_ne hne, List.append_nil]
    exact hinv
  | failed hfailed recovery hrecovery =>
    have hevolves : Evolves s.Known s.coordinator.recovery recovery := by
      obtain rfl | ⟨recoveryPlan, hplan, hcommit⟩ := hrecovery
      · exact evolves_refl h.coherent
      · exact h.evolves_failed hmem hfailed hplan hcommit
    have hne : prepared.outcome.disposition ≠ .start := by
      rw [hfailed]
      decide
    have hinv := (h.recover hevolves).outcome hshaped.fresh.2 fun hstart => absurd hstart hne
    simp only [afterCommit]
    rw [startedBy_of_ne hne, List.append_nil]
    exact hinv
  | started hstart plan recoveryPlan ownerPlan hplan hrecoveryPlan hownerPlan hsession hvalid
      owner howner recovery hcommit =>
      obtain ⟨plan', recoveryPlan', hspec⟩ := hshaped.start hstart
      cases hspec.planned.symm.trans hplan
      cases hspec.recovery.symm.trans hrecoveryPlan
      have hinv : Inv { s with
          coordinator := { s.coordinator with
            owner := owner
            recovery := recovery
            sessions := s.coordinator.sessions.set plan.taskId plan }
          started := s.started ++ [plan.attemptId] } := h.start hmem hspec hvalid hcommit
      simp only [afterCommit]
      rw [startedBy_committed hspec hstart]
      refine hinv.outcome hshaped.fresh.2 fun _ => ⟨plan.attemptId, ?_, hspec.attempt⟩
      exact List.mem_append_right _ List.mem_cons_self

/-! ## Handoffs -/

variable {session : ReconstructionPlan}

theorem Inv.not_queued (h : Inv s) (hcurrent : Current s.coordinator a session)
    (hnew : s.coordinator.handoffs.get? a ≠ some session.outputIds) : a ∉ s.coordinator.queue :=
  fun ha => hnew (h.kept a session ha hcurrent)

theorem Inv.enqueued (h : Inv s) (hcurrent : Current s.coordinator a session)
    (hnew : s.coordinator.handoffs.get? a ≠ some session.outputIds) :
    Inv { s with coordinator := s.coordinator.enqueued a session } where
  coherent := h.coherent
  shaped := h.shaped
  sessions := h.sessions
  queued b hb := by
    rcases List.mem_append.mp hb with hb | hb
    · exact ⟨(h.queued b hb).known, (h.queued b hb).behind⟩
    · rw [List.mem_singleton] at hb
      subst hb
      refine ⟨h.sessions _ _ hcurrent.session, ?_⟩
      intro r hr
      obtain ⟨r', hr', hmarked⟩ := h.coherent.marked _ _ hcurrent.active
      cases hr.symm.trans hr'
      rw [← (hmarked b hcurrent.active).1]
  started b hb := ⟨(h.started b hb).known, (h.started b hb).behind⟩
  handed b hb := by
    change (s.coordinator.handoffs.set a session.outputIds).get? b ≠ none at hb
    rw [Dict.get?_set] at hb
    by_cases hab : a = b
    · exact hab ▸ List.mem_append_right _ List.mem_cons_self
    · rw [if_neg hab] at hb
      exact List.mem_append_left _ (h.handed b hb)
  kept b session' hb hcurrent' := by
    change (s.coordinator.handoffs.set a session.outputIds).get? b = some session'.outputIds
    have hsession : s.coordinator.sessions.get? b.taskId = some session' := hcurrent'.session
    rw [Dict.get?_set]
    by_cases hab : a = b
    · subst hab
      cases hsession.symm.trans hcurrent.session
      rw [if_pos rfl]
    · rw [if_neg hab]
      rcases List.mem_append.mp hb with hb | hb
      · exact h.kept b session' hb ⟨hsession, hcurrent'.active⟩
      · exact absurd (List.mem_singleton.mp hb).symm hab
  queue_nodup := by
    change (s.coordinator.queue ++ [a]).Nodup
    rw [List.nodup_append]
    refine ⟨h.queue_nodup, List.nodup_singleton _, ?_⟩
    intro b hb c hc hbc
    rw [List.mem_singleton] at hc
    subst hc
    exact h.not_queued hcurrent hnew (hbc ▸ hb)
  started_nodup := h.started_nodup
  begun := h.begun
  receipted outcome houtcome identity hadmission := by
    obtain ⟨⟨b, hb, hattempt⟩, hbegun⟩ := h.receipted outcome houtcome identity hadmission
    exact ⟨⟨b, List.mem_append_left _ hb, hattempt⟩, hbegun⟩

theorem Inv.receipt {outcome : ReconstructionOutcome} (h : Inv s) (ha : a ∈ s.coordinator.queue)
    (hattempt : outcome.decision.attemptId = some a) (hbegun : Begun s.started outcome.identity) :
    Inv { s with
      outcomes := ReconstructionCoordinator.receipted outcome :: s.outcomes } := by
  refine h.told hbegun fun identity hadmission => ?_
  cases hadmission
  exact ⟨⟨a, ha, hattempt⟩, hbegun⟩

theorem Inv.handoff {outcome : ReconstructionOutcome} {accepts : Bool} (h : Inv s)
    (hmem : outcome ∈ s.outcomes) :
    Inv (s.afterHandoff (s.coordinator.handoff outcome accepts)) := by
  have hbegun := h.begun outcome hmem
  have hhands : Hands s.coordinator outcome _ _ := handoff_hands accepts
  generalize hcall : s.coordinator.handoff outcome accepts = call at hhands ⊢
  obtain ⟨result, coordinator⟩ := call
  cases hhands with
  | raised e => exact h
  | known a hattempt hqueued => exact h.receipt (h.handed a hqueued) hattempt hbegun
  | queued a session hattempt hcurrent hnew =>
    have hnew : s.coordinator.handoffs.get? a ≠ some session.outputIds := by
      rw [hnew]
      exact (Option.some_ne_none _).symm
    have hlast : a ∈ s.coordinator.queue ++ [a] := List.mem_append_right _ List.mem_cons_self
    exact (h.enqueued hcurrent hnew).receipt hlast hattempt hbegun

theorem Inv.drop (h : Inv s) (hidle : ∀ session, ¬ Current s.coordinator a session) :
    Inv { s with coordinator := { s.coordinator with
      handoffs := s.coordinator.handoffs.erase a } } where
  coherent := h.coherent
  shaped := h.shaped
  sessions := h.sessions
  queued b hb := ⟨(h.queued b hb).known, (h.queued b hb).behind⟩
  started b hb := ⟨(h.started b hb).known, (h.started b hb).behind⟩
  handed b hb := by
    change (s.coordinator.handoffs.erase a).get? b ≠ none at hb
    rw [Dict.get?_erase] at hb
    by_cases hab : a = b
    · rw [if_pos hab] at hb
      exact absurd rfl hb
    · rw [if_neg hab] at hb
      exact h.handed b hb
  kept b session hb hcurrent := by
    change (s.coordinator.handoffs.erase a).get? b = some session.outputIds
    rw [Dict.get?_erase]
    by_cases hab : a = b
    · subst hab
      exact absurd ⟨hcurrent.session, hcurrent.active⟩ (hidle session)
    · rw [if_neg hab]
      exact h.kept b session hb ⟨hcurrent.session, hcurrent.active⟩
  queue_nodup := h.queue_nodup
  started_nodup := h.started_nodup
  begun := h.begun
  receipted := h.receipted

variable {attempt : AttemptID}

theorem Inv.handoffRetry {taskId : TaskID} {previous : AttemptID} {accepts : Bool} (h : Inv s) :
    Inv { s with
      coordinator := (s.coordinator.handoffRetry taskId previous attempt accepts).2 } := by
  have hretries : Retries s.coordinator previous attempt _ _ :=
    handoffRetry_retries taskId accepts
  generalize hcall : s.coordinator.handoffRetry taskId previous attempt accepts = call
    at hretries ⊢
  obtain ⟨result, coordinator⟩ := call
  cases hretries with
  | raised e => exact h
  | known => exact h
  | queued session hcurrent hnew hne htask =>
    refine (h.enqueued hcurrent hnew).drop ?_
    intro session' hcurrent'
    have hactive : s.coordinator.recovery.activeRecoveries.get? previous.taskId =
      some previous := hcurrent'.active
    rw [htask] at hactive
    exact hne (Option.some.inj (hactive.symm.trans hcurrent.active))

theorem Inv.close {t : TaskID} (h : Inv s) :
    Inv { s with coordinator := { s.coordinator with
      sessions := s.coordinator.sessions.erase t } } where
  coherent := h.coherent
  shaped := h.shaped
  sessions u session hsession := by
    change (s.coordinator.sessions.erase t).get? u = some session at hsession
    exact h.sessions u session (Dict.of_get?_erase hsession).2
  queued a ha := ⟨(h.queued a ha).known, (h.queued a ha).behind⟩
  started a ha := ⟨(h.started a ha).known, (h.started a ha).behind⟩
  handed := h.handed
  kept a session ha hcurrent := by
    have hsession : (s.coordinator.sessions.erase t).get? a.taskId = some session :=
      hcurrent.session
    exact h.kept a session ha ⟨(Dict.of_get?_erase hsession).2, hcurrent.active⟩
  queue_nodup := h.queue_nodup
  started_nodup := h.started_nodup
  begun := h.begun
  receipted := h.receipted

theorem Inv.complete {taskId : TaskID} (h : Inv s) :
    Inv { s with coordinator := (s.coordinator.complete taskId attempt).2 } := by
  have hcompletes : Completes s.coordinator taskId attempt _ _ := complete_completes
  generalize hcall : s.coordinator.complete taskId attempt = call at hcompletes ⊢
  obtain ⟨result, coordinator⟩ := call
  cases hcompletes with
  | raised e => exact h
  | «open» => exact h
  | closed record hrecord hattempt =>
    refine (h.close (t := taskId)).drop ?_
    intro session hcurrent
    have hsession : (s.coordinator.sessions.erase taskId).get? attempt.taskId = some session :=
      hcurrent.session
    have htask : taskId = attempt.taskId := by
      rw [← hattempt, record.attempt_task, h.coherent.filed _ _ hrecord]
    rw [Dict.get?_erase, if_pos htask] at hsession
    cases hsession

/-! ## Runs -/

theorem Inv.owner {owner : ObjectOwnerTable ε} (h : Inv s) :
    Inv { s with coordinator := { s.coordinator with owner := owner } } where
  coherent := h.coherent
  shaped := h.shaped
  sessions := h.sessions
  queued a ha := ⟨(h.queued a ha).known, (h.queued a ha).behind⟩
  started a ha := ⟨(h.started a ha).known, (h.started a ha).behind⟩
  handed := h.handed
  kept a session ha hcurrent := h.kept a session ha ⟨hcurrent.session, hcurrent.active⟩
  queue_nodup := h.queue_nodup
  started_nodup := h.started_nodup
  begun := h.begun
  receipted := h.receipted

theorem Inv.step [BEq ε] (h : Inv s) (a : Action ε) (hregular : s.Regular a) :
    Inv (s.step args a) := by
  cases a with
  | prepare o preflightOwner =>
    change Inv (match s.coordinator.prepare args o preflightOwner with
      | .error _ => s
      | .ok prepared => { s with prepared := prepared :: s.prepared })
    cases hprepare : s.coordinator.prepare args o preflightOwner with
    | error e => exact h
    | ok prepared => exact h.prepare (prepare_spec hprepare) hregular
  | commit prepared =>
    change Inv (if prepared ∈ s.prepared then _ else s)
    by_cases hmem : prepared ∈ s.prepared
    · rw [if_pos hmem]
      exact h.commit hmem
    · rw [if_neg hmem]
      exact h
  | handoff outcome accepts =>
    change Inv (if outcome ∈ s.outcomes then _ else s)
    by_cases hmem : outcome ∈ s.outcomes
    · rw [if_pos hmem]
      exact h.handoff hmem
    · rw [if_neg hmem]
      exact h
  | handoffRetry taskId previous attempt accepts => exact h.handoffRetry
  | complete taskId attempt => exact h.complete
  | owner op => exact h.owner
  | recovery op =>
    refine h.recover (evolves_step h.coherent op ?_)
    intro t hknown hgone
    obtain ⟨prepared, hmem, htask⟩ := hknown
    exact hregular prepared hmem t htask hgone

/-- Whatever the callers do, the invariant holds along every regular run. -/
theorem Inv.run [BEq ε] {actions : List (Action ε)}
    (h : Admissible (ReconstructionRun.step args) Regular empty actions) :
    Inv (run (ReconstructionRun.step args) empty actions) :=
  h.invariant (p := Inv) (fun _ a hregular hs => hs.step a hregular) inv_empty

/-! ## What the coordinator guarantees -/

/-- A committed START: both authorities stand at the new attempt, which was not started
before, and the recovery manager moved by one attempt. -/
structure Advances (s : ReconstructionRun ε) (plan : ReconstructionPlan)
    (coordinator : ReconstructionCoordinator ε) : Prop where
  fresh : plan.attemptId ∉ s.started
  outputs : plan.outputIds ≠ []
  owner : ∀ o ∈ plan.outputIds, ∃ before after, s.coordinator.owner.entry o = .ok before ∧
    coordinator.owner.entry o = .ok after ∧ after.currentAttempt = some plan.attemptId
  recovery : ∃ before after, s.coordinator.recovery.tasks.get? plan.taskId = some before ∧
    coordinator.recovery.tasks.get? plan.taskId = some after ∧
    before.currentAttempt.next = plan.attemptId ∧ after.currentAttempt = plan.attemptId
  active : coordinator.recovery.activeRecoveries.get? plan.taskId = some plan.attemptId

theorem owner_advanced {owner owner' : ObjectOwnerTable ε} {plan : TaskOutputAttemptAdvancePlan}
    (h : owner.commitAdvanceTaskOutputs plan = .ok (true, owner')) :
    ∃ before after, owner.entry plan.expected.output = .ok before ∧
      owner'.entry plan.expected.output = .ok after ∧
      after.currentAttempt = some plan.nextExecution.attemptId := by
  obtain ⟨e, hadmits, hanswer⟩ := ObjectOwnerTable.commitAdvanceTaskOutputs_cases h
  have hkey := owner.keyed _ e hadmits.entry
  cases hanswer with
  | replayed hallowed hreplay hsame =>
    subst hsame
    have hentry := ObjectOwnerTable.entry_eq_ok.mpr hadmits.entry
    exact ⟨e, e, hentry, hentry, hreplay⟩
  | rewritten hallowed e' hrestarts hset =>
    subst hset
    refine ⟨e, e', ObjectOwnerTable.entry_eq_ok.mpr hadmits.entry, ?_,
      congrArg (·.currentAttempt) hrestarts.result⟩
    rw [ObjectOwnerTable.entry_eq_ok, ObjectOwnerTable.get?_setEntry,
      hrestarts.frame.objectId, hkey, if_pos rfl]

theorem Inv.advances {outcome : ReconstructionOutcome} {coordinator : ReconstructionCoordinator ε}
    (h : Inv s) (hmem : prepared ∈ s.prepared)
    (hcall : s.coordinator.commitPrepared prepared = (.ok outcome, coordinator))
    (hdisposition : outcome.disposition = .start) :
    ∃ plan, outcome.plan = some plan ∧ outcome.decision.attemptId = some plan.attemptId ∧
      s.Advances plan coordinator := by
  have hshaped := (h.shaped prepared hmem).1
  have hcommits : Commits s.coordinator prepared _ _ := commitPrepared_commits hshaped
  rw [hcall] at hcommits
  cases hcommits with
  | joined outcome hjoin =>
    rw [hjoin] at hdisposition
    cases hdisposition
  | failed hfailed =>
    rw [hfailed] at hdisposition
    cases hdisposition
  | started hstart plan recoveryPlan ownerPlan hplan hrecoveryPlan hownerPlan hsession hvalid
      owner howner recovery hcommit =>
      obtain ⟨plan', recoveryPlan', hspec⟩ := hshaped.start hstart
      cases hspec.planned.symm.trans hplan
      cases hspec.recovery.symm.trans hrecoveryPlan
      have hdecision := hshaped.decided recoveryPlan hrecoveryPlan
      have hinv : Inv { s with
          coordinator := { s.coordinator with
            owner := owner
            recovery := recovery
            sessions := s.coordinator.sessions.set plan.taskId plan }
          started := s.started ++ [plan.attemptId] } := h.start hmem hspec hvalid hcommit
      obtain ⟨t, r, r', htask, hr, -, hattempt, hnext, hinstalls⟩ := started_of_validated hvalid
        (hdecision ▸ hspec.action) (hdecision ▸ hspec.attempt) hcommit
      rw [hdecision, hspec.task] at htask
      cases htask
      obtain ⟨hadvance, -, houtputs, -⟩ := hspec.advance ownerPlan hownerPlan
      refine ⟨plan, hplan, hspec.attempt, ?_, ?_, ?_, ⟨r, r', hr, ?_, hnext.symm, hattempt⟩, ?_⟩
      · intro hold
        have hnodup := (List.nodup_append.mp hinv.started_nodup).2.2
        exact hnodup _ hold _ List.mem_cons_self rfl
      · rw [houtputs]
        exact List.cons_ne_nil _ _
      · intro o ho
        rw [houtputs, List.mem_singleton] at ho
        subst ho
        rw [← hadvance]
        exact owner_advanced howner
      · exact (hinstalls.tasks _).trans (if_pos rfl)
      · exact (hinstalls.active _).trans (if_pos rfl)

/-- Over every regular run: STARTs move both authorities to one new attempt each, an attempt
is queued once, receipts are for queued attempts, and a call that raises changes nothing. -/
structure Guarantees (s : ReconstructionRun ε) : Prop where
  starts : ∀ prepared ∈ s.prepared, ∀ outcome coordinator,
    s.coordinator.commitPrepared prepared = (.ok outcome, coordinator) →
    outcome.disposition = .start → ∃ plan, outcome.plan = some plan ∧
      outcome.decision.attemptId = some plan.attemptId ∧ s.Advances plan coordinator
  started_once : s.started.Nodup
  queued_once : s.coordinator.queue.Nodup
  receipts : ∀ outcome ∈ s.outcomes, ∀ identity ∈ outcome.admission,
    ∃ a ∈ s.coordinator.queue, identity.attemptId = some a
  commit_raises : ∀ prepared ∈ s.prepared, ∀ e coordinator,
    s.coordinator.commitPrepared prepared = (.error e, coordinator) → coordinator = s.coordinator
  handoff_raises : ∀ outcome accepts e coordinator,
    s.coordinator.handoff outcome accepts = (.error e, coordinator) → coordinator = s.coordinator
  retry_raises : ∀ taskId previous attempt accepts e coordinator,
    s.coordinator.handoffRetry taskId previous attempt accepts = (.error e, coordinator) →
      coordinator = s.coordinator
  complete_raises : ∀ taskId attempt e coordinator,
    s.coordinator.complete taskId attempt = (.error e, coordinator) → coordinator = s.coordinator

theorem Inv.guarantees (h : Inv s) : s.Guarantees where
  starts prepared hmem outcome coordinator hcall hstart := h.advances hmem hcall hstart
  started_once := h.started_nodup
  queued_once := h.queue_nodup
  receipts outcome houtcome identity hadmission :=
    (h.receipted outcome houtcome identity hadmission).queued
  commit_raises prepared hmem e coordinator hcall := by
    have hcommits : Commits s.coordinator prepared _ _ :=
      commitPrepared_commits (h.shaped prepared hmem).1
    rw [hcall] at hcommits
    cases hcommits
    rfl
  handoff_raises outcome accepts e coordinator hcall := by
    have hhands : Hands s.coordinator outcome _ _ := handoff_hands accepts
    rw [hcall] at hhands
    cases hhands
    rfl
  retry_raises taskId previous attempt accepts e coordinator hcall := by
    have hretries : Retries s.coordinator previous attempt _ _ :=
      handoffRetry_retries taskId accepts
    rw [hcall] at hretries
    cases hretries
    rfl
  complete_raises taskId attempt e coordinator hcall := by
    have hcompletes : Completes s.coordinator taskId attempt _ _ := complete_completes
    rw [hcall] at hcompletes
    cases hcompletes
    rfl

/-- The runs of a coordinator whose callers keep to the contract. -/
structure CoordinatorSpec (ε : Type) [BEq ε] (args : TaskArguments) : Prop where
  guaranteed : ∀ actions : List (Action ε),
    Admissible (ReconstructionRun.step args) Regular empty actions →
    (run (ReconstructionRun.step args) empty actions).Guarantees

end ReconstructionRun

end MiniRay
