import MiniRay.Control.ActorSpec

/-! # Control planes without an active Actor -/

namespace MiniRay

open Run

/-! ## Nothing is active -/

namespace ActorRegistry

variable {actors actors' : ActorRegistry} {exit : ActorWorkerExitRecord} {node : NodeSnapshot}

/-- The exit would start a restart, were it admitted. -/
structure Restarts (actors : ActorRegistry) (exit : ActorWorkerExitRecord) (node : NodeSnapshot)
    (r : ActorRecord) : Prop where
  fresh : actors.exitDetections.get? exit.detectionId = none
  record : actors.actors.get? exit.actorId = some r
  state : r.state = .alive
  own : exit.generation = r.generation
  exited : r.Exited exit node
  budget : r.restartsUsed < r.request.maxRestarts

/-- No record becomes active. -/
def Settles (actors actors' : ActorRegistry) : Prop :=
  ∀ a r, actors'.actors.get? a = some r → actors.actors.get? a = some r ∨ r.state = .dead

theorem Settles.rfl : Settles actors actors := fun _ _ h => .inl h

theorem setRecord_settles {a : ActorID} {r : ActorRecord} (hdead : r.state = .dead) :
    Settles actors (actors.setRecord a r) := by
  intro x r' hr'
  by_cases hx : a = x
  · subst hx
    have hself : (actors.setRecord a r).actors.get? a = some r := Dict.get?_set_self _ _ _
    obtain rfl := Option.some.inj (hself.symm.trans hr')
    exact .inr hdead
  · have hother : (actors.setRecord a r).actors.get? x = actors.actors.get? x :=
      Dict.get?_set_of_ne _ _ hx
    exact .inl (hother.symm.trans hr')

theorem acceptWorkerExit_settles {restartAllowed : Bool}
    (hfenced : restartAllowed = true → ∀ r, ¬ actors.Restarts exit node r) :
    Settles actors (actors.acceptWorkerExit exit node restartAllowed).2 := by
  unfold acceptWorkerExit
  split
  · exact .rfl
  · rename_i hfresh
    split
    · exact .rfl
    · rename_i r hrecord
      split
      · exact .rfl
      · rename_i halive
        split
        · exact .rfl
        · split
          · exact .rfl
          · rename_i hown
            split
            · exact .rfl
            · rename_i hexited
              split
              · exact setRecord_settles rfl
              · rename_i hbudget
                rw [not_or, not_le] at hbudget
                have hallowed : restartAllowed = true := by simpa using hbudget.1
                exact absurd ⟨hfresh, hrecord, not_not.mp halive, not_not.mp hown,
                  not_not.mp hexited, hbudget.2⟩ (hfenced hallowed r)

theorem acceptWorkerExit_restarts {r : ActorRecord} (h : actors.Restarts exit node r) :
    ∃ r', (actors.acceptWorkerExit exit node true).2.actors.get? exit.actorId = some r' ∧
      r'.state = .restarting := by
  have hbudget : ¬ (true = false ∨ r.restartsUsed ≥ r.request.maxRestarts) := by
    have hleft := h.budget
    simp
    omega
  have hyoung : ¬ exit.generation.generation < r.generation.generation := by
    rw [h.own]
    exact lt_irrefl _
  refine ⟨r.startRestart exit h.own h.exited.epoch, ?_, rfl⟩
  unfold acceptWorkerExit
  simp only [h.fresh, h.record, ne_eq, h.state, not_true_eq_false, ite_false, if_neg hyoung]
  rw [dif_neg (not_not.mpr h.own), dif_neg (not_not.mpr h.exited), if_neg hbudget]
  exact Dict.get?_set_self _ _ _

end ActorRegistry

namespace ActorCoordinator

variable {s : ActorCoordinator} {actorId : ActorID} {action : ActorAction}

/-- Admission is closed, and no Actor is being created or restarted. -/
structure Settled (s : ActorCoordinator) : Prop where
  closed : s.admissionOpen = false
  inactive : ∀ a r, s.actors.actors.get? a = some r → r.state ≠ .creating ∧ r.state ≠ .restarting

/-- The section accepts an exit with a restart permission that was read before. -/
def Permitted (s : ActorCoordinator) (action : ActorAction) (exit : ActorWorkerExitRecord)
    (node : NodeSnapshot) : Prop :=
  ∃ input, s.taskOf action = some (.exitAdmitted exit node true, input)

@[simp] theorem resume_admissionOpen (s : ActorCoordinator) (tid : Nat) (thread : ActorThread) :
    (s.resume tid thread).admissionOpen = s.admissionOpen := by
  unfold resume
  split <;> rfl

@[simp] theorem resume_nodeFailurePublications (s : ActorCoordinator) (tid : Nat)
    (thread : ActorThread) :
    (s.resume tid thread).nodeFailurePublications = s.nodeFailurePublications := by
  unfold resume
  split <;> rfl

variable {t : ActorCoordinator}

theorem Settled.of (h : s.Settled) (hclosed : t.admissionOpen = false)
    (hsettles : ActorRegistry.Settles s.actors t.actors) : t.Settled where
  closed := hclosed
  inactive a r hr := by
    rcases hsettles a r hr with hold | hdead
    · exact h.inactive a r hold
    · rw [hdead]
      decide

variable {tid : Nat} {thread : ActorThread}

theorem Settled.task (h : s.Settled) (hinv : s.Inv) {task : ActorTask}
    (hthread : s.threads.get? tid = some thread) (htask : thread.task = some task) :
    (∃ exit node, task = .exitSeen exit node) ∨
      ∃ exit node restartAllowed, task = .exitAdmitted exit node restartAllowed := by
  have hholds := hinv.held tid thread task hthread htask
  cases task with
  | exitSeen exit node => exact .inl ⟨exit, node, rfl⟩
  | exitAdmitted exit node restartAllowed => exact .inr ⟨exit, node, restartAllowed, rfl⟩
  | begun =>
    obtain ⟨r, hrecord, _, hstate⟩ := hholds
    exact absurd hstate (h.inactive _ r hrecord).1
  | selected | targeted | reserving =>
    obtain ⟨r, hrecord, _, hstate, _⟩ := hholds
    exact absurd hstate (h.inactive _ r hrecord).1
  | installing | restartTarget | restartReserving | restartConfirming | restartPublishing =>
    obtain ⟨r, hrecord, hstate, _⟩ := hholds
    exact absurd hstate (h.inactive _ r hrecord).2

theorem Settled.unreserving (h : s.Settled) (hinv : s.Inv) {task : ActorTask}
    (hthread : s.threads.get? tid = some thread) (htask : thread.task = some task) :
    task.awaiting = none := by
  rcases h.task hinv hthread htask with ⟨exit, node, rfl⟩ | ⟨exit, node, restartAllowed, rfl⟩
  · rfl
  · rfl

theorem startCreate_settles (h : s.Settled) (request : CreateActorRequest) :
    (s.startCreate request).2 = s.actors := by
  unfold startCreate
  split
  · rfl
  · rename_i hadmitted
    have hknown : (s.actors.actors.get? request.actorId).isSome = true := by
      by_contra hunknown
      exact hadmitted ⟨h.closed, by simpa [ActorRegistry.contains] using hunknown⟩
    obtain ⟨r, hr⟩ := Option.isSome_iff_exists.mp hknown
    simp only [ActorRegistry.begin_, hr]
    by_cases hsame : r.request ≠ request
    · simp only [if_pos hsame]
    · simp only [if_neg hsame]
      split <;> rfl

theorem drainVisit_settles (h : s.Settled) (actorId : ActorID) :
    s.drainVisit actorId = (none, s.actors) := by
  unfold drainVisit
  cases hr : s.actors.actors.get? actorId with
  | none => simp [ActorRegistry.drainCandidate, hr]
  | some r =>
    obtain ⟨hcreating, hrestarting⟩ := h.inactive actorId r hr
    simp [ActorRegistry.drainCandidate, hr, hcreating, hrestarting]

theorem failVisit_settles (actorId : ActorID) (nodeId : NodeID) (error : String)
    (requireOwnerAck : Bool) :
    ActorRegistry.Settles s.actors (s.failVisit actorId nodeId error requireOwnerAck).actors := by
  unfold failVisit ActorRegistry.failActorOnNode
  by_cases herror : error = ""
  · simp only [herror, Checked.raiseIf, ite_true, bind, Except.bind]
    exact .rfl
  · simp only [herror, Checked.raiseIf, ite_false, bind, Except.bind]
    cases hr : s.actors.actors.get? actorId with
    | none => exact .rfl
    | some r =>
      dsimp only
      by_cases hspared : r.target ≠ some nodeId ∨ r.state = .dead
      · simp only [if_pos hspared, pure, Except.pure]
        exact .rfl
      · simp only [if_neg hspared, pure, Except.pure]
        exact ActorRegistry.setRecord_settles rfl

theorem failVisit_admissionOpen (actorId : ActorID) (nodeId : NodeID) (error : String)
    (requireOwnerAck : Bool) :
    (s.failVisit actorId nodeId error requireOwnerAck).admissionOpen = s.admissionOpen := by
  unfold failVisit
  split <;> rfl

theorem errandStep_settled (h : s.Settled) (tid : Nat) (input : ActorInput)
    (errand : ActorErrand) : (s.errandStep tid input errand).Settled := by
  have hresume : ∀ {t : ActorCoordinator} {thread : ActorThread}, t.admissionOpen = false →
      ActorRegistry.Settles s.actors t.actors → (t.resume tid thread).Settled := by
    intro t thread hclosed hsettles
    refine h.of ?_ ?_
    · rw [resume_admissionOpen, hclosed]
    · rw [resume_actors]
      exact hsettles
  cases errand with
  | none =>
    simp only [errandStep]
    exact hresume h.closed .rfl
  | committed nodeId error requireOwnerAck =>
    simp only [errandStep]
    exact hresume h.closed .rfl
  | draining later =>
    cases later with
    | nil =>
      simp only [errandStep]
      exact hresume h.closed .rfl
    | cons actorId later =>
      simp only [errandStep]
      split
      · exact h
      · rw [drainVisit_settles h]
        exact hresume h.closed .rfl
  | failing nodeId error requireOwnerAck later =>
    cases later with
    | nil =>
      simp only [errandStep]
      split
      · exact hresume h.closed .rfl
      · exact hresume h.closed .rfl
    | cons actorId later =>
      simp only [errandStep]
      split
      · exact h
      · refine hresume ?_ (failVisit_settles actorId nodeId error requireOwnerAck)
        rw [failVisit_admissionOpen, h.closed]

theorem errandStep_admissionOpen (tid : Nat) (input : ActorInput) (errand : ActorErrand)
    (h : s.admissionOpen = false) : (s.errandStep tid input errand).admissionOpen = false := by
  cases errand with
  | none => simpa [errandStep] using h
  | committed nodeId error requireOwnerAck => simpa [errandStep] using h
  | draining later =>
    cases later with
    | nil => simpa [errandStep, flush] using h
    | cons actorId later =>
      simp only [errandStep]
      split
      · exact h
      · rw [resume_admissionOpen]
        exact h
  | failing nodeId error requireOwnerAck later =>
    cases later with
    | nil =>
      simp only [errandStep, resume_admissionOpen]
      split <;> exact h
    | cons actorId later =>
      simp only [errandStep]
      split
      · exact h
      · rw [resume_admissionOpen, failVisit_admissionOpen, h]

variable {input : ActorInput} {errand : ActorErrand}

theorem stepTask_settles (h : s.Settled) (hinv : s.Inv) {task : ActorTask}
    (hthread : s.threads.get? tid = some ⟨some task, errand⟩)
    (hfenced : ∀ exit node, task = .exitAdmitted exit node true →
      ∀ r, ¬ s.actors.Restarts exit node r) :
    ActorRegistry.Settles s.actors (stepTask s.nodes s.admissionOpen s.actors input task).2 := by
  rcases h.task hinv hthread rfl with ⟨exit, node, rfl⟩ | ⟨exit, node, restartAllowed, rfl⟩
  · exact .rfl
  · have hsettles : ActorRegistry.Settles s.actors
        (s.actors.acceptWorkerExit exit node restartAllowed).2 :=
      ActorRegistry.acceptWorkerExit_settles fun hallowed => by
        subst hallowed
        exact hfenced exit node rfl
    have hsame : (stepTask s.nodes s.admissionOpen s.actors input
        (.exitAdmitted exit node restartAllowed)).2 =
          (s.actors.acceptWorkerExit exit node restartAllowed).2 := by
      simp only [stepTask]
      split
      · rename_i haccept
        rw [haccept]
        split <;> rfl
      · rename_i haccept
        rw [haccept]
        split <;> rfl
      · rename_i haccept
        rw [haccept]
    rw [hsame]
    exact hsettles

theorem commitNodeDeath_kept (tid : Nat) (request : ReportNodeDeath)
    (error : NodeDeathReason → String) :
    (s.commitNodeDeath tid request error).actors = s.actors ∧
      (s.commitNodeDeath tid request error).admissionOpen = s.admissionOpen := by
  unfold commitNodeDeath
  split
  split
  · exact ⟨rfl, rfl⟩
  · exact ⟨by rw [resume_actors], by rw [resume_admissionOpen]⟩

theorem spawn_kept (tid : Nat) (actorId : ActorID) {start : Option ActorTask × ActorRegistry}
    (hstart : start.2 = s.actors) : (s.spawn tid actorId start).actors = s.actors ∧
      (s.spawn tid actorId start).admissionOpen = s.admissionOpen := by
  unfold spawn
  split
  · exact ⟨rfl, rfl⟩
  · exact ⟨by rw [resume_actors, hstart], by rw [resume_admissionOpen]⟩

theorem Settled.step (h : s.Settled) (hinv : s.Inv) (action : ActorAction)
    (hfenced : ∀ exit node, s.Permitted action exit node → ∀ r, ¬ s.actors.Restarts exit node r) :
    (ActorCoordinator.step s action).Settled := by
  have hkept : ∀ {t : ActorCoordinator}, t.actors = s.actors ∧ t.admissionOpen = s.admissionOpen →
      t.Settled := by
    intro t ht
    refine h.of (ht.2.trans h.closed) ?_
    rw [ht.1]
    exact .rfl
  cases action with
  | registerNode nodeId address nodePid hpid =>
    simp only [ActorCoordinator.step]
    split
    · exact h
    · exact hkept ⟨rfl, rfl⟩
  | create tid request => exact hkept (spawn_kept tid _ (startCreate_settles h request))
  | reportWorkerExit tid exit => exact hkept (spawn_kept tid _ rfl)
  | drainOnce tid =>
    simp only [ActorCoordinator.step]
    split
    · exact h
    · refine h.of (by rw [resume_admissionOpen]) ?_
      rw [resume_actors]
      exact .rfl
  | reportNodeDeath tid request =>
    simp only [ActorCoordinator.step]
    split
    · exact h
    · exact hkept (commitNodeDeath_kept tid request _)
  | unregisterNode tid request =>
    simp only [ActorCoordinator.step]
    split
    · exact h
    · exact hkept (commitNodeDeath_kept tid request.report _)
  | advance tid input =>
    simp only [ActorCoordinator.step, advance]
    cases hthread : s.threads.get? tid with
    | none => exact h
    | some thread =>
      obtain ⟨task, errand⟩ := thread
      cases task with
      | none => exact errandStep_settled h tid input errand
      | some task =>
        refine h.of ?_ ?_
        · rw [resume_admissionOpen]
          exact h.closed
        · rw [resume_actors]
          refine stepTask_settles h hinv hthread fun exit node htask => ?_
          subst htask
          exact hfenced exit node ⟨input, by simp [taskOf, hthread]⟩

theorem restarts_step {exit : ActorWorkerExitRecord} {node : NodeSnapshot} {r : ActorRecord}
    (hpermitted : s.Permitted action exit node) (hrestarts : s.actors.Restarts exit node r) :
    ∃ r', (s.step action).actors.actors.get? exit.actorId = some r' ∧
      r'.state = .restarting := by
  obtain ⟨input, htask⟩ := hpermitted
  obtain ⟨r', hr', hstate⟩ := ActorRegistry.acceptWorkerExit_restarts hrestarts
  refine ⟨r', ?_, hstate⟩
  unfold taskOf at htask
  split at htask
  · rename_i tid input'
    split at htask
    · rename_i task errand hthread
      cases htask
      simp only [ActorCoordinator.step, advance, hthread, resume_actors]
      simp only [stepTask]
      split
      · rename_i haccept
        rw [haccept] at hr'
        split <;> exact hr'
      · rename_i haccept
        rw [haccept] at hr'
        split <;> exact hr'
      · rename_i haccept
        rw [haccept] at hr'
        exact hr'
    · cases htask
  · cases htask

/-! ## Errands and queued installs -/

inductive ErrandKind
  | none
  | draining
  | failing
  deriving DecidableEq

def errandKind : ActorErrand → ErrandKind
  | .none => .none
  | .draining _ => .draining
  | .committed _ _ _ | .failing _ _ _ _ => .failing

def Deadly : ActorAction → Prop
  | .reportNodeDeath _ _ | .unregisterNode _ _ => True
  | _ => False

inductive ErrandOrigin (s : ActorCoordinator) (action : ActorAction) (x : Nat) :
    ErrandKind → Prop
  | none : ErrandOrigin s action x .none
  | kept {thread : ActorThread} (old : s.threads.get? x = some thread) :
      ErrandOrigin s action x (errandKind thread.errand)
  | drained {tid : Nat} (drains : action = .drainOnce tid) : ErrandOrigin s action x .draining
  | failed (dies : Deadly action) : ErrandOrigin s action x .failing

variable {x : Nat}

theorem origin_resume {other : ActorThread} (hthreads : t.threads = s.threads)
    (hnew : ErrandOrigin s action tid (errandKind thread.errand))
    (h : (t.resume tid thread).threads.get? x = some other) :
    ErrandOrigin s action x (errandKind other.errand) := by
  by_cases hx : tid = x
  · subst hx
    obtain rfl := resume_threads_self _ h
    exact hnew
  · rw [resume_threads_of_ne _ _ hx, hthreads] at h
    exact .kept h

theorem errandStep_origin (hthread : s.threads.get? tid = some ⟨none, errand⟩)
    (h : (s.errandStep tid input errand).threads.get? x = some thread) :
    ErrandOrigin s action x (errandKind thread.errand) := by
  have hold : ErrandOrigin s action tid (errandKind errand) := .kept hthread
  cases errand with
  | none => exact origin_resume rfl .none h
  | committed nodeId error requireOwnerAck => exact origin_resume rfl hold h
  | draining later =>
    cases later with
    | nil => exact origin_resume (t := s.flush input.acknowledged) rfl .none h
    | cons actorId later =>
      simp only [errandStep] at h
      split at h
      · exact .kept h
      · refine origin_resume ?_ hold h
        rfl
  | failing nodeId error requireOwnerAck later =>
    cases later with
    | nil =>
      simp only [errandStep] at h
      split at h
      · exact origin_resume (t := s.flush input.acknowledged) rfl .none h
      · exact origin_resume rfl .none h
    | cons actorId later =>
      simp only [errandStep] at h
      split at h
      · exact .kept h
      · exact origin_resume (failVisit_rest actorId nodeId error requireOwnerAck).2 hold h

theorem step_origin (s : ActorCoordinator) (action : ActorAction)
    (h : (s.step action).threads.get? x = some thread) :
    ErrandOrigin s action x (errandKind thread.errand) := by
  have hspawn : ∀ {tid actorId start}, (s.spawn tid actorId start).threads.get? x = some thread →
      ErrandOrigin s action x (errandKind thread.errand) := by
    intro tid actorId start hspawned
    unfold spawn at hspawned
    split at hspawned
    · exact .kept hspawned
    · refine origin_resume ?_ .none hspawned
      rfl
  have hdies : ∀ {tid request error}, Deadly action →
      (s.commitNodeDeath tid request error).threads.get? x = some thread →
        ErrandOrigin s action x (errandKind thread.errand) := by
    intro tid request error hdeadly hcommitted
    unfold commitNodeDeath at hcommitted
    split at hcommitted
    split at hcommitted
    · exact .kept hcommitted
    · refine origin_resume ?_ (.failed hdeadly) hcommitted
      rfl
  cases action with
  | registerNode nodeId address nodePid hpid =>
    simp only [step] at h
    split at h
    · exact .kept h
    · exact .kept h
  | create tid request => exact hspawn h
  | reportWorkerExit tid exit => exact hspawn h
  | drainOnce tid =>
    simp only [step] at h
    split at h
    · exact .kept h
    · refine origin_resume ?_ (.drained rfl) h
      rfl
  | reportNodeDeath tid request =>
    simp only [step] at h
    split at h
    · exact .kept h
    · exact hdies trivial h
  | unregisterNode tid request =>
    simp only [step] at h
    split at h
    · exact .kept h
    · exact hdies trivial h
  | advance tid input =>
    simp only [step, advance] at h
    split at h
    · exact .kept h
    · rename_i errand hthread
      exact errandStep_origin hthread h
    · rename_i task errand hthread
      have hold : ErrandOrigin s (.advance tid input) tid (errandKind errand) := .kept hthread
      refine origin_resume ?_ hold h
      rfl

/-- The action visits the Actor for a failed Node, whose owner has to acknowledge. -/
def Visits (s : ActorCoordinator) (action : ActorAction) (actorId : ActorID) (nodeId : NodeID) :
    Prop :=
  ∃ tid input error later, action = .advance tid input ∧
    s.threads.get? tid = some ⟨none, .failing nodeId error true (actorId :: later)⟩

variable {a : ActorID} {snapshot : ActorSnapshot}

theorem failVisit_queued {nodeId : NodeID} {error : String} {requireOwnerAck : Bool}
    (h : (s.failVisit actorId nodeId error requireOwnerAck).nodeFailurePublications.get? a =
      some snapshot) :
    s.nodeFailurePublications.get? a = some snapshot ∨
        a = actorId ∧ requireOwnerAck = true := by
  unfold failVisit at h
  split at h
  · exact .inl h
  · exact .inl h
  · dsimp only at h
    by_cases hack : requireOwnerAck = true
    · rw [if_pos hack, Dict.get?_set] at h
      split at h
      · rename_i ha
        exact .inr ⟨ha.symm, hack⟩
      · exact .inl h
    · rw [if_neg hack] at h
      exact .inl (Dict.of_get?_erase h).2

theorem flush_queued {acknowledged : List ActorID}
    (h : (s.flush acknowledged).nodeFailurePublications.get? a = some snapshot) :
    s.nodeFailurePublications.get? a = some snapshot :=
  (Dict.get?_filter_eq_some.mp h).1

theorem errandStep_queued (hthread : s.threads.get? tid = some ⟨none, errand⟩)
    (h : (s.errandStep tid input errand).nodeFailurePublications.get? a = some snapshot) :
    s.nodeFailurePublications.get? a = some snapshot ∨
      ∃ nodeId, s.Visits (.advance tid input) a nodeId := by
  cases errand with
  | none =>
    left
    simpa [errandStep] using h
  | committed nodeId error requireOwnerAck =>
    left
    simpa [errandStep] using h
  | draining later =>
    left
    cases later with
    | nil =>
      simp only [errandStep, resume_nodeFailurePublications] at h
      exact flush_queued h
    | cons actorId later =>
      simp only [errandStep] at h
      split at h
      · exact h
      · rw [resume_nodeFailurePublications] at h
        exact h
  | failing nodeId error requireOwnerAck later =>
    cases later with
    | nil =>
      left
      simp only [errandStep, resume_nodeFailurePublications] at h
      split at h
      · exact flush_queued h
      · exact h
    | cons actorId later =>
      simp only [errandStep] at h
      split at h
      · exact .inl h
      · rw [resume_nodeFailurePublications] at h
        rcases failVisit_queued h with hold | ⟨rfl, rfl⟩
        · exact .inl hold
        · exact .inr ⟨nodeId, tid, input, error, later, rfl, hthread⟩

theorem step_queued (s : ActorCoordinator) (action : ActorAction)
    (h : (s.step action).nodeFailurePublications.get? a = some snapshot) :
    s.nodeFailurePublications.get? a = some snapshot ∨ ∃ nodeId, s.Visits action a nodeId := by
  have hdeath : ∀ tid request error,
      (s.commitNodeDeath tid request error).nodeFailurePublications =
        s.nodeFailurePublications := by
    intro tid request error
    unfold commitNodeDeath
    split
    split
    · rfl
    · rw [resume_nodeFailurePublications]
  have hspawn : ∀ tid actorId start,
      (s.spawn tid actorId start).nodeFailurePublications = s.nodeFailurePublications := by
    intro tid actorId start
    unfold spawn
    split
    · rfl
    · rw [resume_nodeFailurePublications]
  cases action with
  | registerNode nodeId address nodePid hpid =>
    simp only [step] at h
    split at h <;> exact .inl h
  | create tid request =>
    left
    rw [← hspawn]
    exact h
  | reportWorkerExit tid exit =>
    left
    rw [← hspawn]
    exact h
  | drainOnce tid =>
    left
    simp only [step] at h
    split at h
    · exact h
    · rw [resume_nodeFailurePublications] at h
      exact h
  | reportNodeDeath tid request =>
    left
    simp only [step] at h
    split at h
    · exact h
    · rw [hdeath] at h
      exact h
  | unregisterNode tid request =>
    left
    simp only [step] at h
    split at h
    · exact h
    · rw [hdeath] at h
      exact h
  | advance tid input =>
    simp only [step, advance] at h
    split at h
    · exact .inl h
    · rename_i errand hthread
      exact errandStep_queued hthread h
    · rw [resume_nodeFailurePublications] at h
      exact .inl h

theorem step_admissionOpen (s : ActorCoordinator) (action : ActorAction)
    (h : s.admissionOpen = false) : (s.step action).admissionOpen = false := by
  have hspawn : ∀ tid actorId start, (s.spawn tid actorId start).admissionOpen = false := by
    intro tid actorId start
    unfold spawn
    split
    · exact h
    · rw [resume_admissionOpen]
      exact h
  have hdeath : ∀ tid request error, (s.commitNodeDeath tid request error).admissionOpen = false :=
    fun tid request error => (commitNodeDeath_kept tid request error).2.trans h
  cases action with
  | registerNode nodeId address nodePid hpid =>
    simp only [step]
    split <;> exact h
  | create tid request => exact hspawn _ _ _
  | reportWorkerExit tid exit => exact hspawn _ _ _
  | drainOnce tid =>
    simp only [step]
    split
    · exact h
    · rw [resume_admissionOpen]
  | reportNodeDeath tid request =>
    simp only [step]
    split
    · exact h
    · exact hdeath _ _ _
  | unregisterNode tid request =>
    simp only [step]
    split
    · exact h
    · exact hdeath _ _ _
  | advance tid input =>
    simp only [step, advance]
    split
    · exact h
    · exact errandStep_admissionOpen tid input _ h
    · rw [resume_admissionOpen]
      exact h

end ActorCoordinator

end MiniRay
