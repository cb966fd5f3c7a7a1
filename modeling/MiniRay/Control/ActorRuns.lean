import MiniRay.Control.ActorCoupling

/-! Every action moves the record of one Actor at most, and only for the thread that holds its lock.
-/

namespace MiniRay

open Checked Run

namespace ActorCoordinator

variable {s : ActorCoordinator} {tid : Nat} {actorId : ActorID}

/-- The section an action runs, if a thread is inside a call. -/
def taskOf (s : ActorCoordinator) : ActorAction → Option (ActorTask × ActorInput)
  | .advance tid input => match s.threads.get? tid with
    | some ⟨some task, _⟩ => some (task, input)
    | _ => none
  | _ => none

def context (s : ActorCoordinator) (action : ActorAction) : ActorRecord.Context :=
  match s.taskOf action with
  | some (task, input) => task.context input
  | none => ⟨fun _ => False, fun _ _ => False⟩

/-! ## Threads and locks -/

theorem resume_threads_of_ne (s : ActorCoordinator) {x : Nat} (thread : ActorThread) (h : tid ≠ x) :
    (s.resume tid thread).threads.get? x = s.threads.get? x := by
  unfold resume
  split
  · exact Dict.get?_erase_of_ne _ h
  · exact Dict.get?_set_of_ne _ _ h

variable {thread : ActorThread}

theorem resume_threads_self (s : ActorCoordinator) {thread' : ActorThread}
    (h : (s.resume tid thread).threads.get? tid = some thread') : thread' = thread := by
  unfold resume at h
  split at h
  · simp at h
  · rw [Dict.get?_set_self] at h
    exact (Option.some.inj h).symm

@[simp] theorem resume_actors (s : ActorCoordinator) (tid : Nat) (thread : ActorThread) :
    (s.resume tid thread).actors = s.actors := by
  unfold resume
  split <;> rfl

@[simp] theorem resume_nodes (s : ActorCoordinator) (tid : Nat) (thread : ActorThread) :
    (s.resume tid thread).nodes = s.nodes := by
  unfold resume
  split <;> rfl

theorem free_of_unlocked (h : s.locked actorId = false) {x : Nat} {task : ActorTask}
    (hthread : s.threads.get? x = some thread) (htask : thread.task = some task) :
    task.actorId ≠ actorId := by
  intro heq
  have hlocked : s.locked actorId = true :=
    List.any_eq_true.mpr ⟨thread, Dict.mem_values_iff.mpr ⟨x, hthread⟩, by simp [htask, heq]⟩
  rw [h] at hlocked
  cases hlocked

structure Inv (s : ActorCoordinator) : Prop where
  nodes : s.nodes.Inv
  records : s.actors.Inv
  held : ∀ x thread task, s.threads.get? x = some thread → thread.task = some task →
    task.Holds (s.actors.actors.get? task.actorId)
  exclusive : ∀ x y thread thread' task task', s.threads.get? x = some thread →
    s.threads.get? y = some thread' → thread.task = some task → thread'.task = some task' →
      task.actorId = task'.actorId → x = y

theorem inv_new : Inv {} where
  nodes := NodeRegistry.inv_new
  records _ _ h := by simp at h
  held _ _ _ h := by simp at h
  exclusive _ _ _ _ _ _ h := by simp at h

variable {t : ActorCoordinator}

theorem Inv.resumed (h : s.Inv) (hnodes : t.nodes.Inv) (hthreads : t.threads = s.threads)
    (hrecords : t.actors.Inv)
    (hkept : ∀ x other task, x ≠ tid → s.threads.get? x = some other → other.task = some task →
      t.actors.actors.get? task.actorId = s.actors.actors.get? task.actorId)
    (htask : ∀ task, thread.task = some task → task.Holds (t.actors.actors.get? task.actorId) ∧
      ∀ x other task', x ≠ tid → s.threads.get? x = some other → other.task = some task' →
      task'.actorId ≠ task.actorId) :
    (t.resume tid thread).Inv where
  nodes := by
    rw [resume_nodes]
    exact hnodes
  records := by
    rw [resume_actors]
    exact hrecords
  held x other task hother hheld := by
    rw [resume_actors]
    by_cases hx : tid = x
    · subst hx
      obtain rfl := resume_threads_self _ hother
      exact (htask task hheld).1
    · rw [resume_threads_of_ne _ _ hx, hthreads] at hother
      rw [hkept x other task (Ne.symm hx) hother hheld]
      exact h.held x other task hother hheld
  exclusive x y other other' task task' hother hother' hheld hheld' hactor := by
    by_cases hx : tid = x
    · by_cases hy : tid = y
      · exact hx.symm.trans hy
      · subst hx
        obtain rfl := resume_threads_self _ hother
        rw [resume_threads_of_ne _ _ hy, hthreads] at hother'
        exact absurd hactor.symm ((htask task hheld).2 y other' task' (Ne.symm hy) hother' hheld')
    · rw [resume_threads_of_ne _ _ hx, hthreads] at hother
      by_cases hy : tid = y
      · subst hy
        obtain rfl := resume_threads_self _ hother'
        exact absurd hactor ((htask task' hheld').2 x other task (Ne.symm hx) hother hheld)
      · rw [resume_threads_of_ne _ _ hy, hthreads] at hother'
        exact h.exclusive x y other other' task task' hother hother' hheld hheld' hactor

theorem Inv.update (h : s.Inv) {context : ActorRecord.Context} (hnodes : t.nodes = s.nodes)
    (hthreads : t.threads = s.threads)
    (hfree : ∀ x thread task, x ≠ tid → s.threads.get? x = some thread → thread.task = some task →
      task.actorId ≠ actorId)
    (hmoves : ActorRegistry.Moves context actorId s.actors t.actors)
    (htask : ∀ task, thread.task = some task → task.actorId = actorId ∧
      task.Holds (t.actors.actors.get? actorId)) :
    (t.resume tid thread).Inv := by
  refine h.resumed (hnodes ▸ h.nodes) hthreads (hmoves.inv h.records) ?_ ?_
  · intro x other task hx hother hheld
    exact hmoves.others _ (hfree x other task hx hother hheld)
  · intro task hheld
    obtain ⟨rfl, hholds⟩ := htask task hheld
    exact ⟨hholds, hfree⟩

theorem Inv.idle (h : s.Inv) (hnodes : t.nodes.Inv) (hthreads : t.threads = s.threads)
    (hactors : t.actors = s.actors) (htask : thread.task = none) : (t.resume tid thread).Inv :=
  h.resumed hnodes hthreads (hactors ▸ h.records) (fun _ _ _ _ _ _ => by rw [hactors])
    fun _ hheld => by simp [htask] at hheld

/-! ## The sections outside a call -/

variable {context : ActorRecord.Context}

/-- What a call's first section, or a visit, does to its Actor. -/
structure Starts (context : ActorRecord.Context) (s : ActorCoordinator) (actorId : ActorID)
    (start : Option ActorTask × ActorRegistry) : Prop where
  moves : ActorRegistry.Moves context actorId s.actors start.2
  task : ∀ task, start.1 = some task → task.actorId = actorId ∧
    task.Holds (start.2.actors.get? actorId)
  unselected : ∀ task, start.1 = some task → task.selectedNode = none ∧ task.carried = none

variable {actors : ActorRegistry}

theorem Starts.quit (h : ActorRegistry.Moves context actorId s.actors actors) :
    Starts context s actorId (none, actors) where
  moves := h
  task _ h := by cases h
  unselected _ h := by cases h

variable {request : CreateActorRequest}

theorem begin_moves {fresh : Bool} (h : s.actors.begin_ request = .ok (fresh, actors)) :
    ActorRegistry.Moves context request.actorId s.actors actors ∧
      ∃ r, actors.actors.get? request.actorId = some r ∧ r.request = request ∧
        (fresh = true → r.state = .creating) := by
  unfold ActorRegistry.begin_ at h
  split at h
  · rename_i hnone
    cases h
    refine ⟨⟨fun _ hother => Dict.get?_set_of_ne _ _ (Ne.symm hother), ?_, fun _ _ hd => hd⟩,
      _, Dict.get?_set_self _ _ _, rfl, fun _ => rfl⟩
    exact .inr (.inl ⟨hnone, request, rfl, Dict.get?_set_self _ _ _⟩)
  · rename_i old hold
    split at h
    · cases h
    · rename_i hsame
      cases h
      exact ⟨.rfl, old, hold, not_not.mp hsame, nofun⟩

theorem replyFor_none {r : ActorRecord} (hrecord : actors.actors.get? request.actorId = some r)
    (hrequest : r.request = request) (h : actors.replyFor request = .ok none) :
    r.state = .creating := by
  simp only [ActorRegistry.replyFor, bind_eq_ok, ActorRegistry.getMatching_of hrecord hrequest,
    Except.ok.injEq, exists_eq_left'] at h
  split at h
  · assumption
  · split at h
    · cases h
    · split at h
      · cases h
      · cases h
  · cases h

theorem startCreate_starts (request : CreateActorRequest) :
    Starts context s request.actorId (s.startCreate request) := by
  have hquit : Starts context s request.actorId (none, s.actors) := .quit .rfl
  unfold startCreate
  split
  · exact hquit
  · cases hbegin : s.actors.begin_ request with
    | error e => exact hquit
    | ok result =>
      obtain ⟨fresh, actors⟩ := result
      obtain ⟨hmoves, r, hrecord, hrequest, hfresh⟩ :
          ActorRegistry.Moves context request.actorId s.actors actors ∧
            ∃ r, actors.actors.get? request.actorId = some r ∧ r.request = request ∧
              (fresh = true → r.state = .creating) := begin_moves hbegin
      have hbegun : r.state = .creating →
          Starts context s request.actorId (some (.begun request), actors) := by
        intro hstate
        refine ⟨hmoves, fun task h => ?_, fun task h => ?_⟩
        · cases h
          exact ⟨rfl, r, hrecord, hrequest, hstate⟩
        · cases h
          exact ⟨rfl, rfl⟩
      cases fresh with
      | true => exact hbegun (hfresh rfl)
      | false =>
        dsimp only
        split
        · rename_i hreply
          exact hbegun (replyFor_none hrecord hrequest hreply)
        · exact .quit hmoves

theorem startExit_starts (exit : ActorWorkerExitRecord) :
    Starts context s exit.actorId (s.startExit exit, s.actors) := by
  refine ⟨.rfl, fun task h => ?_, fun task h => ?_⟩
  · obtain ⟨node, _, rfl⟩ := Option.map_eq_some_iff.mp h
    exact ⟨rfl, trivial⟩
  · obtain ⟨node, _, rfl⟩ := Option.map_eq_some_iff.mp h
    exact ⟨rfl, rfl⟩

theorem drainVisit_starts (h : s.Inv) (actorId : ActorID) :
    Starts context s actorId (s.drainVisit actorId) := by
  have hquit : Starts context s actorId (none, s.actors) := .quit .rfl
  unfold drainVisit
  cases hrecord : s.actors.actors.get? actorId with
  | none =>
    simp only [ActorRegistry.drainCandidate, ActorRegistry.get, hrecord]
    exact hquit
  | some r =>
    obtain ⟨rfl, hvalid⟩ := h.records _ _ hrecord
    simp only [ActorRegistry.drainCandidate, ActorRegistry.get, hrecord]
    split
    · rename_i request lastExit snapshot hcandidate hsnapshot
      split at hcandidate
      · cases hcandidate
        cases hsnapshot
        split
        · rename_i hcreating
          have hstate : r.state = .creating := hcreating
          rw [ActorRegistry.initialReservationFor_of hrecord rfl]
          cases hreservation : r.initialReservation with
          | none =>
            have hcancel : s.actors.cancelUnreservedCreate r.request
                "Actor creation cancelled by drain" = .ok (s.actors.setRecord r.request.actorId
                  (r.refuse "Actor creation cancelled by drain" (r.routeEpoch + 1))) := by
              simp only [ActorRegistry.cancelUnreservedCreate, bind_eq_ok, raiseIf_eq_ok,
                ActorRegistry.getMatching_of hrecord rfl]
              refine ⟨(), by decide, r, rfl, ?_⟩
              rw [if_neg (by simpa [hreservation] using hstate)]
              rfl
            simp only [hcancel]
            exact .quit (ActorRegistry.setRecord_moves hrecord
              (.refused hstate (by decide) (Nat.lt_succ_self _)))
          | some reservation =>
            refine ⟨.rfl, fun task h => ?_, fun task h => ?_⟩
            · cases h
              exact ⟨rfl, r, hrecord, rfl, hstate⟩
            · cases h
              exact ⟨rfl, rfl⟩
        · cases hlast : r.lastExit with
          | none => exact hquit
          | some exit =>
            have hactor := (hvalid.exited exit hlast).1
            rw [← hactor]
            exact startExit_starts exit
      · cases hcandidate
    · exact hquit

theorem failVisit_moves (actorId : ActorID) (nodeId : NodeID) (error : String)
    (requireOwnerAck : Bool) : ActorRegistry.Moves context actorId s.actors
      (s.failVisit actorId nodeId error requireOwnerAck).actors := by
  unfold failVisit
  cases hfail : s.actors.failActorOnNode actorId nodeId error with
  | error e => exact .rfl
  | ok result =>
    simp only [ActorRegistry.failActorOnNode, bind_eq_ok, raiseIf_eq_ok] at hfail
    obtain ⟨_, hexplained, hfail⟩ := hfail
    split at hfail
    · cases hfail
      exact .rfl
    · rename_i r hrecord
      split at hfail
      · cases hfail
        exact .rfl
      · rename_i hopen
        cases hfail
        exact ActorRegistry.setRecord_moves hrecord
          (.nodeFailed (fun hdead => hopen (.inr hdead)) hexplained)

theorem failVisit_rest (actorId : ActorID) (nodeId : NodeID) (error : String)
    (requireOwnerAck : Bool) : (s.failVisit actorId nodeId error requireOwnerAck).nodes = s.nodes ∧
      (s.failVisit actorId nodeId error requireOwnerAck).threads = s.threads := by
  unfold failVisit
  split <;> exact ⟨rfl, rfl⟩

/-! ## One action -/

/-- The reply this action hands to a waiting thread. -/
def answers (s : ActorCoordinator) (action : ActorAction) :
    List (ReserveActorWorkerRequest × ReserveActorWorkerReply) :=
  match s.taskOf action with
  | some (task, input) => task.answer input
  | none => []

def Uses (nodeId : NodeID) (record : Option ActorRecord) : Prop :=
  ∃ r, record = some r ∧ r.state ≠ .dead ∧ r.target = some nodeId

/-- How a thread's list of visits comes about and shrinks. -/
inductive ErrandStep (s s' : ActorCoordinator) : Option ActorErrand → ActorErrand → Prop
  | same {errand : ActorErrand} : ErrandStep s s' (some errand) errand
  | none {old : Option ActorErrand} : ErrandStep s s' old .none
  | draining {old : Option ActorErrand} {later : List ActorID} :
      ErrandStep s s' old (.draining later)
  | committed {old : Option ActorErrand} {nodeId : NodeID} {error : String} {ack : Bool}
      (dead : s'.nodes.Dead nodeId) (explained : error ≠ "") :
      ErrandStep s s' old (.committed nodeId error ack)
  | listed {nodeId : NodeID} {error : String} {ack : Bool} :
      ErrandStep s s' (some (.committed nodeId error ack))
        (.failing nodeId error ack s.actors.actorIds)
  | visited {nodeId : NodeID} {error : String} {ack : Bool} {actorId : ActorID}
      {later : List ActorID} (unlocked : s.locked actorId = false)
      (failed : error ≠ "" → ¬ Uses nodeId (s'.actors.actors.get? actorId)) :
      ErrandStep s s' (some (.failing nodeId error ack (actorId :: later)))
        (.failing nodeId error ack later)

/-- What a thread's task may have picked up in this action. -/
structure TaskOrigin (s : ActorCoordinator) (action : ActorAction) (task : ActorTask) : Prop where
  selected : ∀ node, task.selectedNode = some node →
    ∃ id, s.nodes.get? id = some node ∧ node.state = .alive
  carried : ∀ pair, task.carried = some pair →
    (∃ old input, s.taskOf action = some (old, input) ∧ old.carried = some pair) ∨
      pair ∈ s.answers action

structure StepSpec (s : ActorCoordinator) (action : ActorAction) (s' : ActorCoordinator) :
    Prop where
  inv : s'.Inv
  moves : ∃ actorId, ActorRegistry.Moves (s.context action) actorId s.actors s'.actors ∧
    ∀ task input, s.taskOf action = some (task, input) → task.actorId = actorId
  threads : ∀ x thread, s'.threads.get? x = some thread → s.threads.get? x = some thread ∨
    ErrandStep s s' ((s.threads.get? x).map ActorThread.errand) thread.errand ∧
      ∀ task, thread.task = some task → TaskOrigin s action task
  dead : ∀ nodeId, s.nodes.Dead nodeId → s'.nodes.Dead nodeId

variable {action : ActorAction}

theorem StepSpec.outside {s' : ActorCoordinator} (hinv : s'.Inv) (hactors : s'.actors = s.actors)
    (hthreads : s'.threads = s.threads) (hdead : ∀ n, s.nodes.Dead n → s'.nodes.Dead n)
    (htask : s.taskOf action = none) : StepSpec s action s' where
  inv := hinv
  moves := ⟨⟨0⟩, hactors ▸ .rfl, by simp [htask]⟩
  threads x thread h := by
    rw [hthreads] at h
    exact .inl h
  dead := hdead

theorem threads_resume (hthreads : t.threads = s.threads)
    (hnew : ErrandStep s (t.resume tid thread)
      ((s.threads.get? tid).map ActorThread.errand) thread.errand ∧
      ∀ task, thread.task = some task → TaskOrigin s action task) :
    ∀ x other, (t.resume tid thread).threads.get? x = some other →
      s.threads.get? x = some other ∨
        ErrandStep s (t.resume tid thread) ((s.threads.get? x).map ActorThread.errand)
          other.errand ∧ ∀ task, other.task = some task → TaskOrigin s action task := by
  intro x other h
  by_cases hx : tid = x
  · subst hx
    obtain rfl := resume_threads_self _ h
    exact .inr hnew
  · rw [resume_threads_of_ne _ _ hx, hthreads] at h
    exact .inl h

variable {errand : ActorErrand}

variable {start : Option ActorTask × ActorRegistry}

theorem start_spec (h : s.Inv) (hnodes : t.nodes = s.nodes) (hthreads : t.threads = s.threads)
    (hactors : t.actors = start.2) (hunlocked : s.locked actorId = false)
    (hstart : Starts (s.context action) s actorId start) (htask : s.taskOf action = none)
    (herrand : ErrandStep s (t.resume tid ⟨start.1, errand⟩)
      ((s.threads.get? tid).map ActorThread.errand) errand) :
    StepSpec s action (t.resume tid ⟨start.1, errand⟩) where
  inv := by
    refine h.update hnodes hthreads (fun x thread task _ hthread hheld =>
      free_of_unlocked hunlocked hthread hheld) (hactors ▸ hstart.moves) fun task hheld => ?_
    rw [hactors]
    exact hstart.task task hheld
  moves := by
    refine ⟨actorId, ?_, by simp [htask]⟩
    rw [resume_actors, hactors]
    exact hstart.moves
  threads := by
    refine threads_resume hthreads ⟨herrand, fun task hheld => ?_⟩
    obtain ⟨hselected, hcarried⟩ := hstart.unselected task hheld
    exact ⟨fun node hnode => by simp [hselected] at hnode,
      fun pair hpair => by simp [hcarried] at hpair⟩
  dead n hn := by
    rw [resume_nodes, hnodes]
    exact hn

theorem idle_spec (h : s.Inv) (hnodes : t.nodes.Inv) (hdead : ∀ n, s.nodes.Dead n → t.nodes.Dead n)
    (hthreads : t.threads = s.threads) (hactors : t.actors = s.actors)
    (htask : s.taskOf action = none)
    (herrand : ErrandStep s (t.resume tid ⟨none, errand⟩)
      ((s.threads.get? tid).map ActorThread.errand) errand) :
    StepSpec s action (t.resume tid ⟨none, errand⟩) where
  inv := h.idle hnodes hthreads hactors rfl
  moves := by
    refine ⟨⟨0⟩, ?_, by simp [htask]⟩
    rw [resume_actors, hactors]
    exact .rfl
  threads := threads_resume hthreads ⟨herrand, fun task hheld => by cases hheld⟩
  dead n hn := by
    rw [resume_nodes]
    exact hdead n hn

theorem spawn_spec (h : s.Inv) (hstart : Starts (s.context action) s actorId start)
    (htask : s.taskOf action = none) : StepSpec s action (s.spawn tid actorId start) := by
  unfold spawn
  split
  · exact .outside h rfl rfl (fun _ hn => hn) htask
  · rename_i hfree
    rw [not_or, Bool.not_eq_true] at hfree
    exact start_spec h rfl rfl rfl hfree.2 hstart htask .none

theorem commitNodeDeath_spec (h : s.Inv) (request : ReportNodeDeath)
    {error : NodeDeathReason → String} (hexplained : ∀ reason, error reason ≠ "")
    (htask : s.taskOf action = none) :
    StepSpec s action (s.commitNodeDeath tid request error) := by
  have hnodes := NodeRegistry.reportDeath_inv h.nodes request
  have hdead : ∀ n, s.nodes.Dead n → (s.nodes.reportDeath request).2.Dead n :=
    fun n hn => hn.reportDeath request
  unfold commitNodeDeath
  cases hreply : (s.nodes.reportDeath request).1.death with
  | none =>
    simp only [hreply]
    exact .outside ⟨hnodes, h.records, h.held, h.exclusive⟩ rfl rfl hdead htask
  | some death =>
    simp only [hreply]
    obtain ⟨hnode, hgone⟩ := NodeRegistry.reportDeath_dead h.nodes hreply
    refine idle_spec h hnodes hdead rfl rfl htask (.committed ?_ (hexplained _))
    rw [resume_nodes, hnode]
    exact hgone

theorem failVisit_fails (actorId : ActorID) (nodeId : NodeID) {error : String}
    (hexplained : error ≠ "") (requireOwnerAck : Bool) :
    ¬ Uses nodeId
      ((s.failVisit actorId nodeId error requireOwnerAck).actors.actors.get? actorId) := by
  intro huses
  obtain ⟨r', hrecord', hopen', htarget'⟩ := huses
  unfold failVisit at hrecord'
  cases hrecord : s.actors.actors.get? actorId with
  | none =>
    have hfail : s.actors.failActorOnNode actorId nodeId error = .ok (none, s.actors) := by
      simp [ActorRegistry.failActorOnNode, hexplained, hrecord, raiseIf, bind, Except.bind, pure,
        Except.pure]
    simp only [hfail, hrecord] at hrecord'
    cases hrecord'
  | some r =>
    by_cases hspared : r.target ≠ some nodeId ∨ r.state = .dead
    · have hfail : s.actors.failActorOnNode actorId nodeId error = .ok (none, s.actors) := by
        simp [ActorRegistry.failActorOnNode, hexplained, hrecord, raiseIf, bind, Except.bind,
          pure, Except.pure, hspared]
      simp only [hfail, hrecord] at hrecord'
      cases hrecord'
      rcases hspared with hspared | hspared
      · exact hspared htarget'
      · exact hopen' hspared
    · have hfail : s.actors.failActorOnNode actorId nodeId error =
          .ok (some (r.failOnNode error).snapshot,
            s.actors.setRecord actorId (r.failOnNode error)) := by
        simp [ActorRegistry.failActorOnNode, hexplained, hrecord, raiseIf, bind, Except.bind,
          pure, Except.pure, hspared]
      simp only [hfail, ActorRegistry.setRecord, Dict.get?_set_self] at hrecord'
      cases hrecord'
      exact hopen' rfl

variable {input : ActorInput}

theorem errandStep_spec (h : s.Inv) (hthread : s.threads.get? tid = some ⟨none, errand⟩)
    (htask : s.taskOf action = none) : StepSpec s action (s.errandStep tid input errand) := by
  have hold : (s.threads.get? tid).map ActorThread.errand = some errand := by rw [hthread]; rfl
  have hstay : StepSpec s action s := .outside h rfl rfl (fun _ hn => hn) htask
  cases errand with
  | none => exact idle_spec h h.nodes (fun _ hn => hn) rfl rfl htask .none
  | committed nodeId error ack =>
    simp only [errandStep]
    refine idle_spec h h.nodes (fun _ hn => hn) rfl rfl htask ?_
    rw [hold]
    exact .listed
  | draining later =>
    cases later with
    | nil =>
      simp only [errandStep]
      exact idle_spec (t := s.flush input.acknowledged) h h.nodes (fun _ hn => hn) rfl rfl
        htask .none
    | cons actorId later =>
      simp only [errandStep]
      split
      · exact hstay
      · rename_i hunlocked
        rw [Bool.not_eq_true] at hunlocked
        exact start_spec h rfl rfl rfl hunlocked (drainVisit_starts h actorId) htask .draining
  | failing nodeId error ack later =>
    cases later with
    | nil =>
      simp only [errandStep]
      split
      · exact idle_spec (t := s.flush input.acknowledged) h h.nodes (fun _ hn => hn) rfl rfl
          htask .none
      · exact idle_spec h h.nodes (fun _ hn => hn) rfl rfl htask .none
    | cons actorId later =>
      simp only [errandStep]
      split
      · exact hstay
      · rename_i hunlocked
        rw [Bool.not_eq_true] at hunlocked
        obtain ⟨hnodes, hthreads⟩ := failVisit_rest (s := s) actorId nodeId error ack
        have hstart : Starts (s.context action) s actorId
            (none, (s.failVisit actorId nodeId error ack).actors) :=
          .quit (failVisit_moves actorId nodeId error ack)
        refine start_spec h hnodes hthreads rfl hunlocked hstart htask ?_
        rw [hold]
        refine .visited hunlocked fun hexplained => ?_
        rw [resume_actors]
        exact failVisit_fails actorId nodeId hexplained ack

theorem taskStep_spec (h : s.Inv) {task : ActorTask}
    (hthread : s.threads.get? tid = some ⟨some task, errand⟩)
    (htask : s.taskOf action = some (task, input)) :
    StepSpec s action (({ s with
      actors := (stepTask s.nodes s.admissionOpen s.actors input task).2 } :
        ActorCoordinator).resume tid
          ⟨(stepTask s.nodes s.admissionOpen s.actors input task).1, errand⟩) := by
  have hold : (s.threads.get? tid).map ActorThread.errand = some errand := by rw [hthread]; rfl
  have hcontext : s.context action = task.context input := by simp [context, htask]
  have hanswers : s.answers action = task.answer input := by simp [answers, htask]
  have hspec : ActorRegistry.TaskSpec s.nodes input s.actors task
      (stepTask s.nodes s.admissionOpen s.actors input task) :=
    ActorRegistry.stepTask_spec h.nodes h.records (h.held tid _ task hthread rfl)
  refine ⟨?_, ⟨task.actorId, ?_, ?_⟩, ?_, ?_⟩
  · refine h.update rfl rfl (fun x other task' hx hother hheld heq => ?_) hspec.moves hspec.next
    exact hx (h.exclusive x tid other _ task' task hother hthread hheld rfl heq)
  · rw [resume_actors, hcontext]
    exact hspec.moves
  · intro task' input' h'
    rw [htask] at h'
    cases h'
    rfl
  · refine threads_resume rfl ⟨?_, fun next hnext => ⟨fun node hnode => ?_, fun pair hpair => ?_⟩⟩
    · rw [hold]
      exact .same
    · exact hspec.selected next node hnext hnode
    · rw [hanswers]
      rcases hspec.carried next pair hnext hpair with hcarried | hanswer
      · exact .inl ⟨task, input, htask, hcarried⟩
      · exact .inr hanswer
  · intro n hn
    rw [resume_nodes]
    exact hn

theorem step_spec (h : s.Inv) (action : ActorAction) : StepSpec s action (s.step action) := by
  cases action with
  | registerNode nodeId address nodePid hpid =>
    simp only [step]
    cases hregister : s.nodes.register nodeId address nodePid hpid with
    | none => exact .outside h rfl rfl (fun _ hn => hn) rfl
    | some result =>
      obtain ⟨fresh, nodes⟩ := result
      exact .outside ⟨NodeRegistry.register_inv h.nodes hregister, h.records, h.held,
        h.exclusive⟩ rfl rfl (fun n hn => hn.register hregister) rfl
  | create tid request => exact spawn_spec h (startCreate_starts request) rfl
  | reportWorkerExit tid exit => exact spawn_spec h (startExit_starts exit) rfl
  | drainOnce tid =>
    simp only [step]
    split
    · exact .outside h rfl rfl (fun _ hn => hn) rfl
    · exact idle_spec h h.nodes (fun _ hn => hn) rfl rfl rfl .draining
  | reportNodeDeath tid request =>
    simp only [step]
    split
    · exact .outside h rfl rfl (fun _ hn => hn) rfl
    · exact commitNodeDeath_spec h request (fun reason => by cases reason <;> decide) rfl
  | unregisterNode tid request =>
    simp only [step]
    split
    · exact .outside h rfl rfl (fun _ hn => hn) rfl
    · exact commitNodeDeath_spec h request.report (fun _ => by decide) rfl
  | advance tid input =>
    simp only [step, advance]
    cases hthread : s.threads.get? tid with
    | none => exact .outside h rfl rfl (fun _ hn => hn) (by simp [taskOf, hthread])
    | some thread =>
      obtain ⟨task, errand⟩ := thread
      cases task with
      | none => exact errandStep_spec h hthread (by simp [taskOf, hthread])
      | some task => exact taskStep_spec h hthread (by simp [taskOf, hthread])

theorem run_inv (actions : List ActorAction) : (run step {} actions).Inv :=
  run_invariant (p := Inv) (fun s action h => (step_spec (s := s) h action).inv) inv_new actions

end ActorCoordinator

end MiniRay
