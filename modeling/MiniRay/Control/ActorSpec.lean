import MiniRay.Control.ActorFencing

/-! # The Actor control plane over its runs -/

namespace MiniRay

open Run

namespace ActorRecord

variable {context : Context} {r r' : ActorRecord}

/-- An endpoint is published only for the frozen reservation that a Node accepted with it. -/
theorem Step.published (h : Step context r r') (hvalid : r.Valid) {e : ActorEndpoint}
    (he : r'.endpoint = some e) : ∃ reservation reply, r'.currentReservation = some reservation ∧
      reservation.generation = r'.generation ∧ context.Accepted reservation e reply := by
  have hcurrent : r'.Valid := h.valid hvalid
  obtain ⟨_, _, _, reservation, hreservation, hgeneration, _⟩ := hcurrent.alive e he
  cases h with
  | reserved state =>
    have hendpoint := hvalid.endpoint_none (by rw [state]; decide)
    exact absurd (hendpoint.symm.trans he) (by simp)
  | @created frozen reply endpoint state hfrozen accepted =>
    cases he
    have hzero : r.generation.generation = 0 :=
      hvalid.consumed.trans (hvalid.creating state).2.1
    have hsame : r.currentReservation = some frozen := (if_pos hzero).trans hfrozen
    obtain rfl := Option.some.inj (hsame.symm.trans hreservation)
    exact ⟨frozen, reply, hsame, hgeneration, accepted⟩
  | refused state =>
    have hendpoint := hvalid.endpoint_none (by rw [state]; decide)
    exact absurd (hendpoint.symm.trans he) (by simp)
  | exhausted => cases he
  | restarting => cases he
  | @restarted frozen reply endpoint state hfrozen accepted =>
    cases he
    obtain ⟨_, hlast, hsucceeds, _⟩ := hvalid.restarting state
    have hne : r.generation.generation ≠ 0 := by
      obtain ⟨exit, hexit⟩ := Option.ne_none_iff_exists'.mp hlast
      rw [Succeeds, hexit] at hsucceeds
      rw [← hsucceeds]
      exact Nat.succ_ne_zero _
    have hsame : r.currentReservation = some frozen := (if_neg hne).trans hfrozen
    obtain rfl := Option.some.inj (hsame.symm.trans hreservation)
    exact ⟨frozen, reply, hsame, hgeneration, accepted⟩
  | restartFailed state =>
    have hendpoint := hvalid.endpoint_none (by rw [state]; decide)
    exact absurd (hendpoint.symm.trans he) (by simp)
  | nodeFailed => cases he

end ActorRecord

namespace ActorCoordinator

variable {s : ActorCoordinator} {actorId : ActorID} {action : ActorAction} {r r' : ActorRecord}

/-! ## Records over a run -/

theorem step_later (h : s.Inv) (action : ActorAction)
    (hrecord : s.actors.actors.get? actorId = some r) :
    ∃ r', (s.step action).actors.actors.get? actorId = some r' ∧ ActorRecord.Later r r' := by
  obtain ⟨moved, hmoves, _⟩ := (step_spec h action).moves
  by_cases hactor : actorId = moved
  · subst hactor
    rcases hmoves.record with hsame | ⟨hnone, _⟩ | ⟨old, new, hold, hnew, hstep⟩
    · exact ⟨r, hsame.trans hrecord, .rfl⟩
    · rw [hnone] at hrecord
      cases hrecord
    · obtain rfl := Option.some.inj (hold.symm.trans hrecord)
      exact ⟨new, hnew, hstep.later (h.records _ _ hold).2⟩
  · exact ⟨r, (hmoves.others _ hactor).trans hrecord, .rfl⟩

theorem run_later (h : s.Inv) (actions : List ActorAction)
    (hrecord : s.actors.actors.get? actorId = some r) :
    ∃ r', (run step s actions).actors.actors.get? actorId = some r' ∧ ActorRecord.Later r r' := by
  induction actions generalizing s r with
  | nil => exact ⟨r, hrecord, .rfl⟩
  | cons action actions ih =>
    obtain ⟨r₁, hr₁, hfirst⟩ := step_later h action hrecord
    obtain ⟨r₂, hr₂, hrest⟩ := ih (step_spec h action).inv hr₁
    exact ⟨r₂, hr₂, hfirst.trans hrest⟩

/-! ## Endpoints and replies -/

/-- Everything published or carried was received in reply to a reservation. -/
structure Answered (received : List (ReserveActorWorkerRequest × ReserveActorWorkerReply))
    (s : ActorCoordinator) : Prop where
  carried : ∀ x thread task pair, s.threads.get? x = some thread → thread.task = some task →
    task.carried = some pair → pair ∈ received
  published : ∀ actorId r e, s.actors.actors.get? actorId = some r → r.endpoint = some e →
    ∃ reservation reply, r.currentReservation = some reservation ∧
      reservation.generation = r.generation ∧ (reservation, reply) ∈ received ∧
      reply.generation = r.generation ∧ reply.outcome = .accepted e ∧
      e.nodeId = reservation.targetNodeId

theorem Answered.after {received : List (ReserveActorWorkerRequest × ReserveActorWorkerReply)}
    (hanswered : Answered received s) (h : s.Inv) (action : ActorAction) :
    Answered (received ++ s.answers action) (s.step action) := by
  have hspec := step_spec h action
  have hcarrying : ∀ old input pair, s.taskOf action = some (old, input) →
      old.carried = some pair → pair ∈ received := by
    intro old input pair htask hpair
    cases action with
    | advance tid _ =>
      simp only [taskOf] at htask
      split at htask
      · rename_i hthread
        cases htask
        exact hanswered.carried tid _ old pair hthread rfl hpair
      · cases htask
    | _ => cases htask
  refine ⟨fun x thread task pair hthread htask hpair => ?_, fun actorId r e hr he => ?_⟩
  · rcases hspec.threads x thread hthread with hsame | ⟨_, horigin⟩
    · exact List.mem_append_left _ (hanswered.carried x thread task pair hsame htask hpair)
    · rcases (horigin task htask).carried pair hpair with ⟨old, input, hold, hold'⟩ | hanswer
      · exact List.mem_append_left _ (hcarrying old input pair hold hold')
      · exact List.mem_append_right _ hanswer
  · have hkept : s.actors.actors.get? actorId = some r → ∃ reservation reply,
        r.currentReservation = some reservation ∧ reservation.generation = r.generation ∧
          (reservation, reply) ∈ received ++ s.answers action ∧
          reply.generation = r.generation ∧ reply.outcome = .accepted e ∧
          e.nodeId = reservation.targetNodeId := by
      intro hold
      obtain ⟨reservation, reply, hcurrent, hown, hmem, hrest⟩ :=
        hanswered.published actorId r e hold he
      exact ⟨reservation, reply, hcurrent, hown, List.mem_append_left _ hmem, hrest⟩
    obtain ⟨moved, hmoves, _⟩ := hspec.moves
    by_cases hactor : actorId = moved
    · subst hactor
      rcases hmoves.record with hsame | ⟨_, request, _, hnew⟩ | ⟨old, new, hold, hnew, hstep⟩
      · exact hkept (hsame.symm.trans hr)
      · obtain rfl := Option.some.inj (hnew.symm.trans hr)
        cases he
      · obtain rfl := Option.some.inj (hnew.symm.trans hr)
        obtain ⟨reservation, reply, hcurrent, hown, haccepted⟩ :=
          hstep.published (h.records _ _ hold).2 he
        refine ⟨reservation, reply, hcurrent, hown, ?_, haccepted.own.trans hown,
          haccepted.accepted, haccepted.there⟩
        have hreplied := haccepted.replied
        unfold context at hreplied
        cases htask : s.taskOf action with
        | none =>
          rw [htask] at hreplied
          exact hreplied.elim
        | some section_ =>
          obtain ⟨task, input⟩ := section_
          rw [htask] at hreplied
          rcases hreplied with hanswer | hcarried
          · refine List.mem_append_right _ ?_
            simpa [answers, htask] using hanswer
          · exact List.mem_append_left _ (hcarrying task input _ htask hcarried)
    · exact hkept ((hmoves.others _ hactor).symm.trans hr)

theorem run_answered (actions : List ActorAction) :
    Answered (outputs step answers {} actions) (run step {} actions) := by
  have hboth := outputs_invariant
    (p := fun received (s : ActorCoordinator) => s.Inv ∧ Answered received s)
    (fun received s action (h : s.Inv ∧ Answered received s) =>
      ⟨(step_spec h.1 action).inv, h.2.after h.1 action⟩)
    (s := {}) ⟨inv_new, ⟨fun _ _ _ _ h => by simp at h, fun _ _ _ h => by simp at h⟩⟩ actions
  exact hboth.2

/-! ## Exit reports -/

def Applies (exit : ActorWorkerExitRecord) (s : ActorCoordinator) (action : ActorAction) : Prop :=
  ∃ input node restartAllowed,
    s.taskOf action = some (.exitAdmitted exit node restartAllowed, input) ∧
      (s.actors.acceptWorkerExit exit node restartAllowed).1 = .applied

def Handles (exit : ActorWorkerExitRecord) (s : ActorCoordinator) (action : ActorAction) : Prop :=
  ∃ task input, s.taskOf action = some (task, input) ∧ task.exit? = some exit

def Detected (detection : String) (s : ActorCoordinator) : Prop :=
  ∃ outcome, s.actors.exitDetections.get? detection = some outcome

variable {detection : String}

theorem Detected.after (hdetected : Detected detection s) (h : s.Inv) (action : ActorAction) :
    Detected detection (s.step action) := by
  obtain ⟨outcome, houtcome⟩ := hdetected
  obtain ⟨_, hmoves, _⟩ := (step_spec h action).moves
  exact ⟨outcome, hmoves.detections _ _ houtcome⟩

theorem Detected.over (hdetected : Detected detection s) (h : s.Inv) (actions : List ActorAction) :
    Detected detection (run step s actions) := by
  have hboth := run_invariant
    (p := fun s : ActorCoordinator => s.Inv ∧ Detected detection s)
    (fun t action ht => ⟨(step_spec ht.1 action).inv, ht.2.after ht.1 action⟩) ⟨h, hdetected⟩
    actions
  exact hboth.2

variable {input : ActorInput}

theorem taskOf_eq {task : ActorTask} (h : s.taskOf action = some (task, input)) :
    ∃ tid errand, action = .advance tid input ∧
      s.threads.get? tid = some ⟨some task, errand⟩ := by
  cases action with
  | advance tid _ =>
    simp only [taskOf] at h
    split at h
    · rename_i hthread
      cases h
      exact ⟨tid, _, rfl, hthread⟩
    · cases h
  | _ => cases h

theorem step_task {tid : Nat} {task : ActorTask} {errand : ActorErrand}
    (h : s.threads.get? tid = some ⟨some task, errand⟩) :
    (s.step (.advance tid input)).actors =
      (stepTask s.nodes s.admissionOpen s.actors input task).2 := by
  simp only [step, advance, h, resume_actors]

variable {exit : ActorWorkerExitRecord}

theorem Applies.fresh (h : Applies exit s action) :
    s.actors.exitDetections.get? exit.detectionId = none := by
  obtain ⟨_, node, restartAllowed, _, happlied⟩ := h
  rcases s.actors.acceptWorkerExit_spec exit node restartAllowed with
    ⟨disposition, hrefused, haccept⟩ | ⟨_, _, _, _, hnew, _⟩
  · rw [haccept] at happlied
    exact absurd happlied hrefused
  · exact hnew

theorem Applies.detected (h : Applies exit s action) :
    Detected exit.detectionId (s.step action) := by
  obtain ⟨input, node, restartAllowed, htask, happlied⟩ := h
  obtain ⟨tid, errand, rfl, hthread⟩ := taskOf_eq htask
  rw [Detected, step_task hthread]
  rcases s.actors.acceptWorkerExit_spec exit node restartAllowed with
    ⟨disposition, hrefused, haccept⟩ | ⟨_, r', _, _, _, _, _, haccept⟩
  · rw [haccept] at happlied
    exact absurd happlied hrefused
  · refine ⟨⟨exit, r'.snapshot⟩, ?_⟩
    simp only [stepTask, haccept]
    split <;> exact Dict.get?_set_self _ _ _

theorem Handles.record (hhandles : Handles exit s action) (h : s.Inv)
    (hrecord : s.actors.actors.get? actorId = some r) :
    (s.step action).actors.actors.get? actorId = some r ∨ exit.generation = r.generation ∨
      r.lastExit = some exit := by
  obtain ⟨task, input, htask, hexit⟩ := hhandles
  obtain ⟨tid, errand, rfl, hthread⟩ := taskOf_eq htask
  rw [step_task hthread]
  have hspec : ActorRegistry.TaskSpec s.nodes input s.actors task
      (stepTask s.nodes s.admissionOpen s.actors input task) :=
    ActorRegistry.stepTask_spec h.nodes h.records (h.held tid _ task hthread rfl)
  by_cases hactor : actorId = task.actorId
  · subst hactor
    exact hspec.handled exit hexit r hrecord
  · left
    rw [hspec.moves.others _ hactor]
    exact hrecord

/-! ## The specification -/

/-- The visits for the Node's death are over, and the call that committed it returns. -/
def Returns (nodeId : NodeID) (s : ActorCoordinator) (action : ActorAction) : Prop :=
  ∃ tid input error ack, action = .advance tid input ∧
    s.threads.get? tid = some ⟨none, .failing nodeId error ack []⟩

variable {nodeId : NodeID}

theorem fenced_of_returns (hfence : s.FenceInv) (h : Returns nodeId s action) :
    Fenced nodeId s := by
  obtain ⟨tid, input, error, ack, _, hthread⟩ := h
  obtain ⟨hdead, _, hsafe⟩ := hfence tid _ hthread
  exact ⟨hdead, fun actorId => hsafe actorId (by simp)⟩

structure ActorSpec : Prop where
  /-- Generations count the consumed restarts, within the budget. -/
  restarts : ∀ actions actorId r, (run step {} actions).actors.actors.get? actorId = some r →
    r.generation.generation = r.request.generation.generation + r.restartsUsed ∧
      r.restartsUsed ≤ r.request.maxRestarts
  /-- Every visible change moves the route epoch, so one epoch shows one snapshot. -/
  epochs : ∀ actions more actorId r r',
    (run step {} actions).actors.actors.get? actorId = some r →
    (run step {} (actions ++ more)).actors.actors.get? actorId = some r' →
      (r'.snapshot = r.snapshot ∨ r.routeEpoch < r'.routeEpoch) ∧
        (r'.routeEpoch = r.routeEpoch → r'.snapshot = r.snapshot)
  /-- A dead Actor's record never changes. -/
  dead : ∀ actions more actorId r, (run step {} actions).actors.actors.get? actorId = some r →
    r.state = .dead → (run step {} (actions ++ more)).actors.actors.get? actorId = some r
  /-- A published endpoint is a Node's answer to the reservation of its generation. -/
  published : ∀ actions actorId r e, (run step {} actions).actors.actors.get? actorId = some r →
    r.endpoint = some e → ∃ reservation reply, r.currentReservation = some reservation ∧
      reservation.generation = r.generation ∧
      (reservation, reply) ∈ outputs step answers {} actions ∧
      reply.generation = r.generation ∧ reply.outcome = .accepted e ∧
      e.nodeId = reservation.targetNodeId
  /-- One generation has one reservation and one endpoint. -/
  single : ∀ actions more actorId r r',
    (run step {} actions).actors.actors.get? actorId = some r →
    (run step {} (actions ++ more)).actors.actors.get? actorId = some r' →
    r'.generation = r.generation →
      (∀ reservation reservation', r.currentReservation = some reservation →
        r'.currentReservation = some reservation' → reservation' = reservation) ∧
      ∀ e e', r.endpoint = some e → r'.endpoint = some e' → e' = e
  /-- A detection is applied at most once. -/
  detections : ∀ actions action between action' exit exit',
    Applies exit (run step {} actions) action →
    Applies exit' (run step {} (actions ++ action :: between)) action' →
      exit'.detectionId ≠ exit.detectionId
  /-- A report leaves records of a later generation alone, but for its last exit. -/
  older : ∀ actions action exit, Handles exit (run step {} actions) action →
    ∀ actorId r, (run step {} actions).actors.actors.get? actorId = some r →
      exit.generation.generation < r.generation.generation → r.lastExit ≠ some exit →
        (run step {} (actions ++ [action])).actors.actors.get? actorId = some r
  /-- Once the death of a Node was reported, no Actor is alive or restarting there. -/
  fenced : ∀ actions nodeId, Occurs step (Returns nodeId) {} actions →
    ∀ actorId r, (run step {} actions).actors.actors.get? actorId = some r →
      (r.state = .alive → ∀ e, r.endpoint = some e → e.nodeId ≠ nodeId) ∧
      (r.state = .restarting → ∀ reservation, r.restartReservation = some reservation →
        reservation.targetNodeId ≠ nodeId)

theorem unused_alive (h : ¬ Uses nodeId (some r)) (hstate : r.state = .alive) {e : ActorEndpoint}
    (he : r.endpoint = some e) : e.nodeId ≠ nodeId := by
  rintro rfl
  exact h ⟨r, rfl, by simp [hstate], ActorRecord.target_of_endpoint he⟩

theorem unused_restarting (hvalid : r.Valid) (h : ¬ Uses nodeId (some r))
    (hstate : r.state = .restarting) {reservation : ReserveActorWorkerRequest}
    (hfrozen : r.restartReservation = some reservation) : reservation.targetNodeId ≠ nodeId := by
  rintro rfl
  have hendpoint := hvalid.endpoint_none (by rw [hstate]; decide)
  exact h ⟨r, rfl, by simp [hstate],
    ActorRecord.target_of_restarting hendpoint hstate hfrozen⟩

namespace Sample

def actorDefinition : ActorClassDefinition where
  key := ⟨⟨0⟩, "module", "Actor", "1", by decide⟩
  payload := []
  sha256 := Sha256.hexdigest []
  methodNames := ["method"]
  checksum := rfl
  exported := by decide

def address : Address := default

def creation : CreateActorRequest where
  actorId := ⟨1⟩
  generation := ⟨⟨1⟩, 0⟩
  classDefinition := actorDefinition
  constructorPayload := []
  resources := .empty
  ownerWorkerId := ⟨2⟩
  maxRestarts := 1
  ownerAddress := some address
  own_generation := rfl
  initial := rfl
  restartable := by simp

def actorExit : ActorWorkerExitRecord where
  detectionId := "actor-exit"
  actorId := ⟨1⟩
  generation := ⟨⟨1⟩, 0⟩
  routeEpoch := 1
  nodeId := ⟨3⟩
  nodePid := 31
  registrationEpoch := 1
  workerId := ⟨4⟩
  workerPid := 2
  exitCode := 1
  detection_ne := by decide
  own_generation := rfl
  positive := by decide

def route : ActorEndpoint := ⟨⟨3⟩, ⟨4⟩, address, 2, Nat.two_pos⟩

def restartedRoute : ActorEndpoint := ⟨⟨3⟩, ⟨5⟩, address, 3, by decide⟩

/-- The Node starts a worker for one generation; the owner may not acknowledge it. -/
def served (generation : Nat) (endpoint : ActorEndpoint) (installed : Bool) : ActorInput where
  decision := .node ⟨3⟩
  schedulingVisible := fun _ => true
  reserved := .reply ⟨⟨1⟩, ⟨⟨1⟩, generation⟩, .accepted endpoint, rfl⟩
  installed := installed
  acknowledged := []

def hostNode : NodeSnapshot := ⟨⟨3⟩, 31, 1, address, .alive, none, by decide⟩

def hostNodes : NodeRegistry := ⟨Dict.empty.set ⟨3⟩ hostNode, .empty, 1, 1⟩

def registered (record : ActorRecord) : ActorRegistry := { actors := Dict.empty.set ⟨1⟩ record }

/-- One Actor on one Node, and the thread that creates it. -/
def hosting (record : ActorRecord) (task : Option ActorTask) : ActorCoordinator where
  nodes := hostNodes
  actors := registered record
  threads := match task with
    | none => .empty
    | some task => Dict.empty.set 0 ⟨some task, .none⟩

def frozen : ActorRecord :=
  { ActorRecord.new creation with
    initialReservation := some (ActorRecord.firstReservation creation ⟨3⟩) }

variable {record : ActorRecord}

theorem getMatching_registered (h : record.request = creation) :
    (registered record).getMatching creation = .ok record := by
  have hrecord : (registered record).actors.get? creation.actorId = some record := rfl
  simp [ActorRegistry.getMatching, hrecord, h]

theorem advance_hosting {record' : ActorRecord} {task : ActorTask} {next : Option ActorTask}
    {input : ActorInput}
    (h : stepTask hostNodes true (registered record) input task = (next, registered record')) :
    step (hosting record (some task)) (.advance 0 input) = hosting record' next := by
  have hstep : step (hosting record (some task)) (.advance 0 input) =
      ({ hosting record (some task) with
        actors := (stepTask hostNodes true (registered record) input task).2 } :
          ActorCoordinator).resume 0
            ⟨(stepTask hostNodes true (registered record) input task).1, .none⟩ := rfl
  rw [hstep, h]
  cases next <;> rfl

theorem advance_begun : step (hosting (.new creation) (some (.begun creation)))
    (.advance 0 (served 0 route true)) =
      hosting (.new creation) (some (.selected creation hostNode)) := by
  have hrequest : (ActorRecord.new creation).request = creation := rfl
  have hrecord := getMatching_registered hrequest
  apply advance_hosting
  simp only [stepTask, ActorRegistry.initialReservationFor, hrecord]
  rfl

theorem advance_selected : step (hosting (.new creation) (some (.selected creation hostNode)))
    (.advance 0 (served 0 route true)) = hosting frozen (some (.reserving creation hostNode
      (ActorRecord.firstReservation creation ⟨3⟩))) := by
  have hrequest : (ActorRecord.new creation).request = creation := rfl
  have hrecord := getMatching_registered hrequest
  apply advance_hosting
  simp only [stepTask, ActorRegistry.installInitialReservation, hrecord]
  rfl

theorem advance_reserving : step (hosting frozen (some (.reserving creation hostNode
    (ActorRecord.firstReservation creation ⟨3⟩)))) (.advance 0 (served 0 route true)) =
      hosting (frozen.publish route 1) none := by
  have hrequest : frozen.request = creation := rfl
  have hrecord := getMatching_registered hrequest
  apply advance_hosting
  simp only [stepTask, finishCreate, ActorRegistry.finish, hrecord]
  rfl

def creating : List ActorAction :=
  [.registerNode ⟨3⟩ address 31 (by decide), .create 0 creation,
    .advance 0 (served 0 route true), .advance 0 (served 0 route true),
    .advance 0 (served 0 route true)]

theorem run_creating : run step {} creating = hosting (frozen.publish route 1) none := by
  have hcreate : step (step {} (.registerNode ⟨3⟩ address 31 (by decide))) (.create 0 creation) =
      hosting (.new creation) (some (.begun creation)) := rfl
  simp only [creating, run_cons, hcreate, advance_begun, advance_selected, advance_reserving]
  rfl

/-- The exit is applied; its owner does not acknowledge the restart. -/
def exiting : List ActorAction :=
  [.reportWorkerExit 1 actorExit, .advance 1 (served 1 route false),
    .advance 1 (served 1 route false), .advance 1 (served 1 route false)]

def retrying : List ActorInput := List.replicate 8 (served 1 restartedRoute true)

end Sample

end ActorCoordinator

end MiniRay
