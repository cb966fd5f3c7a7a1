import MiniRay.Control.ActorCoordinator
import MiniRay.Control.ActorTransitions

/-! While a thread holds an Actor's lock, nobody else moves its record, so what the thread read
before a remote call still holds after it. -/

namespace MiniRay

open Checked

namespace ActorTask

/-- The reply names this restart and another incarnation than the one that exited. -/
def Confirmed (exit : ActorWorkerExitRecord) (reservation : ReserveActorWorkerRequest)
    (reply : ReserveActorWorkerReply) : Prop :=
  ∃ endpoint, reply.outcome = .accepted endpoint ∧ ¬ Unconfirmed exit reservation reply endpoint

def Holds (record : Option ActorRecord) : ActorTask → Prop
  | .begun request => ∃ r, record = some r ∧ r.request = request ∧ r.state = .creating
  | .selected request _ => ∃ r, record = some r ∧ r.request = request ∧ r.state = .creating ∧
      r.initialReservation = none
  | .targeted request reservation => ∃ r, record = some r ∧ r.request = request ∧
      r.state = .creating ∧ r.initialReservation = some reservation
  | .reserving request node reservation => ∃ r, record = some r ∧ r.request = request ∧
      r.state = .creating ∧ r.initialReservation = some reservation ∧
        node.nodeId = reservation.targetNodeId
  | .exitSeen _ _ | .exitAdmitted _ _ _ => True
  | .installing exit | .restartTarget exit => ∃ r, record = some r ∧ r.state = .restarting ∧
      r.lastExit = some exit
  | .restartReserving exit reservation => ∃ r, record = some r ∧ r.state = .restarting ∧
      r.lastExit = some exit ∧ r.restartReservation = some reservation
  | .restartConfirming exit reservation reply | .restartPublishing exit reservation reply =>
    ∃ r, record = some r ∧ r.state = .restarting ∧ r.lastExit = some exit ∧
      r.restartReservation = some reservation ∧ Confirmed exit reservation reply

def selectedNode : ActorTask → Option NodeSnapshot
  | .selected _ node => some node
  | _ => none

def carried : ActorTask → Option (ReserveActorWorkerRequest × ReserveActorWorkerReply)
  | .restartConfirming _ reservation reply | .restartPublishing _ reservation reply =>
    some (reservation, reply)
  | _ => none

/-- The reply a thread receives in this step. -/
def answer (input : ActorInput) (task : ActorTask) :
    List (ReserveActorWorkerRequest × ReserveActorWorkerReply) :=
  match task.awaiting, input.reserved with
  | some reservation, .reply reply => [(reservation, reply)]
  | _, _ => []

def context (input : ActorInput) (task : ActorTask) : ActorRecord.Context where
  selects nodeId := ∃ node, task.selectedNode = some node ∧ node.nodeId = nodeId
  replied reservation reply :=
    (reservation, reply) ∈ task.answer input ∨ task.carried = some (reservation, reply)

end ActorTask

namespace ActorRegistry

variable {context : ActorRecord.Context} {actors actors' : ActorRegistry} {actorId : ActorID}
variable {r r' : ActorRecord}

/-- Records stand under their own identity and are valid. -/
def Inv (actors : ActorRegistry) : Prop :=
  ∀ actorId r, actors.actors.get? actorId = some r → r.request.actorId = actorId ∧ r.Valid

/-- One Actor's record is left alone, created, or takes one transition. -/
structure Moves (context : ActorRecord.Context) (actorId : ActorID)
    (actors actors' : ActorRegistry) : Prop where
  others : ∀ other, other ≠ actorId → actors'.actors.get? other = actors.actors.get? other
  record : actors'.actors.get? actorId = actors.actors.get? actorId ∨
    (actors.actors.get? actorId = none ∧ ∃ request : CreateActorRequest,
      request.actorId = actorId ∧ actors'.actors.get? actorId = some (.new request)) ∨
    ∃ r r', actors.actors.get? actorId = some r ∧ actors'.actors.get? actorId = some r' ∧
      ActorRecord.Step context r r'
  detections : ∀ detection outcome, actors.exitDetections.get? detection = some outcome →
    actors'.exitDetections.get? detection = some outcome

theorem Moves.rfl : Moves context actorId actors actors :=
  ⟨fun _ _ => .refl _, .inl (.refl _), fun _ _ h => h⟩

theorem setRecord_moves (hrecord : actors.actors.get? actorId = some r)
    (hstep : ActorRecord.Step context r r') :
    Moves context actorId actors (actors.setRecord actorId r') where
  others _ hother := Dict.get?_set_of_ne _ _ (Ne.symm hother)
  record := .inr (.inr ⟨r, r', hrecord, Dict.get?_set_self _ _ _, hstep⟩)
  detections _ _ h := h

variable {exit : ActorWorkerExitRecord}

theorem reduceExit_moves (hrecord : actors.actors.get? exit.actorId = some r)
    (hnew : actors.exitDetections.get? exit.detectionId = none)
    (hstep : ActorRecord.Step context r r') :
    Moves context exit.actorId actors (actors.reduceExit exit r') where
  others _ hother := Dict.get?_set_of_ne _ _ (Ne.symm hother)
  record := .inr (.inr ⟨r, r', hrecord, Dict.get?_set_self _ _ _, hstep⟩)
  detections detection outcome h := by
    exact Dict.get?_set_kept hnew h

theorem Moves.inv (h : Moves context actorId actors actors') (hinv : actors.Inv) :
    actors'.Inv := by
  intro other x hx
  by_cases hother : other = actorId
  · subst hother
    rcases h.record with hsame | ⟨_, request, hactor, hnew⟩ | ⟨r, r', hr, hr', hstep⟩
    · exact hinv _ _ (hsame ▸ hx)
    · obtain rfl := Option.some.inj (hnew.symm.trans hx)
      exact ⟨hactor, ActorRecord.valid_new request⟩
    · obtain rfl := Option.some.inj (hr'.symm.trans hx)
      obtain ⟨hactor, hvalid⟩ := hinv _ _ hr
      exact ⟨hstep.request ▸ hactor, hstep.valid hvalid⟩
  · rw [h.others _ hother] at hx
    exact hinv _ _ hx

variable {request : CreateActorRequest}

section

variable (hrecord : actors.actors.get? request.actorId = some r) (hrequest : r.request = request)
include hrecord hrequest

theorem getMatching_of : actors.getMatching request = .ok r := by
  simp [getMatching, hrecord, hrequest]

theorem finishCreate_moves {reply : CreateActorReply} (hstate : r.state = .creating)
    (haccepted : ∀ endpoint routeEpoch h, reply.outcome = .accepted endpoint routeEpoch h →
      ∃ reservation answer, r.initialReservation = some reservation ∧
      reservation.routeEpoch = routeEpoch ∧ context.Accepted reservation endpoint answer) :
    Moves context request.actorId actors (finishCreate actors request (.ok reply)) := by
  cases hfinish : actors.finish request reply with
  | error e =>
    simp only [finishCreate, hfinish]
    exact .rfl
  | ok result =>
    obtain ⟨fresh, actors'⟩ := result
    simp only [finishCreate, hfinish]
    simp only [finish, bind_eq_ok, getMatching_of hrecord hrequest, Except.ok.injEq,
      exists_eq_left'] at hfinish
    obtain ⟨_, _, hfinish⟩ := hfinish
    rw [if_neg (by simp [hstate])] at hfinish
    split at hfinish
    · rename_i endpoint routeEpoch hpos houtcome
      cases hfinish
      obtain ⟨reservation, answer, hfrozen, rfl, hreply⟩ := haccepted _ _ _ houtcome
      exact setRecord_moves hrecord (.created hstate hfrozen hreply)
    · rename_i error retryable routeEpoch explained houtcome
      split at hfinish
      · cases hfinish
        exact .rfl
      · cases hfinish
        exact setRecord_moves hrecord (.refused hstate explained
          (Nat.lt_of_lt_of_le (Nat.lt_succ_self _) (Nat.le_max_left _ _)))

theorem finishCreate_rejected {error : String} {retryable : Bool} {explained : error ≠ ""}
    (hstate : r.state = .creating) :
    Moves context request.actorId actors
      (finishCreate actors request (.ok (rejectActor request error retryable explained))) :=
  finishCreate_moves hrecord hrequest hstate fun _ _ _ h => by simp [rejectActor] at h

end

/-! ## The sections of a thread -/

/-- What a section does to the record and hands to the next one. -/
structure TaskSpec (nodes : NodeRegistry) (input : ActorInput) (actors : ActorRegistry)
    (task : ActorTask) (result : Option ActorTask × ActorRegistry) : Prop where
  moves : Moves (task.context input) task.actorId actors result.2
  next : ∀ next, result.1 = some next → next.actorId = task.actorId ∧
    next.Holds (result.2.actors.get? task.actorId)
  selected : ∀ next node, result.1 = some next → next.selectedNode = some node →
    ∃ id, nodes.get? id = some node ∧ node.state = .alive
  carried : ∀ next pair, result.1 = some next → next.carried = some pair →
    task.carried = some pair ∨ pair ∈ task.answer input
  handled : ∀ exit, task.exit? = some exit → ∀ r, actors.actors.get? task.actorId = some r →
    result.2.actors.get? task.actorId = some r ∨ exit.generation = r.generation ∨
      r.lastExit = some exit

variable {nodes : NodeRegistry} {input : ActorInput} {task : ActorTask}

theorem TaskSpec.done (hmoves : Moves (task.context input) task.actorId actors actors')
    (hhandled : ∀ exit, task.exit? = some exit → ∀ r,
      actors.actors.get? task.actorId = some r →
        actors'.actors.get? task.actorId = some r ∨ exit.generation = r.generation ∨
          r.lastExit = some exit) : TaskSpec nodes input actors task (none, actors') where
  moves := hmoves
  next _ h := by cases h
  selected _ _ h := by cases h
  carried _ _ h := by cases h
  handled := hhandled

theorem TaskSpec.quit : TaskSpec nodes input actors task (none, actors) :=
  .done .rfl fun _ _ _ h => .inl h

theorem TaskSpec.finished (hmoves : Moves (task.context input) task.actorId actors actors')
    (hcreate : task.exit? = none) : TaskSpec nodes input actors task (none, actors') :=
  .done hmoves fun _ h => by simp [hcreate] at h

variable {next : ActorTask}

theorem TaskSpec.go (hmoves : Moves (task.context input) task.actorId actors actors')
    (hactor : next.actorId = task.actorId) (hholds : next.Holds (actors'.actors.get? task.actorId))
    (hselected : next.selectedNode = none) (hcarried : next.carried = none)
    (hhandled : ∀ exit, task.exit? = some exit → ∀ r, actors.actors.get? task.actorId = some r →
      actors'.actors.get? task.actorId = some r ∨ exit.generation = r.generation ∨
      r.lastExit = some exit) :
    TaskSpec nodes input actors task (some next, actors') where
  moves := hmoves
  next _ h := by
    cases h
    exact ⟨hactor, hholds⟩
  selected _ node h hnode := by
    cases h
    rw [hselected] at hnode
    cases hnode
  carried _ pair h hpair := by
    cases h
    rw [hcarried] at hpair
    cases hpair
  handled := hhandled

theorem TaskSpec.goto (hactor : next.actorId = task.actorId)
    (hholds : next.Holds (actors.actors.get? task.actorId)) (hselected : next.selectedNode = none)
    (hcarried : next.carried = none) : TaskSpec nodes input actors task (some next, actors) :=
  .go .rfl hactor hholds hselected hcarried fun _ _ _ h => .inl h

variable {node : NodeSnapshot}

theorem TaskSpec.select (hactor : next.actorId = task.actorId)
    (hholds : next.Holds (actors.actors.get? task.actorId))
    (hselected : next.selectedNode = some node) (hcarried : next.carried = none)
    (hnode : ∃ id, nodes.get? id = some node ∧ node.state = .alive) :
    TaskSpec nodes input actors task (some next, actors) where
  moves := .rfl
  next _ h := by
    cases h
    exact ⟨hactor, hholds⟩
  selected _ other h hother := by
    cases h
    obtain rfl := Option.some.inj (hselected.symm.trans hother)
    exact hnode
  carried _ pair h hpair := by
    cases h
    rw [hcarried] at hpair
    cases hpair
  handled _ _ _ h := .inl h

theorem TaskSpec.carry {pair} (hactor : next.actorId = task.actorId)
    (hholds : next.Holds (actors.actors.get? task.actorId)) (hselected : next.selectedNode = none)
    (hcarried : next.carried = some pair)
    (hpair : task.carried = some pair ∨ pair ∈ task.answer input) :
    TaskSpec nodes input actors task (some next, actors) where
  moves := .rfl
  next _ h := by
    cases h
    exact ⟨hactor, hholds⟩
  selected _ node h hnode := by
    cases h
    rw [hselected] at hnode
    cases hnode
  carried _ other h hother := by
    cases h
    obtain rfl := Option.some.inj (hcarried.symm.trans hother)
    exact hpair
  handled _ _ _ h := .inl h

theorem initialReservationFor_of (hrecord : actors.actors.get? request.actorId = some r)
    (hrequest : r.request = request) :
    actors.initialReservationFor request = .ok r.initialReservation := by
  simp only [initialReservationFor, getMatching_of hrecord hrequest]
  rfl

theorem mem_snapshot {visible : NodeID → Bool} {p : NodeSnapshot → Bool}
    (h : (nodes.snapshot visible).find? p = some node) :
    ∃ id, nodes.get? id = some node ∧ node.state = .alive := by
  have hmem := List.mem_of_find?_eq_some h
  simp only [NodeRegistry.snapshot, List.mem_filter, decide_eq_true_eq] at hmem
  obtain ⟨id, hid⟩ := Dict.mem_values_iff.mp hmem.1
  exact ⟨id, hid, hmem.2.1⟩

variable {admissionOpen : Bool}

theorem begun_spec (hholds : (ActorTask.begun request).Holds (actors.actors.get? request.actorId)) :
    TaskSpec nodes input actors (.begun request)
      (stepTask nodes admissionOpen actors input (.begun request)) := by
  obtain ⟨r, hrecord, hrequest, hstate⟩ := hholds
  have hrejected : ∀ {error : String} {retryable : Bool} {explained : error ≠ ""},
      TaskSpec nodes input actors (.begun request) (none, finishCreate actors request
        (.ok (rejectActor request error retryable explained))) :=
    .finished (finishCreate_rejected hrecord hrequest hstate) rfl
  simp only [stepTask, initialReservationFor_of hrecord hrequest]
  cases hreservation : r.initialReservation with
  | some reservation =>
    exact .goto rfl ⟨r, hrecord, hrequest, hstate, hreservation⟩ rfl rfl
  | none =>
    dsimp only
    cases hdecision : input.decision with
    | infeasible => exact hrejected
    | pendingCapacity => exact hrejected
    | node nodeId =>
      dsimp only
      cases hfind : (nodes.snapshot input.schedulingVisible).find? fun node =>
          node.nodeId = nodeId with
      | none => exact hrejected
      | some node =>
        exact .select rfl ⟨r, hrecord, hrequest, hstate, hreservation⟩ rfl rfl
          (mem_snapshot hfind)

theorem selected_spec
    (hholds : (ActorTask.selected request node).Holds (actors.actors.get? request.actorId)) :
    TaskSpec nodes input actors (.selected request node)
      (stepTask nodes admissionOpen actors input (.selected request node)) := by
  obtain ⟨r, hrecord, rfl, hstate, hnone⟩ := hholds
  have hinstall : actors.installInitialReservation r.request
      (ActorRecord.firstReservation r.request node.nodeId) =
        .ok (ActorRecord.firstReservation r.request node.nodeId,
          actors.setRecord r.request.actorId { r with
            initialReservation := some (ActorRecord.firstReservation r.request node.nodeId) }) := by
    simp only [installInitialReservation, bind_eq_ok, getMatching_of hrecord rfl,
      raiseIf_eq_ok]
    refine ⟨r, rfl, (), by simp [hstate], ?_⟩
    rw [hnone]
    rfl
  simp only [stepTask, hinstall]
  have hstep : ActorRecord.Step ((ActorTask.selected r.request node).context input) r
      { r with initialReservation := some (ActorRecord.firstReservation r.request node.nodeId) } :=
    .reserved hstate hnone ⟨node, rfl, rfl⟩
  refine .go (setRecord_moves hrecord hstep) rfl ?_ rfl rfl fun _ h => by cases h
  exact ⟨_, Dict.get?_set_self _ _ _, rfl, hstate, rfl, rfl⟩

variable {reservation : ReserveActorWorkerRequest}

theorem targeted_spec (hnodes : nodes.Inv)
    (hholds : (ActorTask.targeted request reservation).Holds (actors.actors.get? request.actorId)) :
    TaskSpec nodes input actors (.targeted request reservation)
      (stepTask nodes admissionOpen actors input (.targeted request reservation)) := by
  obtain ⟨r, hrecord, hrequest, hstate, hfrozen⟩ := hholds
  simp only [stepTask]
  cases hnode : nodes.get? reservation.targetNodeId with
  | none => exact .finished (finishCreate_rejected hrecord hrequest hstate) rfl
  | some node =>
    exact .goto rfl ⟨r, hrecord, hrequest, hstate, hfrozen, hnodes.keyed _ _ hnode⟩ rfl rfl

theorem reservedReply_accepted {answer : ReserveAnswer} {reply : CreateActorReply}
    {endpoint : ActorEndpoint} {routeEpoch : Nat} {h : 0 < routeEpoch}
    (hreply : reservedReply request node reservation answer = .ok reply)
    (houtcome : reply.outcome = .accepted endpoint routeEpoch h) :
    reservation.routeEpoch = routeEpoch ∧ ∃ reserved, answer = .reply reserved ∧
      reserved.generation = request.generation ∧ reserved.outcome = .accepted endpoint ∧
        endpoint.nodeId = node.nodeId := by
  cases answer with
  | failed error =>
    cases hreply
    cases houtcome
  | malformed =>
    cases hreply
    cases houtcome
  | reply reserved =>
    simp only [reservedReply] at hreply
    split at hreply
    · cases hreply
      cases houtcome
    · rename_i hsame
      split at hreply
      · cases hreply
        cases houtcome
      · rename_i accepted haccepted
        split at hreply
        · cases hreply
          cases houtcome
        · rename_i hnode
          split at hreply
          · cases hreply
            cases houtcome
            refine ⟨rfl, reserved, rfl, ?_, haccepted, not_not.mp hnode⟩
            by_contra hgeneration
            exact hsame (.inr hgeneration)
          · cases hreply

theorem reserving_spec (hinv : actors.Inv)
    (hholds : (ActorTask.reserving request node reservation).Holds
      (actors.actors.get? request.actorId)) :
    TaskSpec nodes input actors (.reserving request node reservation)
      (stepTask nodes admissionOpen actors input (.reserving request node reservation)) := by
  obtain ⟨r, hrecord, hrequest, hstate, hfrozen, hthere⟩ := hholds
  refine .finished ?_ rfl
  cases hreply : reservedReply request node reservation input.reserved with
  | error e => exact .rfl
  | ok reply =>
    refine finishCreate_moves hrecord hrequest hstate fun endpoint routeEpoch h houtcome => ?_
    obtain ⟨hepoch, reserved, hanswer, hown, haccepted, hnode⟩ :=
      reservedReply_accepted hreply houtcome
    have hgeneration := (hinv _ _ hrecord).2.initial _ hfrozen
    refine ⟨reservation, reserved, hfrozen, hepoch, ?_, ?_, haccepted, hnode.trans hthere⟩
    · left
      simp [ActorTask.answer, ActorTask.awaiting, hanswer]
    · rw [hown, hgeneration, hrequest]

/-! ## The sections of an exit report -/

theorem acceptWorkerExit_spec (actors : ActorRegistry) (exit : ActorWorkerExitRecord)
    (node : NodeSnapshot) (restartAllowed : Bool) :
    (∃ disposition, disposition ≠ .applied ∧
      actors.acceptWorkerExit exit node restartAllowed = (disposition, actors)) ∨
    ∃ r r', actors.actors.get? exit.actorId = some r ∧ exit.generation = r.generation ∧
      actors.exitDetections.get? exit.detectionId = none ∧ r'.lastExit = some exit ∧
      (∀ context, ActorRecord.Step context r r') ∧
      actors.acceptWorkerExit exit node restartAllowed = (.applied, actors.reduceExit exit r') := by
  unfold acceptWorkerExit
  cases hprior : actors.exitDetections.get? exit.detectionId with
  | some prior =>
    refine .inl ⟨_, ?_, rfl⟩
    split <;> decide
  | none =>
    cases hrecord : actors.actors.get? exit.actorId with
    | none => exact .inl ⟨.unknown, by decide, rfl⟩
    | some r =>
      dsimp only
      split
      · refine .inl ⟨_, ?_, rfl⟩
        split <;> decide
      · rename_i hstate
        have halive : r.state = .alive := not_not.mp hstate
        split
        · exact .inl ⟨.stale, by decide, rfl⟩
        · split
          · exact .inl ⟨.conflict, by decide, rfl⟩
          · rename_i hown
            split
            · exact .inl ⟨.conflict, by decide, rfl⟩
            · rename_i hexit
              have hexited := not_not.mp hexit
              split
              · exact .inr ⟨r, _, rfl, not_not.mp hown, rfl, rfl,
                  fun _ => .exhausted halive (not_not.mp hown) hexited, rfl⟩
              · rename_i hbudget
                have hleft : r.restartsUsed < r.request.maxRestarts := by
                  by_contra hspent
                  exact hbudget (.inr (not_lt.mp hspent))
                exact .inr ⟨r, _, rfl, not_not.mp hown, rfl, rfl,
                  fun _ => .restarting halive (not_not.mp hown) hexited hleft, rfl⟩

theorem getRestartRecord_spec (h : actors.getRestartRecord exit = .ok r) :
    actors.actors.get? exit.actorId = some r := by
  simp only [getRestartRecord, bind_eq_ok] at h
  obtain ⟨_, _, h⟩ := h
  cases hrecord : actors.actors.get? exit.actorId with
  | none => simp [hrecord] at h
  | some x =>
    simp only [hrecord, pure_eq_ok] at h
    rw [h]

variable {snapshot : ActorSnapshot}

theorem replayStateForExit_spec (h : actors.replayStateForExit exit = .ok (snapshot, true)) :
    ∃ r, actors.actors.get? exit.actorId = some r ∧ r.lastExit = some exit ∧
      snapshot = r.snapshot := by
  simp only [replayStateForExit, bind_eq_ok] at h
  obtain ⟨_, _, r, hrecord, h⟩ := h
  split at h
  · rename_i hlast
    cases h
    exact ⟨r, getRestartRecord_spec hrecord, hlast, rfl⟩
  · cases h

theorem exitReduced_spec {restartAllowed : Bool}
    (hmoves : Moves ((ActorTask.exitAdmitted exit node restartAllowed).context input)
      exit.actorId actors actors')
    (hhandled : ∀ r, actors.actors.get? exit.actorId = some r →
      actors'.actors.get? exit.actorId = some r ∨ exit.generation = r.generation ∨
      r.lastExit = some exit)
    {result : Option ActorTask × ActorRegistry}
    (hresult : result = match actors'.replayStateForExit exit with
      | .ok (snapshot, true) =>
        (if snapshot.state = .restarting then some (.installing exit) else none, actors')
      | _ => (none, actors')) :
    TaskSpec nodes input actors (.exitAdmitted exit node restartAllowed) result := by
  have hquit : TaskSpec nodes input actors (.exitAdmitted exit node restartAllowed)
      (none, actors') := by
    refine .done hmoves fun x hx => ?_
    cases hx
    exact hhandled
  subst hresult
  split
  · rename_i snapshot hreplay
    obtain ⟨r, hrecord, hlast, rfl⟩ := replayStateForExit_spec hreplay
    split
    · rename_i hstate
      exact .go hmoves rfl ⟨r, hrecord, hstate, hlast⟩ rfl rfl hquit.handled
    · exact hquit
  · exact hquit

theorem exitAdmitted_spec (exit : ActorWorkerExitRecord) (node : NodeSnapshot)
    (restartAllowed : Bool) :
    TaskSpec nodes input actors (.exitAdmitted exit node restartAllowed)
      (stepTask nodes admissionOpen actors input (.exitAdmitted exit node restartAllowed)) := by
  rcases actors.acceptWorkerExit_spec exit node restartAllowed with
    ⟨disposition, hrefused, haccept⟩ | ⟨r, r', hrecord, hown, hnew, hlast, hstep, haccept⟩
  · cases disposition with
    | applied => exact absurd rfl hrefused
    | alreadyApplied =>
      refine exitReduced_spec .rfl (fun _ h => .inl h) ?_
      simp only [stepTask, haccept] <;> rfl
    | retryable | unknown | stale | conflict =>
      simp only [stepTask, haccept]
      exact .quit
  · refine exitReduced_spec (reduceExit_moves hrecord hnew (hstep _)) (fun x hx => ?_) ?_
    · obtain rfl := Option.some.inj (hrecord.symm.trans hx)
      exact .inr (.inl hown)
    · simp only [stepTask, haccept] <;> rfl

theorem restartTarget_spec
    (hholds : (ActorTask.restartTarget exit).Holds (actors.actors.get? exit.actorId)) :
    TaskSpec nodes input actors (.restartTarget exit)
      (stepTask nodes admissionOpen actors input (.restartTarget exit)) := by
  obtain ⟨r, hrecord, hstate, hlast⟩ := hholds
  simp only [stepTask]
  split
  · rename_i reservation hreservation
    simp only [restartReservationFor, bind_eq_ok, pure_eq_ok] at hreservation
    obtain ⟨x, hx, hfrozen⟩ := hreservation
    obtain rfl := Option.some.inj (hrecord.symm.trans (getRestartRecord_spec hx))
    split
    · split
      · exact .goto rfl ⟨r, hrecord, hstate, hlast, hfrozen⟩ rfl rfl
      · exact .quit
    · exact .quit
  · exact .quit

theorem failRestart_moves {error : String} (hrecord : actors.actors.get? exit.actorId = some r)
    (h : actors.failRestart exit error = .ok (snapshot, actors')) :
    Moves context exit.actorId actors actors' := by
  simp only [failRestart, bind_eq_ok, raiseIf_eq_ok] at h
  obtain ⟨_, hexplained, x, hx, h⟩ := h
  obtain rfl := Option.some.inj (hrecord.symm.trans (getRestartRecord_spec hx))
  split at h
  · cases h
  · rename_i reservation hfrozen
    simp only [bind_eq_ok, raiseIf_eq_ok, pure_eq_ok, not_or, not_not] at h
    obtain ⟨_, ⟨hstate, _⟩, heq⟩ := h
    cases heq
    exact setRecord_moves hrecord (.restartFailed hstate hfrozen hexplained)

theorem restartReserving_spec
    (hholds : (ActorTask.restartReserving exit reservation).Holds
      (actors.actors.get? exit.actorId)) :
    TaskSpec nodes input actors (.restartReserving exit reservation)
      (stepTask nodes admissionOpen actors input (.restartReserving exit reservation)) := by
  obtain ⟨r, hrecord, hstate, hlast, hfrozen⟩ := hholds
  simp only [stepTask]
  split
  · exact .quit
  · exact .quit
  · rename_i reply hreserved
    split
    · rename_i error _ _
      split
      · exact .quit
      · cases hfail : actors.failRestart exit error with
        | error e => exact .quit
        | ok result =>
          refine .done (failRestart_moves hrecord hfail) fun x hx r' hr' => ?_
          cases hx
          obtain rfl := Option.some.inj (hrecord.symm.trans hr')
          exact .inr (.inr hlast)
    · rename_i endpoint haccepted
      split
      · exact .quit
      · rename_i hconfirmed
        refine .carry rfl
          ⟨r, hrecord, hstate, hlast, hfrozen, endpoint, haccepted, hconfirmed⟩ rfl rfl (.inr ?_)
        simp [ActorTask.answer, ActorTask.awaiting, hreserved]

variable {reply : ReserveActorWorkerReply}

theorem restartConfirming_spec
    (hholds : (ActorTask.restartConfirming exit reservation reply).Holds
      (actors.actors.get? exit.actorId)) :
    TaskSpec nodes input actors (.restartConfirming exit reservation reply)
      (stepTask nodes admissionOpen actors input (.restartConfirming exit reservation reply)) := by
  simp only [stepTask]
  split
  · split
    · exact .carry rfl hholds rfl rfl (.inl rfl)
    · exact .quit
  · exact .quit

theorem restartPublishing_spec
    (hholds : (ActorTask.restartPublishing exit reservation reply).Holds
      (actors.actors.get? exit.actorId)) :
    TaskSpec nodes input actors (.restartPublishing exit reservation reply)
      (stepTask nodes admissionOpen actors input (.restartPublishing exit reservation reply)) := by
  obtain ⟨r, hrecord, hstate, hlast, hfrozen, endpoint, haccepted, hconfirmed⟩ := hholds
  simp only [stepTask]
  cases hpublish : actors.publishRestart exit reply with
  | error e => exact .quit
  | ok result =>
    simp only [publishRestart, bind_eq_ok] at hpublish
    obtain ⟨x, hx, hpublish⟩ := hpublish
    obtain rfl := Option.some.inj (hrecord.symm.trans (getRestartRecord_spec hx))
    rw [if_neg (by simp [hstate]), hfrozen, haccepted] at hpublish
    simp only [bind_eq_ok, raiseIf_eq_ok, pure_eq_ok, not_or, not_not] at hpublish
    obtain ⟨_, ⟨_, _, hown, hthere⟩, heq⟩ := hpublish
    cases heq
    refine .done (setRecord_moves hrecord (.restarted hstate hfrozen
      ⟨.inr rfl, hown, haccepted, hthere⟩)) fun x hx r' hr' => ?_
    cases hx
    obtain rfl := Option.some.inj (hrecord.symm.trans hr')
    exact .inr (.inr hlast)

theorem stepTask_spec (hnodes : nodes.Inv) (hinv : actors.Inv)
    (hholds : task.Holds (actors.actors.get? task.actorId)) :
    TaskSpec nodes input actors task (stepTask nodes admissionOpen actors input task) := by
  cases task with
  | begun request => exact begun_spec hholds
  | selected request node => exact selected_spec hholds
  | targeted request reservation => exact targeted_spec hnodes hholds
  | reserving request node reservation => exact reserving_spec hinv hholds
  | exitSeen exit node => exact .goto rfl trivial rfl rfl
  | exitAdmitted exit node restartAllowed => exact exitAdmitted_spec exit node restartAllowed
  | installing exit =>
    simp only [stepTask]
    split
    · exact .goto rfl hholds rfl rfl
    · exact .quit
  | restartTarget exit => exact restartTarget_spec hholds
  | restartReserving exit reservation => exact restartReserving_spec hholds
  | restartConfirming exit reservation reply => exact restartConfirming_spec hholds
  | restartPublishing exit reservation reply => exact restartPublishing_spec hholds

end ActorRegistry

end MiniRay
