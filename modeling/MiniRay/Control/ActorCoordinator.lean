import MiniRay.Control.ActorRegistry

/-! Handler threads hold the lock of one Actor while they call Nodes and owners; the registries
change in between. Every step of a thread is one section without a remote call. -/

namespace MiniRay

open Checked

inductive ReserveAnswer
  | failed (error : String)
  | malformed
  | reply (reply : ReserveActorWorkerReply)

inductive ActorDecision
  | infeasible
  | pendingCapacity
  | node (nodeId : NodeID)

/-- What a step hears of the policy, the Nodes and the owners. -/
structure ActorInput where
  decision : ActorDecision
  schedulingVisible : NodeID → Bool
  reserved : ReserveAnswer
  installed : Bool
  acknowledged : List ActorID

/-- Where a thread that holds an Actor's lock stands. -/
inductive ActorTask
  | begun (request : CreateActorRequest)
  | selected (request : CreateActorRequest) (node : NodeSnapshot)
  | targeted (request : CreateActorRequest) (reservation : ReserveActorWorkerRequest)
  | reserving (request : CreateActorRequest) (selected : NodeSnapshot)
      (reservation : ReserveActorWorkerRequest)
  | exitSeen (exit : ActorWorkerExitRecord) (node : NodeSnapshot)
  | exitAdmitted (exit : ActorWorkerExitRecord) (node : NodeSnapshot) (restartAllowed : Bool)
  | installing (exit : ActorWorkerExitRecord)
  | restartTarget (exit : ActorWorkerExitRecord)
  | restartReserving (exit : ActorWorkerExitRecord) (reservation : ReserveActorWorkerRequest)
  | restartConfirming (exit : ActorWorkerExitRecord) (reservation : ReserveActorWorkerRequest)
      (reply : ReserveActorWorkerReply)
  | restartPublishing (exit : ActorWorkerExitRecord) (reservation : ReserveActorWorkerRequest)
      (reply : ReserveActorWorkerReply)

namespace ActorTask

/-- The Actor whose lock the thread holds. -/
def actorId : ActorTask → ActorID
  | .begun request | .selected request _ | .targeted request _ | .reserving request _ _ =>
    request.actorId
  | .exitSeen exit _ | .exitAdmitted exit _ _ | .installing exit | .restartTarget exit |
    .restartReserving exit _ | .restartConfirming exit _ _ | .restartPublishing exit _ _ =>
      exit.actorId

/-- The exit report the thread handles. -/
def exit? : ActorTask → Option ActorWorkerExitRecord
  | .begun _ | .selected _ _ | .targeted _ _ | .reserving _ _ _ => none
  | .exitSeen exit _ | .exitAdmitted exit _ _ | .installing exit | .restartTarget exit |
    .restartReserving exit _ | .restartConfirming exit _ _ | .restartPublishing exit _ _ =>
      some exit

/-- The reservation whose reply the thread waits for. -/
def awaiting : ActorTask → Option ReserveActorWorkerRequest
  | .reserving _ _ reservation | .restartReserving _ reservation => some reservation
  | _ => none

end ActorTask

def rejectActor (request : CreateActorRequest) (error : String) (retryable : Bool)
    (h : error ≠ "") : CreateActorReply :=
  ⟨request.actorId, request.generation, .rejected error retryable 0 h, request.own_generation⟩

/-- The outcome of `_create_once` once its reservation RPC is over. -/
def reservedReply (request : CreateActorRequest) (selected : NodeSnapshot)
    (reservation : ReserveActorWorkerRequest) :
    ReserveAnswer → Except ActorControlError CreateActorReply
  | .failed error => .ok (rejectActor request
      ("NodeManager Actor reservation failed: " ++ error) true (by simp))
  | .malformed => .ok (rejectActor request
      "NodeManager returned an invalid Actor reservation reply" true (by decide))
  | .reply reserved =>
    if reserved.actorId ≠ request.actorId ∨ reserved.generation ≠ request.generation then
      .ok (rejectActor request "NodeManager returned the wrong Actor identity" true (by decide))
    else match reserved.outcome with
      | .rejected _ error explained => .ok (rejectActor request error false explained)
      | .accepted endpoint =>
        if endpoint.nodeId ≠ selected.nodeId then
          .ok (rejectActor request
            "NodeManager returned the wrong Actor node" false (by decide))
        else if h : 0 < reservation.routeEpoch then
          .ok ⟨request.actorId, request.generation,
            .accepted endpoint reservation.routeEpoch h, request.own_generation⟩
        else .error (.protocol "accepted actor creation requires a positive route_epoch")

/-- The target of a restart is still the Node incarnation of the exit, and alive. -/
def SameIncarnation (exit : ActorWorkerExitRecord) (node : NodeSnapshot) : Prop :=
  node.state = .alive ∧ node.nodePid = exit.nodePid ∧
    node.registrationEpoch = exit.registrationEpoch

instance (exit : ActorWorkerExitRecord) (node : NodeSnapshot) :
    Decidable (SameIncarnation exit node) := inferInstanceAs (Decidable (_ ∧ _))

/-- The Node's reply to a restart reservation that neither confirms nor rejects it. -/
def Unconfirmed (exit : ActorWorkerExitRecord) (reservation : ReserveActorWorkerRequest)
    (reply : ReserveActorWorkerReply) (endpoint : ActorEndpoint) : Prop :=
  reply.actorId ≠ reservation.actorId ∨ reply.generation ≠ reservation.generation ∨
    endpoint.nodeId ≠ reservation.targetNodeId ∨ endpoint.workerId = exit.workerId ∨
    endpoint.workerPid = exit.workerPid

instance (exit : ActorWorkerExitRecord) (reservation : ReserveActorWorkerRequest)
    (reply : ReserveActorWorkerReply) (endpoint : ActorEndpoint) :
    Decidable (Unconfirmed exit reservation reply endpoint) :=
  inferInstanceAs (Decidable (_ ∨ _))

/-- `finish`, after which the create call returns; an exception ends it too. -/
def finishCreate (actors : ActorRegistry) (request : CreateActorRequest)
    (reply : Except ActorControlError CreateActorReply) : ActorRegistry :=
  match reply with
  | .error _ => actors
  | .ok reply => match actors.finish request reply with
    | .error _ => actors
    | .ok (_, actors) => actors

/-- One section of a thread; `none` is a call that returned or raised. -/
def stepTask (nodes : NodeRegistry) (admissionOpen : Bool) (actors : ActorRegistry)
    (input : ActorInput) : ActorTask → Option ActorTask × ActorRegistry
  | .begun request => match actors.initialReservationFor request with
    | .error _ => (none, actors)
    | .ok (some reservation) => (some (.targeted request reservation), actors)
    | .ok none => match input.decision with
      | .infeasible => (none, finishCreate actors request (.ok (rejectActor request
          "no live node is feasible for the Actor resources" false (by decide))))
      | .pendingCapacity => (none, finishCreate actors request (.ok (rejectActor request
          "Actor resources are feasible but currently unavailable" true (by decide))))
      | .node nodeId =>
        match (nodes.snapshot input.schedulingVisible).find? fun node => node.nodeId = nodeId with
        | none => (none, finishCreate actors request (.ok (rejectActor request
            "scheduler selected an unknown node" true (by decide))))
        | some node => (some (.selected request node), actors)
  | .selected request node =>
    match actors.installInitialReservation request
        (ActorRecord.firstReservation request node.nodeId) with
    | .error _ => (none, actors)
    | .ok (reservation, actors) => (some (.reserving request node reservation), actors)
  | .targeted request reservation => match nodes.get? reservation.targetNodeId with
    | none => (none, finishCreate actors request (.ok (rejectActor request
        "Actor reservation target is no longer live" true (by decide))))
    | some node => (some (.reserving request node reservation), actors)
  | .reserving request selected reservation =>
    (none, finishCreate actors request
      (reservedReply request selected reservation input.reserved))
  | .exitSeen exit node => (some (.exitAdmitted exit node admissionOpen), actors)
  | .exitAdmitted exit node restartAllowed =>
    match actors.acceptWorkerExit exit node restartAllowed with
    | (.applied, actors) | (.alreadyApplied, actors) =>
      match actors.replayStateForExit exit with
      | .ok (snapshot, true) =>
        (if snapshot.state = .restarting then some (.installing exit) else none, actors)
      | _ => (none, actors)
    | (_, actors) => (none, actors)
  | .installing exit => (if input.installed then some (.restartTarget exit) else none, actors)
  | .restartTarget exit => match actors.restartReservationFor exit with
    | .ok (some reservation) => match nodes.get? reservation.targetNodeId with
      | some node =>
        (if SameIncarnation exit node then some (.restartReserving exit reservation) else none,
          actors)
      | none => (none, actors)
    | _ => (none, actors)
  | .restartReserving exit reservation => match input.reserved with
    | .failed _ | .malformed => (none, actors)
    | .reply reply => match reply.outcome with
      | .rejected _ error _ =>
        if reply.actorId ≠ reservation.actorId ∨ reply.generation ≠ reservation.generation then
          (none, actors)
        else match actors.failRestart exit error with
          | .error _ => (none, actors)
          | .ok (_, actors) => (none, actors)
      | .accepted endpoint =>
        (if Unconfirmed exit reservation reply endpoint then none
          else some (.restartConfirming exit reservation reply), actors)
  | .restartConfirming exit reservation reply => match nodes.get? reservation.targetNodeId with
    | some node =>
      (if SameIncarnation exit node then some (.restartPublishing exit reservation reply)
        else none, actors)
    | none => (none, actors)
  | .restartPublishing exit _ reply => match actors.publishRestart exit reply with
    | .error _ => (none, actors)
    | .ok (_, actors) => (none, actors)

/-! ## Threads -/

/-- The Actors a thread visits one after the other, without holding a lock in between. -/
inductive ActorErrand
  | none
  | draining (later : List ActorID)
  | committed (nodeId : NodeID) (error : String) (requireOwnerAck : Bool)
  | failing (nodeId : NodeID) (error : String) (requireOwnerAck : Bool) (later : List ActorID)

structure ActorThread where
  task : Option ActorTask := .none
  errand : ActorErrand := .none

structure ActorCoordinator where
  nodes : NodeRegistry := {}
  actors : ActorRegistry := {}
  admissionOpen : Bool := true
  nodeFailurePublications : Dict ActorID ActorSnapshot := .empty
  threads : Dict Nat ActorThread := .empty

inductive ActorAction
  | registerNode (nodeId : NodeID) (address : Address) (nodePid : Nat) (hpid : 0 < nodePid)
  | create (tid : Nat) (request : CreateActorRequest)
  | reportWorkerExit (tid : Nat) (exit : ActorWorkerExitRecord)
  | drainOnce (tid : Nat)
  | reportNodeDeath (tid : Nat) (request : ReportNodeDeath)
  | unregisterNode (tid : Nat) (request : UnregisterNode)
  | advance (tid : Nat) (input : ActorInput)

namespace ActorCoordinator

variable (self : ActorCoordinator)

/-- Some thread holds the lock of this Actor. -/
def locked (actorId : ActorID) : Bool :=
  self.threads.values.any fun thread => thread.task.any fun task => task.actorId = actorId

/-- Keep the thread, or let it end when nothing is left to do. -/
def resume (tid : Nat) (thread : ActorThread) : ActorCoordinator :=
  match thread with
  | ⟨none, .none⟩ => { self with threads := self.threads.erase tid }
  | thread => { self with threads := self.threads.set tid thread }

/-- The locked part of `create` up to its cached reply. -/
def startCreate (request : CreateActorRequest) : Option ActorTask × ActorRegistry :=
  if self.admissionOpen = false ∧ self.actors.contains request.actorId = false then
    (none, self.actors)
  else match self.actors.begin_ request with
    | .error _ => (none, self.actors)
    | .ok (true, actors) => (some (.begun request), actors)
    | .ok (false, actors) => match actors.replyFor request with
      | .ok none => (some (.begun request), actors)
      | _ => (none, actors)

/-- The first section of `_report_worker_exit_locked`. -/
def startExit (exit : ActorWorkerExitRecord) : Option ActorTask :=
  (self.nodes.get? exit.nodeId).map fun node => .exitSeen exit node

def drainVisit (actorId : ActorID) : Option ActorTask × ActorRegistry :=
  match self.actors.drainCandidate actorId, self.actors.get actorId with
  | .ok (request, lastExit), .ok snapshot =>
    if snapshot.state = .creating then
      match self.actors.initialReservationFor request with
      | .ok none => match self.actors.cancelUnreservedCreate request
          "Actor creation cancelled by drain" with
        | .ok actors => (none, actors)
        | .error _ => (none, self.actors)
      | .ok (some _) => (some (.begun request), self.actors)
      | .error _ => (none, self.actors)
    else (lastExit.bind self.startExit, self.actors)
  | _, _ => (none, self.actors)

/-- One Actor of `fail_node`, and the owner install it queues or retires. -/
def failVisit (actorId : ActorID) (nodeId : NodeID) (error : String) (requireOwnerAck : Bool) :
    ActorCoordinator :=
  match self.actors.failActorOnNode actorId nodeId error with
  | .error _ => self
  | .ok (none, actors) => { self with actors := actors }
  | .ok (some snapshot, actors) => { self with
      actors := actors
      nodeFailurePublications :=
        if requireOwnerAck then self.nodeFailurePublications.set actorId snapshot
        else self.nodeFailurePublications.erase actorId }

/-- Delete only exactly acknowledged installs. -/
def flush (acknowledged : List ActorID) : ActorCoordinator :=
  { self with nodeFailurePublications :=
      self.nodeFailurePublications.filter fun actorId _ => actorId ∉ acknowledged }

def errandStep (tid : Nat) (input : ActorInput) : ActorErrand → ActorCoordinator
  | .none => self.resume tid {}
  | .draining [] => (self.flush input.acknowledged).resume tid {}
  | .draining (actorId :: later) =>
    if self.locked actorId then self
    else
      let (task, actors) := self.drainVisit actorId
      { self with actors := actors }.resume tid ⟨task, .draining later⟩
  | .committed nodeId error requireOwnerAck =>
    self.resume tid ⟨none, .failing nodeId error requireOwnerAck self.actors.actorIds⟩
  | .failing _ _ requireOwnerAck [] =>
    (if requireOwnerAck then self.flush input.acknowledged else self).resume tid {}
  | .failing nodeId error requireOwnerAck (actorId :: later) =>
    if self.locked actorId then self
    else (self.failVisit actorId nodeId error requireOwnerAck).resume tid
      ⟨none, .failing nodeId error requireOwnerAck later⟩

/-- Start a thread, unless the id is taken or the Actor is locked. -/
def spawn (tid : Nat) (actorId : ActorID) (start : Option ActorTask × ActorRegistry) :
    ActorCoordinator :=
  if self.threads.get? tid ≠ none ∨ self.locked actorId then self
  else { self with actors := start.2 }.resume tid { task := start.1 }

def advance (tid : Nat) (input : ActorInput) : ActorCoordinator :=
  match self.threads.get? tid with
  | none => self
  | some ⟨none, errand⟩ => self.errandStep tid input errand
  | some ⟨some task, errand⟩ =>
    let (next, actors) := stepTask self.nodes self.admissionOpen self.actors input task
    { self with actors := actors }.resume tid ⟨next, errand⟩

/-- The membership section of `report_node_death` and of `unregister_node`. -/
def commitNodeDeath (tid : Nat) (request : ReportNodeDeath) (error : NodeDeathReason → String) :
    ActorCoordinator :=
  match self.nodes.reportDeath request with
  | (reply, nodes) => match reply.death with
    | none => { self with nodes := nodes }
    | some death => { self with nodes := nodes }.resume tid
        ⟨none, .committed death.nodeId (error death.reason)
          (death.reason = NodeDeathReason.processExit)⟩

def nodeDeathError : NodeDeathReason → String
  | .processExit => "Actor Node exited; cross-Node migration is unsupported"
  | .expected => "Actor Node exited normally"

def step : ActorAction → ActorCoordinator
  | .registerNode nodeId address nodePid hpid =>
    match self.nodes.register nodeId address nodePid hpid with
    | none => self
    | some (_, nodes) => { self with nodes := nodes }
  | .create tid request => self.spawn tid request.actorId (self.startCreate request)
  | .reportWorkerExit tid exit => self.spawn tid exit.actorId (self.startExit exit, self.actors)
  | .drainOnce tid =>
    if self.threads.get? tid ≠ none then self
    else { self with admissionOpen := false }.resume tid
      { errand := .draining self.actors.activeActorIds }
  | .reportNodeDeath tid request =>
    if self.threads.get? tid ≠ none then self
    else self.commitNodeDeath tid request nodeDeathError
  | .unregisterNode tid request =>
    if self.threads.get? tid ≠ none then self
    else self.commitNodeDeath tid request.report fun _ =>
      "Actor Node exited; Phase B1 does not migrate Nodes"
  | .advance tid input => self.advance tid input

end ActorCoordinator

end MiniRay
