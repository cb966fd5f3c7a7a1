import MiniRay.Control.ActorTypes
import MiniRay.Control.Nodes

/-! The sole reducer for logical Actor generation and route state. Restart budget and generation are
consumed together, before any side effect. -/

namespace MiniRay

open Checked

inductive ActorControlError
  | registrationConflict (actorId : ActorID)
  | creationState (message : String)
  | unknownActor (actorId : ActorID)
  | protocol (message : String)

/-! ## One Actor -/

structure ActorRecord where
  request : CreateActorRequest
  generation : ActorGeneration
  state : ActorState := .creating
  routeEpoch : Nat := 0
  restartsUsed : Nat := 0
  lastExit : Option ActorWorkerExitRecord := none
  endpoint : Option ActorEndpoint := none
  error : Option String := none
  initialReservation : Option ReserveActorWorkerRequest := none
  restartReservation : Option ReserveActorWorkerRequest := none
  own_generation : generation.actorId = request.actorId

namespace ActorRecord

def new (request : CreateActorRequest) : ActorRecord where
  request := request
  generation := request.generation
  own_generation := request.own_generation

variable (self : ActorRecord)

/-- `_snapshot_locked`: no endpoint outside `ALIVE`. -/
def snapshot : ActorSnapshot where
  actorId := self.request.actorId
  generation := self.generation
  state := self.state
  routeEpoch := self.routeEpoch
  restartsUsed := self.restartsUsed
  maxRestarts := self.request.maxRestarts
  lastExit := self.lastExit
  endpoint := if self.state = .alive then self.endpoint else none
  error := self.error

def firstReservation (request : CreateActorRequest) (targetNodeId : NodeID) :
    ReserveActorWorkerRequest where
  actorId := request.actorId
  generation := request.generation
  classDefinition := request.classDefinition
  constructorPayload := request.constructorPayload
  resources := request.resources
  ownerWorkerId := request.ownerWorkerId
  targetNodeId := targetNodeId
  routeEpoch := 1
  restart := none
  own_generation := request.own_generation
  first := fun _ => rfl
  authorized := fun h => absurd request.initial h

def publish (endpoint : ActorEndpoint) (routeEpoch : Nat) : ActorRecord :=
  { self with
    state := .alive
    routeEpoch := routeEpoch
    endpoint := some endpoint
    error := none }

def refuse (error : String) (routeEpoch : Nat) : ActorRecord :=
  { self with
    state := .dead
    routeEpoch := routeEpoch
    error := some error }

/-- The exit names the published incarnation, on a live Node incarnation. -/
def Exited (exit : ActorWorkerExitRecord) (node : NodeSnapshot) : Prop :=
  node.state = .alive ∧ node.nodeId = exit.nodeId ∧ node.nodePid = exit.nodePid ∧
    node.registrationEpoch = exit.registrationEpoch ∧
    self.endpoint.map (fun e => (e.nodeId, e.workerId, e.workerPid)) =
      some (exit.nodeId, exit.workerId, exit.workerPid) ∧
    self.routeEpoch = exit.routeEpoch

instance (exit : ActorWorkerExitRecord) (node : NodeSnapshot) :
    Decidable (self.Exited exit node) := inferInstanceAs (Decidable (_ ∧ _))

theorem Exited.epoch {self : ActorRecord} {exit : ActorWorkerExitRecord} {node : NodeSnapshot}
    (h : self.Exited exit node) : self.routeEpoch = exit.routeEpoch := h.2.2.2.2.2

/-- The exit consumed the last restart, or restarts are no longer admitted. -/
def exhaust (exit : ActorWorkerExitRecord) (restartAllowed : Bool) : ActorRecord :=
  { self with
    lastExit := some exit
    endpoint := none
    routeEpoch := self.routeEpoch + 1
    state := .dead
    error := some (if restartAllowed = false then "Actor restart admission is closed"
      else "Actor restart budget exhausted")
    restartReservation := none }

def restartRequest (exit : ActorWorkerExitRecord) (hgeneration : exit.generation = self.generation)
    (hepoch : self.routeEpoch = exit.routeEpoch) : ReserveActorWorkerRequest where
  actorId := self.request.actorId
  generation := self.generation.next
  classDefinition := self.request.classDefinition
  constructorPayload := self.request.constructorPayload
  resources := self.request.resources
  ownerWorkerId := self.request.ownerWorkerId
  targetNodeId := exit.nodeId
  routeEpoch := self.routeEpoch + 1 + 1
  restart := some exit
  own_generation := self.own_generation
  first := fun h => absurd h (Nat.succ_ne_zero _)
  authorized := fun _ => ⟨exit, rfl,
    by rw [← exit.own_generation, hgeneration, self.own_generation],
    by rw [hgeneration], by omega, rfl⟩

/-- Allocate the next generation and freeze its reservation. -/
def startRestart (exit : ActorWorkerExitRecord) (hgeneration : exit.generation = self.generation)
    (hepoch : self.routeEpoch = exit.routeEpoch) : ActorRecord :=
  { self with
    lastExit := some exit
    endpoint := none
    routeEpoch := self.routeEpoch + 1
    restartsUsed := self.restartsUsed + 1
    generation := self.generation.next
    state := .restarting
    error := none
    restartReservation := some (self.restartRequest exit hgeneration hepoch)
    own_generation := self.own_generation }

/-- The Node the current or the pending route uses. -/
def target : Option NodeID :=
  match self.endpoint with
  | some endpoint => some endpoint.nodeId
  | none => match self.state, self.initialReservation with
    | .creating, some reservation => some reservation.targetNodeId
    | _, _ => self.restartReservation.map ReserveActorWorkerRequest.targetNodeId

def failOnNode (error : String) : ActorRecord :=
  { self with
    state := .dead
    routeEpoch := match self.initialReservation with
      | some reservation => max (self.routeEpoch + 1) reservation.routeEpoch
      | none => self.routeEpoch + 1
    endpoint := none
    initialReservation := none
    restartReservation := none
    error := some error }

end ActorRecord

/-- The immutable first reduction of one detection identity. -/
structure ActorExitOutcome where
  record : ActorWorkerExitRecord
  reductionSnapshot : ActorSnapshot

structure ActorRegistry where
  actors : Dict ActorID ActorRecord := .empty
  exitDetections : Dict String ActorExitOutcome := .empty

namespace ActorRegistry

variable (self : ActorRegistry)

def setRecord (actorId : ActorID) (record : ActorRecord) : ActorRegistry :=
  { self with actors := self.actors.set actorId record }

def getMatching (request : CreateActorRequest) : Except ActorControlError ActorRecord :=
  match self.actors.get? request.actorId with
  | none => .error (.unknownActor request.actorId)
  | some record =>
    if record.request ≠ request then .error (.registrationConflict request.actorId)
    else .ok record

/-! ## Creation -/

/-- Insert a pending record or validate an exact idempotent replay. -/
def begin_ (request : CreateActorRequest) : Except ActorControlError (Bool × ActorRegistry) :=
  match self.actors.get? request.actorId with
  | none => .ok (true, self.setRecord request.actorId (.new request))
  | some old =>
    if old.request ≠ request then .error (.registrationConflict request.actorId)
    else .ok (false, self)

def contains (actorId : ActorID) : Bool := (self.actors.get? actorId).isSome

/-- Every unresolved create or restart obligation, in stable order. -/
def activeActorIds : List ActorID :=
  (self.actors.keys.filter fun actorId => (self.actors.get? actorId).any fun record =>
    record.state = .creating ∨ record.state = .restarting).mergeSort fun a b => a.value ≤ b.value

def drainCandidate (actorId : ActorID) :
    Except ActorControlError (CreateActorRequest × Option ActorWorkerExitRecord) :=
  match self.actors.get? actorId with
  | some record =>
    if record.state = .creating ∨ record.state = .restarting then
      .ok (record.request, record.lastExit)
    else .error (.creationState "Actor is not an active drain candidate")
  | none => .error (.creationState "Actor is not an active drain candidate")

/-- Cancel only a creating record with no frozen Node reservation. -/
def cancelUnreservedCreate (request : CreateActorRequest) (error : String) :
    Except ActorControlError ActorRegistry := do
  raiseIf (error = "") (.protocol "cancelled Actor creation requires an error")
  let record ← self.getMatching request
  if record.state ≠ .creating ∨ record.initialReservation ≠ none then pure self
  else pure (self.setRecord request.actorId (record.refuse error (record.routeEpoch + 1)))

def errorOr (error : Option String) (default : String) : String :=
  match error with
  | some error => if error = "" then default else error
  | none => default

theorem errorOr_ne (error : Option String) {default : String} (h : default ≠ "") :
    errorOr error default ≠ "" := by
  unfold errorOr
  split
  · split
    · exact h
    · assumption
  · exact h

/-- The current route, never a cached stale incarnation. -/
def replyFor (request : CreateActorRequest) :
    Except ActorControlError (Option CreateActorReply) := do
  let record ← self.getMatching request
  match record.state with
  | .creating => pure none
  | .alive => match record.endpoint with
    | none => throw (.protocol "accepted create actor reply must contain a complete endpoint")
    | some endpoint =>
      if h : 0 < record.routeEpoch then
        pure (some ⟨record.request.actorId, record.generation,
          .accepted endpoint record.routeEpoch h, record.own_generation⟩)
      else throw (.protocol "accepted actor creation requires a positive route_epoch")
  | state => pure (some ⟨record.request.actorId, record.generation,
      .rejected (errorOr record.error "Actor route is not currently available")
        (state = .restarting) record.routeEpoch (errorOr_ne _ (by decide)),
      record.own_generation⟩)

def initialReservationFor (request : CreateActorRequest) :
    Except ActorControlError (Option ReserveActorWorkerRequest) := do
  let record ← self.getMatching request
  pure record.initialReservation

def installInitialReservation (request : CreateActorRequest)
    (reservation : ReserveActorWorkerRequest) :
    Except ActorControlError (ReserveActorWorkerRequest × ActorRegistry) := do
  let record ← self.getMatching request
  raiseIf (record.state ≠ .creating)
    (.creationState "only a creating Actor can install its initial reservation")
  match record.initialReservation with
  | none => pure (reservation, self.setRecord request.actorId
      { record with initialReservation := some reservation })
  | some frozen =>
    raiseIf (frozen ≠ reservation)
      (.creationState "Actor already has a different initial reservation")
    pure (frozen, self)

/-- Reduce one initial-create outcome; retryable replies leave the record creating. -/
def finish (request : CreateActorRequest) (reply : CreateActorReply) :
    Except ActorControlError (Bool × ActorRegistry) := do
  raiseIf (reply.actorId ≠ request.actorId ∨ reply.generation ≠ request.generation)
    (.creationState "actor creation reply does not match its request identity")
  let record ← self.getMatching request
  if record.state ≠ .creating then
    let current ← self.replyFor request
    raiseIf (current ≠ some reply)
      (.creationState "only a creating Actor can publish its initial outcome")
    pure (false, self)
  else
    match reply.outcome with
    | .accepted endpoint routeEpoch _ => pure (true, self.setRecord request.actorId
        (record.publish endpoint (max (record.routeEpoch + 1) routeEpoch)))
    | .rejected error retryable routeEpoch _ =>
      if retryable then pure (false, self)
      else pure (true, self.setRecord request.actorId
        (record.refuse error (max (record.routeEpoch + 1) routeEpoch)))

/-! ## Exits and restarts -/

/-- Replace the record and remember the first reduction of the detection. -/
def reduceExit (exit : ActorWorkerExitRecord) (record : ActorRecord) : ActorRegistry :=
  { actors := self.actors.set exit.actorId record
    exitDetections := self.exitDetections.set exit.detectionId ⟨exit, record.snapshot⟩ }

/-- Atomically validate an exit and allocate at most one generation. -/
def acceptWorkerExit (exit : ActorWorkerExitRecord) (node : NodeSnapshot) (restartAllowed : Bool) :
    ActorWorkerExitDisposition × ActorRegistry :=
  match self.exitDetections.get? exit.detectionId with
  | some prior => (if prior.record = exit then .alreadyApplied else .conflict, self)
  | none =>
    match self.actors.get? exit.actorId with
    | none => (.unknown, self)
    | some record =>
      if record.state ≠ .alive then
        (if exit.generation.generation < record.generation.generation then .stale
          else .conflict, self)
      else if exit.generation.generation < record.generation.generation then (.stale, self)
      else if hgeneration : exit.generation ≠ record.generation then (.conflict, self)
      else if hexit : ¬ record.Exited exit node then (.conflict, self)
      else if restartAllowed = false ∨ record.restartsUsed ≥ record.request.maxRestarts then
        (.applied, self.reduceExit exit (record.exhaust exit restartAllowed))
      else
        (.applied, self.reduceExit exit (record.startRestart exit (not_not.mp hgeneration)
          (not_not.mp hexit).epoch))

def getExitOutcome (exit : ActorWorkerExitRecord) : Except ActorControlError ActorExitOutcome :=
  match self.exitDetections.get? exit.detectionId with
  | some prior =>
    if prior.record = exit then .ok prior
    else .error (.creationState "Actor exit was not accepted by this registry")
  | none => .error (.creationState "Actor exit was not accepted by this registry")

def getRestartRecord (exit : ActorWorkerExitRecord) : Except ActorControlError ActorRecord := do
  let _ ← self.getExitOutcome exit
  match self.actors.get? exit.actorId with
  | some record => pure record
  | none => throw (.unknownActor exit.actorId)

def restartReservationFor (exit : ActorWorkerExitRecord) :
    Except ActorControlError (Option ReserveActorWorkerRequest) := do
  let record ← self.getRestartRecord exit
  pure record.restartReservation

/-- A snapshot safe to acknowledge, and whether this is the latest exit. -/
def replayStateForExit (exit : ActorWorkerExitRecord) :
    Except ActorControlError (ActorSnapshot × Bool) := do
  let outcome ← self.getExitOutcome exit
  let record ← self.getRestartRecord exit
  if record.lastExit = some exit then pure (record.snapshot, true)
  else pure (outcome.reductionSnapshot, false)

def publishRestart (exit : ActorWorkerExitRecord) (reply : ReserveActorWorkerReply) :
    Except ActorControlError (ActorSnapshot × ActorRegistry) := do
  let record ← self.getRestartRecord exit
  if record.state = .alive then pure (record.snapshot, self)
  else match record.restartReservation, reply.outcome with
    | some reservation, .accepted endpoint =>
      raiseIf (record.state ≠ .restarting ∨ reply.actorId ≠ reservation.actorId ∨
        reply.generation ≠ reservation.generation ∨ endpoint.nodeId ≠ reservation.targetNodeId)
        (.creationState "Actor restart reply does not match the frozen reservation")
      let record := record.publish endpoint reservation.routeEpoch
      pure (record.snapshot, self.setRecord exit.actorId record)
    | _, _ =>
      throw (.creationState "Actor restart reply does not match the frozen reservation")

/-- Commit one frozen, explicitly rejected restart as terminal. -/
def failRestart (exit : ActorWorkerExitRecord) (error : String) :
    Except ActorControlError (ActorSnapshot × ActorRegistry) := do
  raiseIf (error = "") (.protocol "failed Actor restart requires an error")
  let record ← self.getRestartRecord exit
  match record.restartReservation with
  | none => throw (.creationState "Actor restart failure does not match the frozen reservation")
  | some reservation =>
    raiseIf (record.state ≠ .restarting ∨ record.lastExit ≠ some exit ∨
      reservation.restart ≠ some exit ∨ reservation.actorId ≠ record.request.actorId ∨
      reservation.generation ≠ record.generation)
      (.creationState "Actor restart failure does not match the frozen reservation")
    let record :=
      { record.refuse error reservation.routeEpoch with restartReservation := none }
    pure (record.snapshot, self.setRecord exit.actorId record)

/-- Fail one Actor if its current or pending route uses the Node. -/
def failActorOnNode (actorId : ActorID) (nodeId : NodeID) (error : String) :
    Except ActorControlError (Option ActorSnapshot × ActorRegistry) := do
  raiseIf (error = "") (.protocol "actor node failure requires an error")
  match self.actors.get? actorId with
  | none => pure (none, self)
  | some record =>
    if record.target ≠ some nodeId ∨ record.state = .dead then pure (none, self)
    else pure (some (record.failOnNode error).snapshot,
      self.setRecord actorId (record.failOnNode error))

/-- `snapshot`, in the order of the identities. -/
def actorIds : List ActorID := self.actors.keys.mergeSort fun a b => a.value ≤ b.value

def get (actorId : ActorID) : Except ActorControlError ActorSnapshot :=
  match self.actors.get? actorId with
  | some record => .ok record.snapshot
  | none => .error (.unknownActor actorId)

end ActorRegistry

end MiniRay
