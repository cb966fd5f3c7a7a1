import MiniRay.Control.ActorTypes

/-! A reservation admits one generation of an Actor under the Actor's creation lock, starts its
process without the Node's state lock, and publishes it afterwards. The lifetime token is allocated
on admission. -/

namespace MiniRay

@[ext] structure ActorWorkerStartup where
  actorId : ActorID
  generation : ActorGeneration
  workerId : WorkerID
  workerPid : Nat
  workerAddress : Address
  own_generation : generation.actorId = actorId
  pid_pos : 0 < workerPid

instance : DecidableEq ActorWorkerStartup := byFields ActorWorkerStartup.ext_iff

/-- A child process; `handle` is the identity of the process object. -/
structure ActorProcess where
  handle : Nat
  pid : Nat
  deriving DecidableEq

structure ActorWorkerRecord where
  request : ReserveActorWorkerRequest
  allocationToken : AllocationToken
  process : ActorProcess
  startup : ActorWorkerStartup
  reply : ReserveActorWorkerReply
  deriving DecidableEq

/-- Durable evidence for one terminal Actor incarnation. -/
structure ActorGenerationOutcome where
  request : ReserveActorWorkerRequest
  reply : ReserveActorWorkerReply
  exitRecord : ActorWorkerExitRecord

/-- What the start of an Actor process may raise. -/
inductive StartupError
  | typed (failure : ActorWorkerFailure) (error : String)
  | raised (name : String) (error : String)

namespace StartupError

def failure : StartupError → ActorWorkerFailure
  | .typed failure _ => failure
  | .raised _ _ => .startupFailed

/-- `"{}: {}".format(type(exc).__name__, exc)`. -/
def text : StartupError → String
  | .typed _ error => "_ActorWorkerStartupError: " ++ error
  | .raised name error => name ++ ": " ++ error

theorem text_ne (e : StartupError) : e.text ≠ "" := by
  cases e with
  | typed failure error =>
    unfold text
    exact fun h => absurd (String.append_eq_empty_iff.mp h).1 (by decide)
  | raised name error =>
    unfold text
    intro h
    have hname : name ++ ": " = "" := (String.append_eq_empty_iff.mp h).1
    exact absurd (String.append_eq_empty_iff.mp hname).2 (by decide)

end StartupError

inductive SpawnOutcome
  | failed (error : StartupError)
  | started (startup : ActorWorkerStartup) (pid : Nat)

/-- Where the thread stands that holds an Actor's creation lock. -/
inductive ActorCreation
  | starting (request : ReserveActorWorkerRequest) (allocated : AllocationToken)
  | publishing (request : ReserveActorWorkerRequest) (allocated : AllocationToken)
      (startup : ActorWorkerStartup) (process : ActorProcess)
  | failing (request : ReserveActorWorkerRequest) (allocated : AllocationToken)
      (error : StartupError)

namespace ActorCreation

def request : ActorCreation → ReserveActorWorkerRequest
  | .starting request _ | .publishing request _ _ _ | .failing request _ _ => request

def allocated : ActorCreation → AllocationToken
  | .starting _ allocated | .publishing _ allocated _ _ | .failing _ allocated _ => allocated

end ActorCreation

/-- The incarnation of the Node in its exit records. -/
structure NodeIncarnation where
  nodeId : NodeID
  nodePid : Nat
  registrationEpoch : Nat
  positive : 0 < nodePid ∧ 0 < registrationEpoch

/-- A drain or a finalization that stops the Actors it has collected, one by one. -/
structure ActorSweep where
  finalizing : Bool
  records : List (ActorID × ActorWorkerRecord)

structure ActorHost where
  node : NodeIncarnation
  ledger : ResourceLedger
  actorWorkers : Dict ActorID ActorWorkerRecord := .empty
  actorGenerationOutcomes : Dict ActorGeneration ActorGenerationOutcome := .empty
  actorWorkerIdsSeen : List WorkerID := []
  actorWorkerPidsSeen : List Nat := []
  creations : Dict ActorID ActorCreation := .empty
  stopEvent : Bool := false
  shutdownRequestId : Option String := none
  actorFinalizeRequestId : Option String := none
  sweeps : Dict Nat ActorSweep := .empty
  /-- The exit codes of the processes that ended. -/
  exited : Dict Nat Int := .empty
  spawned : Nat := 0
  /-- What reservations were answered, latest first. -/
  replies : List (ReserveActorWorkerRequest × ReserveActorWorkerReply) := []

namespace ActorHost

variable (self : ActorHost)

/-- The Node is shutting down. -/
def Fenced : Prop := self.stopEvent = true ∨ self.shutdownRequestId ≠ none

instance : Decidable self.Fenced := inferInstanceAs (Decidable (_ ∨ _))

def answer (request : ReserveActorWorkerRequest) (reply : ReserveActorWorkerReply) : ActorHost :=
  { self with replies := (request, reply) :: self.replies }

def rejectedActorWorker (request : ReserveActorWorkerRequest) (error : String)
    (explained : error ≠ "") (failure : ActorWorkerFailure := .invalidRequest) :
    ReserveActorWorkerReply :=
  ⟨request.actorId, request.generation, .rejected failure error explained,
    request.own_generation⟩

def SameActorLifetimeSpec (previous candidate : ReserveActorWorkerRequest) : Prop :=
  previous.actorId = candidate.actorId ∧
    previous.classDefinition = candidate.classDefinition ∧
    previous.constructorPayload = candidate.constructorPayload ∧
    previous.resources = candidate.resources ∧
    previous.ownerWorkerId = candidate.ownerWorkerId

instance (previous candidate : ReserveActorWorkerRequest) :
    Decidable (SameActorLifetimeSpec previous candidate) :=
  inferInstanceAs (Decidable (_ ∧ _))

/-! ## Reservation -/

/-- A generation is authorized by the absence of others, or by the exact prior tombstone. -/
def generationRejection (request : ReserveActorWorkerRequest) :
    Option ReserveActorWorkerReply :=
  if request.generation.generation = 0 then
    if self.actorGenerationOutcomes.keys.any fun generation =>
        generation.actorId = request.actorId then
      some (rejectedActorWorker request "initial actor generation is stale" (by decide))
    else none
  else
    let stale := rejectedActorWorker request
      "restart proof is not this Node's exact prior tombstone" (by decide)
    match self.actorGenerationOutcomes.get?
        ⟨request.actorId, request.generation.generation - 1⟩, request.restart with
    | some previous, some restart =>
      if restart ≠ previous.exitRecord then some stale
      else if request.routeEpoch ≠ restart.routeEpoch + 2 then
        some (rejectedActorWorker request
          "restart route epoch is not the GCS-authorized successor" (by decide))
      else if ¬ SameActorLifetimeSpec previous.request request then
        some (rejectedActorWorker request
          "actor restart changed immutable metadata" (by decide))
      else none
    | _, _ => some stale

/-- The answer to a request that starts no process: a replay or a rejection. -/
def admission (request : ReserveActorWorkerRequest) : Option ReserveActorWorkerReply :=
  match self.actorGenerationOutcomes.get? request.generation with
  | some terminal =>
    if terminal.request = request then some terminal.reply
    else some (rejectedActorWorker request
      "actor generation is terminal with different metadata" (by decide))
  | none => match self.actorWorkers.get? request.actorId with
    | some previous =>
      if previous.request = request then some previous.reply
      else if self.Fenced then
        some (rejectedActorWorker request "node is shutting down" (by decide) .nodeStopping)
      else some (rejectedActorWorker request
        "ActorID has a different live generation or metadata" (by decide))
    | none =>
      if self.Fenced then
        some (rejectedActorWorker request "node is shutting down" (by decide) .nodeStopping)
      else self.generationRejection request

/-- `_handle_reserve_actor_worker` until the process starts; it waits for the creation lock. -/
def reserve (request : ReserveActorWorkerRequest) (allocationToken : AllocationToken) :
    ActorHost :=
  if request.targetNodeId ≠ self.node.nodeId then
    self.answer request (rejectedActorWorker request "actor targets another node" (by decide))
  else if (self.creations.get? request.actorId).isSome then self
  else match self.admission request with
    | some reply => self.answer request reply
    | none => match self.ledger.tryAllocate request.resources (some allocationToken)
        allocationToken with
      | (.ok (some allocated), ledger) => { self with
          ledger := ledger
          creations := self.creations.set request.actorId (.starting request allocated) }
      | (.ok none, ledger) => { self with ledger := ledger }.answer request
          (rejectedActorWorker request "actor lifetime resources are unavailable" (by decide)
            .capacityUnavailable)
      | (.error _, ledger) => { self with ledger := ledger }

def acceptedReply (request : ReserveActorWorkerRequest) (startup : ActorWorkerStartup) :
    ReserveActorWorkerReply :=
  ⟨request.actorId, request.generation,
    .accepted ⟨self.node.nodeId, startup.workerId, startup.workerAddress, startup.workerPid,
      startup.pid_pos⟩, request.own_generation⟩

/-- `_spawn_actor_worker` returns or raises. -/
def spawn (actorId : ActorID) (outcome : SpawnOutcome) : ActorHost :=
  match self.creations.get? actorId with
  | some (.starting request allocated) =>
    match outcome with
    | .failed error => { self with
        creations := self.creations.set actorId (.failing request allocated error) }
    | .started startup pid => { self with
        spawned := self.spawned + 1
        creations := self.creations.set actorId
          (if startup.actorId ≠ request.actorId ∨ startup.generation ≠ request.generation ∨
              startup.workerPid ≠ pid then
            .failing request allocated (.raised "RuntimeError"
              "actor worker returned inconsistent startup identity")
          else .publishing request allocated startup ⟨self.spawned, pid⟩) }
  | _ => self

/-- What keeps a started Worker from being published. -/
def publishError (startup : ActorWorkerStartup) : Option StartupError :=
  if self.Fenced then
    some (.typed .nodeStopping "node began shutting down during actor creation")
  else if startup.workerId ∈ self.actorWorkerIdsSeen then
    some (.raised "RuntimeError" "actor restart reused a physical WorkerID")
  else if startup.workerPid ∈ self.actorWorkerPidsSeen then
    some (.raised "RuntimeError" "actor restart reused a physical worker PID")
  else none

def publish (actorId : ActorID) : ActorHost :=
  match self.creations.get? actorId with
  | some (.publishing request allocated startup process) =>
    match self.publishError startup with
    | some error => { self with
        creations := self.creations.set actorId (.failing request allocated error) }
    | none =>
      let reply := self.acceptedReply request startup
      { self with
        actorWorkerIdsSeen := startup.workerId :: self.actorWorkerIdsSeen
        actorWorkerPidsSeen := startup.workerPid :: self.actorWorkerPidsSeen
        actorWorkers :=
          self.actorWorkers.set request.actorId ⟨request, allocated, process, startup, reply⟩
        creations := self.creations.erase actorId }.answer request reply
  | _ => self

/-- A failed start gives its token back. -/
def failStart (actorId : ActorID) : ActorHost :=
  match self.creations.get? actorId with
  | some (.failing request allocated error) => { self with
      ledger := (self.ledger.release allocated).2
      creations := self.creations.erase actorId }.answer request
        (rejectedActorWorker request error.text error.text_ne error.failure)
  | _ => self

/-! ## Exit -/

def processExit (handle : Nat) (exitCode : Int) : ActorHost :=
  if handle < self.spawned ∧ self.exited.get? handle = none then
    { self with exited := self.exited.set handle exitCode }
  else self

def exitRecord (record : ActorWorkerRecord) (detectionId : String) (detected : detectionId ≠ "")
    (exitCode : Int) : ActorWorkerExitRecord where
  detectionId := detectionId
  actorId := record.request.actorId
  generation := record.request.generation
  routeEpoch := record.request.routeEpoch
  nodeId := self.node.nodeId
  nodePid := self.node.nodePid
  registrationEpoch := self.node.registrationEpoch
  workerId := record.startup.workerId
  workerPid := record.startup.workerPid
  exitCode := exitCode
  detection_ne := detected
  own_generation := record.request.own_generation
  positive := ⟨self.node.positive.1, self.node.positive.2, record.startup.pid_pos⟩

/-- `_handle_unexpected_actor_worker_exit`, for the process object with this identity. -/
def handleUnexpectedExit (actorId : ActorID) (generation : ActorGeneration) (handle : Nat)
    (detectionId : String) (detected : detectionId ≠ "") :
    Except ResourceError Bool × ActorHost :=
  match self.exited.get? handle, self.actorWorkers.get? actorId with
  | some exitCode, some record =>
    if record.process.handle ≠ handle ∨ record.request.generation ≠ generation then
      (.ok false, self)
    else
      let popped (ledger : ResourceLedger) : ActorHost :=
        { self with ledger := ledger, actorWorkers := self.actorWorkers.erase actorId }
      match self.ledger.release record.allocationToken with
      | (.error e, ledger) => (.error e, popped ledger)
      | (.ok false, ledger) =>
        (.error (.assertionError "live Actor generation had a released lifetime token"),
          popped ledger)
      | (.ok true, ledger) => (.ok true, { popped ledger with
          actorGenerationOutcomes := self.actorGenerationOutcomes.set generation
            ⟨record.request, record.reply,
              self.exitRecord record detectionId detected exitCode⟩ })
  | _, _ => (.ok false, self)

/-! ## Drain and finalization -/

def stop : ActorHost := { self with stopEvent := true }

/-- `_install_worker_drain_fence`. -/
def beginDrain (requestId : String) : ActorHost :=
  match self.shutdownRequestId with
  | none => { self with shutdownRequestId := some requestId }
  | some _ => self

/-- `_stop_all_actor_workers`, which every caller calls behind a fence: it takes the creation
locks, so that it collects the Actors when none is being started. -/
def collectFinalize (tid : Nat) (requestId : Option String) : ActorHost :=
  let epoch := (requestId <|> self.shutdownRequestId).getD "node-finalizer"
  if ¬ self.Fenced ∨ (self.sweeps.get? tid).isSome then self
  else if self.actorFinalizeRequestId.any fun previous => previous ≠ epoch then self
  else if self.creations.items ≠ [] then { self with actorFinalizeRequestId := some epoch }
  else { self with
    actorFinalizeRequestId := some epoch
    sweeps := self.sweeps.set tid ⟨true, self.actorWorkers.items⟩ }

/-- `_drain_actor_workers_once`, which does not wait for a creation lock. -/
def collectDrain (tid : Nat) : ActorHost :=
  if self.shutdownRequestId = none ∨ (self.sweeps.get? tid).isSome then self
  else if self.creations.items ≠ [] then self
  else { self with sweeps := self.sweeps.set tid ⟨false, self.actorWorkers.items⟩ }

/-- The record that was collected is still the Actor's: its token is given back. -/
def releaseStopped (actorId : ActorID) (record : ActorWorkerRecord) : ActorHost :=
  if self.actorWorkers.get? actorId = some record then { self with
    ledger := (self.ledger.release record.allocationToken).2
    actorWorkers := self.actorWorkers.erase actorId }
  else self

/-- The next process was stopped; a drain keeps those that did not stop cleanly. -/
def sweepNext (tid : Nat) (stoppedCleanly : Bool) : ActorHost :=
  match self.sweeps.get? tid with
  | some ⟨finalizing, (actorId, record) :: records⟩ =>
    let rest := { self with sweeps := self.sweeps.set tid ⟨finalizing, records⟩ }
    if finalizing ∨ stoppedCleanly then rest.releaseStopped actorId record else rest
  | some ⟨_, []⟩ => { self with sweeps := self.sweeps.erase tid }
  | none => self

/-! ## The Node -/

def lifetimeTokens : List AllocationToken :=
  self.actorWorkers.values.map (·.allocationToken) ++ self.creations.values.map (·.allocated)

inductive Action
  | reserve (request : ReserveActorWorkerRequest) (allocationToken : AllocationToken)
  | spawn (actorId : ActorID) (outcome : SpawnOutcome)
  | publish (actorId : ActorID)
  | failStart (actorId : ActorID)
  | processExit (handle : Nat) (exitCode : Int)
  | handleUnexpectedExit (actorId : ActorID) (generation : ActorGeneration) (handle : Nat)
      (detectionId : String) (detected : detectionId ≠ "")
  | stop
  | beginDrain (requestId : String)
  | collectFinalize (tid : Nat) (requestId : Option String)
  | collectDrain (tid : Nat)
  | sweepNext (tid : Nat) (stoppedCleanly : Bool)
  | useLedger (op : ResourceLedger.Op)

/-- One section under the state lock. Tokens are new, and an Actor's token is its own. -/
def step : Action → ActorHost
  | .reserve request allocationToken =>
    if self.ledger.records.get? allocationToken = none then
      self.reserve request allocationToken
    else self
  | .spawn actorId outcome => self.spawn actorId outcome
  | .publish actorId => self.publish actorId
  | .failStart actorId => self.failStart actorId
  | .processExit handle exitCode => self.processExit handle exitCode
  | .handleUnexpectedExit actorId generation handle detectionId detected =>
    (self.handleUnexpectedExit actorId generation handle detectionId detected).2
  | .stop => self.stop
  | .beginDrain requestId => self.beginDrain requestId
  | .collectFinalize tid requestId => self.collectFinalize tid requestId
  | .collectDrain tid => self.collectDrain tid
  | .sweepNext tid stoppedCleanly => self.sweepNext tid stoppedCleanly
  | .useLedger op =>
    if op.subject ∈ self.lifetimeTokens then self else { self with ledger := self.ledger.step op }

def new (node : NodeIncarnation) (total : ResourceVector) : ActorHost :=
  { node := node, ledger := .new total }

end ActorHost

end MiniRay
