import MiniRay.Protocol
import MiniRay.Resources.Ledger

/-! The wire values that the control plane and a Node exchange about one logical Actor. -/

namespace MiniRay

structure FunctionKey where
  jobId : JobID
  module : String
  qualname : String
  version : String
  named : module ≠ "" ∧ qualname ≠ "" ∧ version ≠ ""
  deriving DecidableEq

/-- Serialized Actor class plus its explicitly exported method surface. -/
structure ActorClassDefinition where
  key : FunctionKey
  payload : List UInt8
  sha256 : String
  methodNames : List String
  checksum : Sha256.hexdigest payload = sha256
  exported : methodNames ≠ [] ∧ "" ∉ methodNames ∧ methodNames.Nodup
  deriving DecidableEq

inductive ActorState
  | creating
  | alive
  | restarting
  | dead
  deriving DecidableEq

inductive ActorWorkerExitDisposition
  | applied
  | alreadyApplied
  | retryable
  | unknown
  | stale
  | conflict
  deriving DecidableEq

def ActorGeneration.next (self : ActorGeneration) : ActorGeneration :=
  ⟨self.actorId, self.generation + 1⟩

/-- Immutable proof that one exact Actor incarnation exited. -/
@[ext] structure ActorWorkerExitRecord where
  detectionId : String
  actorId : ActorID
  generation : ActorGeneration
  routeEpoch : Nat
  nodeId : NodeID
  nodePid : Nat
  registrationEpoch : Nat
  workerId : WorkerID
  workerPid : Nat
  exitCode : Int
  detection_ne : detectionId ≠ ""
  own_generation : generation.actorId = actorId
  positive : 0 < nodePid ∧ 0 < registrationEpoch ∧ 0 < workerPid

instance : DecidableEq ActorWorkerExitRecord := byFields ActorWorkerExitRecord.ext_iff

/-- The four endpoint fields of a route, which are all present or all absent. -/
@[ext] structure ActorEndpoint where
  nodeId : NodeID
  workerId : WorkerID
  workerAddress : Address
  workerPid : Nat
  pid_pos : 0 < workerPid

instance : DecidableEq ActorEndpoint := byFields ActorEndpoint.ext_iff

@[ext] structure CreateActorRequest where
  actorId : ActorID
  generation : ActorGeneration
  classDefinition : ActorClassDefinition
  constructorPayload : List UInt8
  resources : ResourceVector
  ownerWorkerId : WorkerID
  maxRestarts : Nat
  ownerAddress : Option Address
  own_generation : generation.actorId = actorId
  initial : generation.generation = 0
  restartable : 0 < maxRestarts → ownerAddress ≠ none

instance : DecidableEq CreateActorRequest := byFields CreateActorRequest.ext_iff

/-- An accepted creation carries its route, a rejected one its error. -/
inductive CreateOutcome
  | accepted (endpoint : ActorEndpoint) (routeEpoch : Nat) (positive : 0 < routeEpoch)
  | rejected (error : String) (retryable : Bool) (routeEpoch : Nat) (explained : error ≠ "")

instance : DecidableEq CreateOutcome
  | .accepted p n h, .accepted p' n' h' =>
    decidable_of_iff' _ (.of_eq (CreateOutcome.accepted.injEq p n h p' n' h'))
  | .rejected e r n h, .rejected e' r' n' h' =>
    decidable_of_iff' _ (.of_eq (CreateOutcome.rejected.injEq e r n h e' r' n' h'))
  | .accepted .., .rejected .. => isFalse CreateOutcome.noConfusion
  | .rejected .., .accepted .. => isFalse CreateOutcome.noConfusion

@[ext] structure CreateActorReply where
  actorId : ActorID
  generation : ActorGeneration
  outcome : CreateOutcome
  own_generation : generation.actorId = actorId

instance : DecidableEq CreateActorReply := byFields CreateActorReply.ext_iff

@[ext] structure ReserveActorWorkerRequest where
  actorId : ActorID
  generation : ActorGeneration
  classDefinition : ActorClassDefinition
  constructorPayload : List UInt8
  resources : ResourceVector
  ownerWorkerId : WorkerID
  targetNodeId : NodeID
  routeEpoch : Nat
  restart : Option ActorWorkerExitRecord
  own_generation : generation.actorId = actorId
  first : generation.generation = 0 → restart = none
  authorized : generation.generation ≠ 0 → ∃ exit, restart = some exit ∧
    exit.actorId = actorId ∧ exit.generation.next = generation ∧
    exit.routeEpoch < routeEpoch ∧ exit.nodeId = targetNodeId

instance : DecidableEq ReserveActorWorkerRequest := byFields ReserveActorWorkerRequest.ext_iff

inductive ActorWorkerFailure
  | capacityUnavailable
  | constructorFailed
  | startupFailed
  | invalidRequest
  | nodeStopping
  deriving DecidableEq

/-- An accepted reservation carries its endpoint, a rejected one a typed failure. -/
inductive ReserveOutcome
  | accepted (endpoint : ActorEndpoint)
  | rejected (failure : ActorWorkerFailure) (error : String) (explained : error ≠ "")

instance : DecidableEq ReserveOutcome
  | .accepted e, .accepted e' => decidable_of_iff' _ (.of_eq (ReserveOutcome.accepted.injEq e e'))
  | .rejected f e h, .rejected f' e' h' =>
    decidable_of_iff' _ (.of_eq (ReserveOutcome.rejected.injEq f e h f' e' h'))
  | .accepted _, .rejected .. => isFalse ReserveOutcome.noConfusion
  | .rejected .., .accepted _ => isFalse ReserveOutcome.noConfusion

@[ext] structure ReserveActorWorkerReply where
  actorId : ActorID
  generation : ActorGeneration
  outcome : ReserveOutcome
  own_generation : generation.actorId = actorId

instance : DecidableEq ReserveActorWorkerReply := byFields ReserveActorWorkerReply.ext_iff

/-- Payload-free authoritative view of one logical Actor. -/
structure ActorSnapshot where
  actorId : ActorID
  generation : ActorGeneration
  state : ActorState
  routeEpoch : Nat
  restartsUsed : Nat
  maxRestarts : Nat
  lastExit : Option ActorWorkerExitRecord
  endpoint : Option ActorEndpoint
  error : Option String
  deriving DecidableEq

structure ActorSnapshot.Valid (s : ActorSnapshot) : Prop where
  own_generation : s.generation.actorId = s.actorId
  budget : s.restartsUsed ≤ s.maxRestarts
  consumed : s.generation.generation = s.restartsUsed
  exited : ∀ exit, s.lastExit = some exit → exit.actorId = s.actorId ∧
    exit.generation.generation ≤ s.generation.generation ∧ exit.routeEpoch < s.routeEpoch
  routable : s.state = .alive ↔ s.endpoint ≠ none
  creating : s.state = .creating → s.generation.generation = 0 ∧ s.restartsUsed = 0 ∧
    s.routeEpoch = 0 ∧ s.lastExit = none ∧ s.error = none
  restarting : s.state = .restarting → s.error = none ∧
    ∃ exit, s.lastExit = some exit ∧ exit.generation.next = s.generation
  alive_initial : s.state = .alive → s.generation.generation = 0 →
    s.lastExit = none ∧ 0 < s.routeEpoch
  alive_restarted : s.state = .alive → s.generation.generation ≠ 0 →
    ∃ exit, s.lastExit = some exit ∧ exit.generation.next = s.generation
  alive_error : s.state = .alive → s.error = none
  dead_error : s.state = .dead → s.error ≠ none ∧ s.error ≠ some ""

end MiniRay
