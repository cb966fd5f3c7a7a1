import MiniRay.Actor.Client
import MiniRay.Actor.Mailbox

/-! The owner numbers each call under its state lock and leaves it to a thread, which replays the
request on the same route until it has a reply. The Worker of a generation keeps its mailbox. -/

namespace MiniRay

structure ActorCallRequest where
  actorId : ActorID
  generation : ActorGeneration
  callerWorkerId : WorkerID
  sequence : Nat
  methodName : String
  taskId : TaskID
  attemptId : AttemptID
  ownerWorkerId : WorkerID
  arguments : List UInt8
  targetWorkerId : WorkerID
  routeEpoch : Nat
  deriving DecidableEq

/-- A task reply with its single result, or with the error of a failed one. -/
inductive ActorCallResult
  | succeeded (result : ResultDescriptor) (outputPublication : Bool)
  | failed (error : String)

structure ActorCallReply where
  actorId : ActorID
  generation : ActorGeneration
  callerWorkerId : WorkerID
  sequence : Nat
  routeEpoch : Nat
  taskId : TaskID
  attemptId : AttemptID
  workerId : WorkerID
  outcome : ActorCallResult

/-- `_call_fingerprint`. -/
structure ActorCallFingerprint where
  methodName : String
  taskId : TaskID
  attemptId : AttemptID
  ownerWorkerId : WorkerID
  digest : String
  deriving DecidableEq

namespace ActorCallRequest

variable (request : ActorCallRequest)

def fingerprint : ActorCallFingerprint :=
  ⟨request.methodName, request.taskId, request.attemptId, request.ownerWorkerId,
    Sha256.hexdigest request.arguments⟩

def call : ActorCall ActorCallRequest ActorCallFingerprint :=
  ⟨request.actorId, request.generation, request.callerWorkerId, request.sequence, request,
    some request.fingerprint⟩

def key : ActorCallKey := ⟨request.callerWorkerId, request.sequence⟩

end ActorCallRequest

instance : Payload ActorCallRequest where
  equal left right := .value (decide (left = right))
  identical left right := decide (left = right)

/-! ## The Worker of a generation -/

abbrev ActorCallMailbox := ActorMailbox ActorCallRequest ActorCallFingerprint ActorCallReply

structure ActorCallWorker where
  mailbox : ActorCallMailbox
  accepting : Bool := true

namespace ActorCallWorker

variable (self : ActorCallWorker)

/-- `_handle_actor_call` up to its wait. New work is rejected once the Worker stops. -/
def handle (call : ActorCall ActorCallRequest ActorCallFingerprint) : ActorCallWorker :=
  if self.accepting = false ∧ self.mailbox.callState call.key = none then self
  else { self with mailbox := (self.mailbox.submitCall call).2 }

/-- The Worker may answer a call that its mailbox knows, and any call while it stops. -/
def Answers (key : ActorCallKey) : Prop :=
  self.accepting = false ∨ self.mailbox.callState key ≠ none

instance (key : ActorCallKey) : Decidable (self.Answers key) :=
  inferInstanceAs (Decidable (_ ∨ _))

end ActorCallWorker

/-! ## The owner -/

inductive ActorCallOutcome
  | pending
  | error (message : String)
  | ready (result : ResultDescriptor)

inductive ActorCallPhase
  | sending
  | waiting
  | retrying
  | installed
  | replied (reply : ActorCallReply)
  | failing (error : String)
  | finishing

structure ActorCallThread where
  request : ActorCallRequest
  fence : ActorCallFence
  phase : ActorCallPhase

/-- A sequence number that `begin_call` handed out. -/
structure TakenNumber where
  objectId : ObjectID
  fence : ActorCallFence
  sequence : Nat

structure ActorCalls where
  workerId : WorkerID
  accepting : Bool := true
  clients : ActorClientTable := {}
  objects : Dict ObjectID ActorCallOutcome := .empty
  threads : Dict ObjectID ActorCallThread := .empty
  workers : Dict ActorGeneration ActorCallWorker := .empty
  /-- The requests that were sent, latest first. -/
  sent : List ActorCallRequest := []
  taken : List TakenNumber := []
  /-- The calls whose result was published, latest first. -/
  published : List (ObjectID × ActorCallFence) := []

/-- A `submit_actor_call`: whether it has an `ObjectRef`, its pickling, and whether it starts. -/
structure ActorCallSubmission where
  actorId : ActorID
  methodName : String
  holdsReference : Bool
  taskId : TaskID
  arguments : Except String (List UInt8)
  started : Bool

inductive ActorCallError
  | actorDied (message : String)
  | assertion
  | noMethod (methodName : String)
  | referenceArgument
  | shuttingDown
  | registered (objectId : ObjectID)
  | unpicklable (error : String)
  | protocol (message : String)
  | threadStart

/-- How the stored or inline result of a reply decodes. -/
inductive ActorCallDecoding
  | ready
  | nodeDead
  | raised (error : String)

inductive ActorCallInput
  | unheard
  | transportFailed
  | replied (reply : ActorCallReply)
  | stateUnavailable (expired : Bool)
  | stateRaised (error : String)
  | stateFound (snapshot : ActorSnapshot) (valid : snapshot.Valid)
  | checked (expired : Bool)
  | decoded (decoding : ActorCallDecoding)

inductive ActorCallAction
  | register (snapshot : ActorSnapshot) (valid : snapshot.Valid) (definition : ActorClassDefinition)
  | remove (actorId : ActorID) (expected : ActorSnapshot)
  | install (snapshot : ActorSnapshot) (valid : snapshot.Valid)
  | submit (submission : ActorCallSubmission)
  | advance (objectId : ObjectID) (input : ActorCallInput)
  | deliver (request : ActorCallRequest)
  | deliverOther (call : ActorCall ActorCallRequest ActorCallFingerprint)
  | takeNext (generation : ActorGeneration)
  | completeCurrent (generation : ActorGeneration) (reply : ActorCallReply)
  | stopWorker (generation : ActorGeneration)
  | shutdown

def ActorClientError.message : ActorClientError → String
  | .valueError message | .runtimeError message => message
  | .keyError actorId => "ActorID('" ++ actorId.value.hex ++ "')"
  | .assertionError => ""

namespace ActorCalls

variable (self : ActorCalls)

def worker (generation : ActorGeneration) : ActorCallWorker :=
  (self.workers.get? generation).getD ⟨.initial generation, true⟩

def setWorker (generation : ActorGeneration) (worker : ActorCallWorker) : ActorCalls :=
  { self with workers := self.workers.set generation worker }

/-- `_publish_error`: only a pending object takes an error. -/
def publishError (objectId : ObjectID) (error : String) : ActorCalls :=
  match self.objects.get? objectId with
  | some .pending => { self with objects := self.objects.set objectId (.error error) }
  | _ => self

def publishErrors (objectIds : List ObjectID) (error : String) : ActorCalls :=
  objectIds.foldl (fun s objectId => s.publishError objectId error) self

def fencedError (snapshot : ActorSnapshot) : String :=
  match snapshot.state with
  | .dead => match snapshot.error with
    | none => "Actor is dead"
    | some error => if error = "" then "Actor is dead" else error
  | _ => "Actor generation became unavailable during restart"

/-- `_install_actor_snapshot`: install a route and fail every call it revokes. -/
def installActorSnapshot (snapshot : ActorSnapshot) : Except ActorClientError ActorCalls :=
  match self.clients.install snapshot with
  | .error error => .error error
  | .ok ((changed, fenced), clients) =>
    .ok (if changed then { self with clients := clients }.publishErrors fenced
      (fencedError snapshot) else self)

/-- The checks of a new request that do not hold by its construction. -/
def checkRequest (submission : ActorCallSubmission) (snapshot : ActorSnapshot) : Option String :=
  if snapshot.generation.actorId ≠ submission.actorId then
    some "actor call generation must belong to actor_id"
  else if submission.methodName = "" then some "actor method_name must be non-empty"
  else none

def request (submission : ActorCallSubmission) (sequence : Nat) (fence : ActorCallFence)
    (arguments : List UInt8) : ActorCallRequest :=
  ⟨submission.actorId, fence.generation, self.workerId, sequence, submission.methodName,
    submission.taskId, ⟨submission.taskId, 0⟩, self.workerId, arguments, fence.workerId,
    fence.routeEpoch⟩

/-- What `submit_actor_call` does once it has taken a sequence number. -/
def dispatchCall (submission : ActorCallSubmission) (snapshot : ActorSnapshot) (sequence : Nat)
    (fence : ActorCallFence) : Except ActorCallError ObjectID × ActorCalls :=
  let objectId := ObjectID.forTask submission.taskId 0
  if self.objects.get? objectId ≠ none then (.error (.registered objectId), self)
  else
    let registered := { self with objects := self.objects.set objectId .pending }
    match submission.arguments with
    | .error error => (.error (.unpicklable error), registered)
    | .ok arguments =>
      match checkRequest submission snapshot with
      | some message => (.error (.protocol message), registered)
      | none =>
        if submission.started = false then
          (.error .threadStart, { registered with
            clients := (registered.clients.finishCall objectId fence).2 }.publishError objectId
              "could not start actor call thread")
        else (.ok objectId, { registered with
          threads := registered.threads.set objectId
            ⟨self.request submission sequence fence arguments, fence, .sending⟩ })

def submitActorCall (submission : ActorCallSubmission) :
    Except ActorCallError ObjectID × ActorCalls :=
  match self.clients.entries.get? submission.actorId with
  | none => (.error (.actorDied "unknown ActorID"), self)
  | some entry =>
    if submission.methodName ∉ entry.methodNames then
      (.error (.noMethod submission.methodName), self)
    else if submission.holdsReference then (.error .referenceArgument, self)
    else if self.accepting = false then (.error .shuttingDown, self)
    else
      let objectId := ObjectID.forTask submission.taskId 0
      match self.clients.beginCall submission.actorId objectId with
      | .error .assertionError => (.error .assertion, self)
      | .error error => (.error (.actorDied error.message), self)
      | .ok ((snapshot, sequence, fence), clients) =>
        { self with
          clients := clients
          taken := ⟨objectId, fence, sequence⟩ :: self.taken }.dispatchCall
            submission snapshot sequence fence

def setPhase (objectId : ObjectID) (thread : ActorCallThread) (phase : ActorCallPhase) :
    ActorCalls :=
  { self with threads := self.threads.set objectId { thread with phase := phase } }

def Mismatched (request : ActorCallRequest) (reply : ActorCallReply) : Prop :=
  reply.actorId ≠ request.actorId ∨ reply.generation ≠ request.generation ∨
    reply.callerWorkerId ≠ request.callerWorkerId ∨ reply.sequence ≠ request.sequence ∨
    reply.routeEpoch ≠ request.routeEpoch

def TaskMismatched (request : ActorCallRequest) (fence : ActorCallFence) (reply : ActorCallReply) :
    Prop :=
  reply.taskId ≠ request.taskId ∨ reply.attemptId ≠ request.attemptId ∨
    reply.workerId ≠ fence.workerId

instance (request : ActorCallRequest) (reply : ActorCallReply) :
    Decidable (Mismatched request reply) := inferInstanceAs (Decidable (_ ∨ _))

instance (request : ActorCallRequest) (fence : ActorCallFence) (reply : ActorCallReply) :
    Decidable (TaskMismatched request fence reply) := inferInstanceAs (Decidable (_ ∨ _))

def publishResult (objectId : ObjectID) (fence : ActorCallFence) (result : ResultDescriptor) :
    ActorCalls :=
  match self.objects.get? objectId with
  | some .pending => { self with
      objects := self.objects.set objectId (.ready result)
      published := (objectId, fence) :: self.published }
  | _ => self

/-- `_publish_actor_reply`, behind the check that the call may still publish. -/
def publishActorReply (objectId : ObjectID) (thread : ActorCallThread) (reply : ActorCallReply)
    (decoding : ActorCallDecoding) : ActorCalls :=
  if self.clients.canPublish objectId thread.fence = false then
    self.setPhase objectId thread .finishing
  else match reply.outcome with
    | .failed error => (self.publishError objectId error).setPhase objectId thread .finishing
    | .succeeded _ true => self.setPhase objectId thread (.failing
        "Actor reply cannot publish ordinary Task or contained-reference output")
    | .succeeded result false => match decoding with
      | .raised error => self.setPhase objectId thread (.failing error)
      | .nodeDead => self.setPhase objectId thread .finishing
      | .ready => (self.publishResult objectId thread.fence result).setPhase objectId thread
          .finishing

def handleReply (objectId : ObjectID) (thread : ActorCallThread) (reply : ActorCallReply)
    (decoding : ActorCallDecoding) : ActorCalls :=
  if Mismatched thread.request reply then
    self.setPhase objectId thread (.failing "actor reply identity does not match its call")
  else if TaskMismatched thread.request thread.fence reply then
    self.setPhase objectId thread
      (.failing "worker task reply identity does not match the pushed task")
  else self.publishActorReply objectId thread reply decoding

def routeChanged : String := "Actor route changed while method call was in flight"

def routeUnconfirmed : String :=
  "Actor route remained unreachable and GCS could not confirm a newer generation before " ++
    "the deadline"

def routeUnreachable : String :=
  "Actor remained on the same ALIVE route but was unreachable before the control-plane deadline"

/-- The next section of a call's thread. -/
def advance (objectId : ObjectID) (thread : ActorCallThread) (input : ActorCallInput) :
    ActorCalls :=
  match thread.phase, input with
  | .sending, _ =>
    { self with sent := thread.request :: self.sent }.setPhase objectId thread .waiting
  | .waiting, .transportFailed => self.setPhase objectId thread .retrying
  | .waiting, .replied reply =>
    if (self.worker thread.request.generation).Answers thread.request.key then
      self.setPhase objectId thread (.replied reply)
    else self
  | .retrying, .stateUnavailable expired =>
    self.setPhase objectId thread (if expired then .failing routeUnconfirmed else .sending)
  | .retrying, .stateRaised error => self.setPhase objectId thread (.failing error)
  | .retrying, .stateFound snapshot _ => match self.installActorSnapshot snapshot with
    | .error error => self.setPhase objectId thread (.failing error.message)
    | .ok self => self.setPhase objectId thread .installed
  | .installed, .checked expired =>
    if self.clients.canPublish objectId thread.fence = false then
      self.setPhase objectId thread (.failing routeChanged)
    else self.setPhase objectId thread (if expired then .failing routeUnreachable else .sending)
  | .replied reply, .decoded decoding => self.handleReply objectId thread reply decoding
  | .failing error, _ => (self.publishError objectId error).setPhase objectId thread .finishing
  | .finishing, _ => { self with
      clients := (self.clients.finishCall objectId thread.fence).2
      threads := self.threads.erase objectId }
  | _, _ => self

def step : ActorCallAction → ActorCalls
  | .register snapshot _ definition =>
    match self.clients.register snapshot definition.methodNames with
    | .error _ => self
    | .ok clients => { self with clients := clients }
  | .remove actorId expected => match self.clients.remove actorId expected with
    | .error _ => self
    | .ok (_, clients) => { self with clients := clients }
  | .install snapshot _ => match self.installActorSnapshot snapshot with
    | .error _ => self
    | .ok self => self
  | .submit submission => (self.submitActorCall submission).2
  | .advance objectId input => match self.threads.get? objectId with
    | none => self
    | some thread => self.advance objectId thread input
  | .deliver request =>
    if request ∈ self.sent then
      self.setWorker request.generation ((self.worker request.generation).handle request.call)
    else self
  | .deliverOther call =>
    if call.callerId = self.workerId then self
    else self.setWorker call.generation ((self.worker call.generation).handle call)
  | .takeNext generation =>
    let worker := self.worker generation
    self.setWorker generation { worker with mailbox := worker.mailbox.takeNext.2 }
  | .completeCurrent generation reply =>
    let worker := self.worker generation
    self.setWorker generation { worker with mailbox := (worker.mailbox.completeCurrent reply).2 }
  | .stopWorker generation =>
    self.setWorker generation { self.worker generation with accepting := false }
  | .shutdown => { self with accepting := false }

end ActorCalls

end MiniRay
