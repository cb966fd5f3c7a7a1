import MiniRay.Ids
import MiniRay.Library.Dict
import MiniRay.Library.Run

/-! Calls are admitted in the order of each caller's sequence numbers, run one at a time, and fenced
by the generation of the actor. -/

namespace MiniRay

/-! ## Calls -/

inductive ActorSubmitStatus
  | accepted
  | buffered
  | duplicate
  | fenced

inductive ActorCallState
  | buffered
  | queued
  | running
  | completed
  deriving DecidableEq

def ActorCallState.value : ActorCallState → String
  | .buffered => "BUFFERED"
  | .queued => "QUEUED"
  | .running => "RUNNING"
  | .completed => "COMPLETED"

structure ActorCallKey where
  callerId : WorkerID
  sequence : Int
  deriving DecidableEq

structure ActorCall (π φ : Type) where
  actorId : ActorID
  generation : ActorGeneration
  callerId : WorkerID
  sequence : Int
  payload : π
  fingerprint : Option φ

def ActorCall.key {π φ : Type} (call : ActorCall π φ) : ActorCallKey :=
  ⟨call.callerId, call.sequence⟩

/-- The cached result is there exactly when `has_cached_result` is set. -/
structure ActorSubmission (π φ ρ : Type) where
  status : ActorSubmitStatus
  admitted : List (ActorCall π φ)
  cachedResult : Option ρ

def ActorSubmission.of {π φ ρ : Type} (status : ActorSubmitStatus) : ActorSubmission π φ ρ :=
  ⟨status, [], none⟩

/-- The result is there exactly when `has_result` is set. -/
structure CallRecord (π φ ρ : Type) where
  call : ActorCall π φ
  state : ActorCallState
  result : Option ρ

/-- The class of an exception; `payload` is any other one of a payload's own `==`. -/
inductive ActorErrorKind
  | valueError
  | keyError
  | actorCallConflict
  | actorMailboxState
  | payload
  deriving DecidableEq

structure ActorError where
  kind : ActorErrorKind
  message : String

def ActorCallState.transitions : ActorCallState → List ActorCallState
  | .buffered => [.queued]
  | .queued => [.running]
  | .running => [.completed]
  | .completed => []

/-- Apply one legal mailbox edge and reject skipped regressions. -/
def transitionCall {π φ ρ : Type} (record : CallRecord π φ ρ) (target : ActorCallState) :
    Except ActorError (CallRecord π φ ρ) :=
  if target ∈ record.state.transitions then .ok { record with state := target }
  else .error ⟨.actorMailboxState, "illegal actor call transition " ++ record.state.value ++
    " -> " ++ target.value⟩

/-- How `==` between two payloads ends: with a truth value, or with an exception. -/
inductive PayloadEquality
  | value (equal : Bool)
  | incomparable
  | raised (message : String)

class Payload (π : Type) where
  equal : π → π → PayloadEquality
  identical : π → π → Bool

def sameLogicalCall {π φ : Type} [Payload π] [BEq φ] (left right : ActorCall π φ) :
    Except ActorError Bool :=
  if left.actorId ≠ right.actorId ∨ left.generation ≠ right.generation ∨ left.key ≠ right.key then
    .ok false
  else match left.fingerprint, right.fingerprint with
    | some f, some g => .ok (f == g)
    | some _, none => .ok false
    | none, some _ => .ok false
    | none, none =>
      match Payload.equal left.payload right.payload with
      | .value equal => .ok equal
      | .incomparable => .ok (Payload.identical left.payload right.payload)
      | .raised message => .error ⟨.payload, message⟩

/-! ## The mailbox -/

structure ActorMailbox (π φ ρ : Type) where
  actorId : ActorID
  generation : ActorGeneration
  nextSequence : Dict WorkerID Int
  records : Dict ActorCallKey (CallRecord π φ ρ)
  buffered : Dict WorkerID (Dict Int ActorCallKey)
  ready : List ActorCallKey
  running : Option ActorCallKey
  own : generation.actorId = actorId

namespace ActorMailbox

variable {π φ ρ : Type}

def initial (generation : ActorGeneration) : ActorMailbox π φ ρ :=
  ⟨generation.actorId, generation, .empty, .empty, .empty, [], none, rfl⟩

def new (actorId : ActorID) (generation : ActorGeneration) :
    Except ActorError (ActorMailbox π φ ρ) :=
  if generation.actorId ≠ actorId then
    .error ⟨.valueError, "actor generation belongs to a different actor"⟩
  else .ok (initial generation)

/-- The sequence number the caller has to send next. -/
def expected (self : ActorMailbox π φ ρ) (caller : WorkerID) : Int :=
  (self.nextSequence.get? caller).getD 0

def callState (self : ActorMailbox π φ ρ) (key : ActorCallKey) : Option ActorCallState :=
  (self.records.get? key).map CallRecord.state

def waitingKey (self : ActorMailbox π φ ρ) (caller : WorkerID) (sequence : Int) :
    Option ActorCallKey :=
  (self.buffered.get? caller).bind fun waiting => waiting.get? sequence

/-- Forget a buffered key, and the caller's buffer with its last key. -/
def popWaiting (self : ActorMailbox π φ ρ) (caller : WorkerID) (sequence : Int) :
    ActorMailbox π φ ρ :=
  match self.buffered.get? caller with
  | none => self
  | some waiting => { self with
      buffered := if (waiting.erase sequence).items = [] then self.buffered.erase caller
        else self.buffered.set caller (waiting.erase sequence) }

/-- Record a call that arrived ahead of its turn. -/
def bufferCall (self : ActorMailbox π φ ρ) (call : ActorCall π φ) : ActorMailbox π φ ρ :=
  { self with
    records := self.records.set call.key ⟨call, .buffered, none⟩
    buffered := self.buffered.set call.callerId
      (((self.buffered.get? call.callerId).getD .empty).set call.sequence call.key) }

/-- The record of a call whose turn has come. -/
def queuedRecord (self : ActorMailbox π φ ρ) (call : ActorCall π φ) :
    Except ActorError (CallRecord π φ ρ) :=
  match self.records.get? call.key with
  | none => .ok ⟨call, .queued, none⟩
  | some record => transitionCall record .queued

def queueCall (self : ActorMailbox π φ ρ) (caller : WorkerID) (call : ActorCall π φ)
    (record : CallRecord π φ ρ) : ActorMailbox π φ ρ :=
  { self with
    records := self.records.set call.key record
    ready := self.ready ++ [call.key]
    nextSequence := self.nextSequence.set caller (call.sequence + 1) }

def waitingCount (self : ActorMailbox π φ ρ) (caller : WorkerID) : Nat :=
  ((self.buffered.get? caller).map fun waiting => waiting.items.length).getD 0

theorem waitingCount_popWaiting_lt {self : ActorMailbox π φ ρ} {caller : WorkerID}
    {sequence : Int} {key : ActorCallKey} (h : self.waitingKey caller sequence = some key) :
    (self.popWaiting caller sequence).waitingCount caller < self.waitingCount caller := by
  unfold waitingKey at h
  cases hw : self.buffered.get? caller with
  | none => simp [hw] at h
  | some waiting =>
    simp only [hw, Option.bind_some] at h
    have hlt := Dict.length_erase_lt h
    by_cases he : (waiting.erase sequence).items = []
    · simp only [he, List.length_nil] at hlt
      simpa [popWaiting, waitingCount, hw, he] using hlt
    · simpa [popWaiting, waitingCount, hw, he] using hlt

/-- Queue the call, then every buffered call that follows it without a gap. -/
def admitContiguous (self : ActorMailbox π φ ρ) (caller : WorkerID) (call : ActorCall π φ) :
    Except ActorError (List (ActorCall π φ)) × ActorMailbox π φ ρ :=
  match self.queuedRecord call with
  | .error raised => (.error raised, self)
  | .ok record =>
    let queued := self.queueCall caller call record
    let popped := queued.popWaiting caller (call.sequence + 1)
    match _h : queued.waitingKey caller (call.sequence + 1) with
    | none => (.ok [call], popped)
    | some key =>
      match popped.records.get? key with
      | none => (.error ⟨.keyError, ""⟩, popped)
      | some next =>
        let rest := admitContiguous popped caller next.call
        (rest.1.map fun admitted => call :: admitted, rest.2)
  termination_by self.waitingCount caller
  decreasing_by exact waitingCount_popWaiting_lt _h

def submitCall [Payload π] [BEq φ] (self : ActorMailbox π φ ρ) (call : ActorCall π φ) :
    Except ActorError (ActorSubmission π φ ρ) × ActorMailbox π φ ρ :=
  if call.actorId ≠ self.actorId ∨ call.generation ≠ self.generation then
    (.ok (.of .fenced), self)
  else if call.sequence < 0 then
    (.error ⟨.valueError, "actor call sequence must be non-negative"⟩, self)
  else match self.records.get? call.key with
    | some existing =>
      match sameLogicalCall existing.call call with
      | .error raised => (.error raised, self)
      | .ok false => (.error ⟨.actorCallConflict,
          "caller sequence was reused with a different call payload"⟩, self)
      | .ok true => (.ok ⟨.duplicate, [], existing.result⟩, self)
    | none =>
      if call.sequence < self.expected call.callerId then (.ok (.of .duplicate), self)
      else if call.sequence > self.expected call.callerId then
        (.ok (.of .buffered), self.bufferCall call)
      else
        let admission := self.admitContiguous call.callerId call
        (admission.1.map fun admitted => ⟨.accepted, admitted, none⟩, admission.2)

def startCall (self : ActorMailbox π φ ρ) (key : ActorCallKey) (record : CallRecord π φ ρ) :
    ActorMailbox π φ ρ :=
  { self with records := self.records.set key record, running := some key }

/-- Start the next call, preserving default actor serial execution. -/
def takeNext (self : ActorMailbox π φ ρ) :
    Except ActorError (Option (ActorCall π φ)) × ActorMailbox π φ ρ :=
  match self.running, self.ready with
  | none, key :: rest =>
    let popped := { self with ready := rest }
    match popped.records.get? key with
    | none => (.error ⟨.keyError, ""⟩, popped)
    | some record =>
      match transitionCall record .running with
      | .error raised => (.error raised, popped)
      | .ok started => (.ok (some record.call), popped.startCall key started)
  | _, _ => (.ok none, self)

def finishCall (self : ActorMailbox π φ ρ) (key : ActorCallKey) (record : CallRecord π φ ρ) :
    ActorMailbox π φ ρ :=
  { self with records := self.records.set key record, running := none }

def completeCurrent (self : ActorMailbox π φ ρ) (result : ρ) :
    Except ActorError (ActorCall π φ) × ActorMailbox π φ ρ :=
  match self.running with
  | none => (.error ⟨.actorMailboxState, "there is no running actor call"⟩, self)
  | some key =>
    match self.records.get? key with
    | none => (.error ⟨.keyError, ""⟩, self)
    | some record =>
      if record.state ≠ .running then
        (.error ⟨.actorMailboxState, "running call has an invalid state"⟩, self)
      else match transitionCall record .completed with
        | .error raised => (.error raised, self)
        | .ok completed =>
          (.ok record.call, self.finishCall key { completed with result := some result })

/-- Fence the old incarnation and return the calls its restart abandons. -/
def advanceGeneration (self : ActorMailbox π φ ρ) (newGeneration : ActorGeneration) :
    Except ActorError (List (ActorCall π φ)) × ActorMailbox π φ ρ :=
  if h : newGeneration.actorId = self.actorId then
    if newGeneration.generation ≤ self.generation.generation then
      (.error ⟨.valueError, "new actor generation must advance monotonically"⟩, self)
    else
      (.ok ((self.records.values.filter fun record => record.state ≠ .completed).map
          CallRecord.call),
        ⟨self.actorId, newGeneration, .empty, .empty, .empty, [], none, h⟩)
  else (.error ⟨.valueError, "new actor generation belongs to a different actor"⟩, self)

/-! ## Runs -/

inductive Op (π φ ρ : Type)
  | submitCall (call : ActorCall π φ)
  | takeNext
  | completeCurrent (result : ρ)
  | advanceGeneration (newGeneration : ActorGeneration)

inductive Event (π φ ρ : Type)
  | started (call : ActorCall π φ)
  | completed (call : ActorCall π φ) (result : ρ)

def Event.call : Event π φ ρ → ActorCall π φ
  | .started call => call
  | .completed call _ => call

def step [Payload π] [BEq φ] (self : ActorMailbox π φ ρ) : Op π φ ρ → ActorMailbox π φ ρ
  | .submitCall call => (self.submitCall call).2
  | .takeNext => self.takeNext.2
  | .completeCurrent result => (self.completeCurrent result).2
  | .advanceGeneration newGeneration => (self.advanceGeneration newGeneration).2

/-- The call an operation starts or completes. -/
def events (self : ActorMailbox π φ ρ) : Op π φ ρ → List (Event π φ ρ)
  | .takeNext =>
    match self.takeNext.1 with
    | .ok (some call) => [.started call]
    | _ => []
  | .completeCurrent result =>
    match (self.completeCurrent result).1 with
    | .ok call => [.completed call result]
    | .error _ => []
  | _ => []

end ActorMailbox

end MiniRay
