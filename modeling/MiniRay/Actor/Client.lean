import MiniRay.Control.ActorTypes

/-! A table keeps, for every Actor the owner created, the latest snapshot installed by the control
plane, the next sequence number and the calls in flight. -/

namespace MiniRay

def ActorState.value : ActorState → String
  | .creating => "CREATING"
  | .alive => "ALIVE"
  | .restarting => "RESTARTING"
  | .dead => "DEAD"

structure ActorCallFence where
  actorId : ActorID
  routeEpoch : Nat
  generation : ActorGeneration
  workerId : WorkerID
  deriving DecidableEq

structure ActorClientEntry where
  snapshot : ActorSnapshot
  methodNames : List String
  nextSequence : Nat := 0
  inflight : Dict ObjectID ActorCallFence := .empty

inductive ActorClientError
  | valueError (message : String)
  | keyError (actorId : ActorID)
  | runtimeError (message : String)
  | assertionError

structure ActorClientTable where
  entries : Dict ActorID ActorClientEntry := .empty

namespace ActorClientTable

variable (self : ActorClientTable)

def register (snapshot : ActorSnapshot) (methodNames : List String) :
    Except ActorClientError ActorClientTable :=
  if snapshot.state ≠ .creating ∧ snapshot.state ≠ .alive then
    .error (.valueError "initial Actor client snapshot must be CREATING or ALIVE")
  else if self.entries.get? snapshot.actorId ≠ none then
    .error (.valueError "Actor client is already registered")
  else .ok ⟨self.entries.set snapshot.actorId { snapshot := snapshot, methodNames := methodNames }⟩

/-- Compare and remove an unexposed entry. -/
def remove (actorId : ActorID) (expected : ActorSnapshot) :
    Except ActorClientError (Bool × ActorClientTable) :=
  if expected.actorId ≠ actorId then
    .error (.valueError "expected snapshot belongs to another ActorID")
  else if expected.state ≠ .creating then
    .error (.valueError "only an unexposed CREATING Actor may be removed")
  else match self.entries.get? actorId with
    | none => .ok (false, self)
    | some entry =>
      if entry.snapshot ≠ expected then .ok (false, self)
      else if entry.inflight.items ≠ [] then
        .error (.runtimeError "an Actor with in-flight calls cannot be rolled back")
      else .ok (true, ⟨self.entries.erase actorId⟩)

end ActorClientTable

/-- The calls that a newer route fences. -/
def ActorClientEntry.fenced (entry : ActorClientEntry) (snapshot : ActorSnapshot) :
    List ObjectID :=
  (entry.inflight.items.filter fun item => item.2.routeEpoch < snapshot.routeEpoch).map Prod.fst

/-- The entry on a newer route; a new generation counts anew. -/
def ActorClientEntry.reroute (entry : ActorClientEntry) (snapshot : ActorSnapshot) :
    ActorClientEntry :=
  { entry with
    snapshot := snapshot
    nextSequence := if snapshot.generation ≠ entry.snapshot.generation then 0
      else entry.nextSequence
    inflight :=
      entry.inflight.filter fun _ call => !decide (call.routeEpoch < snapshot.routeEpoch) }

/-- The entry once a call took its number. -/
def ActorClientEntry.take (entry : ActorClientEntry) (objectId : ObjectID)
    (fence : ActorCallFence) : ActorClientEntry :=
  { entry with
    nextSequence := entry.nextSequence + 1
    inflight := entry.inflight.set objectId fence }

/-- The route of the fence is still the present one. -/
def ActorSnapshot.Routes (snapshot : ActorSnapshot) (fence : ActorCallFence) : Prop :=
  snapshot.state = .alive ∧ snapshot.routeEpoch = fence.routeEpoch ∧
    snapshot.generation = fence.generation ∧
    snapshot.endpoint.map ActorEndpoint.workerId = some fence.workerId

instance (snapshot : ActorSnapshot) (fence : ActorCallFence) :
    Decidable (snapshot.Routes fence) := inferInstanceAs (Decidable (_ ∧ _))

namespace ActorClientTable

variable (self : ActorClientTable)

/-- Install one monotonic route update, and return the calls it fenced. -/
def install (snapshot : ActorSnapshot) :
    Except ActorClientError ((Bool × List ObjectID) × ActorClientTable) :=
  match self.entries.get? snapshot.actorId with
  | none => .error (.keyError snapshot.actorId)
  | some entry =>
    if snapshot.routeEpoch < entry.snapshot.routeEpoch then .ok ((false, []), self)
    else if snapshot.routeEpoch = entry.snapshot.routeEpoch then
      if snapshot ≠ entry.snapshot then
        .error (.valueError "Actor route epoch was reused with new contents")
      else .ok ((false, []), self)
    else .ok ((true, entry.fenced snapshot),
      ⟨self.entries.set snapshot.actorId (entry.reroute snapshot)⟩)

def beginCall (actorId : ActorID) (objectId : ObjectID) :
    Except ActorClientError ((ActorSnapshot × Nat × ActorCallFence) × ActorClientTable) :=
  match self.entries.get? actorId with
  | none => .error (.keyError actorId)
  | some entry =>
    if entry.snapshot.state ≠ .alive then
      .error (.runtimeError ("Actor is not callable while " ++ entry.snapshot.state.value))
    else match entry.snapshot.endpoint with
      | none => .error .assertionError
      | some endpoint =>
        let fence : ActorCallFence :=
          ⟨actorId, entry.snapshot.routeEpoch, entry.snapshot.generation, endpoint.workerId⟩
        .ok ((entry.snapshot, entry.nextSequence, fence),
          ⟨self.entries.set actorId (entry.take objectId fence)⟩)

def canPublish (objectId : ObjectID) (fence : ActorCallFence) : Bool :=
  match self.entries.get? fence.actorId with
  | none => false
  | some entry =>
    if entry.inflight.get? objectId ≠ some fence then false else entry.snapshot.Routes fence

def finishCall (objectId : ObjectID) (fence : ActorCallFence) : Bool × ActorClientTable :=
  match self.entries.get? fence.actorId with
  | none => (false, self)
  | some entry =>
    if entry.inflight.get? objectId ≠ some fence then (false, self)
    else (true, ⟨self.entries.set fence.actorId
      { entry with inflight := entry.inflight.erase objectId }⟩)

end ActorClientTable

end MiniRay
