import Mathlib.Data.Rat.Defs
import MiniRay.Node.Replicas
import MiniRay.Store.ObjectStore

/-! Target-side lifetime of a remote source pin. The outbox retains the immutable source request
before Pin is sent, protects the active reader from background release, and retries only the exact
close after the reader leaves. -/

namespace MiniRay

open Checked

@[ext] structure TransferID where
  value : String
  value_ne : value ≠ ""

instance : DecidableEq TransferID := byFields TransferID.ext_iff

/-- Open an idempotent, pinned source-replica transfer session. -/
structure PinObjectForTransfer where
  transferId : TransferID
  descriptor : ObjectStoreDescriptor
  requesterNodeId : NodeID
  deriving DecidableEq

/-- Close one source transfer session and release its physical pin. -/
structure ReleaseObjectPin where
  transferId : TransferID
  objectId : ObjectID
  requesterNodeId : NodeID
  deriving DecidableEq

structure ReleaseObjectPinReply where
  transferId : TransferID
  objectId : ObjectID
  nodeId : NodeID
  accepted : Bool
  released : Bool
  error : Option String := none
  deriving DecidableEq

inductive TransferPinError
  | typeError (message : String)
  | valueError (message : String)
  | keyError (transferId : TransferID)

/-- One obligation to close a source session; `ticket` is the identity of the record. -/
structure TransferPinObligation where
  ticket : Nat
  sourceAddress : Address
  pin : PinObjectForTransfer
  active : Bool := true
  inFlight : Bool := false
  rounds : Nat := 0
  retryAfter : ℚ := 0
  sourceDeath : Option NodeDeathRecord := none

namespace TransferPinObligation

def release (self : TransferPinObligation) : ReleaseObjectPin :=
  ⟨self.pin.transferId, self.pin.descriptor.objectId, self.pin.requesterNodeId⟩

/-- The reader has left, and nobody else is closing the session. -/
def Acquirable (self : TransferPinObligation) (now : ℚ) (force : Bool) : Prop :=
  self.active = false ∧ self.inFlight = false ∧ (force = true ∨ self.retryAfter ≤ now)

instance (self : TransferPinObligation) (now : ℚ) (force : Bool) :
    Decidable (self.Acquirable now force) := inferInstanceAs (Decidable (_ ∧ _))

def leave (self : TransferPinObligation) : TransferPinObligation :=
  { self with active := false, retryAfter := 0 }

def retryLater (self : TransferPinObligation) (now : ℚ) : TransferPinObligation :=
  { self with
    inFlight := false
    rounds := self.rounds + 1
    retryAfter := now + min (1 / 4) (1 / 100 * 2 ^ min (self.rounds + 1) 5) }

def Acknowledges (self : TransferPinObligation) (reply : ReleaseObjectPinReply) : Prop :=
  reply.accepted = true ∧ reply.transferId = self.release.transferId ∧
    reply.objectId = self.release.objectId ∧ reply.nodeId = self.pin.descriptor.nodeId

instance (self : TransferPinObligation) (reply : ReleaseObjectPinReply) :
    Decidable (self.Acknowledges reply) := inferInstanceAs (Decidable (_ ∧ _))

end TransferPinObligation

structure TransferPinOutbox where
  pending : Dict TransferID TransferPinObligation := .empty
  nextTicket : Nat := 0

namespace TransferPinOutbox

variable (self : TransferPinOutbox)

def setObligation (record : TransferPinObligation) : TransferPinOutbox :=
  { self with pending := self.pending.set record.pin.transferId record }

def begin_ (sourceAddress : Address) (request : PinObjectForTransfer) :
    Except TransferPinError (TransferPinObligation × TransferPinOutbox) :=
  match self.pending.get? request.transferId with
  | some previous =>
    if previous.pin ≠ request ∨ previous.sourceAddress ≠ sourceAddress ∨
        previous.active = false then
      .error (.valueError "source transfer identity was rebound or already closing")
    else .ok (previous, self)
  | none =>
    let record : TransferPinObligation :=
      { ticket := self.nextTicket, sourceAddress := sourceAddress, pin := request }
    .ok (record, { self.setObligation record with nextTicket := self.nextTicket + 1 })

def close (transferId : TransferID) : Except TransferPinError TransferPinOutbox :=
  match self.pending.get? transferId with
  | none => .error (.keyError transferId)
  | some record => .ok { self with pending := self.pending.set transferId record.leave }

/-- The records that `acquire` looks at, in their order. -/
def candidates (transferId : Option TransferID) : List TransferPinObligation :=
  match transferId with
  | none => self.pending.values
  | some transferId => (self.pending.get? transferId).toList

def acquire (now : ℚ) (transferId : Option TransferID) (force : Bool) :
    Option TransferPinObligation × TransferPinOutbox :=
  match (self.candidates transferId).find? fun record => record.Acquirable now force with
  | none => (none, self)
  | some record =>
    let record := { record with inFlight := true }
    (some record, self.setObligation record)

def closeAndAcquire (transferId : TransferID) (now : ℚ) :
    Except TransferPinError (Option TransferPinObligation × TransferPinOutbox) := do
  let closed ← self.close transferId
  pure (closed.acquire now (some transferId) true)

/-- The current record, if the caller's ticket owns its close. -/
def owned (transferId : TransferID) (ticket : Nat) :
    Except TransferPinError TransferPinObligation :=
  match self.pending.get? transferId with
  | none => .error (.valueError "source pin settlement does not own its in-flight ticket")
  | some record =>
    if record.ticket ≠ ticket ∨ record.inFlight = false then
      .error (.valueError "source pin settlement does not own its in-flight ticket")
    else .ok record

def settle (transferId : TransferID) (ticket : Nat) (acknowledged : Bool) (now : ℚ) :
    Except TransferPinError (Bool × TransferPinOutbox) := do
  let record ← self.owned transferId ticket
  if acknowledged = true ∨ record.sourceDeath ≠ none then
    pure (true, { self with pending := self.pending.erase transferId })
  else
    pure (false, { self with pending := self.pending.set transferId (record.retryLater now) })

/-- One record of `mark_source_dead`; an error leaves what was marked before it. -/
def markOne (death : NodeDeathRecord) (record : TransferPinObligation) :
    Except TransferPinError TransferPinOutbox :=
  if record.pin.descriptor.nodeId ≠ death.nodeId then .ok self
  else if record.sourceDeath.any (fun known => known ≠ death) then
    .error (.valueError "source Node death proof changed")
  else if record.active = false ∧ record.inFlight = false then
    .ok { self with pending := self.pending.erase record.pin.transferId }
  else .ok (self.setObligation { record with sourceDeath := some death })

def markAll (death : NodeDeathRecord) :
    List TransferPinObligation → TransferPinOutbox → TransferPinOutbox
  | [], outbox => outbox
  | record :: records, outbox => match outbox.markOne death record with
    | .error _ => outbox
    | .ok outbox => markAll death records outbox

def markSourceDead (death : NodeDeathRecord) : TransferPinOutbox :=
  markAll death self.pending.values self

def hasPending : Bool := self.pending.items ≠ []

end TransferPinOutbox

end MiniRay

/-! ## The source of a transfer

A Node pins one exact replica for every transfer session. A close leaves a permanent fence,
so that a delayed Pin cannot open the session again. -/

namespace MiniRay

def objectTransferChunkBytes : Nat := 16 * 1024

structure PinObjectForTransferReply where
  transferId : TransferID
  descriptor : ObjectStoreDescriptor
  pinned : Bool
  error : Option String := none

/-- Read one bounded range from an already pinned transfer session. -/
@[ext] structure GetObjectChunk where
  transferId : TransferID
  objectId : ObjectID
  requesterNodeId : NodeID
  offset : Nat
  sizeBytes : Nat
  size_pos : 0 < sizeBytes

instance : DecidableEq GetObjectChunk := byFields GetObjectChunk.ext_iff

structure GetObjectChunkReply where
  transferId : TransferID
  objectId : ObjectID
  nodeId : NodeID
  offset : Nat
  data : List UInt8 := []
  ok : Bool := true
  error : Option String := none

/-- The two kinds of tokens a Node pins replicas with. -/
inductive PinToken
  | transfer (transferId : TransferID)
  | leaseDependency (leaseId : LeaseID) (objectId : ObjectID) (attemptId : AttemptID)
  deriving DecidableEq

structure PinnedTransfer where
  descriptor : ObjectStoreDescriptor
  requesterNodeId : NodeID
  pinToken : PinToken
  released : Bool := false
  acquired : Bool := false
  closing : Bool := false

structure ClosedTransferPin where
  request : ReleaseObjectPin
  closed : Bool := false

/-- `"{type}: {message}"` of an object store error. -/
def ObjectStoreError.describe : ObjectStoreError → String
  | .objectAlreadyExists message => "ObjectAlreadyExistsError: " ++ message
  | .objectStoreFull message => "ObjectStoreFullError: " ++ message
  | .objectNotFound message => "ObjectNotFoundError: " ++ message
  | .objectAlreadySealed message => "ObjectAlreadySealedError: " ++ message
  | .objectNotSealed message => "ObjectNotSealedError: " ++ message
  | .incompleteObject message => "IncompleteObjectError: " ++ message
  | .invalidWrite message => "InvalidWriteError: " ++ message
  | .valueError message => "ValueError: " ++ message
  | .assertion => "AssertionError: "

/-- What the transfer handlers of a Node share with its other sections. -/
structure TransferSource where
  nodeId : NodeID
  objectStore : ObjectStore PinToken
  sealedMetadata : Dict ObjectID ReplicaMetadata := .empty
  droppedMetadata : Dict ObjectID ReplicaTombstone := .empty
  ownerDeathFences : Dict WorkerID WorkerDeathRecord := .empty
  transferNodeDeaths : Dict NodeID NodeDeathRecord := .empty
  shutdownRequestId : Option String := none
  stopping : Bool := false
  pinnedTransfers : Dict TransferID PinnedTransfer := .empty
  closedTransferPins : Dict TransferID ClosedTransferPin := .empty

namespace TransferSource

variable (self : TransferSource)

def setSession (transferId : TransferID) (session : PinnedTransfer) : TransferSource :=
  { self with pinnedTransfers := self.pinnedTransfers.set transferId session }

def setClosed (transferId : TransferID) (closed : ClosedTransferPin) : TransferSource :=
  { self with closedTransferPins := self.closedTransferPins.set transferId closed }

/-! ## Pin -/

/-- Why a session that is not open yet may not be opened now. -/
def refusal (descriptor : ObjectStoreDescriptor) : Option String :=
  match self.ownerDeathFences.get? descriptor.ownerWorkerId with
  | some ownerDeath =>
    some ("object owner is fenced by Worker death " ++ ownerDeath.detectionId)
  | none =>
    if self.shutdownRequestId ≠ none ∨ self.stopping = true then
      some "node is draining and rejects new transfer sessions"
    else if (self.droppedMetadata.get? descriptor.objectId).any
        fun tombstone => tombstone.Fences descriptor.producerAttemptId then
      some "dependency producer attempt was fenced by replica deletion"
    else if (self.sealedMetadata.get? descriptor.objectId).any
        fun metadata => descriptor.MatchesSource self.nodeId metadata then none
    else some "source replica does not match the advertised descriptor"

/-- What a session with this transfer identity already answers. -/
def replay (request : PinObjectForTransfer) (previous : PinnedTransfer) :
    Option PinObjectForTransferReply :=
  if previous.descriptor ≠ request.descriptor ∨
      previous.requesterNodeId ≠ request.requesterNodeId then
    some ⟨request.transferId, request.descriptor, false,
      some "transfer ID is already bound to different metadata"⟩
  else if previous.released = true ∨ previous.closing = true then
    some ⟨request.transferId, request.descriptor, false,
      some "transfer pin was already released"⟩
  else if previous.acquired = true then
    some ⟨request.transferId, request.descriptor, true, none⟩
  else none

/-- Persist the token before the store pins, then pin. -/
def acquirePin (request : PinObjectForTransfer) (previous : Option PinnedTransfer) :
    PinObjectForTransferReply × TransferSource :=
  let session := previous.getD
    ⟨request.descriptor, request.requesterNodeId, .transfer request.transferId, false, false, false⟩
  let kept := match previous with
    | none => self.setSession request.transferId session
    | some _ => self
  match self.objectStore.pin request.descriptor.objectId (.transfer request.transferId) with
  | .error e => (⟨request.transferId, request.descriptor, false, some e.describe⟩, kept)
  | .ok store =>
    (⟨request.transferId, request.descriptor, true, none⟩,
      { kept with objectStore := store }.setSession request.transferId
        { session with pinToken := .transfer request.transferId, acquired := true })

/-- `_handle_pin_object_for_transfer`. -/
def pinObject (request : PinObjectForTransfer) : PinObjectForTransferReply × TransferSource :=
  let rejected (error : String) : PinObjectForTransferReply × TransferSource :=
    (⟨request.transferId, request.descriptor, false, some error⟩, self)
  if self.closedTransferPins.get? request.transferId |>.isSome then
    rejected "transfer ID has a permanent close fence"
  else if self.transferNodeDeaths.get? request.requesterNodeId |>.isSome then
    rejected "requesting Node is confirmed dead"
  else match (self.pinnedTransfers.get? request.transferId).bind (replay request) with
    | some reply => (reply, self)
    | none => match self.refusal request.descriptor with
      | some error => rejected error
      | none => self.acquirePin request (self.pinnedTransfers.get? request.transferId)

/-! ## Read -/

/-- The session is open for exactly this reader. -/
def Readable (request : GetObjectChunk) (session : PinnedTransfer) : Prop :=
  session.released = false ∧ session.closing = false ∧ session.acquired = true ∧
    session.descriptor.objectId = request.objectId ∧
    session.requesterNodeId = request.requesterNodeId

instance (request : GetObjectChunk) (session : PinnedTransfer) :
    Decidable (Readable request session) := inferInstanceAs (Decidable (_ ∧ _))

def refuseChunk (request : GetObjectChunk) (error : String) : GetObjectChunkReply :=
  ⟨request.transferId, request.objectId, self.nodeId, request.offset, [], false, some error⟩

/-- `_handle_get_object_chunk`: one section under the Node lock. -/
def getObjectChunk (request : GetObjectChunk) : Except ObjectStoreError GetObjectChunkReply :=
  if objectTransferChunkBytes < request.sizeBytes then
    .ok (self.refuseChunk request ("chunk exceeds " ++ toString objectTransferChunkBytes ++
      " byte limit"))
  else match self.pinnedTransfers.get? request.transferId with
    | none => .ok (self.refuseChunk request "unknown or mismatched pinned transfer session")
    | some session =>
      if ¬ Readable request session then
        .ok (self.refuseChunk request "unknown or mismatched pinned transfer session")
      else if session.descriptor.sizeBytes < request.offset then
        .ok (self.refuseChunk request "chunk offset exceeds object size")
      else match self.objectStore.get request.objectId with
        | .error e => .error e
        | .ok payload =>
          let stop := min session.descriptor.sizeBytes (request.offset + request.sizeBytes)
          .ok ⟨request.transferId, request.objectId, self.nodeId, request.offset,
            (payload.take stop).drop request.offset, true, none⟩

/-! ## Release -/

/-- Unpin what is there; an absent entry has no pin. -/
def unpinSession (objectId : ObjectID) (session : PinnedTransfer) :
    Except ObjectStoreError (Bool × ObjectStore PinToken) :=
  if self.objectStore.contains objectId false then
    self.objectStore.unpin objectId session.pinToken
  else .ok (false, self.objectStore)

/-- Close a session that is still open, whose close fence is already there. -/
def closeSession (request : ReleaseObjectPin) (session : PinnedTransfer) :
    ReleaseObjectPinReply × TransferSource :=
  let closing := self.setSession request.transferId { session with closing := true }
  match self.unpinSession request.objectId session with
  | .error e =>
    (⟨request.transferId, request.objectId, self.nodeId, false, false,
      some ("source unpin remains unconfirmed: " ++ e.message)⟩, closing)
  | .ok (released, store) =>
    (⟨request.transferId, request.objectId, self.nodeId, true, released, none⟩,
      (({ closing with objectStore := store }.setSession request.transferId
        { session with closing := true, released := true }).setClosed request.transferId
          ⟨request, true⟩))

/-- `_handle_release_object_pin`. -/
def releaseObjectPin (request : ReleaseObjectPin) : ReleaseObjectPinReply × TransferSource :=
  let reply (accepted : Bool) (error : Option String) : ReleaseObjectPinReply :=
    ⟨request.transferId, request.objectId, self.nodeId, accepted, false, error⟩
  let previous := self.closedTransferPins.get? request.transferId
  if previous.any fun closed => closed.request ≠ request then
    (reply false (some "transfer close identity does not match"), self)
  else if previous.any fun closed => closed.closed = true then (reply true none, self)
  else match self.pinnedTransfers.get? request.transferId with
    | none =>
      -- This close may beat a delayed Pin: the permanent fence makes absence durable.
      (reply true none, self.setClosed request.transferId ⟨request, true⟩)
    | some session =>
      if session.descriptor.objectId ≠ request.objectId ∨
          session.requesterNodeId ≠ request.requesterNodeId then
        (reply false (some "mismatched pinned transfer session"), self)
      else if session.released = true then
        (reply true none, self.setClosed request.transferId ⟨request, true⟩)
      else (self.setClosed request.transferId ⟨request, false⟩).closeSession request session

end TransferSource

end MiniRay
