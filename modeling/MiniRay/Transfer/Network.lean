import MiniRay.Transfer.Source

/-! Messages may be lost, duplicated, delayed and reordered: whatever was sent can arrive at any
later time and any number of times. Other Nodes talk to the same source. -/

namespace MiniRay

open Run

inductive TransferMessage
  | pin (request : PinObjectForTransfer)
  | chunk (request : GetObjectChunk)
  | release (request : ReleaseObjectPin)
  deriving DecidableEq

def TransferMessage.requesterNodeId : TransferMessage → NodeID
  | .pin request => request.requesterNodeId
  | .chunk request => request.requesterNodeId
  | .release request => request.requesterNodeId

/-- One requester with its outbox, one source, and what travels between them. -/
structure TransferNetwork where
  requester : NodeID
  outbox : TransferPinOutbox := {}
  transferNodeDeaths : Dict NodeID NodeDeathRecord := .empty
  source : TransferSource
  /-- The requester's messages with the Node each was addressed to. -/
  sent : List (NodeID × TransferMessage) := []
  /-- The source's answers to Release messages. -/
  replies : List ReleaseObjectPinReply := []

inductive TransferAction
  -- the requester: a reader, the close driver and the death query
  | begin_ (sourceAddress : Address) (pin : PinObjectForTransfer)
  | sendPin (transferId : TransferID)
  | sendChunk (transferId : TransferID) (offset sizeBytes : Nat) (size_pos : 0 < sizeBytes)
  | finishRead (transferId : TransferID) (now : ℚ)
  | acquire (now : ℚ) (transferId : Option TransferID) (force : Bool)
  | sendRelease (transferId : TransferID)
  | settle (transferId : TransferID) (ticket : Nat) (reply : Option ReleaseObjectPinReply)
      (now : ℚ)
  | learnSourceDeath (death : NodeDeathRecord)
  -- the source: its handlers and its own close drivers
  | deliver (message : TransferMessage)
  | foreign (message : TransferMessage)
  | retryClosing
  | learnRequesterDeath (death : NodeDeathRecord)
  | releaseDead (transferId : TransferID)
  | releaseStopping (transferId : TransferID)
  -- the other sections of the source Node
  | shutdown (requestId : String)
  | stop
  | useStore (op : ObjectStore.Op PinToken)
  | setMetadata (objectId : ObjectID) (metadata : ReplicaMetadata)
  | dropMetadata (objectId : ObjectID)
  | setTombstone (objectId : ObjectID) (tombstone : ReplicaTombstone)
  | fenceOwner (death : WorkerDeathRecord)

/-- A store call of another section: it never uses the token of a transfer. -/
def ObjectStore.Op.IsOrdinary : ObjectStore.Op PinToken → Prop
  | .pin _ (.transfer _) | .unpin _ (.transfer _) => False
  | _ => True

instance : DecidablePred ObjectStore.Op.IsOrdinary := fun op => by
  unfold ObjectStore.Op.IsOrdinary
  split <;> infer_instance

namespace TransferNetwork

variable (self : TransferNetwork)

def new (requester nodeId : NodeID) (capacityBytes : Nat) : TransferNetwork where
  requester := requester
  source := { nodeId := nodeId, objectStore := .empty capacityBytes }

/-! ## Requester -/

def withOutbox (outbox : TransferPinOutbox) : TransferNetwork := { self with outbox := outbox }

def send (record : TransferPinObligation) (message : TransferMessage) : TransferNetwork :=
  { self with sent := (record.pin.descriptor.nodeId, message) :: self.sent }

/-- Act for the current obligation of a transfer, if it is in the right phase. -/
def onObligation (transferId : TransferID) (ready : TransferPinObligation → Bool)
    (message : TransferPinObligation → TransferMessage) : TransferNetwork :=
  match self.outbox.pending.get? transferId with
  | none => self
  | some record => if ready record = true then self.send record (message record) else self

/-- A reply arrives from the source that wrote it, or from another Node. -/
def Receivable (reply : ReleaseObjectPinReply) : Prop :=
  reply ∈ self.replies ∨ reply.nodeId ≠ self.source.nodeId

instance (reply : ReleaseObjectPinReply) : Decidable (self.Receivable reply) :=
  inferInstanceAs (Decidable (_ ∨ _))

/-- `_source_pin_release_attempt`. -/
def releaseAttempt (transferId : TransferID) (reply : Option ReleaseObjectPinReply) : Bool :=
  (self.outbox.pending.get? transferId).any fun record =>
    record.sourceDeath ≠ none ∨
      reply.any fun reply => self.Receivable reply ∧ record.Acknowledges reply

/-- The last section of `_query_transfer_node_death`. -/
def learnDeath (death : NodeDeathRecord) : TransferNetwork :=
  if (self.transferNodeDeaths.get? death.nodeId).any fun prior => prior ≠ death then self
  else { self with
    transferNodeDeaths := self.transferNodeDeaths.setDefault death.nodeId death
    outbox := self.outbox.markSourceDead death }

/-! ## Source -/

def closeRequest (transferId : TransferID) (session : PinnedTransfer) : ReleaseObjectPin :=
  ⟨transferId, session.descriptor.objectId, session.requesterNodeId⟩

/-- The session is unreleased and the source may close it itself. -/
def ownClose (transferId : TransferID) (allowed : PinnedTransfer → Bool) :
    Option TransferMessage :=
  (self.source.pinnedTransfers.get? transferId).bind fun session =>
    if session.released = false ∧ allowed session = true then
      some (.release (closeRequest transferId session))
    else none

def handled : TransferAction → Option TransferMessage
  | .deliver message => if (self.source.nodeId, message) ∈ self.sent then some message else none
  | .foreign message =>
    if message.requesterNodeId ≠ self.requester then some message else none
  | .retryClosing =>
    (self.source.closedTransferPins.values.find? fun closed => closed.closed = false).map
      fun closed => .release closed.request
  | .releaseDead transferId => self.ownClose transferId fun session =>
    (self.source.transferNodeDeaths.get? session.requesterNodeId).isSome
  | .releaseStopping transferId => self.ownClose transferId fun _ =>
    self.source.shutdownRequestId ≠ none ∨ self.source.stopping = true
  | _ => none

def handle : TransferMessage → TransferNetwork
  | .pin request => { self with source := (self.source.pinObject request).2 }
  | .chunk _ => self
  | .release request => { self with
      source := (self.source.releaseObjectPin request).2
      replies := (self.source.releaseObjectPin request).1 :: self.replies }

/-- A section of the source Node that handles no message. -/
def elsewhere (source : TransferSource) : TransferAction → TransferSource
  | .learnRequesterDeath death =>
    { source with
      transferNodeDeaths := source.transferNodeDeaths.setDefault death.nodeId death }
  | .shutdown requestId => { source with shutdownRequestId := some requestId }
  | .stop => { source with stopping := true }
  | .useStore op =>
    if op.IsOrdinary then { source with objectStore := source.objectStore.step op } else source
  | .setMetadata objectId metadata =>
    { source with sealedMetadata := source.sealedMetadata.set objectId metadata }
  | .dropMetadata objectId =>
    { source with sealedMetadata := source.sealedMetadata.erase objectId }
  | .setTombstone objectId tombstone =>
    { source with droppedMetadata := source.droppedMetadata.set objectId tombstone }
  | .fenceOwner death =>
    { source with ownerDeathFences := source.ownerDeathFences.set death.workerId death }
  | _ => source

/-- A section of the requester, which leaves the source alone. -/
def request : TransferAction → TransferNetwork
  | .begin_ sourceAddress pin =>
    if pin.requesterNodeId ≠ self.requester ∨
        (self.transferNodeDeaths.get? pin.descriptor.nodeId).isSome = true then self
    else match self.outbox.begin_ sourceAddress pin with
      | .error _ => self
      | .ok (_, outbox) => self.withOutbox outbox
  | .sendPin transferId =>
    self.onObligation transferId (fun record => record.active) fun record => .pin record.pin
  | .sendChunk transferId offset sizeBytes size_pos =>
    self.onObligation transferId (fun record => record.active) fun record =>
      .chunk ⟨transferId, record.pin.descriptor.objectId, self.requester, offset, sizeBytes,
        size_pos⟩
  | .finishRead transferId now => match self.outbox.closeAndAcquire transferId now with
    | .error _ => self
    | .ok (_, outbox) => self.withOutbox outbox
  | .acquire now transferId force => self.withOutbox (self.outbox.acquire now transferId force).2
  | .sendRelease transferId =>
    self.onObligation transferId (fun record => record.inFlight && record.sourceDeath.isNone)
      fun record => .release record.release
  | .settle transferId ticket reply now =>
    match self.outbox.settle transferId ticket (self.releaseAttempt transferId reply) now with
    | .error _ => self
    | .ok (_, outbox) => self.withOutbox outbox
  | .learnSourceDeath death => self.learnDeath death
  | _ => self

def step (action : TransferAction) : TransferNetwork :=
  match self.handled action with
  | some message => self.handle message
  | none => { self.request action with source := elsewhere self.source action }

/-- The transfers whose pin a step takes out of the store. -/
def unpins (action : TransferAction) : List TransferID :=
  match self.handled action with
  | some (.release request) =>
    if (self.source.releaseObjectPin request).1.released then [request.transferId] else []
  | _ => []

end TransferNetwork

end MiniRay
