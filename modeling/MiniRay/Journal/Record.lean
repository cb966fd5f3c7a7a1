import MiniRay.EnhancedPublication.Authority

/-! What one Node remembers of one publication: the effects it intended, their typed
acknowledgements, and how the publication ended. -/

namespace MiniRay

open Checked

/-! ## Effects -/

inductive OutputPublicationStage
  | ownerRegister
  | prepare
  | materialize
  | promote
  | slotDrop
  | finalRelease
  | provisionalRelease
  deriving DecidableEq

/-- Which operation; indices address the frozen manifest, not IDs. -/
inductive OperationKey
  | ownerRegister
  | prepare (slotIndex transferIndex : Nat)
  | materialize (slotIndex : Nat)
  | promote (slotIndex transferIndex : Nat)
  | slotDrop (slotIndex : Nat)
  | finalRelease (slotIndex transferIndex : Nat)
  | provisionalRelease (slotIndex transferIndex : Nat)
  deriving DecidableEq

namespace OperationKey

def stage : OperationKey → OutputPublicationStage
  | .ownerRegister => .ownerRegister
  | .prepare _ _ => .prepare
  | .materialize _ => .materialize
  | .promote _ _ => .promote
  | .slotDrop _ => .slotDrop
  | .finalRelease _ _ => .finalRelease
  | .provisionalRelease _ _ => .provisionalRelease

def slotIndex : OperationKey → Option Nat
  | .ownerRegister => none
  | .prepare s _ | .materialize s | .promote s _ | .slotDrop s | .finalRelease s _
  | .provisionalRelease s _ => some s

def transferIndex : OperationKey → Option Nat
  | .prepare _ t | .promote _ t | .finalRelease _ t | .provisionalRelease _ t => some t
  | _ => none

/-- What undoes a forward effect. The owner registration is not compensated here. -/
def inverse : OperationKey → Option OperationKey
  | .prepare s t => some (.provisionalRelease s t)
  | .materialize s => some (.slotDrop s)
  | .promote s t => some (.finalRelease s t)
  | _ => none

end OperationKey

namespace OutputPublicationStage

def isRollback : OutputPublicationStage → Bool
  | .slotDrop | .finalRelease | .provisionalRelease => true
  | _ => false

/-- The compensations that settle a child hold. -/
def isRelease : OutputPublicationStage → Bool
  | .finalRelease | .provisionalRelease => true
  | _ => false

end OutputPublicationStage

/-- An operation key; its indices are checked when the effect is addressed to a record. -/
@[ext] structure OutputPublicationEffect where
  publicationId : OutputPublicationID
  manifestDigest : String
  key : OperationKey
  digest_hex : Sha256.IsLowerHexDigest manifestDigest

instance : DecidableEq OutputPublicationEffect := byFields OutputPublicationEffect.ext_iff

def OutputPublicationEffect.stage (e : OutputPublicationEffect) : OutputPublicationStage :=
  e.key.stage

inductive OutputPublicationAckDisposition
  | applied
  | alreadyApplied
  deriving DecidableEq

/-- Metadata acknowledgement after an adapter has validated the operation's reply. -/
structure OutputPublicationAck where
  effect : OutputPublicationEffect
  disposition : OutputPublicationAckDisposition
  deriving DecidableEq

/-! ## Rollback and retirement values -/

@[ext] structure OutputPublicationRollbackPlan where
  publicationId : OutputPublicationID
  manifestDigest : String
  rollbackId : String
  effects : List OutputPublicationEffect
  rollback_ne : rollbackId ≠ ""
  own_effects : ∀ e ∈ effects, e.publicationId = publicationId ∧
    e.manifestDigest = manifestDigest ∧ e.stage.isRollback = true
  once : effects.Nodup

instance : DecidableEq OutputPublicationRollbackPlan :=
  byFields OutputPublicationRollbackPlan.ext_iff

structure OutputPublicationRollbackTombstone where
  plan : OutputPublicationRollbackPlan
  acknowledgements : List OutputPublicationAck
  ordered : acknowledgements.map OutputPublicationAck.effect = plan.effects

/-- One exact post-Complete payload cleanup, never a physical replica deletion. -/
@[ext] structure OutputPublicationSlotCleanupProof where
  complete : OutputPublicationCompleteWitness
  ownerWorkerId : WorkerID
  slotIndex : Nat
  objectId : ObjectID
  cleanupId : String
  own_slot : complete.publicationId.outputIds[slotIndex]? = some objectId
  cleanup_ne : cleanupId ≠ ""

instance : DecidableEq OutputPublicationSlotCleanupProof :=
  byFields OutputPublicationSlotCleanupProof.ext_iff

inductive OutputPublicationRetirementProof
  | adoption (proof : OutputPublicationAdoptionProof)
  | slotCleanup (proof : OutputPublicationSlotCleanupProof)
  deriving DecidableEq

namespace OutputPublicationRetirementProof

def complete : OutputPublicationRetirementProof → OutputPublicationCompleteWitness
  | .adoption proof => proof.complete
  | .slotCleanup proof => proof.complete

def ownerWorkerId : OutputPublicationRetirementProof → WorkerID
  | .adoption proof => proof.ownerWorkerId
  | .slotCleanup proof => proof.ownerWorkerId

def adoption? : OutputPublicationRetirementProof → Option OutputPublicationAdoptionProof
  | .adoption proof => some proof
  | .slotCleanup _ => none

def NamesSlot (proof : OutputPublicationRetirementProof) (publicationId : OutputPublicationID)
    (manifestDigest : String) (slotIndex : Nat) (objectId : ObjectID) : Prop :=
  proof.complete.publicationId = publicationId ∧ proof.complete.manifestDigest = manifestDigest ∧
    publicationId.outputIds[slotIndex]? = some objectId ∧
    match proof with
    | .adoption _ => True
    | .slotCleanup cleanup => cleanup.slotIndex = slotIndex ∧ cleanup.objectId = objectId

instance (proof : OutputPublicationRetirementProof) (publicationId : OutputPublicationID)
    (manifestDigest : String) (slotIndex : Nat) (objectId : ObjectID) :
    Decidable (proof.NamesSlot publicationId manifestDigest slotIndex objectId) := by
  unfold NamesSlot
  cases proof <;> infer_instance

end OutputPublicationRetirementProof

structure OutputPublicationSlotTombstone where
  publicationId : OutputPublicationID
  manifestDigest : String
  slotIndex : Nat
  objectId : ObjectID
  proof : OutputPublicationRetirementProof
  names : proof.NamesSlot publicationId manifestDigest slotIndex objectId
  deriving DecidableEq

/-- How a child hold was settled: its owner released it, or is dead. -/
inductive CleanupReply
  | release (reply : ReleaseContainedReferenceReply)
  | workerState (reply : GetWorkerStateReply)

/-! ## Errors -/

inductive JournalError
  | conflict (message : String)
  | journalState (message : String)
  | unknownPublication
  | payloadRetired (publicationId : OutputPublicationID)
      (tombstones : List OutputPublicationSlotTombstone)
  | valueError (message : String)
  | typeError (message : String)
  | keyError
  | publication (failure : Failure)

/-! ## Records -/

inductive OutputPublicationJournalState
  | active
  | rollingBack
  | completed
  | retired
  deriving DecidableEq

/-- `_Record`: the intents are a set, every other table is keyed as in the source. -/
structure JournalRecord where
  manifest : OutputPublicationManifest
  state : OutputPublicationJournalState
  intents : List OutputPublicationEffect
  acknowledgements : Dict OutputPublicationEffect OutputPublicationAck
  results : Dict Nat ResultDescriptor
  complete : Option OutputPublicationCompleteWitness
  rollback : Option OutputPublicationRollbackPlan
  rollbackTombstone : Option OutputPublicationRollbackTombstone
  retiredSlots : Dict Nat OutputPublicationSlotTombstone
  adoptionProof : Option OutputPublicationAdoptionProof
  ownerDeath : Option WorkerDeathRecord
  publicationReceipts : Dict PublicationStage PublicationReceipt
  childReplies : Dict OutputPublicationEffect StoredContainedPinReply
  cleanupReplies : Dict OutputPublicationEffect CleanupReply

def OutputPublicationCompleteWitness.forManifest (manifest : OutputPublicationManifest) :
    OutputPublicationCompleteWitness :=
  ⟨manifest.publicationId, manifest.manifestDigest, manifest.digest_hex⟩

def OutputPublicationManifest.reference (manifest : OutputPublicationManifest) : PublicationRef :=
  ⟨.output manifest.publicationId, manifest.manifestDigest, manifest.digest_hex⟩

def OutputPublicationManifest.transfer? (manifest : OutputPublicationManifest)
    (slotIndex transferIndex : Nat) : Option PreparedContainedTransfer :=
  manifest.slots[slotIndex]?.bind (·.transfers[transferIndex]?)

def OutputPublicationManifest.effect (manifest : OutputPublicationManifest) (key : OperationKey) :
    OutputPublicationEffect :=
  ⟨manifest.publicationId, manifest.manifestDigest, key, manifest.digest_hex⟩

def OutputPublicationManifest.transferIndices (manifest : OutputPublicationManifest) :
    List (Nat × Nat) :=
  manifest.slots.zipIdx.flatMap fun (slot, slotIndex) =>
    (List.range slot.transfers.length).map (slotIndex, ·)

namespace JournalRecord

def opened (manifest : OutputPublicationManifest) : JournalRecord :=
  ⟨manifest, .active, [], .empty, .empty, none, none, none, .empty, none, none, .empty, .empty,
    .empty⟩

def requireActive (r : JournalRecord) : Except JournalError Unit :=
  raiseIf (r.state ≠ .active) (.journalState "forward work requires an ACTIVE publication")

abbrev transferIndices (r : JournalRecord) : List (Nat × Nat) := r.manifest.transferIndices

abbrev effect (r : JournalRecord) (key : OperationKey) : OutputPublicationEffect :=
  r.manifest.effect key

/-- The bounds of an effect, as its constructor and `_effect` check them. -/
def checkKey (r : JournalRecord) (key : OperationKey) : Except JournalError Unit := do
  checkSome (fun slotIndex => do
    raiseIf (¬ Uint64 slotIndex) (.valueError "slot_index must be a non-negative uint64")
    raiseIf (r.manifest.publicationId.outputIds.length ≤ slotIndex)
      (.conflict "slot_index is outside the selected execution")) key.slotIndex
  checkSome (fun transferIndex =>
    raiseIf (¬ Uint64 transferIndex) (.valueError "transfer_index must be a non-negative uint64"))
    key.transferIndex
  checkSome (fun slotIndex => do
    raiseIf (r.manifest.slots.length ≤ slotIndex)
      (.conflict "slot_index is outside the selected manifest")
    checkSome (fun transferIndex =>
      raiseIf (r.manifest.transfer? slotIndex transferIndex = none)
        (.conflict "transfer_index is outside its slot")) key.transferIndex) key.slotIndex

def requireEffect (r : JournalRecord) (e : OutputPublicationEffect) : Except JournalError Unit := do
  r.checkKey e.key
  raiseIf (e ≠ r.effect e.key) (.conflict "effect changed the exact publication manifest")

def acked (r : JournalRecord) (key : OperationKey) : Bool :=
  (r.acknowledgements.get? (r.effect key)).isSome

def intended (r : JournalRecord) (key : OperationKey) : Bool := r.effect key ∈ r.intents

/-- The source subscripts its tables; a missing key raises. -/
def subscript {κ ν : Type} [DecidableEq κ] (d : Dict κ ν) (k : κ) : Except JournalError ν :=
  match d.get? k with
  | none => .error .keyError
  | some v => .ok v

/-! ## Readiness -/

def allPrepared (r : JournalRecord) : Bool :=
  r.transferIndices.all fun (s, t) => r.acked (.prepare s t)

def allMaterialized (r : JournalRecord) : Bool :=
  (List.range r.manifest.slots.length).all fun s => r.acked (.materialize s)

def allPromoted (r : JournalRecord) : Bool :=
  r.transferIndices.all fun (s, t) => r.acked (.promote s t)

def requireAllPrepared (r : JournalRecord) : Except JournalError Unit := do
  raiseIf (r.acked .ownerRegister = false)
    (.journalState "child/data effects require the exact owner registration ACK")
  raiseIf (r.allPrepared = false)
    (.journalState "materialization requires every provisional prepare ACK")

def preparationReady (r : JournalRecord) : Bool :=
  r.acked .ownerRegister && r.allMaterialized && r.allPromoted

def readyToComplete (r : JournalRecord) : Bool :=
  r.preparationReady && (r.publicationReceipts.get? .armed).isSome

def requireStageReady (r : JournalRecord) (stage : OutputPublicationStage) :
    Except JournalError Unit :=
  if stage = .ownerRegister then pure ()
  else do
    raiseIf (r.acked .ownerRegister = false)
      (.journalState "operation requires the exact owner registration ACK")
    raiseIf (r.publicationReceipts.get? .prepared = none)
      (.journalState "child/data effects require the GCS graph reservation")
    if stage = .prepare then pure ()
    else do
      r.requireAllPrepared
      if stage = .materialize then pure ()
      else do
        raiseIf (r.allMaterialized = false)
          (.journalState "promotion requires every materialization ACK")

/-! ## Reply validation -/

/-- The reply answers this transfer's pin request; its authority is the child owner. -/
def Answers (reply : StoredContainedPinReply) (isPrepare : Bool)
    (transfer : PreparedContainedTransfer) : Prop :=
  reply.request.isPrepare = isPrepare ∧ reply.request.pin.transfer = transfer

instance (reply : StoredContainedPinReply) (isPrepare : Bool)
    (transfer : PreparedContainedTransfer) : Decidable (Answers reply isPrepare transfer) :=
  inferInstanceAs (Decidable (_ ∧ _))

def transferAt (r : JournalRecord) (slotIndex transferIndex : Nat) :
    Except JournalError PreparedContainedTransfer :=
  match r.manifest.transfer? slotIndex transferIndex with
  | none => .error .keyError
  | some transfer => .ok transfer

def validateChildReply (r : JournalRecord) (isPrepare : Bool) (slotIndex transferIndex : Nat)
    (reply : StoredContainedPinReply) : Except JournalError Unit := do
  let transfer ← r.transferAt slotIndex transferIndex
  raiseIf (¬ Answers reply isPrepare transfer ∨ reply.accepted = false)
    (.conflict "child ACK does not match the journal effect")

/-- The bounds `owner_death` checks when a record crosses an effect boundary. -/
def checkOwnerDeath (death : WorkerDeathRecord) : Except JournalError Unit := do
  raiseIf (¬ Uint64 death.incarnation.nodePid)
    (.valueError "owner node_pid must be a positive uint64")
  raiseIf (¬ Uint64 death.incarnation.nodeRegistrationEpoch)
    (.valueError "owner node epoch must be a positive uint64")
  raiseIf (¬ Uint64 death.incarnation.workerPid)
    (.valueError "owner worker_pid must be a positive uint64")
  raiseIf (¬ Uint64 death.deathEpoch) (.valueError "owner death_epoch must be a positive uint64")

theorem checkOwnerDeath_eq_ok {death : WorkerDeathRecord} {u : Unit} :
    checkOwnerDeath death = .ok u ↔ death.OwnerDeath := by
  simp [checkOwnerDeath, WorkerDeathRecord.OwnerDeath]

/-- An absent death record is not one. -/
def ownerDeathOf : Option WorkerDeathRecord → Except JournalError WorkerDeathRecord
  | none => .error (.typeError "owner death must be a WorkerDeathRecord")
  | some death => do
      checkOwnerDeath death
      return death

/-- The hold that a release effect gives back. -/
def releasedHold (key : OperationKey) (transfer : PreparedContainedTransfer) :
    ContainedReferenceHold :=
  if key.stage = .finalRelease then transfer.finalHold else transfer.provisionalHold

def validateCleanupReply (r : JournalRecord) (key : OperationKey) (slotIndex transferIndex : Nat)
    (reply : Option CleanupReply) : Except JournalError CleanupReply := do
  let transfer ← r.transferAt slotIndex transferIndex
  match reply with
  | some (.workerState reply) => do
      let death ← ownerDeathOf reply.death
      raiseIf (reply.workerId ≠ transfer.containedOwnerWorkerId ∨ death.workerId ≠ reply.workerId ∨
          reply.state ≠ some .dead)
        (.conflict "cleanup death does not match the child owner")
      return .workerState reply
  | some (.release reply) => do
      raiseIf ((reply.objectId, reply.ownerWorkerId, reply.hold) ≠
            (transfer.containedObjectId, transfer.containedOwnerWorkerId,
              releasedHold key transfer) ∨ reply.accepted = false)
        (.conflict "cleanup ACK does not match the journal effect")
      return .release reply
  | none => throw (.typeError "child cleanup requires the actual release or death reply")

end JournalRecord

end MiniRay
