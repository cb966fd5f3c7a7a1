import MiniRay.Journal.Record
import MiniRay.Ownership.PutValues

/-! From the first intent to Complete, on one record: every effect is intended first and
acknowledged afterwards, in stages. -/

namespace MiniRay

open Checked

namespace JournalRecord

def validateDescriptor (r : JournalRecord) (slotIndex : Nat) (descriptor : ResultDescriptor) :
    Except JournalError ResultDescriptor := do
  let descriptor ← (checkedDescriptor descriptor).mapError fun e => .valueError e.message
  match r.manifest.slots[slotIndex]? with
  | none => throw .keyError
  | some slot => do
      raiseIf (descriptor.objectId ≠ slot.objectId ∨
          ¬ DescribesSlot r.manifest.header slot descriptor)
        (.conflict "materialized descriptor changed its slot identity")
      return descriptor

/-! ## Forward effects -/

def beginEffect (r : JournalRecord) (key : OperationKey) :
    Except JournalError (OutputPublicationEffect × JournalRecord) := do
  r.requireActive
  r.checkKey key
  r.requireStageReady key.stage
  return (r.effect key, { r with intents := r.intents.insert (r.effect key) })

/-- What an acknowledgement carries besides its effect. -/
inductive AckPayload
  | none
  | descriptor (descriptor : ResultDescriptor)
  | childReply (reply : StoredContainedPinReply)

/-- The payload to keep, after it was checked against the effect it acknowledges. -/
def validatePayload (r : JournalRecord) : OperationKey → AckPayload → Except JournalError AckPayload
  | .ownerRegister, .none => .ok .none
  | .materialize slotIndex, .descriptor descriptor =>
    AckPayload.descriptor <$> r.validateDescriptor slotIndex descriptor
  | .prepare slotIndex transferIndex, .childReply reply => do
      r.validateChildReply true slotIndex transferIndex reply
      return .childReply reply
  | .promote slotIndex transferIndex, .childReply reply => do
      r.validateChildReply false slotIndex transferIndex reply
      return .childReply reply
  | _, _ => .error (.typeError "child ACK requires its concrete received reply")

/-- A replayed acknowledgement must bring the same materialized result. -/
def checkReplay (r : JournalRecord) : OperationKey → AckPayload → Except JournalError Unit
  | .materialize slotIndex, .descriptor descriptor => do
      let previous ← subscript r.results slotIndex
      raiseIf (previous ≠ descriptor) (.conflict "materialized result changed on replay")
  | _, _ => .ok ()

def keepPayload (r : JournalRecord) (e : OutputPublicationEffect) : AckPayload → JournalRecord
  | .none => r
  | .descriptor descriptor =>
    match e.key with
    | .materialize slotIndex => { r with results := r.results.set slotIndex descriptor }
    | _ => r
  | .childReply reply => { r with childReplies := r.childReplies.set e reply }

def ackForward (r : JournalRecord) (ack : OutputPublicationAck) (payload : AckPayload) :
    Except JournalError (Bool × JournalRecord) := do
  r.requireActive
  r.requireEffect ack.effect
  raiseIf (ack.effect ∉ r.intents) (.journalState "ACK arrived before its intent")
  r.requireStageReady ack.effect.stage
  let payload ← r.validatePayload ack.effect.key payload
  if (r.acknowledgements.get? ack.effect).isSome then do
    r.checkReplay ack.effect.key payload
    return (false, r)
  else
    return (true, { r.keepPayload ack.effect payload with
      acknowledgements := r.acknowledgements.set ack.effect ack })

/-! ## Receipts -/

def childRepliesOf (r : JournalRecord) (key : Nat → Nat → OperationKey) :
    Except JournalError (List StoredContainedPinReply) :=
  r.transferIndices.mapM fun (s, t) => subscript r.childReplies (r.effect (key s t))

/-- Accepted replies of one kind, each about another request. -/
def checkReplies (isPrepare : Bool) (replies : List StoredContainedPinReply) (label : String) :
    Except JournalError (PLift ((∀ reply ∈ replies, reply.accepted = true ∧
      reply.request.isPrepare = isPrepare) ∧
        (replies.map StoredContainedPinReply.request).Nodup)) := do
  let ⟨haccepted⟩ ← certify
    (∀ reply ∈ replies, reply.accepted = true ∧ reply.request.isPrepare = isPrepare)
    (.valueError "preparation requires accepted exact child replies")
  let ⟨honce⟩ ← certify ((replies.map StoredContainedPinReply.request).Nodup)
    (.valueError (label ++ " must not contain duplicates"))
  return ⟨haccepted, honce⟩

theorem isOutput (r : JournalRecord) : r.manifest.reference.key.isOutput = true := rfl

/-- Attest only to actual owner, child and materialization acknowledgements. -/
def preparationReceipt (r : JournalRecord) : Except JournalError TaskPreparedReceipt := do
  r.requireActive
  raiseIf (r.preparationReady = false)
    (.journalState "preparation receipt requires every actual effect ACK")
  let prepares ← r.childRepliesOf .prepare
  let promotes ← r.childRepliesOf .promote
  let ⟨hprepares⟩ ← checkReplies true prepares "prepare_replies"
  let ⟨hpromotes⟩ ← checkReplies false promotes "promote_replies"
  return {
    reference := r.manifest.reference
    prepareReplies := prepares
    promoteReplies := promotes
    materialization := ⟨r.manifest.reference, some r.manifest.header.nodeIncarnation⟩
    prepared_accepted := hprepares.1
    promoted_accepted := hpromotes.1
    prepared_once := hprepares.2
    promoted_once := hpromotes.2
    materialization_reference := rfl
    task_key := r.isOutput
    names_node := nofun }

/-- What a receipt needs before it may carry the publication forward. -/
def checkForward (r : JournalRecord) (snapshot : PublicationSnapshot) (stage : PublicationStage) :
    Except JournalError Unit := do
  r.requireActive
  raiseIf (snapshot.forwardOpen = false)
    (.journalState "historical GCS receipt is not forward permission")
  raiseIf (stage = .intent ∧ r.acked .ownerRegister = false)
    (.journalState "GCS INTENT follows actual owner registration")
  raiseIf (stage = .prepared ∧ r.publicationReceipts.get? .intent = none)
    (.journalState "graph reservation follows exact INTENT receipt")
  if stage = .armed then do
    let receipt ← r.preparationReceipt
    raiseIf (snapshot.prepared ≠ some (.task receipt))
      (.conflict "ARM changed the actual journal preparation")
  else pure ()

/-- Retain an exact server receipt, without another phase authority. -/
def recordPublicationReply (r : JournalRecord) (request : PublicationRequest)
    (reply : PublicationReply) (stage : PublicationStage) (forward : Bool) :
    Except JournalError (PublicationReceipt × JournalRecord) :=
  match reply.receipt, reply.snapshot with
  | some receipt, some snapshot => do
      raiseIf (reply.request ≠ request ∨ reply.accepted = false ∨
          receipt.reference ≠ r.manifest.reference ∨ receipt.stage ≠ stage ∨
          snapshot.reference ≠ r.manifest.reference)
        (.conflict "GCS did not acknowledge the exact publication stage")
      (if forward then r.checkForward snapshot stage else pure ())
      checkSome (fun previous => raiseIf (previous ≠ receipt)
        (.conflict "GCS stage receipt changed on replay")) (r.publicationReceipts.get? stage)
      return (receipt, { r with publicationReceipts := r.publicationReceipts.set stage receipt })
  | _, _ => .error (.conflict "GCS did not acknowledge the exact publication stage")

/-! ## Complete -/

def createEnvelope (manifest : OutputPublicationManifest)
    (complete : OutputPublicationCompleteWitness) (results : List ResultDescriptor) :
    Except JournalError OutputPublicationEnvelope := do
  let ⟨hcomplete⟩ ← certify (complete.publicationId = manifest.publicationId ∧
      complete.manifestDigest = manifest.manifestDigest)
    (.conflict "Complete witness must match the exact publication manifest")
  let ⟨hids⟩ ← certify
    (results.map ResultDescriptor.objectId = manifest.publicationId.outputIds)
    (.conflict "results must exactly match the single execution output")
  let ⟨hdescribed⟩ ← certify
    (∀ pair ∈ manifest.slots.zip results, DescribesSlot manifest.header pair.1 pair.2)
    (.conflict "result descriptor does not match its slot, owner, and publishing Node")
  return ⟨manifest, complete, results, hcomplete, hids, hdescribed⟩

/-- Cross the local boundary after owner registration and all result handoffs. -/
def completeWith (r : JournalRecord) (witness : OutputPublicationCompleteWitness) :
    Except JournalError (OutputPublicationEnvelope × JournalRecord) := do
  raiseIf (witness ≠ .forManifest r.manifest)
    (.conflict "Complete witness changed publication identity")
  (if r.complete = none then do
    r.requireActive
    raiseIf (r.readyToComplete = false) (.journalState
      "Complete requires owner registration, materialization, and child promotion ACKs")
  else pure ())
  raiseIf (r.retiredSlots.items ≠ [])
    (.payloadRetired r.manifest.publicationId
      ((List.range r.manifest.slots.length).filterMap r.retiredSlots.get?))
  raiseIf (r.results.items.length ≠ r.manifest.slots.length)
    (.journalState "Complete requires all local results")
  let results ← (List.range r.manifest.slots.length).mapM (subscript r.results)
  let envelope ← createEnvelope r.manifest witness results
  return (envelope, { r with complete := some witness, state := .completed })

end JournalRecord

end MiniRay
