import MiniRay.OutputPublication
import MiniRay.PutHandoff

/-! The immutable identities, receipts and proofs that requests carry. A value built by these
structures has passed the checks of its constructor. -/

namespace MiniRay

/-! ## Identities -/

@[ext] structure PutPublicationID where
  jobId : JobID
  ownerWorkerId : WorkerID
  objectId : ObjectID
  index_zero : objectId.returnIndex = 0

instance : DecidableEq PutPublicationID := byFields PutPublicationID.ext_iff

def PutPublicationID.attemptId (p : PutPublicationID) : AttemptID := ⟨p.objectId.taskId, 0⟩

inductive PublicationKey
  | output (id : OutputPublicationID)
  | put (id : PutPublicationID)
  deriving DecidableEq

def PublicationKey.attemptId : PublicationKey → AttemptID
  | .output id => id.attemptId
  | .put id => id.attemptId

def PublicationKey.isOutput : PublicationKey → Bool
  | .output _ => true
  | .put _ => false

@[ext] structure PublicationRef where
  key : PublicationKey
  digest : String
  digest_hex : Sha256.IsLowerHexDigest digest

instance : DecidableEq PublicationRef := byFields PublicationRef.ext_iff

structure TaskPublication where
  manifest : OutputPublicationManifest
  ownerAddress : Address
  deriving DecidableEq

def TaskPublication.reference (p : TaskPublication) : PublicationRef :=
  ⟨.output p.manifest.publicationId, p.manifest.manifestDigest, p.manifest.digest_hex⟩

structure PutPublication where
  jobId : JobID
  ownerAddress : Address
  manifest : PutManifest
  deriving DecidableEq

/-- The framed parts of a put reference, in hashing order. -/
def PutPublication.parts (p : PutPublication) : List (List UInt8) :=
  [p.jobId.value.bytes, p.manifest.ownerWorkerId.value.bytes,
    p.manifest.objectId.taskId.value.bytes, utf8 (toString p.manifest.objectId.returnIndex),
    utf8 p.ownerAddress.host, utf8 (toString p.ownerAddress.port), utf8 p.manifest.tier.value,
    utf8 (toString p.manifest.sizeBytes), utf8 p.manifest.checksum] ++
    p.manifest.transfers.map preparedContainedTransferFingerprint

def PutPublication.reference (p : PutPublication) : PublicationRef :=
  ⟨.put ⟨p.jobId, p.manifest.ownerWorkerId, p.manifest.objectId, p.manifest.index_zero⟩,
    Sha256.hexdigest (utf8 "miniray-enhanced-put-v1" ++ [0] ++ p.parts.flatMap framed),
    Sha256.isLowerHexDigest_hexdigest _⟩

inductive Publication
  | task (publication : TaskPublication)
  | put (publication : PutPublication)
  deriving DecidableEq

namespace Publication

def reference : Publication → PublicationRef
  | .task p => p.reference
  | .put p => p.reference

def objectId : Publication → ObjectID
  | .task p => p.manifest.slot.objectId
  | .put p => p.manifest.objectId

def ownerWorkerId : Publication → WorkerID
  | .task p => p.manifest.header.ownerWorkerId
  | .put p => p.manifest.ownerWorkerId

def jobId : Publication → JobID
  | .task p => p.manifest.header.jobId
  | .put p => p.jobId

def ownerAddress : Publication → Address
  | .task p => p.ownerAddress
  | .put p => p.ownerAddress

def transfers : Publication → List PreparedContainedTransfer
  | .task p => p.manifest.slot.transfers
  | .put p => p.manifest.transfers

def isTask : Publication → Bool
  | .task _ => true
  | .put _ => false

end Publication

/-! ## Preparation -/

/-- A request to the child owner, which must be its authority. -/
structure StoredContainedPin where
  transfer : PreparedContainedTransfer
  authorityWorkerId : WorkerID
  framable : transfer.Framable
  authority : transfer.containedOwnerWorkerId = authorityWorkerId
  deriving DecidableEq

inductive StoredContainedPinRequest
  | prepareStoredContainedPin (pin : StoredContainedPin)
  | promoteStoredContainedPin (pin : StoredContainedPin)
  deriving DecidableEq

def StoredContainedPinRequest.isPrepare : StoredContainedPinRequest → Bool
  | .prepareStoredContainedPin _ => true
  | .promoteStoredContainedPin _ => false

def StoredContainedPinRequest.pin : StoredContainedPinRequest → StoredContainedPin
  | .prepareStoredContainedPin pin => pin
  | .promoteStoredContainedPin pin => pin

def StoredContainedReferenceDisposition.isPrepare : StoredContainedReferenceDisposition → Bool
  | .prepared | .alreadyPrepared => true
  | .promoted | .alreadyPromoted => false

inductive StoredPublicationRPCErrorKind
  | conflict
  | invalidState
  | cycle
  | invalidRequest
  | unavailable
  | internal
  deriving DecidableEq

structure StoredContainedPinReply where
  request : StoredContainedPinRequest
  disposition : Option StoredContainedReferenceDisposition
  errorKind : Option StoredPublicationRPCErrorKind
  error : Option String
  succeeded : disposition ≠ none → errorKind = none ∧ error = none
  failed : disposition = none → errorKind ≠ none ∧ error ≠ none ∧ error ≠ some ""
  allowed : ∀ d, disposition = some d → d.isPrepare = request.isPrepare
  deriving DecidableEq

def StoredContainedPinReply.accepted (reply : StoredContainedPinReply) : Bool :=
  reply.disposition.isSome

structure MaterializationReceipt where
  reference : PublicationRef
  nodeIncarnation : Option PublicationNodeIncarnation
  deriving DecidableEq

/-- The fields task and put preparations share. -/
structure PreparedFields where
  reference : PublicationRef
  prepareReplies : List StoredContainedPinReply
  promoteReplies : List StoredContainedPinReply
  materialization : MaterializationReceipt
  prepared_accepted : ∀ r ∈ prepareReplies, r.accepted = true ∧ r.request.isPrepare = true
  promoted_accepted : ∀ r ∈ promoteReplies, r.accepted = true ∧ r.request.isPrepare = false
  prepared_once : (prepareReplies.map StoredContainedPinReply.request).Nodup
  promoted_once : (promoteReplies.map StoredContainedPinReply.request).Nodup
  materialization_reference : materialization.reference = reference
  deriving DecidableEq

structure TaskPreparedReceipt extends PreparedFields where
  task_key : reference.key.isOutput = true
  names_node : materialization.nodeIncarnation ≠ none
  deriving DecidableEq

structure PutPreparedReceipt extends PreparedFields where
  sealReply : Option SealObjectReply
  put_key : reference.key.isOutput = false
  sealed_reply : ∀ reply, sealReply = some reply → reply.isSealed = true
  deriving DecidableEq

inductive PreparedReceipt
  | task (receipt : TaskPreparedReceipt)
  | put (receipt : PutPreparedReceipt)
  deriving DecidableEq

def PreparedReceipt.fields : PreparedReceipt → PreparedFields
  | .task r => r.toPreparedFields
  | .put r => r.toPreparedFields

def PreparedReceipt.isTask : PreparedReceipt → Bool
  | .task _ => true
  | .put _ => false

/-! ## Fences -/

@[ext] structure OwnerAbortReceipt where
  reference : PublicationRef
  ownerWorkerId : WorkerID
  abortId : String
  abort_ne : abortId ≠ ""

instance : DecidableEq OwnerAbortReceipt := byFields OwnerAbortReceipt.ext_iff

inductive RetirementReason
  | gc
  | reconstruction
  | payloadLost
  deriving DecidableEq

@[ext] structure OwnerRetirementReceipt where
  reference : PublicationRef
  ownerWorkerId : WorkerID
  retirementId : String
  reason : RetirementReason
  retirement_ne : retirementId ≠ ""

instance : DecidableEq OwnerRetirementReceipt := byFields OwnerRetirementReceipt.ext_iff

inductive FenceProof
  | abort (receipt : OwnerAbortReceipt)
  | retirement (receipt : OwnerRetirementReceipt)
  | death (record : WorkerDeathRecord)
  deriving DecidableEq

def FenceProof.isAbort : FenceProof → Bool
  | .abort _ => true
  | _ => false

/-! ## Retirement -/

@[ext] structure TaskRollbackScope where
  reference : PublicationRef
  rollbackId : String
  prepareIntents : List Nat
  promoteIntents : List Nat
  materializationStarted : Bool
  task_key : reference.key.isOutput = true
  rollback_ne : rollbackId ≠ ""
  sorted_prepares : prepareIntents.Pairwise (· < ·)
  sorted_promotes : promoteIntents.Pairwise (· < ·)
  promotes_prepared : promoteIntents ⊆ prepareIntents

instance : DecidableEq TaskRollbackScope := byFields TaskRollbackScope.ext_iff

structure ClosedContainedHolds where
  reference : PublicationRef
  releases : List ReleaseContainedReferenceReply
  childDeaths : List WorkerDeathRecord
  rollbackScope : Option TaskRollbackScope
  accepted_releases : ∀ r ∈ releases, r.accepted = true ∧ r.error = none
  released_once : (releases.map fun r => (r.objectId, r.ownerWorkerId, r.hold)).Nodup
  confirmed_deaths : ∀ d ∈ childDeaths, d.OwnerDeath ∧ d.ConfirmedExit
  deaths_once : (childDeaths.map WorkerDeathRecord.workerId).Nodup
  scope_reference : ∀ scope, rollbackScope = some scope → scope.reference = reference
  deriving DecidableEq

/-! ## Receipts -/

inductive PublicationStage
  | intent
  | prepared
  | armed
  | terminal
  | committed
  | adopted
  | fenced
  | retired
  deriving DecidableEq

def PublicationStage.value : PublicationStage → String
  | .intent => "INTENT"
  | .prepared => "PREPARED"
  | .armed => "ARMED"
  | .terminal => "TERMINAL"
  | .committed => "COMMITTED"
  | .adopted => "ADOPTED"
  | .fenced => "FENCED"
  | .retired => "RETIRED"

@[ext] structure PublicationReceipt where
  reference : PublicationRef
  stage : PublicationStage
  sequence : Nat
  positive : 0 < sequence

instance : DecidableEq PublicationReceipt := byFields PublicationReceipt.ext_iff

/-! ## Failures -/

inductive PublicationErrorKind
  | conflict
  | invalidState
  | cycle
  | unavailable
  deriving DecidableEq

/-- What a publication call can raise; only the first kind becomes a rejected reply. -/
inductive Failure
  | publicationError (kind : PublicationErrorKind) (message : String)
  | valueError (message : String)
  | attributeError (message : String)
  deriving DecidableEq

def conflict (message : String) : Failure := .publicationError .conflict message

def state (message : String) : Failure := .publicationError .invalidState message

/-! ## Requests -/

/-- A fence names the exact publication and its owner. -/
def ValidFence (publication : Publication) : FenceProof → Prop
  | .abort r => r.reference = publication.reference ∧ r.ownerWorkerId = publication.ownerWorkerId
  | .retirement r =>
    r.reference = publication.reference ∧ r.ownerWorkerId = publication.ownerWorkerId
  | .death r => r.OwnerDeath ∧ r.ConfirmedExit ∧ r.workerId = publication.ownerWorkerId

instance (publication : Publication) (proof : FenceProof) :
    Decidable (ValidFence publication proof) := by
  cases proof <;> exact inferInstanceAs (Decidable (_ ∧ _))

structure CommitGraph where
  reference : PublicationRef
  putPrepared : Option PutPreparedReceipt
  prepared_reference : ∀ r, putPrepared = some r → r.reference = reference
  deriving DecidableEq

structure FencePublication where
  publication : Publication
  proof : FenceProof
  valid : ValidFence publication proof
  deriving DecidableEq

inductive PublicationRequest
  | beginPublication (publication : Publication)
  | prepareGraph (reference : PublicationRef)
  | armTask (prepared : TaskPreparedReceipt)
  | recordTerminal (complete : OutputPublicationCompleteWitness)
  | commitGraph (request : CommitGraph)
  | recordAdoption (proof : OutputPublicationAdoptionProof)
  | fencePublication (request : FencePublication)
  | retireGraph (closedHolds : ClosedContainedHolds)
  | getPublication (reference : PublicationRef)
  deriving DecidableEq

namespace PublicationRequest

def reference : PublicationRequest → PublicationRef
  | .beginPublication publication => publication.reference
  | .prepareGraph reference => reference
  | .armTask prepared => prepared.reference
  | .recordTerminal complete =>
    ⟨.output complete.publicationId, complete.manifestDigest, complete.digest_hex⟩
  | .commitGraph request => request.reference
  | .recordAdoption proof =>
    ⟨.output proof.complete.publicationId, proof.complete.manifestDigest,
      proof.complete.digest_hex⟩
  | .fencePublication request => request.publication.reference
  | .retireGraph closedHolds => closedHolds.reference
  | .getPublication reference => reference

/-- The stage a mutation records; a query has none. -/
def stage : PublicationRequest → Option PublicationStage
  | .beginPublication _ => some .intent
  | .prepareGraph _ => some .prepared
  | .armTask _ => some .armed
  | .recordTerminal _ => some .terminal
  | .commitGraph _ => some .committed
  | .recordAdoption _ => some .adopted
  | .fencePublication _ => some .fenced
  | .retireGraph _ => some .retired
  | .getPublication _ => none

/-- Begin and Fence carry a complete publication, so they can create its record. -/
def publication : PublicationRequest → Option Publication
  | .beginPublication publication => some publication
  | .fencePublication request => some request.publication
  | _ => none

def admitting : PublicationRequest → Bool
  | .beginPublication _ => true
  | _ => false

theorem reference_of_publication {request : PublicationRequest} {p : Publication}
    (h : request.publication = some p) : request.reference = p.reference := by
  cases request <;> simp_all [publication, reference]

end PublicationRequest

end MiniRay
