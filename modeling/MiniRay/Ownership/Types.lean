import Mathlib.Data.Finset.Option
import MiniRay.Library.Dict
import MiniRay.Library.Intervals
import MiniRay.OutputHandoff

/-! Metadata of logical objects at their single owner. Locations, holds and tokens are sets;
identities that may not be reused stay behind as tombstones. -/

namespace MiniRay

inductive RaisedKind
  | ownership
  | objectAlreadyRegistered
  | unknownObject
  | invalidObjectTransition
  | conflictingObjectResult
  | unknownTransferToken
  | releasedBorrowerToken
  | conflictingBorrowerToken
  | inactiveTaskReferenceHold
  | releasedTaskReferenceHold
  | inactiveBorrowerToken
  | releasedRetainedToken
  | conflictingRetainedToken
  | retainedHoldReplacementConflict
  | retainedHoldReplacementBusy
  | objectCollectionInProgress
  | deadWorkerReference
  | deadWorkerReferenceConflict
  | outputOwnerPublicationConflict
  | outputOwnerPublicationCollectionRequired
  | outputOwnerRetirementConflict
  | outputOwnerRetirementInProgress
  | outputHandoffConflict
  | keyError
  | typeError
  | valueError
  | protocolError
  | assertionError
  deriving DecidableEq

/-- An exception of the owner table: its class and its text. -/
structure Raised where
  kind : RaisedKind
  message : String
  deriving DecidableEq

/-! ## Reference tokens -/

/-- A hashable idempotency token. Core's borrower tokens carry their Worker explicitly. -/
inductive ReferenceToken
  | worker (workerId : WorkerID) (token : String)
  | plain (token : String)
  deriving DecidableEq

def borrowerWorkerId : ReferenceToken → Option WorkerID
  | .worker workerId _ => some workerId
  | .plain _ => none

def BorrowedContainedSource.ownerTableToken (source : BorrowedContainedSource) : ReferenceToken :=
  .worker source.borrowerWorkerId source.borrowerToken

inductive ReferenceKind
  | localRef
  | submitted
  | borrowed
  | retained
  | contained
  | lineage

inductive RetainedHoldReplacementDisposition
  | replaced
  | alreadyReplaced

inductive ObjectState
  | pending
  | readyInline
  | readyStored
  | error
  | lost
  deriving DecidableEq

def ObjectState.value : ObjectState → String
  | .pending => "PENDING"
  | .readyInline => "READY_INLINE"
  | .readyStored => "READY_STORED"
  | .error => "ERROR"
  | .lost => "LOST"

/-! ## Collection plans -/

/-- A collection result and its retained release work. -/
structure ObjectMetadataCollection where
  objectId : ObjectID
  collected : Bool
  containedReleases : List ContainedReferenceEdge
  lineageReleases : List LineageReferenceEdge
  uncollected : collected = false → containedReleases = [] ∧ lineageReleases = []
  own_contained : ∀ e ∈ containedReleases, e.containerObjectId = objectId
  contained_once : containedReleases.Nodup
  own_lineage : ∀ e ∈ lineageReleases, e.producerObjectId = objectId
  lineage_once : lineageReleases.Nodup
  deriving DecidableEq

def ObjectMetadataCollection.notCollected (objectId : ObjectID) : ObjectMetadataCollection :=
  ⟨objectId, false, [], [], fun _ => ⟨rfl, rfl⟩, by simp, by simp, by simp, by simp⟩

/-- Immutable owner claim of the two-phase collector. -/
@[ext] structure ObjectMetadataCollectionPlan where
  objectId : ObjectID
  collectionId : String
  producerAttemptId : Option AttemptID
  locations : List NodeID
  producerTaskSpec : Option TaskSpec
  canonicalSizeBytes : Option Nat
  canonicalChecksum : Option String
  containedReleases : List ContainedReferenceEdge
  lineageReleases : List LineageReferenceEdge
  id_ne : collectionId ≠ ""
  attempt_task : ∀ a, producerAttemptId = some a → a.taskId = objectId.taskId
  locations_once : locations.Nodup
  locations_sorted : locations.Pairwise (· ≤ ·)
  canonical_together : canonicalSizeBytes.isSome = canonicalChecksum.isSome
  canonical_hex : ∀ c, canonicalChecksum = some c → IsResultChecksum c
  own_contained : ∀ e ∈ containedReleases, e.containerObjectId = objectId
  contained_once : containedReleases.Nodup
  own_lineage : ∀ e ∈ lineageReleases, e.producerObjectId = objectId
  lineage_once : lineageReleases.Nodup

instance : DecidableEq ObjectMetadataCollectionPlan := byFields ObjectMetadataCollectionPlan.ext_iff

/-- Byte-free evidence of a generic stored collection. -/
structure StoredCollectionIdentity where
  objectId : ObjectID
  producerAttemptId : AttemptID
  ownerWorkerId : WorkerID
  sizeBytes : Nat
  checksum : String
  collectionId : String

/-! ## Task plans -/

structure TaskOutputRegistrationPlan where
  execution : TaskExecutionKey
  producerTaskSpec : TaskSpec
  localTokens : List (Option ReferenceToken)
  spec_execution : TaskExecutionKey.fromTaskSpec producerTaskSpec = execution
  aligned : localTokens.length = execution.outputIds.length

def TaskOutputRegistrationPlan.localToken (plan : TaskOutputRegistrationPlan) :
    Option ReferenceToken :=
  plan.localTokens.head?.join

structure TaskOutputPublicationPlan where
  execution : TaskExecutionKey
  results : List ResultDescriptor
  result_ids : results.map ResultDescriptor.objectId = execution.outputIds

theorem TaskOutputPublicationPlan.results_ne_nil (plan : TaskOutputPublicationPlan) :
    plan.results ≠ [] := by
  intro h
  have hids := plan.result_ids
  simp [h] at hids

def TaskOutputPublicationPlan.result (plan : TaskOutputPublicationPlan) : ResultDescriptor :=
  plan.results.head plan.results_ne_nil

theorem TaskOutputPublicationPlan.result_objectId (plan : TaskOutputPublicationPlan) :
    plan.result.objectId = plan.execution.output := by
  have hids := plan.result_ids
  rw [TaskExecutionKey.outputIds_eq, List.map_eq_singleton_iff] at hids
  obtain ⟨r, hr, ho⟩ := hids
  simp [result, hr, ho]

structure TaskOutputAttemptAdvancePlan where
  expected : TaskExecutionKey
  nextExecution : TaskExecutionKey
  same_manifest : expected.manifest = nextExecution.manifest
  increasing : expected.attemptId.attemptNumber < nextExecution.attemptId.attemptNumber
  deriving DecidableEq

structure TaskOutputErrorPlan (ε : Type) where
  execution : TaskExecutionKey
  error : Option ε

/-! ## Output publications at the owner -/

/-- The transient input of the output CAS. -/
structure OutputOwnerPublicationPlan where
  execution : TaskExecutionKey
  envelope : OutputPublicationEnvelope
  execution_eq : execution = envelope.manifest.execution
  deriving DecidableEq

namespace OutputOwnerPublicationPlan

def publicationId (plan : OutputOwnerPublicationPlan) : OutputPublicationID :=
  plan.envelope.publicationId

def output (plan : OutputOwnerPublicationPlan) : ObjectID := plan.publicationId.output

theorem attempt_eq (plan : OutputOwnerPublicationPlan) :
    plan.execution.attemptId = plan.publicationId.attemptId := by
  rw [plan.execution_eq]
  rfl

end OutputOwnerPublicationPlan

inductive OutputOwnerPublicationDisposition
  | applied
  | alreadyApplied
  | fenced
  deriving DecidableEq

namespace OutputOwnerPublicationDisposition

theorem applied_committed : applied = .applied ∨ applied = .alreadyApplied := .inl rfl

theorem alreadyApplied_committed : alreadyApplied = .applied ∨ alreadyApplied = .alreadyApplied :=
  .inr rfl

end OutputOwnerPublicationDisposition

/-- A slot's byte-free membership in one manifest. -/
structure OutputOwnerPublicationMembership where
  manifest : OutputPublicationManifest
  slotIndex : Nat
  slot_bound : slotIndex < manifest.slots.length
  deriving DecidableEq

namespace OutputOwnerPublicationMembership

def ofManifest (manifest : OutputPublicationManifest) : OutputOwnerPublicationMembership :=
  ⟨manifest, 0, by simp [manifest.slots_eq]⟩

def slot (m : OutputOwnerPublicationMembership) : OutputSlotManifest := m.manifest.slot

def objectId (m : OutputOwnerPublicationMembership) : ObjectID := m.slot.objectId

def publicationId (m : OutputOwnerPublicationMembership) : OutputPublicationID :=
  m.manifest.publicationId

@[simp] theorem ofManifest_manifest (manifest : OutputPublicationManifest) :
    (ofManifest manifest).manifest = manifest := rfl

@[simp] theorem ofManifest_slot (manifest : OutputPublicationManifest) :
    (ofManifest manifest).slot = manifest.slot := rfl

@[simp] theorem ofManifest_publicationId (manifest : OutputPublicationManifest) :
    (ofManifest manifest).publicationId = manifest.publicationId := rfl

theorem objectId_eq (m : OutputOwnerPublicationMembership) : m.objectId = m.publicationId.output :=
  m.manifest.slot_objectId

end OutputOwnerPublicationMembership

structure OutputOwnerPublicationReceipt where
  plan : OutputOwnerPublicationPlan
  disposition : OutputOwnerPublicationDisposition

/-- The metadata claim belongs to exactly this output slot and its lineage. -/
def MatchesSlot (membership : OutputOwnerPublicationMembership)
    (metadata : ObjectMetadataCollectionPlan) : Prop :=
  metadata.objectId = membership.slot.objectId ∧
    metadata.producerAttemptId = some membership.publicationId.attemptId ∧
    metadata.containedReleases = Sorted.sortList membership.slot.edges ∧
    metadata.producerTaskSpec.any (fun spec =>
      spec.returnIds = membership.publicationId.outputIds ∧
        spec.ownerWorkerId = membership.manifest.header.ownerWorkerId ∧
        spec.jobId = membership.manifest.header.jobId) = true

/-- Replica metadata appears exactly for a stored slot. -/
def MatchesTier (membership : OutputOwnerPublicationMembership)
    (metadata : ObjectMetadataCollectionPlan) : Prop :=
  if membership.slot.tier = .inline then
    metadata.locations = [] ∧ metadata.canonicalSizeBytes = none ∧ metadata.canonicalChecksum = none
  else
    metadata.canonicalSizeBytes = some membership.slot.sizeBytes ∧
      metadata.canonicalChecksum = some membership.slot.checksum

instance (membership : OutputOwnerPublicationMembership) (metadata : ObjectMetadataCollectionPlan) :
    Decidable (MatchesSlot membership metadata) := inferInstanceAs (Decidable (_ ∧ _))

instance (membership : OutputOwnerPublicationMembership) (metadata : ObjectMetadataCollectionPlan) :
    Decidable (MatchesTier membership metadata) := by
  unfold MatchesTier
  split <;> infer_instance

structure OutputOwnerPublicationCollectionPlan where
  membership : OutputOwnerPublicationMembership
  metadataPlan : ObjectMetadataCollectionPlan
  matches_slot : MatchesSlot membership metadataPlan
  matches_tier : MatchesTier membership metadataPlan
  deriving DecidableEq

namespace OutputOwnerPublicationCollectionPlan

def objectId (plan : OutputOwnerPublicationCollectionPlan) : ObjectID := plan.membership.objectId

def collectionId (plan : OutputOwnerPublicationCollectionPlan) : String :=
  plan.metadataPlan.collectionId

end OutputOwnerPublicationCollectionPlan

structure OutputOwnerPublicationCollectionReceipt where
  plan : OutputOwnerPublicationCollectionPlan
  collection : ObjectMetadataCollection
  disposition : OutputOwnerPublicationDisposition
  committed : disposition = .applied ∨ disposition = .alreadyApplied
  own_slot : collection.collected = true ∧ collection.objectId = plan.objectId ∧
    collection.containedReleases = Sorted.sortList plan.membership.slot.edges

structure OutputOwnerCollectionTombstone where
  publicationId : OutputPublicationID
  manifestDigest : String
  slotIndex : Nat
  collectionId : String
  metadataDigest : String
  collection : ObjectMetadataCollection

/-! ## Output retirement -/

def RetiresReplica (member : OutputOwnerPublicationMembership) (drop : DropObjectReplica) : Prop :=
  member.slot.tier = .objectStore ∧ drop.objectId = member.objectId ∧
    drop.producerAttemptId = member.publicationId.attemptId ∧
    drop.ownerWorkerId = member.manifest.header.ownerWorkerId ∧ drop.checksum = member.slot.checksum

@[ext] structure OutputOwnerPublicationRetirementPlan where
  retirementId : String
  memberships : List OutputOwnerPublicationMembership
  replicaDrops : List DropObjectReplica
  id_ne : retirementId ≠ ""
  single : memberships.length = 1
  drops_match : ∀ drop ∈ replicaDrops, ∃ member ∈ memberships, RetiresReplica member drop
  drops_sorted : (replicaDrops.map fun drop => toLex (drop.objectId, drop.nodeId)).Pairwise (· < ·)
  publisher_drop : ∀ member ∈ memberships, member.slot.tier = .objectStore →
    (member.objectId, member.manifest.header.nodeIncarnation.nodeId) ∈
      replicaDrops.map fun drop => (drop.objectId, drop.nodeId)

instance : DecidableEq OutputOwnerPublicationRetirementPlan :=
  byFields OutputOwnerPublicationRetirementPlan.ext_iff

namespace OutputOwnerPublicationRetirementPlan

theorem memberships_ne_nil (plan : OutputOwnerPublicationRetirementPlan) :
    plan.memberships ≠ [] := by
  intro h
  have hs := plan.single
  simp [h] at hs

def member (plan : OutputOwnerPublicationRetirementPlan) : OutputOwnerPublicationMembership :=
  plan.memberships.head plan.memberships_ne_nil

def containedReleases (plan : OutputOwnerPublicationRetirementPlan) :
    List ReleaseContainedReference :=
  plan.member.slot.transfers.map fun t =>
    ⟨t.containedObjectId, t.containedOwnerWorkerId, t.finalHold⟩

end OutputOwnerPublicationRetirementPlan

/-- A child release acknowledged, or the child's owner confirmed dead. -/
def ChildCleanup.Acknowledges (proof : ChildCleanup)
    (expected : ReleaseContainedReference) : Prop :=
  match proof with
  | .death record =>
    record.OwnerDeath ∧ record.workerId = expected.ownerWorkerId ∧ record.ConfirmedExit
  | .release reply =>
    reply.objectId = expected.objectId ∧ reply.ownerWorkerId = expected.ownerWorkerId ∧
      reply.hold = expected.hold ∧ reply.accepted = true ∧ reply.error = none

inductive ReplicaCleanup
  | dropped (reply : DropObjectReplicaReply)
  | death (record : NodeDeathRecord)
  deriving DecidableEq

/-- A replica dropped by its own identity, or lost with its Node. -/
def ReplicaCleanup.Discharges (publisher : PublicationNodeIncarnation) (proof : ReplicaCleanup)
    (expected : DropObjectReplica) : Prop :=
  match proof with
  | .dropped reply =>
    reply.identity = expected ∧ (reply.status = .dropped ∨ reply.status = .alreadyDropped)
  | .death record =>
    Uint64 record.nodePid ∧ Uint64 record.registrationEpoch ∧ Uint64 record.deathEpoch ∧
      record.nodeId = expected.nodeId ∧ record.reason = .processExit ∧
      (record.nodeId = publisher.nodeId → record.nodePid = publisher.nodePid ∧
        record.registrationEpoch = publisher.registrationEpoch)

structure OutputOwnerPublicationRetirementReceipt where
  plan : OutputOwnerPublicationRetirementPlan
  releasedEdges : List ChildCleanup
  droppedReplicas : List ReplicaCleanup
  disposition : OutputOwnerPublicationDisposition
  committed : disposition = .applied ∨ disposition = .alreadyApplied
  every_edge : releasedEdges.length = plan.containedReleases.length
  edges_acknowledged : ∀ pair ∈ releasedEdges.zip plan.containedReleases,
    pair.1.Acknowledges pair.2
  every_replica : droppedReplicas.length = plan.replicaDrops.length
  replicas_discharged : ∀ pair ∈ droppedReplicas.zip plan.replicaDrops,
    pair.1.Discharges plan.member.manifest.header.nodeIncarnation pair.2

instance : DecidableEq OutputOwnerPublicationRetirementReceipt := fun a b =>
  decidable_of_iff (a.plan = b.plan ∧ a.releasedEdges = b.releasedEdges ∧
      a.droppedReplicas = b.droppedReplicas ∧ a.disposition = b.disposition)
    (by cases a; cases b; simp)

/-! ## Worker deaths -/

@[ext] structure DeadWorkerReferenceRecord where
  workerId : WorkerID
  deathId : String
  death_ne : deathId ≠ ""

instance : DecidableEq DeadWorkerReferenceRecord := byFields DeadWorkerReferenceRecord.ext_iff

/-- What installing one Worker death retired. The object IDs are only GC candidates. -/
structure DeadWorkerReferenceCleanup where
  record : DeadWorkerReferenceRecord
  affectedObjectIds : List ObjectID
  collectableObjectIds : List ObjectID
  releasedBorrowerTokens : Finset (ObjectID × ReferenceToken)
  releasedSubmittedHolds : Finset (ObjectID × TaskReferenceHold)
  releasedRetainedHolds : Finset (ObjectID × TaskReferenceHold)
  releasedContainedHolds : Finset (ObjectID × ContainedReferenceHold)
  deriving DecidableEq

/-! ## Entries and the table -/

structure PutIdentity where
  attempt : AttemptID
  ownerWorkerId : WorkerID
  nodeId : NodeID
  storage : ResultStorage
  sizeBytes : Nat
  checksum : String
  deriving DecidableEq

/-- The result an object holds; `error` carries opaque exception values. -/
structure ResultFields (ε : Type) where
  currentAttempt : Option AttemptID
  producerTaskSpec : Option TaskSpec
  state : ObjectState
  inlineData : Option (List UInt8)
  error : Option ε
  locationAttempts : Dict NodeID (Option AttemptID)
  canonicalStoredResult : Option ResultDescriptor
  putIdentity : Option PutIdentity
  outputPublication : Option OutputOwnerPublicationMembership
  outputRetirementId : Option String
  outgoingContainedEdges : Finset ContainedReferenceEdge
  outgoingLineageEdges : Finset LineageReferenceEdge

/-- Why an object is still live, and which identities may not come back. -/
structure ReferenceFields where
  localTokens : Finset ReferenceToken
  submittedTokens : Finset TaskReferenceHold
  borrowedTokens : Finset ReferenceToken
  releasedBorrowedTokens : Finset ReferenceToken
  borrowedSources : Dict ReferenceToken BorrowSource
  retainedTokens : Finset TaskReferenceHold
  releasedRetainedTokens : Finset TaskReferenceHold
  retainedBorrowerTokens : Dict TaskReferenceHold ReferenceToken
  containedHolds : Finset ContainedReferenceHold
  lineageTokens : Finset ReferenceToken
  releasedLineageTokens : Finset ReferenceToken

structure CollectionFields where
  collectionPending : Bool
  collectionPlan : Option ObjectMetadataCollectionPlan

structure ObjectOwnerEntry (ε : Type) extends
    ResultFields ε, ReferenceFields, CollectionFields where
  objectId : ObjectID
  attempt_task : ∀ a, currentAttempt = some a → a.taskId = objectId.taskId
  own_edges : ∀ e ∈ outgoingContainedEdges, e.containerObjectId = objectId

theorem ObjectOwnerEntry.own_empty {ε : Type} (e : ObjectOwnerEntry ε) :
    ∀ edge ∈ (∅ : Finset ContainedReferenceEdge), edge.containerObjectId = e.objectId := by simp

/-- No reference of any kind keeps the object alive. -/
def ReferenceFields.Unused (e : ReferenceFields) : Prop :=
  e.localTokens = ∅ ∧ e.submittedTokens = ∅ ∧ e.borrowedTokens = ∅ ∧ e.retainedTokens = ∅ ∧
    e.containedHolds = ∅ ∧ e.lineageTokens = ∅

instance (e : ReferenceFields) : Decidable e.Unused := inferInstanceAs (Decidable (_ ∧ _))

def ReferenceFields.isLive (e : ReferenceFields) : Bool := !decide e.Unused

def ResultFields.fresh {ε : Type} (currentAttempt : Option AttemptID)
    (producerTaskSpec : Option TaskSpec) : ResultFields ε where
  currentAttempt := currentAttempt
  producerTaskSpec := producerTaskSpec
  state := .pending
  inlineData := none
  error := none
  locationAttempts := .empty
  canonicalStoredResult := none
  putIdentity := none
  outputPublication := none
  outputRetirementId := none
  outgoingContainedEdges := ∅
  outgoingLineageEdges := ∅

def ReferenceFields.fresh (localToken : Option ReferenceToken) : ReferenceFields where
  localTokens := localToken.toFinset
  submittedTokens := ∅
  borrowedTokens := ∅
  releasedBorrowedTokens := ∅
  borrowedSources := .empty
  retainedTokens := ∅
  releasedRetainedTokens := ∅
  retainedBorrowerTokens := .empty
  containedHolds := ∅
  lineageTokens := ∅
  releasedLineageTokens := ∅

def ObjectOwnerEntry.fresh {ε : Type} (objectId : ObjectID) (currentAttempt : Option AttemptID)
    (producerTaskSpec : Option TaskSpec) (localToken : Option ReferenceToken)
    (h : ∀ a, currentAttempt = some a → a.taskId = objectId.taskId) : ObjectOwnerEntry ε where
  toResultFields := .fresh currentAttempt producerTaskSpec
  toReferenceFields := .fresh localToken
  collectionPending := false
  collectionPlan := none
  objectId := objectId
  attempt_task := h
  own_edges := by simp [ResultFields.fresh]

@[ext] structure TaskLineageObligation where
  taskId : TaskID
  dependencyObjectId : ObjectID
  token : String
  token_ne : token ≠ ""

instance : DecidableEq TaskLineageObligation := byFields TaskLineageObligation.ext_iff

/-- Release authority for a producer's retained dependencies. -/
structure TaskLineageAuthority where
  taskId : TaskID
  outputIds : List ObjectID
  obligations : Finset TaskLineageObligation

/-- Retired reference identities and the Worker deaths behind them. -/
structure ReferenceHistory where
  releasedRetainedTokens : Finset (ObjectID × TaskReferenceHold)
  retainedHoldReplacements : Dict (ObjectID × TaskReferenceHold) TaskReferenceHold
  releasedSubmittedTokens : Finset (ObjectID × TaskReferenceHold)
  releasedBorrowedTokens : Finset (ObjectID × ReferenceToken)
  releasedContainedHolds : Finset (ObjectID × ContainedReferenceHold)
  storedContainedPreparations : Dict (ObjectID × ContainedReferenceHold) PreparedContainedTransfer
  storedContainedPromotions : Dict (ObjectID × ContainedReferenceHold) PreparedContainedTransfer
  releasedLineageTokens : Finset (ObjectID × ReferenceToken)
  deadWorkerCleanups : Dict WorkerID DeadWorkerReferenceCleanup
  deadWorkerIds : Dict String WorkerID

/-- Byte-free facts that fence old publications. -/
structure PublicationHistory where
  outputPublicationReceipts : Dict OutputPublicationID OutputPublicationManifest
  outputRetirementPlans : Dict String OutputOwnerPublicationRetirementPlan
  outputRetirementReceipts : Dict String OutputOwnerPublicationRetirementReceipt
  retiredOutputSlots : Finset (OutputPublicationID × ObjectID)
  retiredOutputAttempts : Finset (ObjectID × AttemptID)
  outputLossReceipts : Dict OutputPublicationID NodeLostOutputResolution

/-- Terminal collections and the lineage they will claim. -/
structure CollectionHistory where
  collected : Dict ObjectID String
  storedCollectionHistory : Dict ObjectID StoredCollectionIdentity
  taskLineage : Dict TaskID TaskLineageAuthority
  outputCollectionReceipts : Dict ObjectID OutputOwnerCollectionTombstone

/-- Every entry is filed under its own identity. -/
structure ObjectOwnerTable (ε : Type) extends ReferenceHistory, PublicationHistory,
    CollectionHistory where
  entries : Dict ObjectID (ObjectOwnerEntry ε)
  keyed : ∀ o e, entries.get? o = some e → e.objectId = o

namespace ObjectOwnerTable

variable {ε : Type}

def empty : ObjectOwnerTable ε where
  releasedRetainedTokens := ∅
  retainedHoldReplacements := .empty
  releasedSubmittedTokens := ∅
  releasedBorrowedTokens := ∅
  releasedContainedHolds := ∅
  storedContainedPreparations := .empty
  storedContainedPromotions := .empty
  releasedLineageTokens := ∅
  deadWorkerCleanups := .empty
  deadWorkerIds := .empty
  outputPublicationReceipts := .empty
  outputRetirementPlans := .empty
  outputRetirementReceipts := .empty
  retiredOutputSlots := ∅
  retiredOutputAttempts := ∅
  outputLossReceipts := .empty
  collected := .empty
  storedCollectionHistory := .empty
  taskLineage := .empty
  outputCollectionReceipts := .empty
  entries := .empty
  keyed := by simp

/-- Install an entry under its own identity. -/
def setEntry (self : ObjectOwnerTable ε) (entry : ObjectOwnerEntry ε) : ObjectOwnerTable ε where
  __ := self
  entries := self.entries.set entry.objectId entry
  keyed := by
    intro o e h
    rw [Dict.get?_set] at h
    split at h
    · next ho => cases h; exact ho
    · exact self.keyed o e h

def eraseEntry (self : ObjectOwnerTable ε) (objectId : ObjectID) : ObjectOwnerTable ε where
  __ := self
  entries := self.entries.erase objectId
  keyed := by
    intro o e h
    exact self.keyed o e (Dict.of_get?_erase h).2

def mapEntries (self : ObjectOwnerTable ε) (f : ObjectOwnerEntry ε → ObjectOwnerEntry ε)
    (hf : ∀ e, (f e).objectId = e.objectId) : ObjectOwnerTable ε where
  __ := self
  entries := self.entries.mapValues fun _ => f
  keyed := by
    intro o e h
    rw [Dict.get?_mapValues, Option.map_eq_some_iff] at h
    obtain ⟨e₀, h₀, rfl⟩ := h
    rw [hf]
    exact self.keyed o e₀ h₀

@[simp] theorem get?_empty (o : ObjectID) :
    (empty : ObjectOwnerTable ε).entries.get? o = none := rfl

theorem get?_setEntry (self : ObjectOwnerTable ε) (entry : ObjectOwnerEntry ε) (o : ObjectID) :
    (self.setEntry entry).entries.get? o =
      if entry.objectId = o then some entry else self.entries.get? o :=
  Dict.get?_set ..

theorem get?_eraseEntry (self : ObjectOwnerTable ε) (objectId o : ObjectID) :
    (self.eraseEntry objectId).entries.get? o =
      if objectId = o then none else self.entries.get? o :=
  Dict.get?_erase ..

@[simp] theorem get?_mapEntries (self : ObjectOwnerTable ε)
    (f : ObjectOwnerEntry ε → ObjectOwnerEntry ε) (hf : ∀ e, (f e).objectId = e.objectId)
    (o : ObjectID) : (self.mapEntries f hf).entries.get? o = (self.entries.get? o).map f :=
  Dict.get?_mapValues ..

@[simp] theorem setEntry_references (self : ObjectOwnerTable ε) (entry : ObjectOwnerEntry ε) :
    (self.setEntry entry).toReferenceHistory = self.toReferenceHistory := rfl

@[simp] theorem setEntry_publications (self : ObjectOwnerTable ε) (entry : ObjectOwnerEntry ε) :
    (self.setEntry entry).toPublicationHistory = self.toPublicationHistory := rfl

@[simp] theorem setEntry_collections (self : ObjectOwnerTable ε) (entry : ObjectOwnerEntry ε) :
    (self.setEntry entry).toCollectionHistory = self.toCollectionHistory := rfl

end ObjectOwnerTable

end MiniRay
