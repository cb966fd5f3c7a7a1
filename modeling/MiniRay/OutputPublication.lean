import MiniRay.PublicationSources

/-! An execution publishes its single output as one immutable manifest. Manifests and Complete
witnesses carry identities only; the envelope carries the payload. -/

namespace MiniRay

/-! ## Executions -/

/-- The single logical output identity of one task. -/
structure TaskOutputManifest where
  taskId : TaskID
  outputIds : List ObjectID
  single : outputIds = [ObjectID.forTask taskId 0]
  deriving DecidableEq

/-- One physical attempt authorized to publish the task's output. -/
structure TaskExecutionKey where
  manifest : TaskOutputManifest
  attemptId : AttemptID
  attempt_task : attemptId.taskId = manifest.taskId
  deriving DecidableEq

def TaskExecutionKey.taskId (e : TaskExecutionKey) : TaskID := e.manifest.taskId

def TaskExecutionKey.outputIds (e : TaskExecutionKey) : List ObjectID := e.manifest.outputIds

def TaskExecutionKey.output (e : TaskExecutionKey) : ObjectID := ObjectID.forTask e.taskId 0

@[simp] theorem TaskExecutionKey.outputIds_eq (e : TaskExecutionKey) : e.outputIds = [e.output] :=
  e.manifest.single

theorem TaskExecutionKey.attempt_taskId (e : TaskExecutionKey) :
    e.attemptId.taskId = e.output.taskId := e.attempt_task

def TaskOutputManifest.forTask (taskId : TaskID) : TaskOutputManifest :=
  ⟨taskId, [ObjectID.forTask taskId 0], rfl⟩

theorem TaskOutputManifest.forTask_taskId (attemptId : AttemptID) :
    attemptId.taskId = (forTask attemptId.taskId).taskId := rfl

def TaskExecutionKey.ofAttempt (attemptId : AttemptID) : TaskExecutionKey :=
  ⟨.forTask attemptId.taskId, attemptId, TaskOutputManifest.forTask_taskId attemptId⟩

def TaskExecutionKey.fromTaskSpec (spec : TaskSpec) : TaskExecutionKey :=
  ⟨.forTask spec.taskId, spec.attemptId, spec.attempt_task⟩

/-- One lease execution authorized for the task's single output. -/
structure OutputPublicationID where
  leaseId : LeaseID
  execution : TaskExecutionKey
  attempt_uint : Uint64 execution.attemptId.attemptNumber
  deriving DecidableEq

def OutputPublicationID.attemptId (p : OutputPublicationID) : AttemptID := p.execution.attemptId

def OutputPublicationID.outputIds (p : OutputPublicationID) : List ObjectID := p.execution.outputIds

def OutputPublicationID.output (p : OutputPublicationID) : ObjectID := p.execution.output

@[simp] theorem OutputPublicationID.outputIds_eq (p : OutputPublicationID) :
    p.outputIds = [p.output] := p.execution.outputIds_eq

theorem OutputPublicationID.attempt_taskId (p : OutputPublicationID) :
    p.attemptId.taskId = p.output.taskId := p.execution.attempt_task

/-! ## Manifests -/

structure OutputPublicationHeader where
  publicationId : OutputPublicationID
  jobId : JobID
  executorWorkerId : WorkerID
  ownerWorkerId : WorkerID
  nodeIncarnation : PublicationNodeIncarnation
  node_uint : Uint64 nodeIncarnation.nodePid ∧ Uint64 nodeIncarnation.registrationEpoch
  deriving DecidableEq

/-- One return's integrity and ordered child custody, never its bytes. -/
@[ext] structure OutputSlotManifest where
  objectId : ObjectID
  tier : ResultStorage
  sizeBytes : Nat
  checksum : String
  transfers : List PreparedContainedTransfer
  size_uint : Uint64 sizeBytes
  checksum_hex : Sha256.IsLowerHexDigest checksum
  framable : ∀ t ∈ transfers, t.Framable
  own_transfers : ∀ t ∈ transfers, t.finalHold.containerObjectId = objectId
  hold_keys : (transfers.map fun t => (t.containedObjectId, t.finalHold)).Nodup

instance : DecidableEq OutputSlotManifest := byFields OutputSlotManifest.ext_iff

def OutputSlotManifest.edges (slot : OutputSlotManifest) : List ContainedReferenceEdge :=
  slot.transfers.map PreparedContainedTransfer.edge

theorem OutputSlotManifest.container_of_mem_edges {slot : OutputSlotManifest}
    {edge : ContainedReferenceEdge} (h : edge ∈ slot.edges) :
    edge.containerObjectId = slot.objectId := by
  obtain ⟨t, ht, rfl⟩ := List.mem_map.mp h
  exact slot.own_transfers t ht

def fromHex : List Char → List UInt8
  | a :: b :: rest =>
    let digit (c : Char) : Nat := if c ≤ '9' then c.toNat - 48 else c.toNat - 87
    UInt8.ofNat (16 * digit a + digit b) :: fromHex rest
  | _ => []

def feedPublication (p : OutputPublicationID) : List UInt8 :=
  framed p.leaseId.value.bytes ++ framed p.execution.taskId.value.bytes ++
    framed (Sha256.bigEndian 8 p.attemptId.attemptNumber) ++ feedObject p.output

def feedSlot (slot : OutputSlotManifest) : List UInt8 :=
  feedObject slot.objectId ++ framed (utf8 slot.tier.value) ++
    framed (Sha256.bigEndian 8 slot.sizeBytes) ++ framed (fromHex slot.checksum.toList) ++
    framed (Sha256.bigEndian 8 slot.transfers.length) ++
    slot.transfers.flatMap fun t => framed (preparedContainedTransferFingerprint t)

def manifestDigest (header : OutputPublicationHeader) (slots : List OutputSlotManifest) : String :=
  Sha256.hexdigest <|
    utf8 "miniray-output-publication-manifest-v2" ++ [0] ++
      feedPublication header.publicationId ++ framed header.jobId.value.bytes ++
      framed header.executorWorkerId.value.bytes ++ framed header.ownerWorkerId.value.bytes ++
      framed header.nodeIncarnation.nodeId.value.bytes ++
      framed (Sha256.bigEndian 8 header.nodeIncarnation.nodePid) ++
      framed (Sha256.bigEndian 8 header.nodeIncarnation.registrationEpoch) ++
      framed (Sha256.bigEndian 8 slots.length) ++ slots.flatMap feedSlot

/-- The checks shared by every way to build a manifest. -/
structure ManifestInputs (header : OutputPublicationHeader) (slots : List OutputSlotManifest) :
    Prop where
  slot_ids : slots.map OutputSlotManifest.objectId = header.publicationId.outputIds
  custody : ∀ slot ∈ slots, ∀ t ∈ slot.transfers,
    t.provisionalHold.containerOwnerWorkerId = header.executorWorkerId ∧
      t.finalHold.containerOwnerWorkerId = header.ownerWorkerId ∧
      t.source.executor = header.executorWorkerId
  child_owners : Functional ((slots.flatMap OutputSlotManifest.transfers).map fun t =>
    (t.containedObjectId, t.containedOwnerWorkerId))

/-- One metadata-only publication, including an output without references. -/
structure OutputPublicationManifest where
  header : OutputPublicationHeader
  slots : List OutputSlotManifest
  manifestDigest : String
  inputs : ManifestInputs header slots
  digest_eq : manifestDigest = MiniRay.manifestDigest header slots
  deriving DecidableEq

namespace OutputPublicationManifest

def create (header : OutputPublicationHeader) (slots : List OutputSlotManifest)
    (inputs : ManifestInputs header slots) : OutputPublicationManifest :=
  ⟨header, slots, MiniRay.manifestDigest header slots, inputs, rfl⟩

def publicationId (m : OutputPublicationManifest) : OutputPublicationID := m.header.publicationId

def execution (m : OutputPublicationManifest) : TaskExecutionKey := m.publicationId.execution

theorem slots_ne_nil (m : OutputPublicationManifest) : m.slots ≠ [] := by
  intro h
  have hids := m.inputs.slot_ids
  simp [h] at hids

def slot (m : OutputPublicationManifest) : OutputSlotManifest := m.slots.head m.slots_ne_nil

theorem slots_eq (m : OutputPublicationManifest) : m.slots = [m.slot] := by
  have hids := m.inputs.slot_ids
  rw [OutputPublicationID.outputIds_eq, List.map_eq_singleton_iff] at hids
  obtain ⟨s, hs, _⟩ := hids
  simp [slot, hs]

@[simp] theorem slot_objectId (m : OutputPublicationManifest) :
    m.slot.objectId = m.publicationId.output := by
  have hids := m.inputs.slot_ids
  rw [OutputPublicationID.outputIds_eq, m.slots_eq] at hids
  exact List.singleton_inj.mp hids

theorem digest_hex (m : OutputPublicationManifest) :
    Sha256.IsLowerHexDigest m.manifestDigest := by
  rw [m.digest_eq]
  exact Sha256.isLowerHexDigest_hexdigest _

end OutputPublicationManifest

/-! ## Complete witnesses and envelopes -/

/-- Byte-free identity of a successful Complete, not a liveness oracle. -/
@[ext] structure OutputPublicationCompleteWitness where
  publicationId : OutputPublicationID
  manifestDigest : String
  digest_hex : Sha256.IsLowerHexDigest manifestDigest

instance : DecidableEq OutputPublicationCompleteWitness :=
  byFields OutputPublicationCompleteWitness.ext_iff

/-- A result descriptor agrees with its slot, owner and publishing Node. -/
def DescribesSlot (header : OutputPublicationHeader) (slot : OutputSlotManifest)
    (descriptor : ResultDescriptor) : Prop :=
  descriptor.storage = slot.tier ∧ descriptor.sizeBytes = slot.sizeBytes ∧
    descriptor.checksum = slot.checksum ∧ descriptor.ownerWorkerId = header.ownerWorkerId ∧
    descriptor.nodeId = header.nodeIncarnation.nodeId

instance (header : OutputPublicationHeader) (slot : OutputSlotManifest)
    (descriptor : ResultDescriptor) : Decidable (DescribesSlot header slot descriptor) :=
  inferInstanceAs (Decidable (_ ∧ _))

/-- Data-plane handoff: the result from one exact Complete. -/
structure OutputPublicationEnvelope where
  manifest : OutputPublicationManifest
  complete : OutputPublicationCompleteWitness
  results : List ResultDescriptor
  complete_eq : complete.publicationId = manifest.publicationId ∧
    complete.manifestDigest = manifest.manifestDigest
  result_ids : results.map ResultDescriptor.objectId = manifest.publicationId.outputIds
  described : ∀ pair ∈ manifest.slots.zip results, DescribesSlot manifest.header pair.1 pair.2
  deriving DecidableEq

namespace OutputPublicationEnvelope

def publicationId (e : OutputPublicationEnvelope) : OutputPublicationID := e.manifest.publicationId

theorem results_ne_nil (e : OutputPublicationEnvelope) : e.results ≠ [] := by
  intro h
  have hids := e.result_ids
  simp [h] at hids

def result (e : OutputPublicationEnvelope) : ResultDescriptor := e.results.head e.results_ne_nil

theorem results_eq (e : OutputPublicationEnvelope) : e.results = [e.result] := by
  have hids := e.result_ids
  rw [OutputPublicationID.outputIds_eq, List.map_eq_singleton_iff] at hids
  obtain ⟨r, hr, _⟩ := hids
  simp [result, hr]

theorem describesSlot (e : OutputPublicationEnvelope) :
    DescribesSlot e.manifest.header e.manifest.slot e.result := by
  have h := e.described
  rw [e.manifest.slots_eq, e.results_eq] at h
  simpa using h

end OutputPublicationEnvelope

/-- An adapter-validated owner CAS, never a bare clear flag. -/
@[ext] structure OutputPublicationAdoptionProof where
  complete : OutputPublicationCompleteWitness
  ownerWorkerId : WorkerID
  ownerCommitId : String
  commit_ne : ownerCommitId ≠ ""

instance : DecidableEq OutputPublicationAdoptionProof :=
  byFields OutputPublicationAdoptionProof.ext_iff

/-! ## One output with one child -/

/-- A child of the executor, handed over to the owner of the output. -/
def PreparedContainedTransfer.sample : PreparedContainedTransfer where
  containedObjectId := ⟨⟨2⟩, 0⟩
  containedOwnerWorkerId := ⟨3⟩
  containedOwnerAddress := default
  source := .owned ⟨3⟩
  provisionalHold := ⟨⟨⟨1⟩, 0⟩, ⟨3⟩, "transfer", by decide⟩
  finalHold := ⟨⟨⟨1⟩, 0⟩, ⟨4⟩, "transfer", by decide⟩
  owned_source := fun _ h => by cases h; rfl
  share_outer := rfl
  custody_change := by decide
  token_namespace := by decide

def OutputPublicationHeader.sample : OutputPublicationHeader where
  publicationId := ⟨⟨1⟩, .ofAttempt ⟨⟨1⟩, 0⟩, by decide⟩
  jobId := ⟨5⟩
  executorWorkerId := ⟨3⟩
  ownerWorkerId := ⟨4⟩
  nodeIncarnation := ⟨⟨7⟩, 1, 1, by decide⟩
  node_uint := by decide

theorem emptyChecksum_hex : Sha256.IsLowerHexDigest (Sha256.hexdigest []) :=
  Sha256.isLowerHexDigest_hexdigest _

def OutputSlotManifest.sample (tier : ResultStorage) : OutputSlotManifest where
  objectId := ⟨⟨1⟩, 0⟩
  tier := tier
  sizeBytes := 1
  checksum := Sha256.hexdigest []
  transfers := [.sample]
  size_uint := by decide
  checksum_hex := emptyChecksum_hex
  framable := by
    intro t ht
    rw [List.mem_singleton.mp ht]
    exact ⟨by decide, trivial, (by decide : Uint64 0), (by decide : Uint64 0)⟩
  own_transfers := by simp [PreparedContainedTransfer.sample]
  hold_keys := by simp

def OutputPublicationManifest.sample (tier : ResultStorage) : OutputPublicationManifest :=
  .create .sample [.sample tier] <| by
    refine ⟨rfl, ?_, ?_⟩
    · simp [OutputSlotManifest.sample, PreparedContainedTransfer.sample,
        OutputPublicationHeader.sample, ContainedPublicationSource.executor]
    · simp [OutputSlotManifest.sample, Functional]

end MiniRay
