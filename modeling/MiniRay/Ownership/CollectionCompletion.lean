import MiniRay.Ownership.Collection

/-! A frozen object leaves the table exactly once, under its exact claim. Outputs of a publication
are collected through their membership, and keep a byte-free receipt. -/

namespace MiniRay

open Checked

/-! ## The metadata digest -/

def frame (tag : Char) (payload : List UInt8) : List UInt8 :=
  UInt8.ofNat tag.toNat :: framed payload

def visitInt (value : Nat) : List UInt8 := frame 'i' (utf8 (toString value))

def visitStr (value : String) : List UInt8 := frame 's' (utf8 value)

def visitOption {α : Type} (visit : α → List UInt8) : Option α → List UInt8
  | none => frame 'n' []
  | some value => visit value

def visitTuple {α : Type} (visit : α → List UInt8) (values : List α) : List UInt8 :=
  frame 't' (utf8 (toString values.length)) ++ values.flatMap visit

def visitDataclass (name : String) (members : List (String × List UInt8)) : List UInt8 :=
  frame 'd' (utf8 name) ++ frame 'f' (utf8 (toString members.length)) ++
    members.flatMap fun member => frame 'k' (utf8 member.1) ++ member.2

def visitOpaque (name : String) (value : OpaqueValue) : List UInt8 :=
  visitDataclass ("miniray.ids." ++ name) [("value", frame 'p' value.bytes)]

def visitAttempt (a : AttemptID) : List UInt8 :=
  visitDataclass "miniray.ids.AttemptID"
    [("task_id", visitOpaque "TaskID" a.taskId.value), ("attempt_number", visitInt a.attemptNumber)]

def visitObject (o : ObjectID) : List UInt8 :=
  visitDataclass "miniray.ids.ObjectID"
    [("task_id", visitOpaque "TaskID" o.taskId.value), ("return_index", visitInt o.returnIndex)]

/-- `definition` is visited for the members it stands for. -/
def visitTaskSpec (spec : TaskSpec) : List UInt8 :=
  visitDataclass "miniray.protocol.TaskSpec"
    [("job_id", visitOpaque "JobID" spec.jobId.value),
      ("task_id", visitOpaque "TaskID" spec.taskId.value),
      ("attempt_id", visitAttempt spec.attemptId), ("definition", visitStr spec.definition),
      ("owner_worker_id", visitOpaque "WorkerID" spec.ownerWorkerId.value)]

def visitContainedEdge (edge : ContainedReferenceEdge) : List UInt8 :=
  visitDataclass "miniray.contained_edges.ContainedReferenceEdge"
    [("container_object_id", visitObject edge.containerObjectId),
      ("contained_object_id", visitObject edge.containedObjectId),
      ("contained_owner_worker_id", visitOpaque "WorkerID" edge.containedOwnerWorkerId.value),
      ("contained_owner_address", frame 't' (utf8 (toString 2)) ++
        visitStr edge.containedOwnerAddress.host ++ visitInt edge.containedOwnerAddress.port),
      ("transfer_token", visitStr edge.transferToken)]

def visitLineageEdge (edge : LineageReferenceEdge) : List UInt8 :=
  visitDataclass "miniray.contained_edges.LineageReferenceEdge"
    [("producer_object_id", visitObject edge.producerObjectId),
      ("dependency_object_id", visitObject edge.dependencyObjectId), ("token", visitStr edge.token)]

/-- Hash the frozen claim without retaining it. -/
def collectionMetadataDigest (plan : ObjectMetadataCollectionPlan) : String :=
  Sha256.hexdigest <| utf8 "miniray-inline-collection-metadata-v1" ++ [0] ++
    visitDataclass "miniray.contained_edges.ObjectMetadataCollectionPlan"
      [("object_id", visitObject plan.objectId), ("collection_id", visitStr plan.collectionId),
        ("producer_attempt_id", visitOption visitAttempt plan.producerAttemptId),
        ("locations", visitTuple (fun n : NodeID => visitOpaque "NodeID" n.value) plan.locations),
        ("producer_task_spec", visitOption visitTaskSpec plan.producerTaskSpec),
        ("canonical_size_bytes", visitOption visitInt plan.canonicalSizeBytes),
        ("canonical_checksum", visitOption visitStr plan.canonicalChecksum),
        ("contained_releases", visitTuple visitContainedEdge plan.containedReleases),
        ("lineage_releases", visitTuple visitLineageEdge plan.lineageReleases)]

/-- The tombstone was left by exactly this plan. -/
def OutputOwnerCollectionTombstone.Matches (t : OutputOwnerCollectionTombstone)
    (plan : OutputOwnerPublicationCollectionPlan) : Prop :=
  t.publicationId = plan.membership.publicationId ∧
    t.manifestDigest = plan.membership.manifest.manifestDigest ∧
    t.slotIndex = plan.membership.slotIndex ∧ t.collectionId = plan.collectionId ∧
    t.metadataDigest = collectionMetadataDigest plan.metadataPlan

instance (t : OutputOwnerCollectionTombstone) (plan : OutputOwnerPublicationCollectionPlan) :
    Decidable (t.Matches plan) := inferInstanceAs (Decidable (_ ∧ _))

namespace ObjectOwnerTable

variable {ε : Type} {self s' : ObjectOwnerTable ε} {keeps : ObjectID → ReferenceToken → Prop}
  {c : CallerConditions}

/-! ## Generic collections -/

/-- Preflight the exact claim without deleting metadata. -/
def validateCompleteCollection (self : ObjectOwnerTable ε) (plan : ObjectMetadataCollectionPlan) :
    Except Raised Unit := do
  let e ← self.entry plan.objectId
  raiseIf (e.collectionPending = false)
    ⟨.invalidObjectTransition, "object collection was not begun for " ++ plan.objectId.repr⟩
  raiseIf (e.collectionPlan ≠ some plan)
    ⟨.invalidObjectTransition, "collection plan identity changed for " ++ plan.objectId.repr⟩
  raiseIf (¬ e.Unused)
    ⟨.invalidObjectTransition, "object became live during collection for " ++ plan.objectId.repr⟩

variable {plan : ObjectMetadataCollectionPlan}

@[simp] theorem validateCompleteCollection_eq_ok {u : Unit} :
    self.validateCompleteCollection plan = .ok u ↔ ∃ e, self.entries.get? plan.objectId = some e ∧
      e.collectionPending = true ∧ e.collectionPlan = some plan ∧ e.Unused := by
  simp [validateCompleteCollection]

/-- The checks of one wire identity of a stored collection. -/
def storedCollectionAttempt : Option AttemptID → Except Raised AttemptID
  | none => .error ⟨.outputOwnerPublicationConflict, "attempt_id must be a AttemptID"⟩
  | some attempt => do
      raiseIf (¬ Uint64 attempt.attemptNumber)
        ⟨.outputOwnerPublicationConflict, "attempt_number must be a non-negative uint64"⟩
      return attempt

/-- Byte-free evidence of a stored value outside output publications. -/
def storedCollectionIdentity (e : ObjectOwnerEntry ε) (plan : ObjectMetadataCollectionPlan) :
    Except Raised (Option StoredCollectionIdentity) :=
  match e.outputPublication, e.canonicalStoredResult with
  | none, some canonical => do
      let conflict (message : String) : Raised := ⟨.outputOwnerPublicationConflict, message⟩
      let disagrees := conflict "generic collection plan disagrees with canonical metadata"
      raiseIf (canonical.storage ≠ .objectStore ∨ canonical.inlineData ≠ none ∨
          ¬ (e.state = .readyStored ∨ e.state = .lost) ∨ e.collectionPending = false ∨
          e.collectionPlan ≠ some plan)
        (conflict "generic stored collection lacks a frozen canonical claim")
      raiseIf (¬ Uint64 e.objectId.returnIndex)
        (conflict "return_index must be a non-negative uint64")
      let attempt ← storedCollectionAttempt e.currentAttempt
      raiseIf (¬ Uint64 canonical.sizeBytes)
        (conflict "collected stored size must be a non-negative uint64")
      raiseIf (¬ Uint64 canonical.objectId.returnIndex)
        (conflict "return_index must be a non-negative uint64")
      raiseIf (canonical.objectId ≠ e.objectId) disagrees
      raiseIf (¬ Uint64 plan.objectId.returnIndex)
        (conflict "return_index must be a non-negative uint64")
      raiseIf (plan.objectId ≠ e.objectId) disagrees
      let planned ← storedCollectionAttempt plan.producerAttemptId
      raiseIf (planned ≠ attempt) disagrees
      raiseIf (some canonical.sizeBytes ≠ plan.canonicalSizeBytes ∨
          some canonical.checksum ≠ plan.canonicalChecksum) disagrees
      raiseIf (¬ Sha256.IsLowerHexDigest canonical.checksum)
        (conflict "object descriptor checksum must be a lowercase SHA-256 hex digest")
      return some ⟨e.objectId, attempt, canonical.ownerWorkerId, canonical.sizeBytes,
        canonical.checksum, plan.collectionId⟩
  | _, _ => .ok none

/-- Delete frozen metadata and claim its release work. -/
def completeCollectionLocked (self : ObjectOwnerTable ε) (plan : ObjectMetadataCollectionPlan) :
    Except Raised (ObjectMetadataCollection × ObjectOwnerTable ε) := do
  let objectId := plan.objectId
  let e ← self.keyedEntry objectId
  raiseIf (e.val.collectionPlan ≠ some plan ∨ ¬ e.val.Unused)
    ⟨.invalidObjectTransition, "collection claim changed before commit for " ++ objectId.repr⟩
  let storedIdentity ← storedCollectionIdentity e.val plan
  let lineage ← self.claimedLineage objectId
  raiseIf (lineage.val ≠ plan.lineageReleases)
    ⟨.invalidObjectTransition, "task lineage changed after collection freeze"⟩
  return ({
      objectId := objectId
      collected := true
      containedReleases := Sorted.sorted e.val.outgoingContainedEdges
      lineageReleases := lineage.val
      uncollected := nofun
      own_contained := fun edge hedge => by
        rw [e.val.own_edges edge (Sorted.mem_sorted.mp hedge), e.property]
      contained_once := Sorted.nodup_sorted _
      own_lineage := lineage.property.1
      lineage_once := lineage.property.2 },
    { self.eraseEntry objectId with
      taskLineage := self.taskLineage.erase objectId.taskId
      storedCollectionHistory := match storedIdentity with
        | none => self.storedCollectionHistory
        | some identity => self.storedCollectionHistory.set identity.objectId identity
      collected := self.collected.set objectId plan.collectionId })

/-- CAS a frozen object to its final collection. -/
def completeCollection (self : ObjectOwnerTable ε) (plan : ObjectMetadataCollectionPlan) :
    Except Raised (ObjectMetadataCollection × ObjectOwnerTable ε) := do
  self.validateCompleteCollection plan
  let e ← self.entry plan.objectId
  raiseIf (e.outputPublication ≠ none)
    ⟨.outputOwnerPublicationCollectionRequired,
      "unified output publication requires exact per-slot collection"⟩
  self.completeCollectionLocked plan

/-- A frozen object left the table with its release work. -/
structure Completed (table s' : ObjectOwnerTable ε) (plan : ObjectMetadataCollectionPlan)
    (e : ObjectOwnerEntry ε) (collection : ObjectMetadataCollection) : Prop where
  entry : table.entries.get? plan.objectId = some e
  unused : e.Unused
  lineage : table.finalTaskLineage plan.objectId = .ok plan.lineageReleases
  collection_id : collection.objectId = plan.objectId ∧ collection.collected = true
  contained : collection.containedReleases = Sorted.sorted e.outgoingContainedEdges
  claimed : collection.lineageReleases = plan.lineageReleases
  entries : s'.entries = (table.eraseEntry plan.objectId).entries
  references : s'.toReferenceHistory = table.toReferenceHistory
  publications : s'.toPublicationHistory = table.toPublicationHistory
  taskLineage : s'.taskLineage = table.taskLineage.erase plan.objectId.taskId
  collected : s'.collected = table.collected.set plan.objectId plan.collectionId
  receipts : ∀ x, x ≠ plan.objectId →
    s'.outputCollectionReceipts.get? x = table.outputCollectionReceipts.get? x

variable {collection : ObjectMetadataCollection}

theorem completeCollectionLocked_cases
    (h : self.completeCollectionLocked plan = .ok (collection, s')) :
    ∃ e, Completed self s' plan e collection := by
  simp only [completeCollectionLocked, bind_eq_ok, keyedEntry_eq_ok, claimedLineage_eq_ok,
    raiseIf_eq_ok, pure_eq_ok, Prod.mk.injEq, not_or, not_not] at h
  obtain ⟨e, he, _, ⟨_, hunused⟩, _, _, lineage, hl, _, hsame, rfl, rfl⟩ := h
  exact ⟨e.val, he, hunused, hsame ▸ hl, ⟨rfl, rfl⟩, rfl, hsame, rfl, rfl, rfl, rfl, rfl,
    fun _ _ => rfl⟩

variable {e : ObjectOwnerEntry ε}

theorem Completed.toReferenceSpec (h : Completed self s' plan e collection) :
    ReferenceSpec keeps self s' := by
  refine .of_forget h.entry (local_of_unused h.unused) h.entries h.references ?_
    fun _ _ => .inr (by simp [IsCollected, h.collected])
  intro x hx
  simp [IsCollected, h.collected, Dict.get?_set_of_ne _ _ hx.symm]

theorem Completed.isCollected (h : Completed self s' plan e collection) :
    s'.IsCollected plan.objectId := by
  simp [IsCollected, h.collected]

theorem Completed.toResultSpec (h : Completed self s' plan e collection) :
    ResultSpec c self s' := by
  refine .of_forget h.entry h.entries (.completed e h.isCollected) (by rw [h.publications]) ?_ ?_
    ?_
    fun x l hx hl => finalTaskLineage_erase h.taskLineage hx (finalTaskLineage_owner h.lineage) hl
  · intro x hx
    simp only [IsCollected, h.collected, Dict.get?_set] at hx ⊢
    split
    · rfl
    · exact hx
  · intro x hx
    simp only [IsCollected, h.collected, Dict.get?_set] at hx ⊢
    by_cases hne : plan.objectId = x
    · exact .inr hne.symm
    · exact .inl (by simpa [hne] using hx)
  · intro x hx
    by_cases hne : x = plan.objectId
    · exact .inr (hne ▸ h.isCollected)
    · exact .inl (h.receipts x hne ▸ hx)

theorem completeCollection_cases (h : self.completeCollection plan = .ok (collection, s')) :
    ∃ e, Completed self s' plan e collection := by
  simp only [completeCollection, bind_eq_ok] at h
  obtain ⟨_, _, _, _, _, _, h⟩ := h
  exact completeCollectionLocked_cases h

theorem completeCollection_pending {r : ObjectMetadataCollection × ObjectOwnerTable ε}
    (h : self.completeCollection plan = .ok r) :
    ∃ e, self.entries.get? plan.objectId = some e ∧ e.collectionPending = true := by
  simp only [completeCollection, bind_eq_ok, validateCompleteCollection_eq_ok] at h
  obtain ⟨_, ⟨e, he, hpending, _⟩, _⟩ := h
  exact ⟨e, he, hpending⟩

/-! ## Collections of published outputs -/

/-- The descriptor a slot's fields rebuild. -/
def slotDescriptor (manifest : OutputPublicationManifest) (inlineData : Option (List UInt8)) :
    Except Raised ResultDescriptor :=
  match manifest.slot.tier, inlineData with
  | .objectStore, _ => .ok manifest.storedDescriptor
  | .inline, none => .error ⟨.protocolError, "inline result data must be bytes"⟩
  | .inline, some data =>
    if hlength : data.length = manifest.slot.sizeBytes then
      if hdigest : Sha256.hexdigest data = manifest.slot.checksum then
        .ok {
          objectId := manifest.slot.objectId
          storage := .inline
          sizeBytes := manifest.slot.sizeBytes
          ownerWorkerId := manifest.header.ownerWorkerId
          nodeId := manifest.header.nodeIncarnation.nodeId
          checksum := manifest.slot.checksum
          inlineData := some data
          inline_payload := fun _ => by simp [hlength, hdigest]
          stored_payload := nofun
          checksum_hex := manifest.isResultChecksum }
      else .error ⟨.protocolError, "inline result checksum mismatch"⟩
    else .error ⟨.protocolError, "inline result must contain exactly size_bytes bytes"⟩

theorem slotDescriptor_stored {manifest : OutputPublicationManifest}
    (h : manifest.slot.tier = .objectStore) (data : Option (List UInt8)) :
    slotDescriptor manifest data = .ok manifest.storedDescriptor := by
  simp [slotDescriptor, h]

/-- Rebuild the descriptor of a live published slot. -/
def outputOwnerResult (self : ObjectOwnerTable ε) (objectId : ObjectID) :
    Except Raised (Option ResultDescriptor) := do
  if self.IsCollected objectId then return none
  let e ← self.entry objectId
  match e.outputPublication with
  | none => return none
  | some membership => do
      let descriptor ← slotDescriptor membership.manifest e.inlineData
      raiseIf (e.currentAttempt ≠ some membership.publicationId.attemptId ∨
          membership.slot.tier = .objectStore ∧ e.canonicalStoredResult ≠ some descriptor)
        ⟨.outputOwnerPublicationConflict,
          "current result fields disagree with output membership"⟩
      return some descriptor

variable {o : ObjectID}

theorem outputOwnerResult_stored {d : ResultDescriptor} {m : OutputOwnerPublicationMembership}
    (h : self.outputOwnerResult o = .ok (some d)) (he : self.entries.get? o = some e)
    (hm : e.outputPublication = some m) (htier : m.slot.tier = .objectStore) :
    d = m.manifest.storedDescriptor := by
  rw [outputOwnerResult, ite_eq_ok] at h
  rcases h with ⟨_, h⟩ | ⟨_, h⟩
  · cases h
  · simp only [bind_eq_ok, entry_eq_ok] at h
    obtain ⟨e₁, he₁, h⟩ := h
    cases he.symm.trans he₁
    simp only [hm, bind_eq_ok, pure_eq_ok, Option.some.injEq] at h
    obtain ⟨d', hd', _, _, rfl⟩ := h
    rw [slotDescriptor_stored htier, Except.ok.injEq] at hd'
    exact hd'.symm

/-- Pair a claim with the membership it collects. -/
def outputCollectionPlan (membership : OutputOwnerPublicationMembership) (collectionId : String) :
    Option ObjectMetadataCollectionPlan →
      Except Raised (Option OutputOwnerPublicationCollectionPlan)
  | none => .ok none
  | some metadata => do
      raiseIf (metadata.collectionId ≠ collectionId)
        ⟨.outputOwnerPublicationConflict, "output collection replay changed collection_id"⟩
      let ⟨hslot⟩ ← certify (MatchesSlot membership metadata)
        ⟨.outputOwnerPublicationConflict,
          "collection metadata must match the exact output slot and lineage"⟩
      let ⟨htier⟩ ← certify (MatchesTier membership metadata)
        ⟨.outputOwnerPublicationConflict, if membership.slot.tier = .inline then
          "inline output collection cannot carry replica metadata"
          else "stored output collection changed canonical integrity metadata"⟩
      return some ⟨membership, metadata, hslot, htier⟩

/-- Freeze a published output; the inner result is returned once the claim stands. -/
def beginOutputPublicationCollection (self : ObjectOwnerTable ε) (objectId : ObjectID)
    (collectionId : String) :
    Except Raised (Except Raised (Option OutputOwnerPublicationCollectionPlan) ×
      ObjectOwnerTable ε) := do
  raiseIf (collectionId = "") ⟨.valueError, "collection_id must be a non-empty string"⟩
  match self.outputCollectionReceipts.get? objectId with
  | some terminal => do
      raiseIf (terminal.collectionId ≠ collectionId)
        ⟨.outputOwnerPublicationConflict,
          "output collection identity changed after completion"⟩
      return (.ok none, self)
  | none => do
      let e ← self.entry objectId
      match e.outputPublication with
      | none =>
        throw ⟨.outputOwnerPublicationCollectionRequired,
          "object has no unified output publication membership"⟩
      | some membership => do
          match ← self.outputOwnerResult objectId with
          | none => throw ⟨.assertionError, ""⟩
          | some descriptor => do
              raiseIf (e.outgoingContainedEdges ≠ membership.slot.edges.toFinset)
                ⟨.outputOwnerPublicationConflict, "output slot edges changed before collection"⟩
              let stored := membership.slot.tier = .objectStore
              let (metadata, table) ← self.beginCollection objectId (some collectionId) ""
                (if stored then some descriptor.sizeBytes else none)
                (if stored then some descriptor.checksum else none)
              return (outputCollectionPlan membership collectionId metadata, table)

variable {name : String} {r : Except Raised (Option OutputOwnerPublicationCollectionPlan)}

section

variable (h : self.beginOutputPublicationCollection o name = .ok (r, s'))
include h

theorem beginOutputPublicationCollection_cases :
    s' = self ∨ ∃ e plan size checksum, Begun self s' o size checksum e plan ∧
      KnownIntegrity e size checksum := by
  simp only [beginOutputPublicationCollection, bind_eq_ok] at h
  obtain ⟨_, _, h⟩ := h
  cases ht : self.outputCollectionReceipts.get? o with
  | some terminal =>
    simp only [ht, bind_eq_ok, pure_eq_ok, Prod.mk.injEq] at h
    obtain ⟨_, _, _, rfl⟩ := h
    exact .inl rfl
  | none =>
    simp only [ht, bind_eq_ok, entry_eq_ok] at h
    obtain ⟨e, he, h⟩ := h
    cases hm : e.outputPublication with
    | none => simp [hm] at h
    | some membership =>
      simp only [hm, bind_eq_ok] at h
      obtain ⟨descriptor, hd, h⟩ := h
      cases descriptor with
      | none => simp at h
      | some d =>
        simp only [bind_eq_ok, pure_eq_ok] at h
        obtain ⟨_, _, ⟨metadata, table⟩, hb, h⟩ := h
        obtain ⟨_, rfl⟩ := Prod.mk.inj h
        rcases beginCollection_cases hb with hs | ⟨e', plan, _, hb⟩
        · exact .inl hs
        · cases he.symm.trans hb.entry
          refine .inr ⟨e, plan, _, _, hb, ⟨?_, by simp [hm]⟩⟩
          intro m hm' htier
          cases hm.symm.trans hm'
          have hstored := outputOwnerResult_stored hd he hm htier
          rw [if_pos htier, if_pos htier, hstored]
          exact ⟨rfl, rfl⟩

theorem beginOutputPublicationCollection_unmarked :
    s' = self ∨ ∀ e, self.entries.get? o = some e → e.outputRetirementId = none := by
  simp only [beginOutputPublicationCollection, bind_eq_ok] at h
  obtain ⟨_, _, h⟩ := h
  cases ht : self.outputCollectionReceipts.get? o with
  | some terminal =>
    simp only [ht, bind_eq_ok, pure_eq_ok, Prod.mk.injEq] at h
    obtain ⟨_, _, _, rfl⟩ := h
    exact .inl rfl
  | none =>
    simp only [ht, bind_eq_ok, entry_eq_ok] at h
    obtain ⟨e, _, h⟩ := h
    cases hm : e.outputPublication with
    | none => simp [hm] at h
    | some membership =>
      simp only [hm, bind_eq_ok] at h
      obtain ⟨descriptor, _, h⟩ := h
      cases descriptor with
      | none => simp at h
      | some d =>
        simp only [bind_eq_ok] at h
        obtain ⟨_, _, _, hb, _⟩ := h
        exact .inr (beginCollection_unmarked hb)

theorem beginOutputPublicationCollection_references :
    ReferenceSpec keeps self s' := by
  rcases beginOutputPublicationCollection_cases h with rfl | ⟨e, plan, size, checksum, hb, _⟩
  · exact .refl _
  · exact hb.references

theorem beginOutputPublicationCollection_results : ResultSpec c self s' := by
  rcases beginOutputPublicationCollection_cases h with rfl | ⟨e, plan, size, checksum, hb, hk⟩
  · exact .refl _
  · exact hb.results fun _ => hk

end

def outputCollectionReceipt (plan : OutputOwnerPublicationCollectionPlan)
    (collection : ObjectMetadataCollection) (disposition : OutputOwnerPublicationDisposition)
    (hcommitted : disposition = .applied ∨ disposition = .alreadyApplied) :
    Except Raised OutputOwnerPublicationCollectionReceipt := do
  let ⟨hown⟩ ← certify (collection.collected = true ∧ collection.objectId = plan.objectId ∧
      collection.containedReleases = Sorted.sortList plan.membership.slot.edges)
    ⟨.outputOwnerPublicationConflict, "collection receipt must release this output slot only"⟩
  return ⟨plan, collection, disposition, hcommitted, hown⟩

/-- Collect a published output; the inner result is returned once the metadata is gone. -/
def completeOutputPublicationCollection (self : ObjectOwnerTable ε)
    (plan : OutputOwnerPublicationCollectionPlan) :
    Except Raised (Except Raised OutputOwnerPublicationCollectionReceipt × ObjectOwnerTable ε) :=
  match self.outputCollectionReceipts.get? plan.objectId with
  | some terminal => do
      raiseIf (¬ terminal.Matches plan)
        ⟨.outputOwnerPublicationConflict, "output collection terminal identity changed"⟩
      return (outputCollectionReceipt plan terminal.collection .alreadyApplied
        OutputOwnerPublicationDisposition.alreadyApplied_committed, self)
  | none => do
      let e ← self.entry plan.objectId
      raiseIf (e.outputPublication ≠ some plan.membership)
        ⟨.outputOwnerPublicationConflict,
          "current output does not own this collection membership"⟩
      self.validateCompleteCollection plan.metadataPlan
      let (collection, table) ← self.completeCollectionLocked plan.metadataPlan
      return (outputCollectionReceipt plan collection .applied
        OutputOwnerPublicationDisposition.applied_committed, { table with
        outputCollectionReceipts := table.outputCollectionReceipts.set plan.objectId
          ⟨plan.membership.publicationId, plan.membership.manifest.manifestDigest,
            plan.membership.slotIndex, plan.collectionId,
            collectionMetadataDigest plan.metadataPlan, collection⟩ })

theorem completeOutputPublicationCollection_cases {plan : OutputOwnerPublicationCollectionPlan}
    {r : Except Raised OutputOwnerPublicationCollectionReceipt}
    (h : self.completeOutputPublicationCollection plan = .ok (r, s')) :
    self.outputCollectionReceipts.get? plan.objectId ≠ none ∧ s' = self ∨
      ∃ e collection, Completed self s' plan.metadataPlan e collection := by
  unfold completeOutputPublicationCollection at h
  cases ht : self.outputCollectionReceipts.get? plan.objectId with
  | some terminal =>
    simp only [ht, bind_eq_ok, pure_eq_ok, Prod.mk.injEq] at h
    obtain ⟨_, _, _, rfl⟩ := h
    exact .inl ⟨by rintro ⟨⟩, rfl⟩
  | none =>
    simp only [ht, bind_eq_ok, pure_eq_ok] at h
    obtain ⟨_, _, _, _, _, _, ⟨collection, table⟩, hc, h⟩ := h
    obtain ⟨_, rfl⟩ := Prod.mk.inj h
    obtain ⟨e, hc⟩ := completeCollectionLocked_cases hc
    have ho : plan.objectId = plan.metadataPlan.objectId := plan.matches_slot.1.symm
    refine .inr ⟨e, collection, ⟨hc.entry, hc.unused, hc.lineage, hc.collection_id, hc.contained,
      hc.claimed, hc.entries, hc.references, hc.publications, hc.taskLineage, hc.collected, ?_⟩⟩
    intro x hx
    rw [← hc.receipts x hx]
    exact Dict.get?_set_of_ne _ _ (ho ▸ hx.symm)

theorem completeOutputPublicationCollection_pending {plan : OutputOwnerPublicationCollectionPlan}
    {r : Except Raised OutputOwnerPublicationCollectionReceipt}
    (h : self.completeOutputPublicationCollection plan = .ok (r, s')) :
    s' = self ∨ ∃ e, self.entries.get? plan.metadataPlan.objectId = some e ∧
      e.collectionPending = true := by
  unfold completeOutputPublicationCollection at h
  cases ht : self.outputCollectionReceipts.get? plan.objectId with
  | some terminal =>
    simp only [ht, bind_eq_ok, pure_eq_ok, Prod.mk.injEq] at h
    obtain ⟨_, _, _, rfl⟩ := h
    exact .inl rfl
  | none =>
    simp only [ht, bind_eq_ok, validateCompleteCollection_eq_ok] at h
    obtain ⟨_, _, _, _, _, ⟨e, he, hpending, _⟩, _⟩ := h
    exact .inr ⟨e, he, hpending⟩

end ObjectOwnerTable

end MiniRay
