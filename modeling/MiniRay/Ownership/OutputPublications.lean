import MiniRay.Ownership.Results

/-! The owner adopts one publication per attempt, and resolves an adopted or missing one when its
publishing Node dies. -/

namespace MiniRay

open Checked

namespace OutputPublicationManifest

theorem isResultChecksum (m : OutputPublicationManifest) : IsResultChecksum m.slot.checksum :=
  isResultChecksum_of_lower m.slot.checksum_hex

/-- The descriptor a stored slot is known by: the publisher's own replica. -/
def storedDescriptor (m : OutputPublicationManifest) : ResultDescriptor where
  objectId := m.slot.objectId
  storage := .objectStore
  sizeBytes := m.slot.sizeBytes
  ownerWorkerId := m.header.ownerWorkerId
  nodeId := m.header.nodeIncarnation.nodeId
  checksum := m.slot.checksum
  inlineData := none
  inline_payload := nofun
  stored_payload := stored_none
  checksum_hex := m.isResultChecksum

end OutputPublicationManifest

namespace ObjectOwnerTable

variable {ε : Type} {self s' : ObjectOwnerTable ε} {c : CallerConditions}

/-! ## Adoption -/

/-- The result of an adopted publication as its envelope left it. -/
def AdoptedResultIntact (e : ObjectOwnerEntry ε) (attempt : AttemptID) (d : ResultDescriptor) :
    Prop :=
  if d.storage = .inline then
    e.state = .readyInline ∧ e.inlineData = d.inlineData ∧ e.canonicalStoredResult = none ∧
      e.locationAttempts.items = []
  else
    (e.state = .readyStored ∨ e.state = .lost) ∧ e.inlineData = none ∧
      e.canonicalStoredResult = some d ∧
      (∀ epoch ∈ e.locationAttempts.values, epoch = some attempt) ∧
      (e.state = .readyStored ∧ e.locationAttempts.items ≠ [] ∨
        e.state = .lost ∧ e.locationAttempts.items = [])

instance (e : ObjectOwnerEntry ε) (attempt : AttemptID) (d : ResultDescriptor) :
    Decidable (AdoptedResultIntact e attempt d) := by
  unfold AdoptedResultIntact
  split <;> infer_instance

/-- Nothing but the registration is known about the entry's result. -/
def PristinePending (e : ObjectOwnerEntry ε) : Prop :=
  e.state = .pending ∧ e.inlineData = none ∧ e.error.isNone = true ∧
    e.canonicalStoredResult = none ∧ e.locationAttempts.items = [] ∧ e.outgoingContainedEdges = ∅

instance (e : ObjectOwnerEntry ε) : Decidable (PristinePending e) :=
  inferInstanceAs (Decidable (_ ∧ _))

variable {e : ObjectOwnerEntry ε}

theorem PristinePending.pristine (h : PristinePending e) : e.toResultFields.Pristine :=
  ⟨h.1, h.2.1, by simpa using h.2.2.1, h.2.2.2.1, h.2.2.2.2.1, h.2.2.2.2.2⟩

def validateOutputPublication (self : ObjectOwnerTable ε) (plan : OutputOwnerPublicationPlan) :
    Except Raised OutputOwnerPublicationDisposition := do
  let manifest := plan.envelope.manifest
  let objectId := plan.output
  let previous := self.outputPublicationReceipts.get? plan.publicationId
  raiseIf (∃ known ∈ previous, known ≠ manifest)
    ⟨.outputOwnerPublicationConflict, "output publication identity was rebound"⟩
  if self.IsCollected objectId ∨ (plan.publicationId, objectId) ∈ self.retiredOutputSlots ∨
      (objectId, plan.execution.attemptId) ∈ self.retiredOutputAttempts ∨
      self.Dead manifest.header.ownerWorkerId then return .fenced
  let e ← self.entry objectId
  raiseIf (¬ ∃ spec ∈ e.producerTaskSpec, spec.returnIds = plan.publicationId.outputIds)
    ⟨.outputOwnerPublicationConflict,
      "output publication requires the canonical full producer lineage"⟩
  raiseIf (∃ spec ∈ e.producerTaskSpec, spec.ownerWorkerId ≠ manifest.header.ownerWorkerId ∨
      spec.jobId ≠ manifest.header.jobId)
    ⟨.outputOwnerPublicationConflict,
      "output publication owner and job must match registered lineage"⟩
  if e.currentAttempt ≠ some plan.execution.attemptId then return .fenced
  requireNotCollecting e "output collection is pending"
  requireNoOutputRetirement e
  if previous ≠ none ∧ e.outputPublication = none then return .fenced
  match e.outputPublication with
  | some membership => do
      raiseIf (membership ≠ .ofManifest manifest)
        ⟨.outputOwnerPublicationCollectionRequired,
          "output still belongs to an unretired publication"⟩
      raiseIf (previous = none)
        ⟨.outputOwnerPublicationConflict,
          "output membership exists without its publication receipt"⟩
      raiseIf (e.error.isSome = true ∨ e.outgoingContainedEdges ≠ manifest.slot.edges.toFinset)
        ⟨.outputOwnerPublicationConflict, "output publication metadata changed after commit"⟩
      raiseIf (¬ AdoptedResultIntact e plan.execution.attemptId plan.envelope.result)
        ⟨.outputOwnerPublicationConflict, "output publication result changed after commit"⟩
      return (if e.state = .lost then .fenced else .alreadyApplied)
  | none => do
      raiseIf (¬ PristinePending e)
        ⟨.outputOwnerPublicationConflict,
          "output contains partial or incompatible publication metadata"⟩
      return .applied

structure Applicable (table : ObjectOwnerTable ε) (plan : OutputOwnerPublicationPlan)
    (e : ObjectOwnerEntry ε) : Prop where
  entry : table.entries.get? plan.output = some e
  uncollected : ¬ table.IsCollected plan.output
  unretired_slot : (plan.publicationId, plan.output) ∉ table.retiredOutputSlots
  unretired : (plan.output, plan.execution.attemptId) ∉ table.retiredOutputAttempts
  owner_alive : ¬ table.Dead plan.envelope.manifest.header.ownerWorkerId
  produced : e.ProducedBy plan.envelope.manifest
  attempt : e.currentAttempt = some plan.execution.attemptId
  idle : e.collectionPending = false
  free : e.outputPublication = none
  pristine : e.Pristine

variable {plan : OutputOwnerPublicationPlan}

theorem validateOutputPublication_applied (h : self.validateOutputPublication plan = .ok .applied) :
    ∃ e, Applicable self plan e := by
  simp only [validateOutputPublication, bind_eq_ok, raiseIf_eq_ok, ite_eq_ok, pure_eq_ok,
    entry_eq_ok, requireNotCollecting_eq_ok, requireNoOutputRetirement_eq_ok, not_not] at h
  obtain ⟨_, _, ⟨_, h⟩ | ⟨hfence, e, he, _, hspec, _, howner, h⟩⟩ := h
  · cases h
  rcases h with ⟨_, h⟩ | ⟨hattempt, _, hidle, _, _, ⟨_, h⟩ | ⟨_, h⟩⟩
  · cases h
  · cases h
  simp only [not_or] at hfence
  cases hm : e.outputPublication with
  | some membership =>
    simp only [hm, bind_eq_ok, pure_eq_ok] at h
    obtain ⟨_, _, _, _, _, _, _, _, h⟩ := h
    split at h <;> cases h
  | none =>
    simp only [hm, bind_eq_ok, raiseIf_eq_ok, not_not] at h
    obtain ⟨_, hpristine, _⟩ := h
    obtain ⟨spec, hs, hids⟩ := hspec
    have howner : spec.ownerWorkerId = plan.envelope.manifest.header.ownerWorkerId ∧
        spec.jobId = plan.envelope.manifest.header.jobId := by
      by_contra hne
      exact howner ⟨spec, hs, by tauto⟩
    exact ⟨e, he, hfence.1, hfence.2.1, hfence.2.2.1, hfence.2.2.2,
      ⟨spec, hs, hids, howner⟩, hattempt, hidle, hm, hpristine.pristine⟩

theorem validateOutputPublication_alreadyApplied
    (h : self.validateOutputPublication plan = .ok .alreadyApplied) :
    ∃ e, self.entries.get? plan.output = some e ∧
      e.currentAttempt = some plan.execution.attemptId ∧
      AdoptedResultIntact e plan.execution.attemptId plan.envelope.result := by
  simp only [validateOutputPublication, bind_eq_ok, raiseIf_eq_ok, ite_eq_ok, pure_eq_ok,
    entry_eq_ok, requireNotCollecting_eq_ok, requireNoOutputRetirement_eq_ok, not_not] at h
  obtain ⟨_, _, ⟨_, h⟩ | ⟨_, e, he, _, _, _, _, h⟩⟩ := h
  · cases h
  rcases h with ⟨_, h⟩ | ⟨hattempt, _, _, _, _, ⟨_, h⟩ | ⟨_, h⟩⟩
  · cases h
  · cases h
  refine ⟨e, he, hattempt, ?_⟩
  cases hm : e.outputPublication with
  | some membership =>
    simp only [hm, bind_eq_ok, raiseIf_eq_ok, not_not] at h
    obtain ⟨_, _, _, _, _, _, _, hintact, _⟩ := h
    exact hintact
  | none =>
    simp only [hm, bind_eq_ok, pure_eq_ok] at h
    obtain ⟨_, _, h⟩ := h
    cases h

/-- The entry an adopted publication leaves. -/
def adopt (plan : OutputOwnerPublicationPlan) (e : ObjectOwnerEntry ε)
    (he : e.objectId = plan.output) : ObjectOwnerEntry ε :=
  let d := plan.envelope.result
  { e with
    state := if d.storage = .inline then .readyInline else .readyStored
    inlineData := if d.storage = .inline then d.inlineData else none
    canonicalStoredResult := if d.storage = .inline then none else some d
    error := none
    locationAttempts := if d.storage = .inline then .empty
      else Dict.empty.set d.nodeId (some plan.execution.attemptId)
    outgoingContainedEdges := plan.envelope.manifest.slot.edges.toFinset
    outputPublication := some (.ofManifest plan.envelope.manifest)
    own_edges := fun x hx => by
      rw [plan.envelope.manifest.slot.container_of_mem_edges (List.mem_toFinset.mp hx), he]
      exact plan.envelope.manifest.slot_objectId }

/-- Publish the result and its contained-reference edges atomically. -/
def commitOutputPublication (self : ObjectOwnerTable ε) (plan : OutputOwnerPublicationPlan) :
    Except Raised (OutputOwnerPublicationReceipt × ObjectOwnerTable ε) := do
  let disposition ← self.validateOutputPublication plan
  if disposition ≠ .applied then return (⟨plan, disposition⟩, self)
  let e ← self.subscript plan.output
  return (⟨plan, .applied⟩,
    { self.setEntry (adopt plan e.val e.property) with
      outputPublicationReceipts :=
        self.outputPublicationReceipts.set plan.publicationId plan.envelope.manifest })

variable {receipt : OutputOwnerPublicationReceipt}

section

variable (h : self.commitOutputPublication plan = .ok (receipt, s'))
include h

theorem commitOutputPublication_cases :
    receipt.disposition ≠ .applied ∧
        self.validateOutputPublication plan = .ok receipt.disposition ∧ s' = self ∨
      receipt.disposition = .applied ∧ ∃ e, ∃ he : e.objectId = plan.output,
        Applicable self plan e ∧ s' = { self.setEntry (adopt plan e he) with
          outputPublicationReceipts :=
            self.outputPublicationReceipts.set plan.publicationId plan.envelope.manifest } := by
  simp only [commitOutputPublication, bind_eq_ok, ite_eq_ok, pure_eq_ok, Prod.mk.injEq,
    subscript_eq_ok, not_not, ne_eq] at h
  obtain ⟨disposition, hv, ⟨hne, rfl, rfl⟩ | ⟨rfl, e, he, rfl, rfl⟩⟩ := h
  · exact .inl ⟨hne, hv, rfl⟩
  · obtain ⟨e₁, happ⟩ := validateOutputPublication_applied hv
    cases he.symm.trans happ.entry
    exact .inr ⟨rfl, e.val, e.property, happ, rfl⟩

theorem commitOutputPublication_receipts (p : OutputPublicationID) (m : OutputPublicationManifest)
    (hp : self.outputPublicationReceipts.get? p = some m) :
    s'.outputPublicationReceipts.get? p = some m := by
  simp only [commitOutputPublication, bind_eq_ok, ite_eq_ok, pure_eq_ok, Prod.mk.injEq] at h
  obtain ⟨_, hv, ⟨_, _, rfl⟩ | ⟨_, _, _, _, rfl⟩⟩ := h
  · exact hp
  · simp only [validateOutputPublication, bind_eq_ok, raiseIf_eq_ok] at hv
    obtain ⟨_, hbound, _⟩ := hv
    simp only [Dict.get?_set]
    split
    · next hid =>
        by_contra hne
        exact hbound ⟨m, hid ▸ hp, fun heq => hne (congrArg some heq.symm)⟩
    · exact hp

theorem commitOutputPublication_moves :
    Moves c self s' := by
  rcases commitOutputPublication_cases h with ⟨_, _, rfl⟩ | ⟨_, e, hid, happ, rfl⟩
  · exact .same
  · refine .inr ⟨e, adopt plan e hid, get?_objectId happ.entry, rfl, rfl, rfl, rfl,
      fun _ => happ.idle, ?_, Finset.Subset.refl _, rfl, rfl⟩
    have hattempt : e.currentAttempt = some plan.envelope.publicationId.attemptId :=
      happ.attempt.trans (congrArg some plan.attempt_eq)
    have hunretired : e.toResultFields.Unretired self.toPublicationHistory e.objectId := by
      intro a ha
      rw [hid, ← Option.some_inj.mp (happ.attempt.symm.trans ha)]
      exact happ.unretired
    simpa only [adopt, happ.attempt] using ResultMove.adopted plan.envelope hid.symm hattempt
      happ.pristine happ.free hunretired happ.produced

end

/-! ## Loss of the publishing Node -/

/-- The result of a published slot as its manifest describes it. -/
def PublishedResultIntact (e : ObjectOwnerEntry ε) (manifest : OutputPublicationManifest) : Prop :=
  if manifest.slot.tier = .inline then
    e.state = .readyInline ∧
      (∃ data ∈ e.inlineData, data.length = manifest.slot.sizeBytes ∧
        Sha256.hexdigest data = manifest.slot.checksum) ∧
      e.canonicalStoredResult = none ∧ e.locationAttempts.items = []
  else
    (e.state = .readyStored ∨ e.state = .lost) ∧ e.inlineData = none ∧
      e.canonicalStoredResult = some manifest.storedDescriptor ∧
      (∀ epoch ∈ e.locationAttempts.values, epoch = some manifest.publicationId.attemptId) ∧
      (e.state = .readyStored ∧ e.locationAttempts.items ≠ [] ∨
        e.state = .lost ∧ e.locationAttempts.items = [])

instance (e : ObjectOwnerEntry ε) (manifest : OutputPublicationManifest) :
    Decidable (PublishedResultIntact e manifest) := by
  unfold PublishedResultIntact
  cases e.inlineData <;> infer_instance

/-- The checks a resolution makes on its slot. -/
def validateLossSlot (self : ObjectOwnerTable ε) (manifest : OutputPublicationManifest)
    (resolution : NodeLostOutputResolution) (unavailable : List NodeID) (e : ObjectOwnerEntry ε) :
    Except Raised Unit := do
  let identity := manifest.publicationId
  let previous := self.outputPublicationReceipts.get? identity
  requireNoOutputRetirement e
  raiseIf (e.currentAttempt ≠ some identity.attemptId ∨ e.collectionPending = true ∨
      e.collectionPlan ≠ none ∨ e.outputRetirementId ≠ none ∨
      (e.objectId, identity.attemptId) ∈ self.retiredOutputAttempts ∨
      (identity, e.objectId) ∈ self.retiredOutputSlots)
    ⟨.outputOwnerPublicationConflict, "Node-loss owner slot is fenced"⟩
  raiseIf (∃ membership ∈ e.outputPublication, membership ≠ .ofManifest manifest)
    ⟨.outputOwnerPublicationConflict, "Node-loss slot belongs to another publication"⟩
  (if e.outputPublication = none then
    raiseIf (¬ PristinePending e)
      ⟨.outputOwnerPublicationConflict,
        "unreceived Node-loss slot contains partial result metadata"⟩
  else do
    raiseIf (previous ≠ some manifest ∨ resolution.complete = none ∨ e.error.isSome = true ∨
        e.outgoingContainedEdges ≠ manifest.slot.edges.toFinset)
      ⟨.outputOwnerPublicationConflict, "published Node-loss slot lost its Complete identity"⟩
    raiseIf (¬ PublishedResultIntact e manifest)
      ⟨.outputOwnerPublicationConflict,
        "published Node-loss slot changed canonical result metadata"⟩)
  raiseIf (resolution.keep = true ∧ manifest.slot.tier = .objectStore ∧ e.outputPublication = none)
    ⟨.outputOwnerPublicationConflict,
      "STORED KEEP requires an already-adopted output membership"⟩
  raiseIf (resolution.keep = false ∧ manifest.slot.tier = .objectStore ∧
      ∃ node ∈ e.locationAttempts.keys, node ∉ unavailable)
    ⟨.outputOwnerPublicationConflict,
      "discard requires surviving replicas to be dropped before owner cleanup"⟩

/-- An accepted slot is current and is either pristine or the published one. -/
structure LossSlot (table : ObjectOwnerTable ε) (manifest : OutputPublicationManifest)
    (resolution : NodeLostOutputResolution) (e : ObjectOwnerEntry ε) : Prop where
  attempt : e.currentAttempt = some manifest.publicationId.attemptId
  idle : e.collectionPending = false
  unretired : (e.objectId, manifest.publicationId.attemptId) ∉ table.retiredOutputAttempts
  member : e.outputPublication = none ∧ e.Pristine ∨
    e.outputPublication = some (.ofManifest manifest) ∧ resolution.complete ≠ none ∧
      e.outgoingContainedEdges = manifest.slot.edges.toFinset ∧ PublishedResultIntact e manifest
  stored_keep : resolution.keep = true → manifest.slot.tier = .objectStore →
    e.outputPublication ≠ none

variable {manifest : OutputPublicationManifest} {resolution : NodeLostOutputResolution}
  {nodes : List NodeID}

theorem validateLossSlot_cases {u : Unit}
    (h : self.validateLossSlot manifest resolution nodes e = .ok u) :
    LossSlot self manifest resolution e := by
  simp only [validateLossSlot, bind_eq_ok, raiseIf_eq_ok, ite_eq_ok,
    requireNoOutputRetirement_eq_ok, not_not, not_or] at h
  obtain ⟨_, _, _, ⟨hattempt, hidle, _, _, hunretired, _⟩, _, hother, _, hmember, _, hkeep, _⟩ := h
  refine ⟨hattempt, by simpa using hidle, hunretired, ?_,
    fun hk ht hn => hkeep ⟨hk, ht, hn⟩⟩
  rcases hmember with ⟨hnone, hpristine⟩ | ⟨hsome, _, ⟨_, hcomplete, _, hedges⟩, hintact⟩
  · exact .inl ⟨hnone, hpristine.pristine⟩
  · obtain ⟨membership, hm⟩ := Option.ne_none_iff_exists'.mp hsome
    have heq : membership = .ofManifest manifest := by
      by_contra hne
      exact hother ⟨membership, hm, hne⟩
    exact .inr ⟨hm.trans (congrArg some heq), hcomplete, hedges, hintact⟩

def keepOutput (manifest : OutputPublicationManifest) (data : Option (List UInt8))
    (unavailable : List NodeID) (e : ObjectOwnerEntry ε)
    (he : e.objectId = manifest.slot.objectId) : ObjectOwnerEntry ε :=
  let surviving := e.locationAttempts.filter fun node _ => !decide (node ∈ unavailable)
  { e with
    error := none
    inlineData := if manifest.slot.tier = .inline then data else none
    state := if manifest.slot.tier = .inline then .readyInline
      else if surviving.items = [] then .lost else .readyStored
    locationAttempts := if manifest.slot.tier = .inline then .empty else surviving
    canonicalStoredResult :=
      if manifest.slot.tier = .inline then none else e.canonicalStoredResult
    outputPublication := some (.ofManifest manifest)
    outgoingContainedEdges := manifest.slot.edges.toFinset
    own_edges := fun x hx => by
      rw [manifest.slot.container_of_mem_edges (List.mem_toFinset.mp hx), he] }

def discardOutput (resolution : NodeLostOutputResolution) (e : ObjectOwnerEntry ε) :
    ObjectOwnerEntry ε :=
  { e with
    error := none
    inlineData := none
    locationAttempts := .empty
    canonicalStoredResult := none
    state := if resolution.complete.isSome then .lost else .pending
    outputPublication := none
    outgoingContainedEdges := ∅
    own_edges := e.own_empty }

/-- Apply a local keep-or-discard receipt after the publisher's death. -/
def resolveOutputNodeLoss (self : ObjectOwnerTable ε) (manifest : OutputPublicationManifest)
    (resolution : NodeLostOutputResolution) (envelope : Option OutputPublicationEnvelope)
    (unavailableNodes : List NodeID) : Except Raised (Bool × ObjectOwnerTable ε) := do
  (resolution.validateManifest manifest).mapError fun message =>
    (⟨.outputHandoffConflict, message⟩ : Raised)
  let publisher := manifest.header.nodeIncarnation
  let death := resolution.nodeDeath
  raiseIf ((death.nodeId, death.nodePid, death.registrationEpoch) ≠
      (publisher.nodeId, publisher.nodePid, publisher.registrationEpoch))
    ⟨.outputOwnerPublicationConflict,
      "Node-loss resolution changed publishing Node incarnation"⟩
  let unavailable := publisher.nodeId :: unavailableNodes
  raiseIf (∃ kept ∈ envelope, kept.manifest ≠ manifest ∨ some kept.complete ≠ resolution.complete)
    ⟨.outputOwnerPublicationConflict, "retained envelope changed resolution"⟩
  raiseIf (resolution.keep = true ∧ envelope = none ∧ manifest.slot.tier = .inline)
    ⟨.outputOwnerPublicationConflict, "KEEP requires locally retained output bytes"⟩
  let identity := manifest.publicationId
  match self.outputLossReceipts.get? identity with
  | some prior => do
      raiseIf (prior ≠ resolution)
        ⟨.outputOwnerPublicationConflict, "Node-loss owner resolution was rebound"⟩
      return (false, self)
  | none => do
      let e ← self.keyedEntry manifest.slot.objectId
      raiseIf (¬ ∃ spec ∈ e.val.producerTaskSpec, spec.returnIds = identity.outputIds ∧
          spec.jobId = manifest.header.jobId ∧ spec.ownerWorkerId = manifest.header.ownerWorkerId)
        ⟨.outputOwnerPublicationConflict, "Node-loss resolution requires exact producer lineage"⟩
      raiseIf (∃ previous ∈ self.outputPublicationReceipts.get? identity, previous ≠ manifest)
        ⟨.outputOwnerPublicationConflict,
          "Node-loss publication changed its committed manifest"⟩
      self.validateLossSlot manifest resolution unavailable e.val
      let receipts := if resolution.complete.isSome then
          self.outputPublicationReceipts.set identity manifest
        else self.outputPublicationReceipts
      let losses := self.outputLossReceipts.set identity resolution
      if resolution.keep = true then
        return (true, { self.setEntry (keepOutput manifest
            (envelope.bind fun kept => kept.result.inlineData) unavailable e.val e.property) with
          outputPublicationReceipts := receipts
          outputLossReceipts := losses })
      return (true, { self.setEntry (discardOutput resolution e.val) with
        retiredOutputSlots := insert (identity, manifest.slot.objectId) self.retiredOutputSlots
        retiredOutputAttempts := if resolution.complete.isSome then
            insert (manifest.slot.objectId, identity.attemptId) self.retiredOutputAttempts
          else self.retiredOutputAttempts
        outputPublicationReceipts := receipts
        outputLossReceipts := losses })

structure Resolvable (table : ObjectOwnerTable ε) (manifest : OutputPublicationManifest)
    (resolution : NodeLostOutputResolution) (envelope : Option OutputPublicationEnvelope)
    (e : ObjectOwnerEntry ε) : Prop where
  entry : table.entries.get? e.objectId = some e
  objectId : e.objectId = manifest.slot.objectId
  produced : e.ProducedBy manifest
  slot : LossSlot table manifest resolution e
  bytes : resolution.keep = true → manifest.slot.tier = .inline →
    ∃ kept data, envelope = some kept ∧ kept.result.inlineData = some data

def SlotRetired (s : ObjectOwnerTable ε) (manifest : OutputPublicationManifest)
    (resolution : NodeLostOutputResolution) : Prop :=
  (manifest.publicationId, manifest.slot.objectId) ∈ s.retiredOutputSlots ∧
    (resolution.complete ≠ none →
      (manifest.slot.objectId, manifest.publicationId.attemptId) ∈ s.retiredOutputAttempts)

variable {envelope : Option OutputPublicationEnvelope} {b : Bool}

theorem resolveOutputNodeLoss_cases
    (h : self.resolveOutputNodeLoss manifest resolution envelope nodes = .ok (b, s')) :
    b = false ∧ s' = self ∨ b = true ∧ ∃ e e', ∃ he : e.objectId = manifest.slot.objectId,
      Resolvable self manifest resolution envelope e ∧
      s'.entries = (self.setEntry e').entries ∧
      s'.toReferenceHistory = self.toReferenceHistory ∧
      s'.toCollectionHistory = self.toCollectionHistory ∧
      (resolution.keep = true ∧ e' = keepOutput manifest
          (envelope.bind fun kept => kept.result.inlineData)
          (manifest.header.nodeIncarnation.nodeId :: nodes) e he ∧
          s'.retiredOutputSlots = self.retiredOutputSlots ∧
          s'.retiredOutputAttempts = self.retiredOutputAttempts ∨
        resolution.keep = false ∧ e' = discardOutput resolution e ∧
          SlotRetired s' manifest resolution ∧
          self.retiredOutputAttempts ⊆ s'.retiredOutputAttempts) := by
  simp only [resolveOutputNodeLoss, bind_eq_ok, mapError_eq_ok, raiseIf_eq_ok, not_not] at h
  obtain ⟨_, _, _, _, _, henvelope, _, hbytes, h⟩ := h
  cases hp : self.outputLossReceipts.get? manifest.publicationId with
  | some prior =>
    simp only [hp, bind_eq_ok, pure_eq_ok, Prod.mk.injEq] at h
    obtain ⟨_, _, rfl, rfl⟩ := h
    exact .inl ⟨rfl, rfl⟩
  | none =>
    simp only [hp, bind_eq_ok, keyedEntry_eq_ok, raiseIf_eq_ok, not_not, ite_eq_ok, pure_eq_ok,
      Prod.mk.injEq] at h
    obtain ⟨e, he, _, ⟨spec, hs, hids, hjob, howner⟩, _, _, _, hslot, h⟩ := h
    have hres : Resolvable self manifest resolution envelope e.val := by
      refine ⟨get?_objectId he, e.property, ⟨spec, hs, hids, howner, hjob⟩,
        validateLossSlot_cases hslot, ?_⟩
      intro hk ht
      cases hv : envelope with
      | none => exact absurd ⟨hk, hv, ht⟩ hbytes
      | some kept =>
        have hm : kept.manifest = manifest := by
          by_contra hne
          exact henvelope ⟨kept, hv, .inl hne⟩
        have hd := kept.describesSlot.1
        rw [hm, ht] at hd
        obtain ⟨data, hdata, _⟩ := Option.map_eq_some_iff.mp (kept.result.inline_payload hd).1
        exact ⟨kept, data, rfl, hdata⟩
    rcases h with ⟨hk, rfl, rfl⟩ | ⟨hk, rfl, rfl⟩
    · exact .inr ⟨rfl, e.val, _, e.property, hres, rfl, rfl, rfl, .inl ⟨hk, rfl, rfl, rfl⟩⟩
    · refine .inr ⟨rfl, e.val, _, e.property, hres, rfl, rfl, rfl,
        .inr ⟨by simpa using hk, rfl, ?_, ?_⟩⟩
      · refine ⟨Finset.mem_insert_self _ _, fun hc => ?_⟩
        simp [Option.isSome_iff_ne_none.mpr hc]
      · simp only
        split
        · exact Finset.subset_insert _ _
        · exact Finset.Subset.refl _

/-- What a resolution leaves of the table's records. -/
structure ResolvesQuietly (table s' : ObjectOwnerTable ε) (manifest : OutputPublicationManifest) :
    Prop where
  unmarked : ∀ e, table.entries.get? manifest.slot.objectId = some e →
    e.outputRetirementId = none
  plans : s'.outputRetirementPlans = table.outputRetirementPlans
  receipts : s'.outputRetirementReceipts = table.outputRetirementReceipts
  publications : ∀ p m, table.outputPublicationReceipts.get? p = some m →
    s'.outputPublicationReceipts.get? p = some m

theorem resolveOutputNodeLoss_quiet
    (h : self.resolveOutputNodeLoss manifest resolution envelope nodes = .ok (b, s')) :
    s' = self ∨ ResolvesQuietly self s' manifest := by
  simp only [resolveOutputNodeLoss, bind_eq_ok] at h
  obtain ⟨_, _, _, _, _, _, _, _, h⟩ := h
  cases hp : self.outputLossReceipts.get? manifest.publicationId with
  | some prior =>
    simp only [hp, bind_eq_ok, pure_eq_ok, Prod.mk.injEq] at h
    obtain ⟨_, _, _, rfl⟩ := h
    exact .inl rfl
  | none =>
    simp only [hp, bind_eq_ok, keyedEntry_eq_ok, raiseIf_eq_ok, ite_eq_ok, pure_eq_ok,
      Prod.mk.injEq] at h
    obtain ⟨e, he, _, _, _, hbound, _, hslot, h⟩ := h
    simp only [validateLossSlot, bind_eq_ok, requireNoOutputRetirement_eq_ok] at hslot
    obtain ⟨_, hopen, _⟩ := hslot
    have hunmarked : ∀ e, self.entries.get? manifest.slot.objectId = some e →
        e.outputRetirementId = none := by
      intro e₁ he₁
      cases he.symm.trans he₁
      exact hopen
    have hreceipts : ∀ receipts : Dict OutputPublicationID OutputPublicationManifest,
        receipts = self.outputPublicationReceipts ∨
          receipts = self.outputPublicationReceipts.set manifest.publicationId manifest →
        ∀ p m, self.outputPublicationReceipts.get? p = some m → receipts.get? p = some m := by
      rintro receipts (rfl | rfl) p m hp
      · exact hp
      · rw [Dict.get?_set]
        split
        · next hid =>
            by_contra hne
            exact hbound ⟨m, hid ▸ hp, fun heq => hne (congrArg some heq.symm)⟩
        · exact hp
    have hset : ∀ b : Bool, (if b then
        self.outputPublicationReceipts.set manifest.publicationId manifest
          else self.outputPublicationReceipts) = self.outputPublicationReceipts ∨
        (if b then self.outputPublicationReceipts.set manifest.publicationId manifest
          else self.outputPublicationReceipts) =
          self.outputPublicationReceipts.set manifest.publicationId manifest := by
      intro b
      cases b
      · exact .inl rfl
      · exact .inr rfl
    rcases h with ⟨_, _, rfl⟩ | ⟨_, _, rfl⟩
    · exact .inr ⟨hunmarked, rfl, rfl, hreceipts _ (hset _)⟩
    · exact .inr ⟨hunmarked, rfl, rfl, hreceipts _ (hset _)⟩

/-- The kept envelope has the inline bytes the entry has; the call itself compares the
envelope with the manifest, and the entry's bytes with the manifest's size and checksum. -/
def HandsBackBytes (self : ObjectOwnerTable ε) (manifest : OutputPublicationManifest)
    (envelope : Option OutputPublicationEnvelope) : Prop :=
  ∀ e, self.entries.get? manifest.slot.objectId = some e → ∀ kept, envelope = some kept →
    ∀ data known, kept.result.inlineData = some data → e.inlineData = some known → data = known

theorem resolveOutputNodeLoss_moves
    (h : self.resolveOutputNodeLoss manifest resolution envelope nodes = .ok (b, s'))
    (hretires : resolution.keep = false →
      c.retires manifest.slot.objectId manifest.publicationId.attemptId)
    (hbytes : c.bytes → self.HandsBackBytes manifest envelope) : Moves c self s' := by
  rcases resolveOutputNodeLoss_cases h with ⟨_, rfl⟩ |
    ⟨_, e, e', he, hres, hentries, href, hcol, ⟨hk, rfl, _, hret⟩ | ⟨hk, rfl, hslot, hret⟩⟩
  · exact .same
  · have hoid : manifest.publicationId.output = e.objectId := by rw [he, manifest.slot_objectId]
    refine .inr ⟨e, _, hres.entry, hentries, rfl, rfl, rfl, fun _ => hres.slot.idle, ?_,
      hret ▸ Finset.Subset.refl _, href, hcol⟩
    cases ht : manifest.slot.tier with
    | inline =>
      obtain ⟨kept, data, rfl, hdata⟩ := hres.bytes hk ht
      have hfound : e.canonicalStoredResult = none ∧
          (e.state = .pending ∨ e.state = .readyInline) := by
        rcases hres.slot.member with ⟨_, hp⟩ | ⟨_, _, _, hi⟩
        · exact ⟨hp.canonical, .inl hp.pending⟩
        · rw [PublishedResultIntact, if_pos ht] at hi
          exact ⟨hi.2.2.1, .inr hi.1⟩
      have hmember := hres.slot.member.imp And.left And.left
      have hunretired : e.toResultFields.Unretired self.toPublicationHistory e.objectId := by
        intro a ha
        rw [← Option.some_inj.mp (hres.slot.attempt.symm.trans ha)]
        exact hres.slot.unretired
      simpa [keepOutput, ht, hdata] using ResultMove.keptInline manifest data hoid
        hres.slot.attempt hmember ht hfound.1 hres.produced hunretired hfound.2
        fun hc known hknown => hbytes hc e (he ▸ hres.entry) kept rfl data known hdata hknown
    | objectStore =>
      rcases hres.slot.member with ⟨hn, _⟩ | ⟨hm, _, hedges, hi⟩
      · exact absurd hn (hres.slot.stored_keep hk ht)
      · rw [PublishedResultIntact, if_neg (by simp [ht])] at hi
        obtain ⟨hstate, _, _, hepochs, _⟩ := hi
        simpa [keepOutput, ht, hm, hedges] using ResultMove.keptStored manifest
          (fun node => decide (node ∈ manifest.header.nodeIncarnation.nodeId :: nodes)) hm
          (fun n a ha => (hepochs a (Dict.mem_values_iff.mpr ⟨n, ha⟩)).trans
            hres.slot.attempt.symm) hstate hedges
  · refine .inr ⟨e, _, hres.entry, hentries, rfl, rfl, rfl, fun _ => hres.slot.idle, ?_, hret,
      href, hcol⟩
    refine .discarded _ resolution.complete.isSome hres.slot.attempt ?_ ?_ ?_
    · rw [he]
      exact hretires hk
    · intro hc
      rw [he]
      exact hslot.2 (Option.isSome_iff_ne_none.mp hc)
    · intro hc
      rcases hres.slot.member with ⟨hn, hp⟩ | ⟨_, hcomplete, _⟩
      · exact ⟨hp, hn⟩
      · simp [Option.isSome_iff_ne_none.mpr hcomplete] at hc

end ObjectOwnerTable

end MiniRay
