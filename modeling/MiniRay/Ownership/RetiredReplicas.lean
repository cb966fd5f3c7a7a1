import MiniRay.Ownership.Adoption
import MiniRay.Ownership.Records
import MiniRay.Ownership.RetirementSpec

/-! The owner answers for a replica that was sealed late. What it lets be deleted belongs to an
attempt that is over, or to an object under collection, whatever was published since. -/

namespace MiniRay

open Checked Run

namespace ObjectStoreDescriptor

def check (self : ObjectStoreDescriptor) : Except Raised Unit := do
  raiseIf (¬ Uint64 self.objectId.returnIndex)
    ⟨.valueError, "return_index must be a non-negative uint64"⟩
  raiseIf (¬ Uint64 self.producerAttemptId.attemptNumber)
    ⟨.valueError, "attempt_number must be a non-negative uint64"⟩

def drop (self : ObjectStoreDescriptor) : DropObjectReplica :=
  ⟨self.objectId, self.producerAttemptId, self.ownerWorkerId, self.nodeId, self.checksum,
    self.attempt_task, self.checksum_hex⟩

end ObjectStoreDescriptor

namespace ObjectOwnerTable

variable {ε : Type}

/-- The membership is of the descriptor's attempt, and nothing has started to end it. -/
def Stands (self : ObjectOwnerTable ε) (descriptor : ObjectStoreDescriptor)
    (rejected : List OutputPublicationID) (e : ObjectOwnerEntry ε)
    (current : OutputOwnerPublicationMembership) : Prop :=
  current.publicationId.attemptId = descriptor.producerAttemptId ∧
    current.publicationId ∉ rejected ∧
    (current.publicationId, descriptor.objectId) ∉ self.retiredOutputSlots ∧
    e.collectionPending = false ∧ e.outputRetirementId = none

instance (self : ObjectOwnerTable ε) (descriptor : ObjectStoreDescriptor)
    (rejected : List OutputPublicationID) (e : ObjectOwnerEntry ε)
    (current : OutputOwnerPublicationMembership) :
    Decidable (self.Stands descriptor rejected e current) := inferInstanceAs (Decidable (_ ∧ _))

/-- The publication of the object is over, or about to be. -/
def Retired (self : ObjectOwnerTable ε) (objectId : ObjectID) (rejected : List OutputPublicationID)
    (identity : OutputPublicationID) : Prop :=
  identity ∈ rejected ∨ (identity, objectId) ∈ self.retiredOutputSlots ∨
    (objectId, identity.attemptId) ∈ self.retiredOutputAttempts ∨
    (∃ e ∈ self.entries.get? objectId,
      (∃ current ∈ e.outputPublication, current.publicationId = identity) ∧
        (e.collectionPending = true ∨ e.outputRetirementId ≠ none)) ∨
    self.IsCollected objectId

instance (self : ObjectOwnerTable ε) (objectId : ObjectID) (rejected : List OutputPublicationID)
    (identity : OutputPublicationID) : Decidable (self.Retired objectId rejected identity) :=
  inferInstanceAs (Decidable (_ ∨ _))

/-- Validate the cleanup of a late replica against the publication history. -/
def retiredOutputReplica (self : ObjectOwnerTable ε) (descriptor : ObjectStoreDescriptor)
    (rejected : List OutputPublicationID) : Except Raised (Option DropObjectReplica) := do
  descriptor.check
  let objectId := descriptor.objectId
  if ∃ e ∈ self.entries.get? objectId, ∃ current ∈ e.outputPublication,
      self.Stands descriptor rejected e current then return none
  match self.outputPublicationReceipts.items.find? fun receipt =>
      decide (receipt.1.attemptId = descriptor.producerAttemptId ∧
        objectId ∈ receipt.1.outputIds ∧ self.Retired objectId rejected receipt.1) with
  | none => return none
  | some (_, manifest) => do
      raiseIf (manifest.slot.tier ≠ .objectStore ∨
          descriptor.ownerWorkerId ≠ manifest.header.ownerWorkerId ∨
          descriptor.sizeBytes ≠ manifest.slot.sizeBytes ∨
          descriptor.checksum ≠ manifest.slot.checksum)
        ⟨.outputOwnerPublicationConflict,
          "late replica conflicts with retired publication metadata"⟩
      return some descriptor.drop

/-- The identity of a stored collection that is under way or over. -/
def storedCollection (self : ObjectOwnerTable ε) (objectId : ObjectID) :
    Except Raised (Option StoredCollectionIdentity) :=
  match self.storedCollectionHistory.get? objectId, self.entries.get? objectId with
  | some history, entry => do
      raiseIf (entry.isSome = true ∨
          self.collected.get? objectId ≠ some history.collectionId)
        ⟨.outputOwnerPublicationConflict, "stored collection history conflicts with owner state"⟩
      return some history
  | none, none => return none
  | none, some e =>
    if e.collectionPending = false then return none
    else match e.collectionPlan with
      | some plan => storedCollectionIdentity e plan
      -- A collection that is pending has its plan.
      | none => throw ⟨.outputOwnerPublicationConflict,
          "generic stored collection lacks a frozen canonical claim"⟩

/-- Validate the cleanup of a late generic replica against a collection. -/
def retiredStoredReplica (self : ObjectOwnerTable ε) (descriptor : ObjectStoreDescriptor) :
    Except Raised (Option DropObjectReplica) := do
  descriptor.check
  match ← self.storedCollection descriptor.objectId with
  | none => return none
  | some history => do
      raiseIf (¬ (descriptor.objectId = history.objectId ∧
          descriptor.producerAttemptId = history.producerAttemptId ∧
          descriptor.ownerWorkerId = history.ownerWorkerId ∧
          descriptor.sizeBytes = history.sizeBytes ∧ descriptor.checksum = history.checksum))
        ⟨.outputOwnerPublicationConflict,
          "late replica conflicts with collected stored identity"⟩
      return some descriptor.drop

end ObjectOwnerTable

/-! ## What a retired attempt leaves -/

namespace ResultFields

variable {ε : Type} {r r' : ResultFields ε} {c : CallerConditions} {h h' : PublicationHistory}
  {o : ObjectID}

/-- No publication, and no stored value. -/
def Emptied (r : ResultFields ε) : Prop := r.outputPublication = none ∧ r.state ≠ .readyStored

theorem Emptied.move {a : AttemptID} (hr : r.currentAttempt = some a → r.Emptied)
    (hretired : (o, a) ∈ h.retiredOutputAttempts) (hv : c.validated)
    (hm : ResultMove c h h' o r r') (ha : r'.currentAttempt = some a) : r'.Emptied := by
  cases hm with
  | advanced next free => exact ⟨free, nofun⟩
  | publishedInline => exact ⟨(hr ha).1, nofun⟩
  | publishedStored _ _ _ _ _ _ unretired => exact absurd hretired (unretired a ha)
  | replicated _ _ state => exact absurd state (hr ha).2
  | republishedStored _ state => exact absurd state (hr ha).2
  | forgotReplica node => exact ⟨(hr ha).1, by simp [(hr ha).2]⟩
  | lost state => exact absurd state (hr ha).2
  | failed => exact ⟨(hr ha).1, nofun⟩
  | assigned _ trust => exact absurd hv trust
  | adopted _ _ _ _ _ unretired => exact absurd hretired (unretired a ha)
  | keptInline _ _ _ _ _ _ _ _ unretired => exact absurd hretired (unretired a ha)
  | keptStored _ _ member => cases (hr ha).1.symm.trans member
  | discarded _ completed => exact ⟨rfl, by cases completed <;> simp⟩
  | retired _ state => exact ⟨rfl, by simp [state]⟩
  | _ => exact hr ha

theorem unmarked_move (hm : ResultMove c h h' o r r')
    (hplans : h'.outputRetirementPlans = h.outputRetirementPlans)
    (hr : r.outputRetirementId = none) : r'.outputRetirementId = none := by
  cases hm with
  | assigned _ _ _ _ _ _ retirement => exact retirement.trans hr
  | retiring _ fresh recorded =>
    rw [hplans] at recorded
    exact absurd fresh recorded
  | retired => rfl
  | _ => exact hr

end ResultFields

theorem ObjectOwnerEntry.Frozen.of_same {ε : Type} {e e' : ObjectOwnerEntry ε} (h : e.Frozen)
    (hsame : e.SameResult e') : e'.Frozen := by
  obtain ⟨hresult, hcollection⟩ := hsame
  have hmarked := h.marked
  have hlost := h.lost
  have hpublished := h.published
  have hvacant := h.vacant
  rw [← hresult] at hmarked hlost hpublished hvacant
  exact ⟨hmarked, hlost, hpublished, hvacant, hcollection.trans h.unclaimed⟩

namespace ObjectOwnerTable

variable {ε : Type} {s s' : ObjectOwnerTable ε}

/-! ## The records of publications -/

/-- What late cleanup relies on. -/
structure LateSafe (s : ObjectOwnerTable ε) : Prop where
  receipts : ∀ p, s.outputPublicationReceipts.get? p ≠ none → s.Adopted p ∨ s.Closed p
  slots : ∀ p, (p, p.output) ∈ s.retiredOutputSlots →
    s.outputPublicationReceipts.get? p ≠ none → (p.output, p.attemptId) ∈ s.retiredOutputAttempts
  attempts : ∀ o a, (o, a) ∈ s.retiredOutputAttempts → ∀ e, s.entries.get? o = some e →
    e.currentAttempt = some a → e.Emptied
  marked : ∀ o e, s.entries.get? o = some e → e.outputRetirementId ≠ none → e.Frozen
  uncollected : ∀ o e, s.entries.get? o = some e → ¬ s.IsCollected o

/-- What one call adds to the records of publications. -/
structure HistoryMove (s s' : ObjectOwnerTable ε) : Prop where
  receipts : ∀ p, s'.outputPublicationReceipts.get? p ≠ none →
    s.outputPublicationReceipts.get? p ≠ none ∨ s'.Adopted p ∨ s'.Closed p
  slots : ∀ p, (p, p.output) ∈ s'.retiredOutputSlots →
    s'.outputPublicationReceipts.get? p ≠ none →
      (p.output, p.attemptId) ∈ s'.retiredOutputAttempts ∨
        (p, p.output) ∈ s.retiredOutputSlots ∧ s.outputPublicationReceipts.get? p ≠ none
  attempts : ∀ o a, (o, a) ∈ s'.retiredOutputAttempts →
    (o, a) ∈ s.retiredOutputAttempts ∨ ∀ e, s'.entries.get? o = some e → e.Emptied

theorem HistoryMove.of_same
    (hreceipts : s'.outputPublicationReceipts = s.outputPublicationReceipts)
    (hslots : s'.retiredOutputSlots = s.retiredOutputSlots)
    (hattempts : s'.retiredOutputAttempts = s.retiredOutputAttempts) : HistoryMove s s' := by
  refine ⟨fun p hp => .inl ?_, fun p hslot hp => .inr ⟨?_, ?_⟩, fun o a ha => .inl ?_⟩
  · rwa [hreceipts] at hp
  · rwa [hslots] at hslot
  · rwa [hreceipts] at hp
  · rwa [hattempts] at ha

theorem HistoryMove.refl (s : ObjectOwnerTable ε) : HistoryMove s s := .of_same rfl rfl rfl

theorem commitOutputPublication_history {plan : OutputOwnerPublicationPlan}
    {receipt : OutputOwnerPublicationReceipt}
    (h : s.commitOutputPublication plan = .ok (receipt, s')) : HistoryMove s s' := by
  have hadopted := adopted_of_applied h
  obtain ⟨-, -, rfl⟩ | ⟨happlied, e, he, happ, rfl⟩ := commitOutputPublication_cases h
  · exact .refl _
  refine ⟨fun p hp => ?_, fun p hslot hp => .inr ⟨hslot, ?_⟩, fun _ _ ha => .inl ha⟩
  · by_cases hsame : plan.publicationId = p
    · subst hsame
      exact .inr (.inl (hadopted happlied))
    · rw [Dict.get?_set_of_ne _ _ hsame] at hp
      exact .inl hp
  · rwa [Dict.get?_set_of_ne] at hp
    rintro rfl
    exact happ.unretired_slot hslot

variable {e : ObjectOwnerEntry ε}

theorem Retires.history {plan : OutputOwnerPublicationRetirementPlan}
    {r : OutputOwnerPublicationRetirementReceipt} (h : Retires s s' plan e r) :
    HistoryMove s s' := by
  have hid : (retireOutput e).objectId = plan.member.objectId := s.keyed _ e h.entry
  rw [h.effect]
  refine ⟨fun _ hp => .inl hp, fun p hslot hp => ?_, fun o a ha => ?_⟩
  · obtain hnew | hold := Finset.mem_insert.mp hslot
    · obtain ⟨rfl, hobject⟩ := Prod.mk.inj hnew
      rw [hobject]
      exact .inl (Finset.mem_insert_self _ _)
    · exact .inr ⟨hold, hp⟩
  · obtain hnew | hold := Finset.mem_insert.mp ha
    · obtain ⟨rfl, -⟩ := Prod.mk.inj hnew
      refine .inr fun e' he' => ?_
      rw [get?_setEntry, if_pos hid] at he'
      cases he'
      exact ⟨rfl, by simp [retireOutput, (frozen_of_validated h.valid).lost]⟩
    · exact .inl hold

structure ResolvesRecords (s s' : ObjectOwnerTable ε) (manifest : OutputPublicationManifest)
    (resolution : NodeLostOutputResolution) : Prop where
  unretired : (manifest.publicationId, manifest.slot.objectId) ∉ s.retiredOutputSlots
  receipts : s'.outputPublicationReceipts = if resolution.complete.isSome then
    s.outputPublicationReceipts.set manifest.publicationId manifest
    else s.outputPublicationReceipts
  slots : s'.retiredOutputSlots = if resolution.keep = true then s.retiredOutputSlots
    else insert (manifest.publicationId, manifest.slot.objectId) s.retiredOutputSlots
  attempts : s'.retiredOutputAttempts = if resolution.keep = true then s.retiredOutputAttempts
    else if resolution.complete.isSome then
      insert (manifest.slot.objectId, manifest.publicationId.attemptId) s.retiredOutputAttempts
    else s.retiredOutputAttempts

variable {manifest : OutputPublicationManifest} {resolution : NodeLostOutputResolution}
  {envelope : Option OutputPublicationEnvelope} {nodes : List NodeID}

theorem resolveOutputNodeLoss_records {b : Bool}
    (h : s.resolveOutputNodeLoss manifest resolution envelope nodes = .ok (b, s')) :
    s' = s ∨ ResolvesRecords s s' manifest resolution := by
  simp only [resolveOutputNodeLoss, bind_eq_ok] at h
  obtain ⟨_, _, _, _, _, _, _, _, h⟩ := h
  cases hp : s.outputLossReceipts.get? manifest.publicationId with
  | some prior =>
    simp only [hp, bind_eq_ok, pure_eq_ok, Prod.mk.injEq] at h
    obtain ⟨_, _, _, rfl⟩ := h
    exact .inl rfl
  | none =>
    simp only [hp, bind_eq_ok] at h
    obtain ⟨e, _, _, _, _, _, _, hslot, h⟩ := h
    simp only [validateLossSlot, bind_eq_ok, raiseIf_eq_ok, not_or] at hslot
    obtain ⟨_, _, _, ⟨_, _, _, _, _, hunretired⟩, _⟩ := hslot
    rw [e.property] at hunretired
    refine .inr ?_
    by_cases hkeep : resolution.keep = true
    · rw [if_pos hkeep, pure_eq_ok, Prod.mk.injEq] at h
      obtain ⟨-, rfl⟩ := h
      exact ⟨hunretired, rfl, (if_pos hkeep).symm, (if_pos hkeep).symm⟩
    · rw [if_neg hkeep, pure_eq_ok, Prod.mk.injEq] at h
      obtain ⟨-, rfl⟩ := h
      exact ⟨hunretired, rfl, (if_neg hkeep).symm, (if_neg hkeep).symm⟩

/-- A resolution adopts or closes its publication; an incomplete one has no receipt. -/
theorem resolveOutputNodeLoss_history (hs : s.LateSafe) {b : Bool}
    (h : s.resolveOutputNodeLoss manifest resolution envelope nodes = .ok (b, s')) :
    HistoryMove s s' := by
  obtain rfl | hrecords := resolveOutputNodeLoss_records h
  · exact .refl _
  obtain ⟨-, rfl⟩ | ⟨-, e, e', he, hres, hentries, -, -, heffect⟩ := resolveOutputNodeLoss_cases h
  · exact .refl _
  have hobject : manifest.slot.objectId = manifest.publicationId.output := manifest.slot_objectId
  have hentry : s'.entries.get? manifest.publicationId.output = some e' := by
    rw [hentries, get?_setEntry, ← hobject]
    obtain ⟨-, rfl, -⟩ | ⟨-, rfl, -⟩ := heffect
    · exact if_pos he
    · exact if_pos he
  have hother : ∀ p, manifest.publicationId ≠ p → s'.outputPublicationReceipts.get? p =
      s.outputPublicationReceipts.get? p := by
    intro p hne
    rw [hrecords.receipts]
    split
    · exact Dict.get?_set_of_ne _ _ hne
    · rfl
  obtain ⟨hkeep, rfl, -⟩ | ⟨hkeep, rfl, -⟩ := heffect
  · refine ⟨fun p hp => ?_, fun p hslot hp => .inr ?_, fun o a ha => .inl ?_⟩
    · by_cases hsame : manifest.publicationId = p
      · subst hsame
        refine .inr (.inl ⟨_, hentry, ⟨_, rfl, rfl⟩, hres.slot.attempt, ?_⟩)
        simp only [keepOutput]
        split
        · rintro ⟨⟩
        · split <;> rintro ⟨⟩
      · rw [hother p hsame] at hp
        exact .inl hp
    · rw [hrecords.slots, if_pos hkeep] at hslot
      refine ⟨hslot, ?_⟩
      rwa [hother] at hp
      rintro rfl
      rw [← hobject] at hslot
      exact hrecords.unretired hslot
    · rwa [hrecords.attempts, if_pos hkeep] at ha
  · have hdiscards : ¬ resolution.keep = true := by simp [hkeep]
    cases hcomplete : resolution.complete.isSome with
    | true =>
      have hclosed : (manifest.publicationId.output, manifest.publicationId.attemptId) ∈
          s'.retiredOutputAttempts := by
        rw [hrecords.attempts, if_neg hdiscards, if_pos hcomplete, hobject]
        exact Finset.mem_insert_self _ _
      refine ⟨fun p hp => ?_, fun p hslot hp => ?_, fun o a ha => ?_⟩
      · by_cases hsame : manifest.publicationId = p
        · subst hsame
          exact .inr (.inr (.inl hclosed))
        · rw [hother p hsame] at hp
          exact .inl hp
      · by_cases hsame : manifest.publicationId = p
        · subst hsame
          exact .inl hclosed
        · rw [hother p hsame] at hp
          rw [hrecords.slots, if_neg hdiscards] at hslot
          obtain hnew | hold := Finset.mem_insert.mp hslot
          · exact absurd (congrArg Prod.fst hnew).symm hsame
          · exact .inr ⟨hold, hp⟩
      · rw [hrecords.attempts, if_neg hdiscards, if_pos hcomplete] at ha
        obtain hnew | hold := Finset.mem_insert.mp ha
        · obtain ⟨rfl, -⟩ := Prod.mk.inj hnew
          refine .inr fun e' he' => ?_
          rw [hobject, hentry] at he'
          cases he'
          exact ⟨rfl, by simp [discardOutput, hcomplete]⟩
        · exact .inl hold
    | false =>
      have hreceipts : s'.outputPublicationReceipts = s.outputPublicationReceipts := by
        rw [hrecords.receipts, hcomplete]
        rfl
      refine ⟨fun p hp => .inl ?_, fun p hslot hp => .inr ⟨?_, ?_⟩, fun o a ha => .inl ?_⟩
      · rwa [hreceipts] at hp
      · rw [hrecords.slots, if_neg hdiscards] at hslot
        refine (Finset.mem_insert.mp hslot).resolve_left fun hnew => ?_
        -- A publication with a receipt is adopted or closed, and this slot is neither.
        obtain ⟨rfl, -⟩ := Prod.mk.inj hnew
        rw [hreceipts] at hp
        have hbefore := hres.entry
        rw [he, hobject] at hbefore
        obtain ⟨e₁, he₁, ⟨m, hm, -⟩, -⟩ | hretired | hcollected := hs.receipts _ hp
        · cases hbefore.symm.trans he₁
          obtain ⟨hfree, -⟩ | ⟨-, hnone, -⟩ := hres.slot.member
          · cases hm.symm.trans hfree
          · simp [hnone] at hcomplete
        · have hunretired := hres.slot.unretired
          rw [he, hobject] at hunretired
          exact hunretired hretired
        · exact hs.uncollected _ e hbefore hcollected
      · rwa [hreceipts] at hp
      · rw [hrecords.attempts, if_neg hdiscards, hcomplete] at ha
        exact ha

variable [BEq ε]

theorem step_publications (s : ObjectOwnerTable ε) (op : Op ε) (hop : ¬ Op.Publishes op) :
    (s.step op).toPublicationHistory = s.toPublicationHistory := by
  by_cases hchanges : Op.ChangesReferences op
  · exact (step_changes s op hchanges).publications
  by_cases hcontained : Op.MovesContained op
  · cases op with
    | installDeadWorker =>
      refine commit_of (p := fun t : ObjectOwnerTable ε =>
        t.toPublicationHistory = s.toPublicationHistory) rfl fun _ _ h => ?_
      obtain ⟨-, rfl⟩ | ⟨_, -, -, rfl⟩ := installDeadWorker_cases h
      · rfl
      · rfl
    | _ => first | exact hcontained.elim | exact absurd trivial hchanges
  · exact (step_sameRecords s op hcontained hop).publications

theorem step_history (hs : s.LateSafe) (op : Op ε) : HistoryMove s (s.step op) := by
  by_cases hop : Op.Publishes op
  · cases op with
    | commitOutputPublication =>
      exact commit_of (.refl s) fun _ _ h => commitOutputPublication_history h
    | resolveOutputNodeLoss =>
      exact commit_of (.refl s) fun _ _ h => resolveOutputNodeLoss_history hs h
    | beginOutputPublicationRetirement =>
      refine commit_of (.refl s) fun _ _ h => ?_
      obtain ⟨-, rfl⟩ | ⟨-, e, hm⟩ := beginOutputPublicationRetirement_cases h
      · exact .refl _
      · rw [hm.effect]
        exact .of_same rfl rfl rfl
    | completeOutputPublicationRetirement =>
      refine commit_of (.refl s) fun _ _ h => ?_
      obtain ⟨_, ⟨-, rfl⟩ | ⟨-, e, hr⟩⟩ := completeOutputPublicationRetirement_retires h
      · exact .refl _
      · exact hr.history
    | _ => exact hop.elim
  · have hsame := step_publications s op hop
    exact .of_same (by rw [hsame]) (by rw [hsame]) (by rw [hsame])

/-! ## Runs -/

variable {e' : ObjectOwnerEntry ε}

theorem LateSafe.emptied (hs : s.LateSafe) {op : Op ε} (hv : (s.callerConditions op).validated)
    {o : ObjectID} {a : AttemptID} (hretired : (o, a) ∈ (s.step op).retiredOutputAttempts)
    (he' : (s.step op).entries.get? o = some e') (ha : e'.currentAttempt = some a) :
    e'.Emptied := by
  obtain hold | hnew := (step_history hs op).attempts o a hretired
  · have hslot := (s.step_spec op).results.slots o
    rw [he'] at hslot
    generalize ho : s.entries.get? o = before at hslot
    cases hslot with
    | registered _ fresh =>
      obtain ⟨attempt, spec, hfresh⟩ := fresh
      rw [hfresh]
      exact ⟨rfl, nofun⟩
    | moved e _ collection frozen move => exact .move (hs.attempts o a hold e ho) hold hv move ha
    | frozen e _ plan idle result =>
      rw [result] at ha ⊢
      exact hs.attempts o a hold e ho ha
  · exact hnew e' he'

theorem LateSafe.frozen (hs : s.LateSafe) (op : Op ε) {o : ObjectID}
    (he' : (s.step op).entries.get? o = some e') (hmarked : e'.outputRetirementId ≠ none) :
    e'.Frozen := by
  cases step_retirement s op with
  | kept hkept =>
    have hslot := (s.step_spec op).results.slots o
    have hframe : ∀ e, s.entries.get? o = some e → e.outputRetirementId ≠ none → e'.Frozen := by
      intro e he hmark
      obtain ⟨e₂, he₂, hsame⟩ := hkept.entries o e he (hs.marked o e he hmark)
      cases he'.symm.trans he₂
      exact (hs.marked o e he hmark).of_same hsame
    rw [he'] at hslot
    generalize ho : s.entries.get? o = before at hslot
    cases hslot with
    | registered _ fresh =>
      obtain ⟨attempt, spec, hfresh⟩ := fresh
      rw [hfresh] at hmarked
      exact absurd rfl hmarked
    | moved e _ collection frozen move =>
      exact hframe e ho fun hnone => hmarked (ResultFields.unmarked_move move hkept.plans hnone)
    | frozen e _ plan idle result =>
      rw [result] at hmarked
      exact hframe e ho hmarked
  | marked plan e hm =>
    rw [hm.effect, get?_setEntry] at he'
    split at he'
    · cases he'
      have hsame : ∀ p m, s.outputPublicationReceipts.get? p = some m →
          s.outputPublicationReceipts.get? p = some m := fun _ _ h => h
      exact frozen_of_validated
        (validateOutputRetirementEntry_marked hm.valid plan.retirementId hsame)
    · exact hs.marked o e' he' hmarked
  | retired plan e r hr =>
    rw [hr.effect, get?_setEntry] at he'
    split at he'
    · cases he'
      exact absurd rfl hmarked
    · exact hs.marked o e' he' hmarked

theorem LateSafe.step (hs : s.LateSafe) {op : Op ε} (hv : (s.callerConditions op).validated) :
    (s.step op).LateSafe := by
  have hspec := (s.step_spec op).results
  have hhistory := step_history hs op
  refine ⟨fun p hp => ?_, fun p hslot hp => ?_, fun o a hretired e' he' ha =>
    hs.emptied hv hretired he' ha, fun o e' he' hmarked => hs.frozen op he' hmarked, ?_⟩
  · obtain hold | hnew := hhistory.receipts p hp
    · exact adopted_step (hs.receipts p hold)
    · exact hnew
  · obtain hnew | ⟨hold, hreceipt⟩ := hhistory.slots p hslot hp
    · exact hnew
    · exact hspec.retired_mono (hs.slots p hold hreceipt)
  · intro o e' he' hcollected
    obtain hold | hnone := hspec.collected_new o hcollected
    · have hslot := hspec.slots o
      rw [he'] at hslot
      generalize ho : s.entries.get? o = before at hslot
      cases hslot with
      | registered _ fresh idle uncollected => exact uncollected hold
      | moved e => exact hs.uncollected o e ho hold
      | frozen e => exact hs.uncollected o e ho hold
    · rw [he'] at hnone
      cases hnone

theorem lateSafe_run (ops : List (Op ε)) (hvalid : ValidatedRun ops) :
    (run step .empty ops).LateSafe := by
  refine Admissible.invariant (fun s op hv hs => hs.step hv) hvalid ⟨?_, ?_, ?_, ?_, ?_⟩
  · exact fun p hp => absurd rfl hp
  · exact fun p hslot => absurd hslot (Finset.notMem_empty _)
  · exact fun o a ha => absurd ha (Finset.notMem_empty _)
  · exact fun o e he => by cases he
  · exact fun o e he => by cases he

/-! ## Deleted replicas -/

omit [BEq ε]

variable {descriptor : ObjectStoreDescriptor} {drop : DropObjectReplica}

variable {rejected : List OutputPublicationID}

theorem retiredOutputReplica_eq_some
    (h : s.retiredOutputReplica descriptor rejected = .ok (some drop)) :
    drop = descriptor.drop ∧ ∃ p, s.outputPublicationReceipts.get? p ≠ none ∧
      p.attemptId = descriptor.producerAttemptId ∧ p.output = descriptor.objectId ∧
      s.Retired descriptor.objectId rejected p := by
  simp only [retiredOutputReplica, bind_eq_ok] at h
  obtain ⟨_, -, h⟩ := h
  split at h
  · cases h
  split at h
  · cases h
  · next p manifest hfind =>
      simp only [bind_eq_ok, pure_eq_ok, Option.some.injEq] at h
      obtain ⟨_, -, rfl⟩ := h
      have hmem := Dict.get?_eq_some_iff.mpr (List.mem_of_find?_eq_some hfind)
      have hp := List.find?_some hfind
      simp only [decide_eq_true_eq] at hp
      obtain ⟨hattempt, hobject, hretired⟩ := hp
      rw [OutputPublicationID.outputIds_eq, List.mem_singleton] at hobject
      exact ⟨rfl, p, by rw [hmem]; rintro ⟨⟩, hattempt, hobject.symm, hretired⟩

theorem retiredStoredReplica_eq_some (h : s.retiredStoredReplica descriptor = .ok (some drop)) :
    drop = descriptor.drop ∧ ∀ e, s.entries.get? descriptor.objectId = some e →
      e.collectionPending = true := by
  simp only [retiredStoredReplica, bind_eq_ok] at h
  obtain ⟨_, -, history, hhistory, h⟩ := h
  cases history with
  | none => cases h
  | some history =>
    simp only [bind_eq_ok, pure_eq_ok, Option.some.injEq] at h
    obtain ⟨_, -, rfl⟩ := h
    refine ⟨rfl, fun e he => ?_⟩
    rw [storedCollection, he] at hhistory
    cases hstored : s.storedCollectionHistory.get? descriptor.objectId with
    | some known =>
      simp only [hstored, bind_eq_ok, raiseIf_eq_ok, not_or] at hhistory
      obtain ⟨_, ⟨hgone, -⟩, -⟩ := hhistory
      exact absurd rfl hgone
    | none =>
      simp only [hstored] at hhistory
      cases hpending : e.collectionPending with
      | true => rfl
      | false =>
        rw [if_pos hpending] at hhistory
        cases hhistory

structure Reads (e : ObjectOwnerEntry ε) (drop : DropObjectReplica) : Prop where
  idle : e.collectionPending = false
  state : e.state = .readyStored
  attempt : e.currentAttempt = some drop.producerAttemptId
  location : drop.nodeId ∈ e.locationAttempts.keys

theorem LateSafe.unread (hs : s.LateSafe)
    (hadopted : ∀ o e, s.entries.get? o = some e → ∀ m ∈ e.outputPublication,
      m.publicationId ∉ rejected)
    (h : s.retiredOutputReplica descriptor rejected = .ok (some drop))
    (he : s.entries.get? drop.objectId = some e) : ¬ Reads e drop := by
  rintro ⟨hidle, hstate, hattempt, -⟩
  obtain ⟨rfl, p, hp, hpattempt, hoid, hretired⟩ := retiredOutputReplica_eq_some h
  change s.entries.get? descriptor.objectId = some e at he
  change e.currentAttempt = some descriptor.producerAttemptId at hattempt
  rw [← hoid] at he hretired
  rw [← hpattempt] at hattempt
  have hopen : (p.output, p.attemptId) ∉ s.retiredOutputAttempts := fun hclosed =>
    (hs.attempts _ _ hclosed e he hattempt).2 hstate
  have hlive := hs.uncollected _ e he
  obtain ⟨e₁, he₁, ⟨m, hm, hid⟩, -⟩ | hclosed | hcollected := hs.receipts p hp
  · cases he.symm.trans he₁
    obtain hrejected | hslot | hclosed | ⟨e₂, he₂, -, hending⟩ | hcollected := hretired
    · exact hadopted _ e he m hm (hid ▸ hrejected)
    · exact hopen (hs.slots p hslot hp)
    · exact hopen hclosed
    · cases he.symm.trans he₂
      obtain hpending | hmarked := hending
      · rw [hidle] at hpending
        cases hpending
      · have hlost := (hs.marked _ e he hmarked).lost
        rw [hstate] at hlost
        cases hlost
    · exact hlive hcollected
  · exact hopen hclosed
  · exact hlive hcollected

variable [BEq ε]

variable (ε) in
/-- What the owner lets be deleted is not read. -/
structure LateReplicaSpec : Prop where
  unread : ∀ (ops : List (Op ε)), ValidatedRun ops →
    ∀ (descriptor : ObjectStoreDescriptor) (rejected : List OutputPublicationID),
      (∀ o e, (run step .empty ops).entries.get? o = some e → ∀ m ∈ e.outputPublication,
        m.publicationId ∉ rejected) →
      ∀ drop, ((run step .empty ops).retiredOutputReplica descriptor rejected = .ok (some drop) ∨
          (run step .empty ops).retiredStoredReplica descriptor = .ok (some drop)) →
        ∀ e, (run step .empty ops).entries.get? drop.objectId = some e → ¬ Reads e drop
  exact_drop : ∀ (s : ObjectOwnerTable ε) descriptor rejected drop,
    (s.retiredOutputReplica descriptor rejected = .ok (some drop) ∨
      s.retiredStoredReplica descriptor = .ok (some drop)) → drop = descriptor.drop

theorem lateReplicaSpec : LateReplicaSpec ε where
  unread ops hvalid descriptor rejected hadopted drop h e he := by
    obtain houtput | hstored := h
    · exact (lateSafe_run ops hvalid).unread hadopted houtput he
    · obtain ⟨rfl, hpending⟩ := retiredStoredReplica_eq_some hstored
      intro hreads
      have hcollecting := hpending e he
      rw [hreads.idle] at hcollecting
      cases hcollecting
  exact_drop s descriptor rejected drop h := by
    obtain houtput | hstored := h
    · exact (retiredOutputReplica_eq_some houtput).1
    · exact (retiredStoredReplica_eq_some hstored).1

end ObjectOwnerTable

end MiniRay
