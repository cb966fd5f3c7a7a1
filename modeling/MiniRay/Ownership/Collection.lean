import MiniRay.Ownership.Edges
import MiniRay.Ownership.OutputPublications

/-! Unused metadata without physical replicas is forgotten at once. Everything else is first frozen
under a claim that names all the release work. -/

namespace MiniRay

open Checked

namespace ObjectOwnerTable

variable {ε : Type} {self s' : ObjectOwnerTable ε} {keeps : ObjectID → ReferenceToken → Prop}
  {c : CallerConditions}

variable {o : ObjectID}

variable {l : List LineageReferenceEdge}

theorem finalTaskLineage_claims (h : self.finalTaskLineage o = .ok l) :
    (∀ edge ∈ l, edge.producerObjectId = o) ∧ l.Nodup := by
  unfold finalTaskLineage at h
  cases ha : self.taskLineage.get? o.taskId with
  | none =>
    simp only [ha, Except.ok.injEq] at h
    simp [← h]
  | some authority =>
    simp only [ha, bind_eq_ok, pure_eq_ok] at h
    obtain ⟨_, _, rfl⟩ := h
    refine ⟨?_, Sorted.nodup_sorted _⟩
    intro edge hedge
    rw [Sorted.mem_sorted, Finset.mem_image] at hedge
    obtain ⟨obligation, _, rfl⟩ := hedge
    rfl

theorem finalTaskLineage_owner (h : self.finalTaskLineage o = .ok l)
    (authority : TaskLineageAuthority) (ha : self.taskLineage.get? o.taskId = some authority) :
    authority.outputIds = [o] := by
  simp only [finalTaskLineage, ha, bind_eq_ok, raiseIf_eq_ok, not_not] at h
  obtain ⟨_, hids, _⟩ := h
  exact hids

/-- The dependency releases an object's collection claims. -/
def claimedLineage (self : ObjectOwnerTable ε) (objectId : ObjectID) :
    Except Raised {l : List LineageReferenceEdge //
      (∀ edge ∈ l, edge.producerObjectId = objectId) ∧ l.Nodup} :=
  match h : self.finalTaskLineage objectId with
  | .error raised => .error raised
  | .ok l => .ok ⟨l, finalTaskLineage_claims h⟩

@[simp] theorem claimedLineage_eq_ok
    {l : {l : List LineageReferenceEdge // (∀ edge ∈ l, edge.producerObjectId = o) ∧ l.Nodup}} :
    self.claimedLineage o = .ok l ↔ self.finalTaskLineage o = .ok l.val := by
  unfold claimedLineage
  split
  · next h => simp [h]
  · next h => simp [h, Subtype.ext_iff]

/-! ## Forgetting at once -/

/-- Nothing refers to the metadata and nothing has to be released for it. -/
def Forgettable (self : ObjectOwnerTable ε) (e : ObjectOwnerEntry ε) : Prop :=
  e.Unused ∧ e.outgoingContainedEdges = ∅ ∧ e.outgoingLineageEdges = ∅ ∧
    self.taskLineage.get? e.objectId.taskId = none ∧ e.collectionPending = false ∧
    e.outputPublication = none ∧ e.outputRetirementId = none ∧ e.state ≠ .readyStored ∧
    e.locationAttempts.items = []

instance (self : ObjectOwnerTable ε) (e : ObjectOwnerEntry ε) : Decidable (Forgettable self e) :=
  inferInstanceAs (Decidable (_ ∧ _))

/-- Forget metadata without references or release work. -/
def collectIfUnused (self : ObjectOwnerTable ε) (objectId : ObjectID) :
    Except Raised (Bool × ObjectOwnerTable ε) := do
  let e ← self.entry objectId
  if Forgettable self e then return (true, self.eraseEntry objectId) else return (false, self)

variable {b : Bool}

theorem collectIfUnused_cases (h : self.collectIfUnused o = .ok (b, s')) : s' = self ∨
      ∃ e, self.entries.get? o = some e ∧ Forgettable self e ∧ s' = self.eraseEntry o := by
  simp only [collectIfUnused, bind_eq_ok, entry_eq_ok, ite_eq_ok, pure_eq_ok, Prod.mk.injEq] at h
  obtain ⟨e, he, ⟨hf, _, rfl⟩ | ⟨_, _, rfl⟩⟩ := h
  · exact .inr ⟨e, he, hf, rfl⟩
  · exact .inl rfl

variable {e : ObjectOwnerEntry ε}

theorem local_of_unused (h : e.Unused) (ref : Reference) (hh : e.Holds ref) : ref.IsLocal :=
  absurd hh (ReferenceFields.unused_iff.mp h ref)

theorem collectIfUnused_references (h : self.collectIfUnused o = .ok (b, s'))
    (hkeeps : ∀ t, keeps o t → ∀ e, self.entries.get? o = some e → Forgettable self e →
      t ∉ e.releasedBorrowedTokens) :
    ReferenceSpec keeps self s' := by
  rcases collectIfUnused_cases h with rfl | ⟨e, he, hf, rfl⟩
  · exact .refl _
  · exact .of_forget he (local_of_unused hf.1) rfl rfl (fun _ _ => .rfl)
      fun t hk => .inl (hkeeps t hk e he hf)

theorem collectIfUnused_results (h : self.collectIfUnused o = .ok (b, s')) :
    ResultSpec c self s' := by
  rcases collectIfUnused_cases h with rfl | ⟨e, he, hf, rfl⟩
  · exact .refl _
  · obtain ⟨_, _, _, _, hidle, hfree, _⟩ := hf
    exact .of_forget he rfl (.forgotten e hidle (.inl hfree)) (Finset.Subset.refl _)
      (fun _ hx => hx) (fun _ hx => .inl hx) (fun _ hx => .inl hx) fun _ _ _ hl => hl

/-- Unused metadata without replicas and outside output publications. -/
def Releasable (e : ObjectOwnerEntry ε) : Prop :=
  ¬ (e.state = .readyStored ∨ e.state = .lost ∨ e.locationAttempts.items ≠ []) ∧ e.Unused ∧
    e.outputPublication = none

instance (e : ObjectOwnerEntry ε) : Decidable (Releasable e) := inferInstanceAs (Decidable (_ ∧ _))

/-- Forget unused metadata and return its release work. -/
def collectUnusedWithEdges (self : ObjectOwnerTable ε) (objectId : ObjectID) :
    Except Raised (ObjectMetadataCollection × ObjectOwnerTable ε) := do
  let e ← self.keyedEntry objectId
  requireNotCollecting e.val (collectionIsPending objectId)
  if Releasable e.val then do
    let lineage ← self.claimedLineage objectId
    return ({
        objectId := objectId
        collected := true
        containedReleases := Sorted.sorted e.val.outgoingContainedEdges
        lineageReleases := lineage.val
        uncollected := nofun
        own_contained := fun edge hedge => by
          rw [e.val.own_edges edge (Sorted.mem_sorted.mp hedge), e.property]
        contained_once := Sorted.nodup_sorted _
        own_lineage := lineage.property.1
        lineage_once := lineage.property.2 },
      { self.eraseEntry objectId with taskLineage := self.taskLineage.erase objectId.taskId })
  else return (.notCollected objectId, self)

theorem collectUnusedWithEdges_cases {r : ObjectMetadataCollection}
    (h : self.collectUnusedWithEdges o = .ok (r, s')) : s' = self ∨
      ∃ e l, self.entries.get? o = some e ∧ e.collectionPending = false ∧ Releasable e ∧
        self.finalTaskLineage o = .ok l ∧
        s' = { self.eraseEntry o with taskLineage := self.taskLineage.erase o.taskId } := by
  simp only [collectUnusedWithEdges, bind_eq_ok, keyedEntry_eq_ok, requireNotCollecting_eq_ok,
    ite_eq_ok, claimedLineage_eq_ok, pure_eq_ok, Prod.mk.injEq] at h
  obtain ⟨e, he, _, hidle, ⟨hr, l, hl, _, rfl⟩ | ⟨_, _, rfl⟩⟩ := h
  · exact .inr ⟨e.val, l.val, he, hidle, hr, hl, rfl⟩
  · exact .inl rfl

theorem collectUnusedWithEdges_references {r : ObjectMetadataCollection}
    (h : self.collectUnusedWithEdges o = .ok (r, s'))
    (hkeeps : ∀ t, keeps o t → ∀ e l, self.entries.get? o = some e → e.collectionPending = false →
      Releasable e → self.finalTaskLineage o = .ok l → t ∉ e.releasedBorrowedTokens) :
    ReferenceSpec keeps self s' := by
  rcases collectUnusedWithEdges_cases h with rfl | ⟨e, l, he, hidle, hr, hl, rfl⟩
  · exact .refl _
  · exact .of_forget he (local_of_unused hr.2.1) rfl rfl (fun _ _ => .rfl)
      fun t hk => .inl (hkeeps t hk e l he hidle hr hl)

theorem collectUnusedWithEdges_results {r : ObjectMetadataCollection}
    (h : self.collectUnusedWithEdges o = .ok (r, s')) : ResultSpec c self s' := by
  rcases collectUnusedWithEdges_cases h with rfl | ⟨e, l, he, hidle, hr, hl, rfl⟩
  · exact .refl _
  · exact .of_forget he rfl (.forgotten e hidle (.inl hr.2.2)) (Finset.Subset.refl _)
      (fun _ hx => hx) (fun _ hx => .inl hx) (fun _ hx => .inl hx)
      fun x l' hx hl' => finalTaskLineage_erase rfl hx (finalTaskLineage_owner hl) hl'

/-! ## Freezing -/

/-- Only the retired output of the current attempt proves its old effects gone. -/
def RetiredOutput (self : ObjectOwnerTable ε) (e : ObjectOwnerEntry ε) : Prop :=
  e.state = .lost ∧ self.CurrentAttemptRetired e

instance (self : ObjectOwnerTable ε) (e : ObjectOwnerEntry ε) : Decidable (RetiredOutput self e) :=
  inferInstanceAs (Decidable (_ ∧ _))

def RegainedMetadata (e : ObjectOwnerEntry ε) : Prop :=
  e.outputPublication ≠ none ∨ e.outputRetirementId ≠ none ∨ e.inlineData ≠ none ∨
    e.error.isSome ∨ e.canonicalStoredResult ≠ none ∨ e.locationAttempts.items ≠ [] ∨
    e.outgoingContainedEdges ≠ ∅

instance (e : ObjectOwnerEntry ε) : Decidable (RegainedMetadata e) :=
  inferInstanceAs (Decidable (_ ∨ _))

/-- The object has, or had, physical replicas to drop. -/
def IsStored (self : ObjectOwnerTable ε) (e : ObjectOwnerEntry ε) : Prop :=
  e.state = .readyStored ∨ e.state = .lost ∧ ¬ RetiredOutput self e

instance (self : ObjectOwnerTable ε) (e : ObjectOwnerEntry ε) : Decidable (IsStored self e) :=
  inferInstanceAs (Decidable (_ ∨ _))

/-- The integrity metadata a claim has to carry, and who may carry it. -/
def requireCollectionMetadata (self : ObjectOwnerTable ε) (e : ObjectOwnerEntry ε)
    (canonicalSizeBytes : Option Nat) (canonicalChecksum : Option String) :
    Except Raised Unit := do
  raiseIf (RetiredOutput self e ∧ RegainedMetadata e)
    ⟨.outputOwnerRetirementConflict, "retired output regained result metadata before collection"⟩
  if IsStored self e then do
    raiseIf (e.currentAttempt = none)
      ⟨.invalidObjectTransition, "stored object has no producer attempt: " ++ e.objectId.repr⟩
    raiseIf (canonicalSizeBytes = none ∨ canonicalChecksum = none)
      ⟨.invalidObjectTransition,
        "stored collection requires canonical metadata: " ++ e.objectId.repr⟩
  else
    raiseIf (canonicalSizeBytes ≠ none ∨ canonicalChecksum ≠ none)
      ⟨.invalidObjectTransition,
        "inline/error collection cannot carry stored metadata: " ++ e.objectId.repr⟩

/-- The caller's name for the claim, or a fresh one. -/
def collectionName (collectionId : Option String) (uuid : String) : String :=
  match collectionId with
  | some name => if name = "" then "collect:" ++ uuid else name
  | none => "collect:" ++ uuid

theorem collectionName_ne (collectionId : Option String) (uuid : String) :
    collectionName collectionId uuid ≠ "" := by
  have hne : "collect:" ++ uuid ≠ "" := by
    intro h
    have hl := congrArg String.length h
    simp [String.length_append] at hl
  unfold collectionName
  split
  · split <;> simp_all
  · exact hne

theorem nodup_sortList_keys {κ ν : Type} [LinearOrder κ] (d : Dict κ ν) :
    (Sorted.sortList d.keys).Nodup :=
  (Sorted.sortList_perm _).nodup_iff.mpr d.nodup

/-- The claim on everything the entry would leave behind. -/
def freezeClaim (self : ObjectOwnerTable ε) (e : ObjectOwnerEntry ε) (collectionId : String)
    (hid : collectionId ≠ "") (canonicalSizeBytes : Option Nat)
    (canonicalChecksum : Option String) : Except Raised ObjectMetadataCollectionPlan := do
  let lineage ← self.claimedLineage e.objectId
  let ⟨htogether⟩ ← certify (canonicalSizeBytes.isSome = canonicalChecksum.isSome)
    ⟨.valueError, "stored collection size and checksum must appear together"⟩
  let ⟨hhex⟩ ← certify (∀ checksum ∈ canonicalChecksum, IsResultChecksum checksum)
    ⟨.valueError, "canonical_checksum must be a SHA-256 hex digest"⟩
  return {
    objectId := e.objectId
    collectionId := collectionId
    producerAttemptId := e.currentAttempt
    locations := Sorted.sortList e.locationAttempts.keys
    producerTaskSpec := e.producerTaskSpec
    canonicalSizeBytes := canonicalSizeBytes
    canonicalChecksum := canonicalChecksum
    containedReleases := Sorted.sorted e.outgoingContainedEdges
    lineageReleases := lineage.val
    id_ne := hid
    attempt_task := e.attempt_task
    locations_once := nodup_sortList_keys _
    locations_sorted := List.pairwise_insertionSort _ _
    canonical_together := htogether
    canonical_hex := hhex
    own_contained := fun edge hedge => e.own_edges edge (Sorted.mem_sorted.mp hedge)
    contained_once := Sorted.nodup_sorted _
    own_lineage := lineage.property.1
    lineage_once := lineage.property.2 }

/-- Freeze all metadata that external collection work needs. -/
def beginCollection (self : ObjectOwnerTable ε) (objectId : ObjectID)
    (collectionId : Option String) (uuid : String) (canonicalSizeBytes : Option Nat)
    (canonicalChecksum : Option String) :
    Except Raised (Option ObjectMetadataCollectionPlan × ObjectOwnerTable ε) := do
  let e ← self.entry objectId
  requireNoOutputRetirement e
  if ¬ e.Unused ∨ e.state = .pending then return (none, self)
  else if e.collectionPending = true then
    match e.collectionPlan with
    | some plan => return (some plan, self)
    | none => throw ⟨.assertionError, ""⟩
  else do
    self.requireCollectionMetadata e canonicalSizeBytes canonicalChecksum
    let plan ← self.freezeClaim e (collectionName collectionId uuid)
      (collectionName_ne collectionId uuid) canonicalSizeBytes canonicalChecksum
    return (some plan, self.setEntry
      { e with collectionPending := true, collectionPlan := some plan })

/-- The entry was frozen under the claim. -/
structure Begun (table s' : ObjectOwnerTable ε) (o : ObjectID) (size : Option Nat)
    (checksum : Option String) (e : ObjectOwnerEntry ε) (plan : ObjectMetadataCollectionPlan) :
    Prop where
  entry : table.entries.get? o = some e
  idle : e.collectionPending = false
  unused : e.Unused
  settled : e.state ≠ .pending
  freezes : Freezes e plan
  lineage : table.finalTaskLineage o = .ok plan.lineageReleases
  size_eq : plan.canonicalSizeBytes = size
  checksum_eq : plan.canonicalChecksum = checksum
  table_eq : s' = table.setEntry { e with collectionPending := true, collectionPlan := some plan }

variable {name : Option String} {uuid : String} {size : Option Nat} {checksum : Option String}
  {r : Option ObjectMetadataCollectionPlan}

theorem beginCollection_cases (h : self.beginCollection o name uuid size checksum = .ok (r, s')) :
    s' = self ∨ ∃ e plan, r = some plan ∧ Begun self s' o size checksum e plan := by
  simp only [beginCollection, bind_eq_ok, entry_eq_ok, ite_eq_ok, pure_eq_ok] at h
  obtain ⟨e, he, _, _, h⟩ := h
  rcases h with ⟨_, h⟩ | ⟨hguard, ⟨_, h⟩ | ⟨hidle, _, hmeta, plan, hplan, h⟩⟩
  · exact .inl (Prod.mk.inj h).2.symm
  · cases hp : e.collectionPlan with
    | none => simp [hp] at h
    | some plan =>
      simp only [hp, pure_eq_ok, Prod.mk.injEq] at h
      exact .inl h.2.symm
  · obtain rfl := self.keyed o e he
    obtain ⟨rfl, rfl⟩ := Prod.mk.inj h
    rw [not_or, not_not] at hguard
    simp only [freezeClaim, bind_eq_ok, claimedLineage_eq_ok, pure_eq_ok] at hplan
    obtain ⟨lineage, hl, _, _, _, _, rfl⟩ := hplan
    simp only [requireCollectionMetadata, bind_eq_ok, raiseIf_eq_ok, ite_eq_ok, not_or,
      not_not] at hmeta
    obtain ⟨_, hretired, hmeta⟩ := hmeta
    refine .inr ⟨e, _, rfl, ⟨he, by simpa using hidle, hguard.1, hguard.2,
      ⟨rfl, rfl, rfl, rfl, rfl, ?_, ?_⟩, hl, rfl, rfl, rfl⟩⟩
    · intro hinline
      rcases hmeta with ⟨hs, _⟩ | ⟨_, hnone⟩
      · simp [IsStored, hinline] at hs
      · exact hnone
    · intro hcanonical hstate
      rcases hmeta with ⟨_, _, hattempt, _⟩ | ⟨hs, _⟩
      · exact hattempt
      · -- A retired output keeps no canonical descriptor.
        rcases hstate with hstate | hstate
        · exact absurd (.inl hstate) hs
        · have hr : RetiredOutput self e := by
            by_contra hr
            exact hs (.inr ⟨hstate, hr⟩)
          exact absurd ⟨hr, .inr (.inr (.inr (.inr (.inl hcanonical))))⟩ hretired

theorem beginCollection_unmarked {r : Option ObjectMetadataCollectionPlan × ObjectOwnerTable ε}
    (h : self.beginCollection o name uuid size checksum = .ok r) (e : ObjectOwnerEntry ε)
    (he : self.entries.get? o = some e) : e.outputRetirementId = none := by
  simp only [beginCollection, bind_eq_ok, entry_eq_ok, requireNoOutputRetirement_eq_ok] at h
  obtain ⟨e₁, he₁, _, hopen, _⟩ := h
  cases he.symm.trans he₁
  exact hopen

variable {plan : ObjectMetadataCollectionPlan}

theorem Begun.references (h : Begun self s' o size checksum e plan) :
    ReferenceSpec keeps self s' := by
  obtain rfl := self.keyed o e h.entry
  rw [h.table_eq]
  exact .of_result h.entry rfl rfl rfl rfl rfl

theorem Begun.results (h : Begun self s' o size checksum e plan)
    (hintegrity : c.integrity → KnownIntegrity e size checksum) : ResultSpec c self s' := by
  obtain rfl := self.keyed o e h.entry
  have hs := h.table_eq
  subst hs
  have hfrozen : ∀ t : ObjectOwnerTable ε, t.taskLineage = self.taskLineage →
      SlotMove c self t e.objectId (some e)
        (some { e with collectionPending := true, collectionPlan := some plan }) :=
    fun _ hl => .frozen e _ plan h.idle rfl rfl h.unused h.settled h.freezes h.lineage hl
      fun hc => h.size_eq ▸ h.checksum_eq ▸ hintegrity hc
  exact .of_entry h.entry rfl rfl (hfrozen _ rfl) (Finset.Subset.refl _) rfl

theorem beginCollection_references
    (h : self.beginCollection o name uuid size checksum = .ok (r, s')) :
    ReferenceSpec keeps self s' := by
  rcases beginCollection_cases h with rfl | ⟨e, plan, _, hb⟩
  · exact .refl _
  · exact hb.references

theorem beginCollection_results (h : self.beginCollection o name uuid size checksum = .ok (r, s'))
    (hintegrity : c.integrity → ∀ e, self.entries.get? o = some e →
      KnownIntegrity e size checksum) :
    ResultSpec c self s' := by
  rcases beginCollection_cases h with rfl | ⟨e, plan, _, hb⟩
  · exact .refl _
  · exact hb.results fun hc => hintegrity hc e hb.entry

end ObjectOwnerTable

end MiniRay
