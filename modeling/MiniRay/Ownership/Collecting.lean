import MiniRay.Ownership.Adoption
import MiniRay.Ownership.Canonical

/-! A frozen object stays unused and as its claim says until the claim is completed. -/

namespace MiniRay

open Checked Run

/-! ## What an entry knows of its publication -/

theorem OutputPublicationManifest.nodup_edges (m : OutputPublicationManifest) :
    m.slot.edges.Nodup := by
  have howner : ∀ t ∈ m.slot.transfers,
      t.finalHold.containerOwnerWorkerId = m.header.ownerWorkerId :=
    fun t ht => (m.inputs.custody m.slot (by simp [m.slots_eq]) t ht).2.1
  refine List.Nodup.map_on ?_ (List.Nodup.of_map _ m.slot.hold_keys)
  intro t ht t' ht' hedge
  have hkeys := m.slot.hold_keys
  simp only [PreparedContainedTransfer.edge, ContainedReferenceEdge.mk.injEq] at hedge
  refine List.inj_on_of_nodup_map hkeys ht ht' ?_
  rw [Prod.mk.injEq]
  refine ⟨hedge.2.1, ?_⟩
  have hw := (howner t ht).trans (howner t' ht').symm
  cases hf : t.finalHold
  cases hf' : t'.finalHold
  simp_all

namespace ResultFields

variable {ε : Type} {r r' : ResultFields ε} {c : CallerConditions} {h h' : PublicationHistory}
  {o : ObjectID} {m : OutputOwnerPublicationMembership}

structure Published (r : ResultFields ε) (m : OutputOwnerPublicationMembership) : Prop where
  attempt : r.currentAttempt = some m.publicationId.attemptId
  produced : r.ProducedBy m.manifest
  edges : r.outgoingContainedEdges = m.slot.edges.toFinset
  inline : m.slot.tier = .inline → r.state = .readyInline ∧ r.locationAttempts.items = []
  stored : m.slot.tier ≠ .inline → r.state = .readyStored ∨ r.state = .lost

/-- What every entry knows of its stored value and its membership. -/
structure Informed (o : ObjectID) (r : ResultFields ε) : Prop where
  canonical : r.CanonicalStored
  described : r.outputPublication = none →
    ∀ d, r.canonicalStoredResult = some d → DescribesStored o d
  membership : ∀ m, r.outputPublication = some m → m.objectId = o ∧ r.Published m

theorem Informed.of_free (canonical : r.CanonicalStored) (free : r.outputPublication = none)
    (described : ∀ d, r.canonicalStoredResult = some d → DescribesStored o d) : r.Informed o :=
  ⟨canonical, fun _ => described, fun m hm => by simp [free] at hm⟩

theorem Published.settled (h : r.Published m) : r.state ≠ .pending ∧ r.state ≠ .error := by
  by_cases ht : m.slot.tier = .inline
  · simp [(h.inline ht).1]
  · rcases h.stored ht with hs | hs <;> simp [hs]

theorem Published.tier_of_stored (h : r.Published m)
    (hs : r.state = .readyStored ∨ r.state = .lost) : m.slot.tier ≠ .inline := by
  intro ht
  rcases hs with hs | hs <;> simp [(h.inline ht).1] at hs

theorem Informed.move (hr : r.Informed o) (hv : c.validated) (hm : ResultMove c h h' o r r') :
    r'.Informed o := by
  have hcanonical := hr.canonical.move hv hm
  have hfree : (∀ m, ¬ r.Published m) → r.outputPublication = none := fun hn =>
    Option.eq_none_iff_forall_ne_some.mpr fun m hm => hn m (hr.membership m hm).2
  cases hm with
  | same => exact hr
  | advanced next free => exact .of_free hcanonical free nofun
  | publishedInline data put edges state =>
    exact .of_free hcanonical (hfree fun m hp => hp.settled.1 state) nofun
  | republishedInline state =>
    refine ⟨hcanonical, fun _ => nofun, fun m hm => ?_⟩
    obtain ⟨ho, hp⟩ := hr.membership m hm
    exact ⟨ho, hp.1, hp.2, hp.3, hp.4, hp.5⟩
  | publishedStored node canonical put edges state locations unretired integrity own described =>
    refine ⟨hcanonical, fun hn d hd => ?_, fun m hm => ?_⟩
    · exact (described d hd).elim (hr.described hn d) id
    · obtain ⟨ho, hp⟩ := hr.membership m hm
      have ht := hp.tier_of_stored (.inr (state.resolve_left hp.settled.1))
      have hedges := own.resolve_right fun hn => by cases hn.symm.trans hm
      exact ⟨ho, hp.1, hp.2, hedges.trans hp.3, fun hi => absurd hi ht, fun _ => .inl rfl⟩
  | replicated node canonical state epochs integrity described =>
    refine ⟨hcanonical, fun hn d hd => ?_, fun m hm => ?_⟩
    · exact (described d hd).elim (hr.described hn d) id
    · obtain ⟨ho, hp⟩ := hr.membership m hm
      have ht := hp.tier_of_stored (.inl state)
      exact ⟨ho, hp.1, hp.2, hp.3, fun hi => absurd hi ht, hp.5⟩
  | republishedStored node state =>
    refine ⟨hcanonical, hr.described, fun m hm => ?_⟩
    obtain ⟨ho, hp⟩ := hr.membership m hm
    have ht := hp.tier_of_stored (.inl state)
    exact ⟨ho, hp.1, hp.2, hp.3, fun hi => absurd hi ht, hp.5⟩
  | forgotReplica node =>
    refine ⟨hcanonical, hr.described, fun m hm => ?_⟩
    obtain ⟨ho, hp⟩ := hr.membership m hm
    refine ⟨ho, hp.1, hp.2, hp.3, fun hi => ?_, fun ht => ?_⟩
    · obtain ⟨hs, hl⟩ := hp.inline hi
      simp [hs, Dict.eq_empty hl]
    · simp only
      split
      · exact .inr rfl
      · exact hp.stored ht
  | lost state =>
    refine ⟨hcanonical, hr.described, fun m hm => ?_⟩
    obtain ⟨ho, hp⟩ := hr.membership m hm
    have ht := hp.tier_of_stored (.inl state)
    exact ⟨ho, hp.1, hp.2, hp.3, fun hi => absurd hi ht, fun _ => .inr rfl⟩
  | failed error canonical state canonical_le =>
    have hn : r.outputPublication = none := by
      refine hfree fun m hp => ?_
      rcases state with ⟨hs, _⟩ | hs
      · exact hp.settled.1 hs
      · exact hp.settled.2 hs.1
    refine .of_free hcanonical hn fun d hd => ?_
    rcases canonical_le with rfl | rfl
    · exact hr.described hn d hd
    · cases hd
  | assigned r' trust => exact absurd hv trust
  | adopted envelope output attempt pristine free unretired produced =>
    refine ⟨hcanonical, nofun, ?_⟩
    rintro m ⟨⟩
    have hstorage := envelope.describesSlot.1
    refine ⟨envelope.manifest.slot_objectId.trans output, attempt, produced, rfl, fun hi => ?_,
      fun ht => ?_⟩
    · simp [hstorage.trans hi]
    · have hs : envelope.result.storage ≠ .inline := fun h => ht (hstorage.symm.trans h)
      simp [hs]
  | keptInline manifest data output attempt member tier canonical produced =>
    refine ⟨hcanonical, nofun, ?_⟩
    rintro m ⟨⟩
    exact ⟨manifest.slot_objectId.trans output, attempt, produced, rfl, fun _ => ⟨rfl, rfl⟩,
      fun ht => absurd tier ht⟩
  | keptStored manifest unavailable member epochs state edges =>
    refine ⟨hcanonical, fun hn => by simp [member] at hn, fun m hm => ?_⟩
    obtain ⟨ho, hp⟩ := hr.membership m hm
    have ht := hp.tier_of_stored state
    refine ⟨ho, hp.1, hp.2, hp.3, fun hi => absurd hi ht, fun _ => ?_⟩
    simp only
    split
    · exact .inr rfl
    · exact .inl rfl
  | discarded => exact .of_free hcanonical rfl nofun
  | retiring => exact ⟨hcanonical, hr.2, fun m hm => ⟨(hr.3 m hm).1, (hr.3 m hm).2.1,
      (hr.3 m hm).2.2, (hr.3 m hm).2.3, (hr.3 m hm).2.4, (hr.3 m hm).2.5⟩⟩
  | retired => exact .of_free hcanonical rfl nofun
  | edged edges free => exact .of_free hcanonical free (hr.described free)

end ResultFields

open ResultFields

namespace ObjectOwnerTable

variable {ε : Type} {s s' : ObjectOwnerTable ε} {c : CallerConditions}

/-! ## The claim of a collecting object -/

/-- The frozen claim says what the entry and its task's lineage say. -/
structure Claimed (s : ObjectOwnerTable ε) (o : ObjectID) (e : ObjectOwnerEntry ε)
    (plan : ObjectMetadataCollectionPlan) : Prop where
  held : e.collectionPlan = some plan
  unused : e.Unused
  settled : e.state ≠ .pending
  freezes : Freezes e plan
  lineage : s.finalTaskLineage o = .ok plan.lineageReleases
  integrity : KnownIntegrity e plan.canonicalSizeBytes plan.canonicalChecksum

/-- Every registered object is informed and uncollected, and claimed while it collects. -/
structure Orderly (s : ObjectOwnerTable ε) : Prop where
  informed : ∀ o e, s.entries.get? o = some e → e.toResultFields.Informed o
  uncollected : ∀ o e, s.entries.get? o = some e → ¬ s.IsCollected o
  receipts : ∀ o, (s.outputCollectionReceipts.get? o).isSome → s.IsCollected o
  claimed : ∀ o e, s.entries.get? o = some e → e.collectionPending = true →
    ∃ plan, s.Claimed o e plan

variable {keeps : ObjectID → ReferenceToken → Prop} {o : ObjectID} {e e' : ObjectOwnerEntry ε}

theorem unused_step (h : ReferenceSpec keeps s s') (he : s.entries.get? o = some e)
    (he' : s'.entries.get? o = some e') (hpending : e.collectionPending = true)
      (hunused : e.Unused) :
    e'.Unused := by
  rw [ReferenceFields.unused_iff] at hunused ⊢
  intro ref hh
  rcases h.granted o ref ⟨e', he', hh⟩ with ⟨e₁, he₁, hh⟩ | ⟨_, _, hopen⟩
  · cases he.symm.trans he₁
    exact hunused ref hh
  · rcases hopen e he with hidle | hused
    · simp [hpending] at hidle
    · exact hused (ReferenceFields.unused_iff.mpr hunused)

theorem freezes_of_same {plan : ObjectMetadataCollectionPlan} (h : Freezes e plan)
    (hid : e'.objectId = e.objectId) (hresult : e'.toResultFields = e.toResultFields) :
    Freezes e' plan := by
  refine ⟨?_, ?_, ?_, ?_, ?_, ?_, ?_⟩
  all_goals simp only [hid, hresult]
  · exact h.objectId
  · exact h.attempt
  · exact h.locations
  · exact h.spec
  · exact h.contained
  · exact h.unstored
  · exact h.attempted

theorem knownIntegrity_of_same {size : Option Nat} {checksum : Option String}
    (h : KnownIntegrity e size checksum) (hid : e'.objectId = e.objectId)
    (hresult : e'.toResultFields = e.toResultFields) : KnownIntegrity e' size checksum := by
  refine ⟨?_, ?_⟩
  all_goals simp only [hid, hresult]
  · exact h.published
  · exact h.generic

theorem Orderly.step (h : s.Orderly) (href : ReferenceSpec keeps s s') (hres : ResultSpec c s s')
    (hv : c.validated) (hl : c.lineage) (hi : c.integrity) : s'.Orderly := by
  refine ⟨?_, ?_, ?_, ?_⟩
  · intro o e' he'
    have hslot := hres.slots o
    rw [he'] at hslot
    generalize ho : s.entries.get? o = before at hslot
    cases hslot with
    | registered _ fresh =>
      obtain ⟨attempt, spec, hfresh⟩ := fresh
      rw [hfresh]
      exact .of_free (fun hc => absurd rfl hc) rfl nofun
    | moved e _ collection frozen move => exact (h.informed o e ho).move hv move
    | frozen e _ plan idle result => exact result ▸ h.informed o e ho
  · intro o e' he' hc
    rcases hres.collected_new o hc with hc | hn
    · have hslot := hres.slots o
      rw [he'] at hslot
      generalize ho : s.entries.get? o = before at hslot
      cases hslot with
      | registered _ fresh idle uncollected => exact uncollected hc
      | moved e => exact h.uncollected o e ho hc
      | frozen e => exact h.uncollected o e ho hc
    · simp [he'] at hn
  · intro o ho
    exact (hres.receipts o ho).elim (fun hr => hres.collected_mono o (h.receipts o hr)) id
  · intro o e' he' hpending
    have hslot := hres.slots o
    rw [he'] at hslot
    generalize ho : s.entries.get? o = before at hslot
    cases hslot with
    | registered _ fresh idle => simp [idle] at hpending
    | moved e _ collection frozen move =>
      rw [collection] at hpending
      obtain ⟨plan, hclaim⟩ := h.claimed o e ho hpending
      have hid := (s'.keyed o e' he').trans (s.keyed o e ho).symm
      have hsame := frozen hv hpending
      exact ⟨plan, by rw [collection]; exact hclaim.held,
        unused_step href ho he' hpending hclaim.unused, by rw [hsame]; exact hclaim.settled,
        freezes_of_same hclaim.freezes hid hsame,
        hres.lineage hl o e e' _ ho hpending he' hclaim.lineage,
        knownIntegrity_of_same hclaim.integrity hid hsame⟩
    | frozen e _ plan idle result collection unused settled freezes lineage kept integrity =>
      have hid := (s'.keyed o e' he').trans (s.keyed o e ho).symm
      exact ⟨plan, by rw [collection], unused, by rw [result]; exact settled,
        freezes_of_same freezes hid result,
        (finalTaskLineage_congr (by rw [kept])).trans lineage,
        knownIntegrity_of_same (integrity hi) hid result⟩

/-! ## Completion -/

section Completion

variable {o : ObjectID} {e : ObjectOwnerEntry ε} {plan : ObjectMetadataCollectionPlan}

theorem storedCollectionIdentity_of_claimed (hpending : e.collectionPending = true)
    (hclaim : s.Claimed e.objectId e plan)
    (hinformed : e.toResultFields.Informed e.objectId) :
    ∃ identity, storedCollectionIdentity e plan = .ok identity := by
  cases hm : e.outputPublication with
  | some m => exact ⟨none, by simp [storedCollectionIdentity, hm]⟩
  | none =>
    cases hd : e.canonicalStoredResult with
    | none => exact ⟨none, by simp [storedCollectionIdentity, hm, hd]⟩
    | some d =>
      have hstate := hinformed.canonical (by simp [hd])
      obtain ⟨a, ha⟩ := Option.ne_none_iff_exists'.mp
        (hclaim.freezes.attempted (by simp [hd]) hstate)
      obtain ⟨hsize, hchecksum, hwire⟩ := hclaim.integrity.generic d hm hd
      obtain ⟨hreturn, hnumber, hbytes, hhex⟩ := hwire a ha
      obtain ⟨hobject, hstorage⟩ := hinformed.described hm d hd
      have hplan : plan.objectId = e.objectId := hclaim.freezes.objectId
      have hattempt : plan.producerAttemptId = some a := hclaim.freezes.attempt.trans ha
      refine ⟨some ⟨e.objectId, a, d.ownerWorkerId, d.sizeBytes, d.checksum,
        plan.collectionId⟩, ?_⟩
      simp [storedCollectionIdentity, storedCollectionAttempt, hm, hd, hstorage,
        d.stored_payload hstorage, hstate, hpending, hclaim.held, hreturn, ha, hnumber,
        hbytes, hobject, hplan, hattempt, hsize, hchecksum, hhex]

theorem completeCollectionLocked_of_claimed (he : s.entries.get? o = some e)
    (hpending : e.collectionPending = true) (hclaim : s.Claimed o e plan)
    (hinformed : e.toResultFields.Informed o) :
    ∃ r, s.completeCollectionLocked plan = .ok r := by
  obtain rfl := s.keyed o e he
  have hplan : plan.objectId = e.objectId := hclaim.freezes.objectId
  obtain ⟨identity, hidentity⟩ := storedCollectionIdentity_of_claimed hpending hclaim hinformed
  have hentry : s.entries.get? plan.objectId = some e := by
    rw [hplan]
    exact he
  have hkeyed : s.keyedEntry plan.objectId = .ok ⟨e, hplan.symm⟩ := keyedEntry_eq_ok.mpr hentry
  have hlineage : s.finalTaskLineage plan.objectId = .ok plan.lineageReleases := by
    rw [hplan]
    exact hclaim.lineage
  have hclaimed : s.claimedLineage plan.objectId =
      .ok ⟨plan.lineageReleases, finalTaskLineage_claims hlineage⟩ :=
    claimedLineage_eq_ok.mpr hlineage
  unfold completeCollectionLocked
  refine bind_ok_of hkeyed (bind_ok_of (raiseIf_ok ?_) (bind_ok_of hidentity
    (bind_ok_of hclaimed (bind_ok_of (raiseIf_ok ?_) ⟨_, rfl⟩))))
  · simp [hclaim.held, hclaim.unused]
  · simp

/-- The object is gone, and its release work was handed over once. -/
structure Handed (s s' : ObjectOwnerTable ε) (o : ObjectID) (e : ObjectOwnerEntry ε)
    (collection : ObjectMetadataCollection) : Prop where
  object : collection.objectId = o ∧ collection.collected = true
  contained : collection.containedReleases.Nodup ∧
    ∀ edge, edge ∈ collection.containedReleases ↔ edge ∈ e.outgoingContainedEdges
  lineage : collection.lineageReleases.Nodup ∧
    s.finalTaskLineage o = .ok collection.lineageReleases
  gone : s'.entries.get? o = none ∧ s'.IsCollected o

variable {collection : ObjectMetadataCollection}

theorem Completed.handed (h : Completed s s' plan e collection) :
    Handed s s' plan.objectId e collection := by
  refine ⟨h.collection_id, ⟨collection.contained_once, ?_⟩, ⟨collection.lineage_once, ?_⟩, ?_,
    h.isCollected⟩
  · intro edge
    rw [h.contained, Sorted.mem_sorted]
  · rw [h.claimed]
    exact h.lineage
  · simp [h.entries, eraseEntry]

/-- An object outside output publications is collected by its exact claim. -/
theorem completeCollection_of_claimed (he : s.entries.get? o = some e)
    (hpending : e.collectionPending = true) (hclaim : s.Claimed o e plan)
    (hinformed : e.toResultFields.Informed o) (hfree : e.outputPublication = none) :
    ∃ collection s', s.completeCollection plan = .ok (collection, s') ∧
      Handed s s' o e collection := by
  obtain rfl := s.keyed o e he
  have hplan : plan.objectId = e.objectId := hclaim.freezes.objectId
  obtain ⟨⟨collection, s'⟩, h⟩ := completeCollectionLocked_of_claimed he hpending hclaim hinformed
  obtain ⟨e', hc⟩ := completeCollectionLocked_cases h
  have he' := hc.entry
  rw [hplan] at he'
  cases he.symm.trans he'
  refine ⟨collection, s', ?_, hplan ▸ hc.handed⟩
  simp only [completeCollection, bind_eq_ok, validateCompleteCollection_eq_ok, entry_eq_ok]
  rw [hplan]
  exact ⟨(), ⟨e, he, hpending, hclaim.held, hclaim.unused⟩, e, he, (), by simp [hfree], h⟩

variable {m : OutputOwnerPublicationMembership}

theorem matches_of_claimed (he : s.entries.get? o = some e) (hclaim : s.Claimed o e plan)
    (hinformed : e.toResultFields.Informed o) (hm : e.outputPublication = some m) :
    MatchesSlot m plan ∧ MatchesTier m plan := by
  obtain rfl := s.keyed o e he
  obtain ⟨hobject, hp⟩ := hinformed.membership m hm
  have hedges : Sorted.sorted m.slot.edges.toFinset = Sorted.sortList m.slot.edges :=
    Sorted.sorted_toFinset m.manifest.nodup_edges
  refine ⟨⟨hclaim.freezes.objectId.trans hobject.symm, hclaim.freezes.attempt.trans hp.attempt,
    ?_, ?_⟩, ?_⟩
  · rw [hclaim.freezes.contained, hp.edges, hedges]
  · obtain ⟨spec, hspec, hids, howner, hjob⟩ := hp.produced
    rw [hclaim.freezes.spec, hspec]
    simp [hids, howner, hjob, OutputOwnerPublicationMembership.publicationId]
  · unfold MatchesTier
    split
    · next htier =>
        obtain ⟨hstate, hlocations⟩ := hp.inline htier
        refine ⟨?_, hclaim.freezes.unstored hstate⟩
        rw [hclaim.freezes.locations]
        simp [Dict.keys, hlocations, Sorted.sortList]
    · next htier =>
        refine hclaim.integrity.published m hm ?_
        cases ht : m.slot.tier with
        | inline => exact absurd ht htier
        | objectStore => rfl

theorem outputCollectionReceipt_of_own {p : OutputOwnerPublicationCollectionPlan}
    {d : OutputOwnerPublicationDisposition} (hd : d = .applied ∨ d = .alreadyApplied)
    (hown : collection.collected = true ∧ collection.objectId = p.objectId ∧
      collection.containedReleases = Sorted.sortList p.membership.slot.edges) :
    outputCollectionReceipt p collection d hd = .ok ⟨p, collection, d, hd, hown⟩ := by
  simp only [outputCollectionReceipt, certify, dif_pos hown]
  rfl

theorem completeOutputPublicationCollection_of_claimed (he : s.entries.get? o = some e)
    (hpending : e.collectionPending = true) (hclaim : s.Claimed o e plan)
    (hinformed : e.toResultFields.Informed o) (hreceipt : s.outputCollectionReceipts.get? o = none)
    (hm : e.outputPublication = some m) :
    ∃ P : OutputOwnerPublicationCollectionPlan, P.membership = m ∧ P.metadataPlan = plan ∧
      ∃ receipt s', s.completeOutputPublicationCollection P = .ok (.ok receipt, s') ∧
        Handed s s' o e receipt.collection := by
  obtain ⟨hslot, htier⟩ := matches_of_claimed he hclaim hinformed hm
  obtain ⟨hobject, hp⟩ := hinformed.membership m hm
  have hplan : plan.objectId = o := hclaim.freezes.objectId.trans (s.keyed o e he)
  obtain ⟨⟨collection, s'⟩, h⟩ := completeCollectionLocked_of_claimed he hpending hclaim hinformed
  obtain ⟨e', hc⟩ := completeCollectionLocked_cases h
  have he' := hc.entry
  rw [hplan] at he'
  cases he.symm.trans he'
  have hvalid : s.validateCompleteCollection plan = .ok () :=
    validateCompleteCollection_eq_ok.mpr
      ⟨e, hplan ▸ he, hpending, hclaim.held, hclaim.unused⟩
  have hown : collection.collected = true ∧ collection.objectId = m.objectId ∧
      collection.containedReleases = Sorted.sortList m.slot.edges :=
    ⟨hc.collection_id.2, (hc.collection_id.1.trans hplan).trans hobject.symm,
      hc.contained.trans (hclaim.freezes.contained.symm.trans hslot.2.2.1)⟩
  let P : OutputOwnerPublicationCollectionPlan := ⟨m, plan, hslot, htier⟩
  have hP : P.objectId = o := hobject
  let receipts := s'.outputCollectionReceipts.set o ⟨m.publicationId, m.manifest.manifestDigest,
    m.slotIndex, plan.collectionId, collectionMetadataDigest plan, collection⟩
  refine ⟨P, rfl, rfl, ⟨P, collection, .applied, .inl rfl, hown⟩,
    { s' with outputCollectionReceipts := receipts }, ?_, ?_⟩
  · simp only [completeOutputPublicationCollection, hP, hreceipt, bind_eq_ok, entry_eq_ok]
    refine ⟨e, he, (), by simp [hm, P], (), hvalid, (collection, s'), h, ?_⟩
    rw [outputCollectionReceipt_of_own (p := P) _ hown]
    rfl
  · have hh := hplan ▸ hc.handed
    exact ⟨hh.1, hh.2, hh.3, hh.4⟩

/-! ## Other claims -/

theorem completeCollection_other {other : ObjectMetadataCollectionPlan}
    (he : s.entries.get? other.objectId = some e) (hheld : e.collectionPlan ≠ some other) :
    ∃ raised, s.completeCollection other = .error raised := by
  cases h : s.completeCollection other with
  | error raised => exact ⟨raised, rfl⟩
  | ok r =>
    simp only [completeCollection, bind_eq_ok, validateCompleteCollection_eq_ok] at h
    obtain ⟨_, ⟨e', he', _, hheld', _⟩, _⟩ := h
    cases he.symm.trans he'
    exact absurd hheld' hheld

theorem completeOutputPublicationCollection_other
    {P : OutputOwnerPublicationCollectionPlan} (he : s.entries.get? P.objectId = some e)
    (hreceipt : s.outputCollectionReceipts.get? P.objectId = none)
    (hother : ¬ (e.outputPublication = some P.membership ∧
      e.collectionPlan = some P.metadataPlan)) :
    ∃ raised, s.completeOutputPublicationCollection P = .error raised := by
  cases h : s.completeOutputPublicationCollection P with
  | error raised => exact ⟨raised, rfl⟩
  | ok r =>
    have hplan : P.metadataPlan.objectId = P.objectId := P.matches_slot.1
    simp only [completeOutputPublicationCollection, hreceipt, bind_eq_ok, entry_eq_ok,
      raiseIf_eq_ok, not_not, validateCompleteCollection_eq_ok] at h
    obtain ⟨e₁, he₁, _, hmember, _, ⟨e₂, he₂, _, hheld, _⟩, _⟩ := h
    rw [hplan] at he₂
    cases he.symm.trans he₁
    cases he.symm.trans he₂
    exact absurd ⟨hmember, hheld⟩ hother

end Completion

/-! ## Runs -/

/-- What a call can do to a collecting object: complete its collection, or nothing. -/
def LeftAlone (s' : ObjectOwnerTable ε) (o : ObjectID) (e : ObjectOwnerEntry ε) : Prop :=
  s'.IsCollected o ∧ s'.entries.get? o = none ∨
    ∃ e', s'.entries.get? o = some e' ∧ e'.toResultFields = e.toResultFields ∧
      e'.toCollectionFields = e.toCollectionFields ∧ ∀ ref, ¬ e'.Holds ref

theorem StepSpec.leftAlone (h : StepSpec keeps c s s') (hv : c.validated)
    (he : s.entries.get? o = some e) (hpending : e.collectionPending = true) (hunused : e.Unused) :
    s'.LeftAlone o e := by
  have hslot := h.results.slots o
  rw [he] at hslot
  generalize he' : s'.entries.get? o = after at hslot
  cases hslot with
  | moved _ e' collection frozen move =>
    refine .inr ⟨e', he', frozen hv hpending, collection, ?_⟩
    exact ReferenceFields.unused_iff.mp (unused_step h.references he he' hpending hunused)
  | frozen _ _ _ idle => simp [hpending] at idle
  | forgotten _ idle => simp [hpending] at idle
  | completed _ collected => exact .inl ⟨collected, he'⟩

/-- What stands behind a frozen claim. -/
structure SoundClaim [BEq ε] (s : ObjectOwnerTable ε) (keeps : Op ε → Prop) (o : ObjectID)
    (e : ObjectOwnerEntry ε) (plan : ObjectMetadataCollectionPlan) : Prop where
  held : e.collectionPlan = some plan
  unreferenced : ∀ ref, ¬ e.Holds ref
  left_alone : ∀ op, keeps op → (s.step op).LeftAlone o e
  freezes : Freezes e plan
  integrity : KnownIntegrity e plan.canonicalSizeBytes plan.canonicalChecksum
  lineage : s.finalTaskLineage o = .ok plan.lineageReleases
  completes : e.outputPublication = none → ∃ collection s',
    s.completeCollection plan = .ok (collection, s') ∧ Handed s s' o e collection
  completes_output : ∀ m, e.outputPublication = some m →
    ∃ P : OutputOwnerPublicationCollectionPlan, P.membership = m ∧ P.metadataPlan = plan ∧
      ∃ receipt s', s.completeOutputPublicationCollection P = .ok (.ok receipt, s') ∧
        Handed s s' o e receipt.collection
  other : ∀ other : ObjectMetadataCollectionPlan, other.objectId = o → other ≠ plan →
    (∃ raised, s.completeCollection other = .error raised) ∧
      s.step (.completeCollection other) = s
  other_output : ∀ P : OutputOwnerPublicationCollectionPlan, P.objectId = o →
    ¬ (e.outputPublication = some P.membership ∧ P.metadataPlan = plan) →
      (∃ raised, s.completeOutputPublicationCollection P = .error raised) ∧
        s.step (.completeOutputPublicationCollection P) = s

variable [BEq ε]

/-- Trusted plans were just validated, lineage stays, and the known integrity is claimed. -/
def KeepsClaims (s : ObjectOwnerTable ε) (op : Op ε) : Prop :=
  (s.callerConditions op).validated ∧ (s.callerConditions op).lineage ∧
    (s.callerConditions op).integrity

theorem orderly_run {ops : List (Op ε)} (h : Admissible step KeepsClaims .empty ops) :
    (run step (.empty : ObjectOwnerTable ε) ops).Orderly := by
  refine h.invariant (p := Orderly) ?_ ?_
  · rintro s op ⟨hv, hl, hi⟩ hs
    exact hs.step (s.step_spec op).references (s.step_spec op).results hv hl hi
  · exact ⟨by simp, by simp, by simp [ObjectOwnerTable.empty], by simp⟩

theorem Orderly.soundClaim (hs : s.Orderly) (he : s.entries.get? o = some e)
    (hpending : e.collectionPending = true) : ∃ plan, s.SoundClaim s.KeepsClaims o e plan := by
  obtain ⟨plan, hclaim⟩ := hs.claimed o e he hpending
  have hinformed := hs.informed o e he
  have hreceipt : s.outputCollectionReceipts.get? o = none := by
    rw [← Option.not_isSome_iff_eq_none]
    exact fun hr => hs.uncollected o e he (hs.receipts o hr)
  refine ⟨plan, hclaim.held, ReferenceFields.unused_iff.mp hclaim.unused, ?_, hclaim.freezes,
    hclaim.integrity, hclaim.lineage, completeCollection_of_claimed he hpending hclaim hinformed,
    fun m hm => completeOutputPublicationCollection_of_claimed he hpending hclaim hinformed
      hreceipt hm, ?_, ?_⟩
  · intro op hkeeps
    exact (s.step_spec op).leftAlone hkeeps.1 he hpending hclaim.unused
  · rintro other rfl hne
    have hheld : e.collectionPlan ≠ some other := by
      rw [hclaim.held]
      exact fun h => hne (Option.some.inj h).symm
    obtain ⟨raised, hraised⟩ := completeCollection_other he hheld
    exact ⟨⟨raised, hraised⟩, by change commit s _ = s; rw [hraised]; rfl⟩
  · rintro P rfl hne
    have hother : ¬ (e.outputPublication = some P.membership ∧
        e.collectionPlan = some P.metadataPlan) := by
      rw [hclaim.held, Option.some.injEq]
      exact fun h => hne ⟨h.1, h.2.symm⟩
    obtain ⟨raised, hraised⟩ := completeOutputPublicationCollection_other he hreceipt hother
    exact ⟨⟨raised, hraised⟩, by change commit s _ = s; rw [hraised]; rfl⟩

/-- In every run whose callers keep the claims, each collecting object has no reference and
gains none, its claim stays as frozen, and exactly that claim completes, once. -/
theorem collecting_sound (ops : List (Op ε)) (hcontract : Admissible step KeepsClaims .empty ops)
    (o : ObjectID) (e : ObjectOwnerEntry ε) (he : (run step .empty ops).entries.get? o = some e)
    (hpending : e.collectionPending = true) :
    ∃ plan, (run step .empty ops).SoundClaim (run step .empty ops).KeepsClaims o e plan :=
  (orderly_run hcontract).soundClaim he hpending

/-! ## A claim that cannot be completed -/

namespace Sample

/-- A stored result of one byte starts being collected as one of the given size. -/
def collecting (size : Nat) : List (Op Unit) :=
  [.register object (some ⟨task, 0⟩) none none, .commitPublishTaskOutputs (publication 1),
    .beginCollection object (some "claim") "" (some size) (some (stored 1).checksum)]

theorem collecting_entry (size : Nat) : ((run step .empty (collecting size)).entries.get?
    object).map (fun e => e.collectionPending) = some true := by
  rfl

theorem keepsClaims_collecting : Admissible step KeepsClaims .empty (collecting 1) := by
  refine ⟨⟨trivial, trivial, trivial⟩, ⟨trivial, trivial, trivial⟩, ⟨trivial, trivial, ?_⟩, trivial⟩
  intro e he
  have hentry : ((run step .empty (collecting 1).dropLast).entries.get? object).map
      (fun e => (e.objectId, e.currentAttempt, e.outputPublication, e.canonicalStoredResult)) =
        some (object, some ⟨task, 0⟩, none, some (stored 1)) := by
    rfl
  obtain ⟨e', he', hfields⟩ := Option.map_eq_some_iff.mp hentry
  cases he.symm.trans he'
  simp only [Prod.mk.injEq] at hfields
  obtain ⟨hid, hattempt, hfree, hcanonical⟩ := hfields
  refine ⟨by simp [hfree], ?_⟩
  rintro d _ hd
  cases hcanonical.symm.trans hd
  refine ⟨rfl, rfl, ?_⟩
  rintro a ha
  cases hattempt.symm.trans ha
  rw [hid]
  exact ⟨by decide, by decide, by decide, by decide⟩

end Sample

open Sample in
theorem collecting_sound_stored : ∃ e plan,
    (run step .empty (collecting 1)).entries.get? object = some e ∧
      (run step .empty (collecting 1)).SoundClaim (run step .empty (collecting 1)).KeepsClaims
        object e plan := by
  obtain ⟨e, he, hpending⟩ := Option.map_eq_some_iff.mp (collecting_entry 1)
  obtain ⟨plan, hclaim⟩ := collecting_sound _ keepsClaims_collecting object e he hpending
  exact ⟨e, plan, he, hclaim⟩

open Sample in
/-- A claim begun with another size is frozen, and its exact plan is refused. -/
theorem not_collecting_sound : ¬ ∀ ops : List (Op Unit),
    (∀ t edges, Op.abortTaskLineageEdges t edges ∉ ops) →
    ∀ o e plan, (run step .empty ops).entries.get? o = some e → e.collectionPending = true →
      e.collectionPlan = some plan →
      ∃ r, (run step .empty ops).completeCollection plan = .ok r := by
  intro h
  let s : ObjectOwnerTable Unit := run step .empty (collecting 2)
  have hrefused : (s.entries.get? object).map (fun e => (e.collectionPending,
      e.collectionPlan.map fun plan => (s.completeCollection plan).isOk)) =
        some (true, some false) := by
    rfl
  obtain ⟨e, he, hfields⟩ := Option.map_eq_some_iff.mp hrefused
  obtain ⟨hpending, hplan⟩ := Prod.mk.inj hfields
  obtain ⟨plan, hplan, hbad⟩ := Option.map_eq_some_iff.mp hplan
  obtain ⟨r, hr⟩ := h (collecting 2) (by simp [collecting]) object e plan he hpending hplan
  have hok : s.completeCollection plan = .ok r := hr
  simp [hok, Except.isOk, Except.toBool] at hbad

end ObjectOwnerTable

end MiniRay
