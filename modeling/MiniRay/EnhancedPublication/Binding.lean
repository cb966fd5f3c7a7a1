import MiniRay.EnhancedPublication.Atomicity

/-! The binding checks run only when a record is created. Begin can only create a record, since a
record without INTENT was created by a fence. -/

namespace MiniRay

open Checked PublicationSnapshot

namespace PublicationRequest

variable {request : PublicationRequest}

theorem admitting_of_stage (h : request.stage = some .intent) : request.admitting = true := by
  cases request <;> simp_all [stage, admitting]

theorem stage_of_publication {p : Publication} (h : request.publication = some p) :
    request.stage = some .intent ∨ request.stage = some .fenced := by
  cases request <;> simp_all [stage, publication]

end PublicationRequest

namespace PublicationAuthority

variable {self : PublicationAuthority} {request : PublicationRequest}

/-- Two records of one object that were both admitted came one epoch after the other. -/
structure EpochSpec (k k' : PublicationKey) (s s' : PublicationSnapshot) : Prop where
  one_live : s.receipt .intent ≠ none → s.receipt .retired = none →
    s'.receipt .intent ≠ none → s'.receipt .retired = none → k = k'
  attempts : k ≠ k' → ∀ i i', s.receipt .intent = some i → s'.receipt .intent = some i' →
    i.sequence < i'.sequence ∧ k.attemptId.attemptNumber < k'.attemptId.attemptNumber ∨
      i'.sequence < i.sequence ∧ k'.attemptId.attemptNumber < k.attemptId.attemptNumber

/-- What any two records of the authority, fences before Begin included, agree on. -/
structure PairSpec (k k' : PublicationKey) (s s' : PublicationSnapshot) : Prop where
  one_job : s.publication.jobId = s'.publication.jobId
  one_address : s.publication.ownerWorkerId = s'.publication.ownerWorkerId →
    s.publication.ownerAddress = s'.publication.ownerAddress
  one_owner : ∀ entry ∈ s.publication.ownerEntries, ∀ entry' ∈ s'.publication.ownerEntries,
    entry.1 = entry'.1 → entry.2 = entry'.2
  epochs : s.publication.objectId = s'.publication.objectId → EpochSpec k k' s s'

structure BindingSpec (authority : PublicationAuthority) : Prop where
  admitted_or_fenced : ∀ k s, authority.records.get? k = some s →
    s.has .intent = true ∨ s.has .fenced = true
  pairs : ∀ k k' s s', authority.records.get? k = some s → authority.records.get? k' = some s' →
    PairSpec k k' s s'

variable {k k' : PublicationKey} {s s' : PublicationSnapshot}

theorem EpochSpec.symm (h : EpochSpec k k' s s') : EpochSpec k' k s' s :=
  ⟨fun hi hr hi' hr' => (h.one_live hi' hr' hi hr).symm,
    fun hne i i' hi hi' => (h.attempts (Ne.symm hne) i' i hi' hi).symm⟩

theorem PairSpec.symm (h : PairSpec k k' s s') : PairSpec k' k s' s :=
  ⟨h.one_job.symm, fun howner => (h.one_address howner.symm).symm,
    fun e he e' he' heq => (h.one_owner e' he' e he heq.symm).symm,
    fun hobject => (h.epochs hobject.symm).symm⟩

/-! ## Where a record comes from -/

/-- The same publication with the same admission, retired no earlier. -/
structure Continues (s s' : PublicationSnapshot) : Prop where
  publication : s'.publication = s.publication
  intent : s'.receipt .intent = s.receipt .intent
  retired : s'.receipt .retired = none → s.receipt .retired = none
  fenced : s.has .fenced = true → s'.has .fenced = true

theorem Continues.refl (s : PublicationSnapshot) : Continues s s := ⟨rfl, rfl, id, id⟩

theorem PairSpec.continues {t t' : PublicationSnapshot} (h : PairSpec k k' s s')
    (hc : Continues s t) (hc' : Continues s' t') : PairSpec k k' t t' := by
  refine ⟨?_, ?_, ?_, ?_⟩
  · rw [hc.publication, hc'.publication]
    exact h.one_job
  · rw [hc.publication, hc'.publication]
    exact h.one_address
  · rw [hc.publication, hc'.publication]
    exact h.one_owner
  · rw [hc.publication, hc'.publication]
    intro hobject
    have hepoch := h.epochs hobject
    refine ⟨fun hi hr hi' hr' => ?_, fun hne i i' hi hi' => ?_⟩
    · rw [hc.intent] at hi
      rw [hc'.intent] at hi'
      exact hepoch.one_live hi (hc.retired hr) hi' (hc'.retired hr')
    · rw [hc.intent] at hi
      rw [hc'.intent] at hi'
      exact hepoch.attempts hne i i' hi hi'

/-- A record created by this call, checked against every older one. -/
structure Created (authority : PublicationAuthority) (admitting : Bool) (k : PublicationKey)
    (s : PublicationSnapshot) : Prop where
  binding : authority.validateBinding s.publication admitting = .ok ()
  key : s.reference.key = k
  intent : ∀ i, s.receipt .intent = some i →
    i.sequence = authority.sequence + 1 ∧ admitting = true
  admitted_or_fenced : s.has .intent = true ∨ s.has .fenced = true

variable {reply : PublicationReply} {next : PublicationAuthority}

/-- Every record after a call continues an older one or was created by the call. -/
theorem Outcome.origin (hb : BindingSpec self) (hout : Outcome self request reply next)
    (hs : next.records.get? k = some s) :
    (∃ old, self.records.get? k = some old ∧ Continues old s) ∨
      k = request.reference.key ∧ ∃ admitting, Created self admitting k s := by
  cases hout with
  | rejected | queried | replayed => exact Or.inl ⟨s, hs, .refl s⟩
  | @recorded stage previous changed receipt updated hstage ha hc hnew hr hu hinv =>
    rcases Dict.of_get?_set hs with ⟨hkey, rfl⟩ | hs
    · have hreceipts : updated.receipts = previous.receipts ++ [receipt] := by
        rw [hu, hc.receipts_eq]
      have hpublication : updated.publication = previous.publication := by
        rw [hu, ← hc.publication_eq]
      have hat : receipt.stage = stage := by rw [hr]
      have hhas := has_append hreceipts
      rcases ha.known with hknown | ⟨_, hfresh, hrequest, hbinding⟩
      · refine Or.inl ⟨previous, hkey ▸ hknown, hpublication, ?_, ?_, ?_⟩
        · -- Begin finds an unadmitted record only behind a fence, which closes it.
          have hne : stage ≠ .intent := by
            rintro rfl
            have hopen := hc.forwardOpen hstage (by simp [forwardStages]) hnew
            rcases hb.admitted_or_fenced _ _ hknown with hi | hf
            · simp [PublicationSnapshot.has, hnew] at hi
            · simp [PublicationSnapshot.has, ha.inv.fenced_eq_none hopen] at hf
          rw [receipt_append hreceipts, hat, if_neg hne, Option.or_none]
        · intro hretired
          rw [receipt_append hreceipts] at hretired
          exact (Option.or_eq_none_iff.mp hretired).1
        · intro hfenced
          rw [hhas, hfenced, Bool.true_or]
      · refine Or.inr ⟨hkey.symm, request.admitting, ?_, ?_, ?_, ?_⟩
        · rw [hpublication]
          exact hbinding
        · rw [reference, hpublication, ← hkey, ha.reference, reference]
        · intro i hi
          have hnone : previous.receipt .intent = none := by rw [hfresh]; rfl
          obtain ⟨hi', rfl⟩ : receipt.stage = .intent ∧ receipt = i := by
            simpa [receipt_append hreceipts, hnone] using hi
          rw [hat] at hi'
          exact ⟨by rw [hr], PublicationRequest.admitting_of_stage (hi' ▸ hstage)⟩
        · rw [hhas, hhas, hat]
          rcases PublicationRequest.stage_of_publication hrequest with hst | hst
          · obtain rfl : stage = .intent := Option.some.inj (hstage.symm.trans hst)
            simp
          · obtain rfl : stage = .fenced := Option.some.inj (hstage.symm.trans hst)
            simp
    · exact Or.inl ⟨s, hs, .refl s⟩

/-! ## Checks at creation -/

variable {admitting : Bool}

theorem validateBinding_pair {publication : Publication}
    (h : self.validateBinding publication admitting = .ok ()) (hs : self.records.get? k = some s) :
    s.publication.jobId = publication.jobId ∧
      (s.publication.ownerWorkerId = publication.ownerWorkerId →
        s.publication.ownerAddress = publication.ownerAddress) ∧
      (∀ entry ∈ s.publication.ownerEntries, ∀ entry' ∈ publication.ownerEntries,
        entry.1 = entry'.1 → entry.2 = entry'.2) ∧
      (s.publication.objectId = publication.objectId → admitting = true →
        s.receipt .intent ≠ none → s.receipt .retired ≠ none ∧
          s.reference.key.attemptId.attemptNumber <
            publication.reference.key.attemptId.attemptNumber) := by
  simp only [validateBinding, create_registered, bind_eq_ok, checkAll_eq_ok, raiseIf_eq_ok,
    not_not, Except.ok.injEq, exists_eq_left', exists_const] at h
  obtain ⟨hcheck, hfunctional⟩ := h
  have hs' : s ∈ self.records.values := Dict.mem_values_iff.mpr ⟨k, hs⟩
  have hone := hcheck s hs'
  simp only [checkBinding, bind_eq_ok, raiseIf_eq_ok, ite_eq_ok, exists_const, not_not] at hone
  obtain ⟨hjob, haddress, hobject⟩ := hone
  refine ⟨hjob, ?_, ?_, ?_⟩
  · intro howner
    by_contra hne
    exact haddress ⟨howner, hne⟩
  · intro entry he entry' he' heq
    exact hfunctional entry (List.mem_flatMap.mpr ⟨s, by simp [hs'], he⟩) entry'
      (List.mem_flatMap.mpr ⟨.registered publication, by simp, he'⟩) heq
  · intro hsame hadmitting hintent
    have hepoch := (hobject.resolve_right fun hne => hne.1 hsame).2.2
    have hskip : ¬ (admitting = false ∨ s.receipt .intent = none) := by simp [hadmitting, hintent]
    obtain ⟨hretired, hattempt⟩ := (hepoch.resolve_left fun hyes => hskip hyes.1).2
    exact ⟨hretired, Nat.lt_of_not_le hattempt⟩

theorem Created.one_owner (h : Created self admitting k s) : ∀ entry ∈ s.publication.ownerEntries,
      ∀ entry' ∈ s.publication.ownerEntries, entry.1 = entry'.1 → entry.2 = entry'.2 := by
  have hbinding := h.binding
  simp only [validateBinding, create_registered, bind_eq_ok, checkAll_eq_ok, raiseIf_eq_ok,
    not_not, Except.ok.injEq, exists_eq_left', exists_const] at hbinding
  intro entry he entry' he' heq
  exact hbinding.2 entry (List.mem_flatMap.mpr ⟨.registered s.publication, by simp, he⟩) entry'
    (List.mem_flatMap.mpr ⟨.registered s.publication, by simp, he'⟩) heq

theorem Created.pair (h : Inv self) (hc : Created self admitting k' s')
    (hs : self.records.get? k = some s) : PairSpec k k' s s' := by
  obtain ⟨hjob, haddress, howner, hepoch⟩ := validateBinding_pair hc.binding hs
  refine ⟨hjob, haddress, howner, fun hobject => ⟨fun hi hr hi' _ => ?_, fun _ i i' hi hi' => ?_⟩⟩
  · obtain ⟨i', hi'⟩ := Option.ne_none_iff_exists'.mp hi'
    exact absurd hr (hepoch hobject (hc.intent i' hi').2 hi).1
  · obtain ⟨hseq, hadmitting⟩ := hc.intent i' hi'
    have hbound := (h.records k s hs).bounded i (mem_of_receipt hi).1
    obtain ⟨_, hattempt⟩ := hepoch hobject hadmitting (by simp [hi])
    refine Or.inl ⟨by omega, ?_⟩
    rw [← h.keys k s hs, ← hc.key]
    exact hattempt

theorem Outcome.binding (h : Inv self) (hb : BindingSpec self)
    (hout : Outcome self request reply next) : BindingSpec next := by
  refine ⟨fun k s hs => ?_, fun k k' s s' hs hs' => ?_⟩
  · rcases hout.origin hb hs with ⟨old, hold, hcont⟩ | ⟨_, _, hcreated⟩
    · rcases hb.admitted_or_fenced k old hold with hi | hf
      · left
        rwa [PublicationSnapshot.has, hcont.intent]
      · exact Or.inr (hcont.fenced hf)
    · exact hcreated.admitted_or_fenced
  · rcases hout.origin hb hs with ⟨old, hold, hcont⟩ | ⟨hk, _, hcreated⟩
    · rcases hout.origin hb hs' with ⟨old', hold', hcont'⟩ | ⟨_, _, hcreated'⟩
      · exact (hb.pairs k k' old old' hold hold').continues hcont hcont'
      · exact (hcreated'.pair h hold).continues hcont (.refl s')
    · rcases hout.origin hb hs' with ⟨old', hold', hcont'⟩ | ⟨hk', _, _⟩
      · exact ((hcreated.pair h hold').continues hcont' (.refl s)).symm
      · obtain rfl : k = k' := hk.trans hk'.symm
        obtain rfl : s = s' := Option.some.inj (hs.symm.trans hs')
        exact ⟨rfl, fun _ => rfl, hcreated.one_owner, fun _ =>
          ⟨fun _ _ _ _ => rfl, fun hne => absurd rfl hne⟩⟩

end PublicationAuthority

end MiniRay
