import MiniRay.Library.Ledger
import MiniRay.Ownership.Guards

/-! Which references keep an object alive, which may not come back, and what one call does to both.
-/

namespace MiniRay

/-! ## References -/

/-- One identity that can keep an object alive. -/
inductive Reference
  | localRef (token : ReferenceToken)
  | submitted (hold : TaskReferenceHold)
  | borrowed (token : ReferenceToken)
  | retained (hold : TaskReferenceHold)
  | contained (hold : ContainedReferenceHold)
  | lineage (token : ReferenceToken)

namespace Reference

/-- The Worker whose death retires the reference. -/
def workerId : Reference → Option WorkerID
  | .submitted hold => some hold.submittingWorkerId
  | .retained hold => some hold.submittingWorkerId
  | .borrowed token => borrowerWorkerId token
  | .contained hold => some hold.containerOwnerWorkerId
  | _ => none

/-- Local handles come and go without tombstones. -/
def IsLocal : Reference → Prop
  | .localRef _ => True
  | _ => False

end Reference

namespace ReferenceFields

def Holds (f : ReferenceFields) : Reference → Prop
  | .localRef token => token ∈ f.localTokens
  | .submitted hold => hold ∈ f.submittedTokens
  | .borrowed token => token ∈ f.borrowedTokens
  | .retained hold => hold ∈ f.retainedTokens
  | .contained hold => hold ∈ f.containedHolds
  | .lineage token => token ∈ f.lineageTokens

theorem unused_iff {f : ReferenceFields} : f.Unused ↔ ∀ ref, ¬ f.Holds ref := by
  constructor
  · rintro ⟨hl, hs, hb, hr, hc, hn⟩ (t | t | t | t | t | t) <;> simp [Holds, *]
  · intro h
    simp only [Unused, Finset.eq_empty_iff_forall_notMem]
    exact ⟨fun t => h (.localRef t), fun t => h (.submitted t), fun t => h (.borrowed t),
      fun t => h (.retained t), fun t => h (.contained t), fun t => h (.lineage t)⟩

/-- A tombstone is kept in the entry for borrowers, in the table otherwise. -/
def Gone (h : ReferenceHistory) (o : ObjectID) (f : ReferenceFields) : Reference → Prop
  | .localRef _ => False
  | .submitted hold => (o, hold) ∈ h.releasedSubmittedTokens
  | .borrowed token => token ∈ f.releasedBorrowedTokens
  | .retained hold => (o, hold) ∈ h.releasedRetainedTokens
  | .contained hold => (o, hold) ∈ h.releasedContainedHolds
  | .lineage token => (o, token) ∈ h.releasedLineageTokens

end ReferenceFields

namespace ObjectOwnerTable

variable {ε : Type}

def Live (s : ObjectOwnerTable ε) (o : ObjectID) (ref : Reference) : Prop :=
  ∃ e, s.entries.get? o = some e ∧ e.Holds ref

/-- The reference may not come back. A borrower's tombstone lives in its entry, and in the
terminal tombstone of a collected object. -/
def Gone (s : ObjectOwnerTable ε) (o : ObjectID) (ref : Reference) : Prop :=
  match s.entries.get? o, ref with
  | some e, ref => e.Gone s.toReferenceHistory o ref
  | none, .localRef _ => False
  | none, .submitted hold => (o, hold) ∈ s.releasedSubmittedTokens
  | none, .borrowed _ => s.IsCollected o
  | none, .retained hold => (o, hold) ∈ s.releasedRetainedTokens
  | none, .contained hold => (o, hold) ∈ s.releasedContainedHolds
  | none, .lineage token => (o, token) ∈ s.releasedLineageTokens

/-- No collection claim stands on the object while it is unused. -/
def Open (s : ObjectOwnerTable ε) (o : ObjectID) : Prop :=
  ∀ e, s.entries.get? o = some e → e.collectionPending = false ∨ ¬ e.Unused

end ObjectOwnerTable

/-- What a call does to references; `keeps` names the borrower tombstones that stay. -/
structure ReferenceSpec {ε : Type} (keeps : ObjectID → ReferenceToken → Prop)
    (s s' : ObjectOwnerTable ε) : Prop where
  gone_mono : ∀ o ref, (∀ t, ref = .borrowed t → keeps o t) → s.Gone o ref → s'.Gone o ref
  granted : ∀ o ref, s'.Live o ref → s.Live o ref ∨
    ¬ s.Gone o ref ∧ (∀ w, ref.workerId = some w → ¬ s'.Dead w) ∧ s.Open o
  retired : ∀ o ref, s.Live o ref → s'.Live o ref ∨ ref.IsLocal ∨ s'.Gone o ref
  buried : ∀ o ref, s'.Gone o ref → s.Gone o ref ∨ ¬ s'.Live o ref
  dead_mono : ∀ w, s.Dead w → s'.Dead w
  fenced : ∀ w, s'.Dead w → s.Dead w ∨ ∀ o ref, ref.workerId = some w → ¬ s'.Live o ref

/-! ## References of one entry -/

/-- A call on the references of one entry; `idle`: unused, it has no collection claim. -/
structure ReferenceMove (h h' : ReferenceHistory) (o : ObjectID) (idle : Prop)
    (f f' : ReferenceFields) : Prop where
  gone_mono : ∀ ref, f.Gone h o ref → f'.Gone h' o ref
  granted : ∀ ref, f'.Holds ref → f.Holds ref ∨
    ¬ f.Gone h o ref ∧ (∀ w, ref.workerId = some w → ¬ h'.Dead w) ∧ idle
  retired : ∀ ref, f.Holds ref → f'.Holds ref ∨ ref.IsLocal ∨ f'.Gone h' o ref
  buried : ∀ ref, f'.Gone h' o ref → f.Gone h o ref ∨ ¬ f'.Holds ref

variable {h h' : ReferenceHistory} {o : ObjectID} {idle : Prop} {f f' : ReferenceFields}

theorem ReferenceMove.of_iff (out in' : Reference → Prop)
    (hholds : ∀ ref, f'.Holds ref ↔ f.Holds ref ∧ ¬ out ref ∨ in' ref)
    (hgone : ∀ ref, f'.Gone h' o ref ↔ f.Gone h o ref ∨ out ref ∧ ¬ ref.IsLocal)
    (hin : ∀ ref, in' ref → ¬ out ref ∧ ¬ f.Gone h o ref ∧
      (∀ w, ref.workerId = some w → ¬ h'.Dead w) ∧ idle) :
    ReferenceMove h h' o idle f f' := by
  refine ⟨fun ref hg => (hgone ref).mpr (.inl hg), ?_, ?_, ?_⟩
  · intro ref hh
    rcases (hholds ref).mp hh with ⟨hh, _⟩ | hi
    · exact .inl hh
    · exact .inr (hin ref hi).2
  · intro ref hh
    by_cases ho : out ref
    · by_cases hl : ref.IsLocal
      · exact .inr (.inl hl)
      · exact .inr (.inr ((hgone ref).mpr (.inr ⟨ho, hl⟩)))
    · exact .inl ((hholds ref).mpr (.inl ⟨hh, ho⟩))
  · intro ref hg
    rcases (hgone ref).mp hg with hg | ⟨ho, _⟩
    · exact .inl hg
    · refine .inr fun hh => ?_
      rcases (hholds ref).mp hh with ⟨_, hn⟩ | hi
      · exact hn ho
      · exact (hin ref hi).1 ho

theorem ReferenceMove.added (new : Reference)
    (hholds : ∀ ref, f'.Holds ref ↔ f.Holds ref ∨ ref = new)
    (hgone : ∀ ref, f'.Gone h o ref ↔ f.Gone h o ref) (hfresh : ¬ f.Gone h o new)
    (halive : ∀ w, new.workerId = some w → ¬ h.Dead w) (hidle : idle) :
    ReferenceMove h h o idle f f' := by
  refine .of_iff (fun _ => False) (· = new) (fun ref => ?_) (fun ref => ?_) ?_
  · simp [hholds]
  · simp [hgone]
  · rintro _ rfl
    exact ⟨id, hfresh, halive, hidle⟩

theorem ReferenceMove.released (out : Reference → Prop)
    (hholds : ∀ ref, f'.Holds ref ↔ f.Holds ref ∧ ¬ out ref)
    (hgone : ∀ ref, f'.Gone h' o ref ↔ f.Gone h o ref ∨ out ref ∧ ¬ ref.IsLocal) :
    ReferenceMove h h' o idle f f' :=
  .of_iff out (fun _ => False) (fun ref => by simp [hholds]) hgone nofun

structure SameTombstones (h h' : ReferenceHistory) (o : ObjectID) : Prop where
  submitted : ∀ x, (o, x) ∈ h'.releasedSubmittedTokens ↔ (o, x) ∈ h.releasedSubmittedTokens
  retained : ∀ x, (o, x) ∈ h'.releasedRetainedTokens ↔ (o, x) ∈ h.releasedRetainedTokens
  contained : ∀ x, (o, x) ∈ h'.releasedContainedHolds ↔ (o, x) ∈ h.releasedContainedHolds
  lineage : ∀ x, (o, x) ∈ h'.releasedLineageTokens ↔ (o, x) ∈ h.releasedLineageTokens

theorem SameTombstones.refl (h : ReferenceHistory) (o : ObjectID) : SameTombstones h h o :=
  ⟨fun _ => .rfl, fun _ => .rfl, fun _ => .rfl, fun _ => .rfl⟩

theorem ReferenceMove.same (hs : SameTombstones h h' o) : ReferenceMove h h' o idle f f := by
  have hgone : ∀ ref, f.Gone h' o ref ↔ f.Gone h o ref := by
    rintro (t | t | t | t | t | t)
    · exact .rfl
    · exact hs.submitted t
    · exact .rfl
    · exact hs.retained t
    · exact hs.contained t
    · exact hs.lineage t
  exact ⟨fun ref => (hgone ref).mpr, fun _ h => .inl h, fun _ h => .inl h,
    fun ref h => .inl ((hgone ref).mp h)⟩

namespace ReferenceSpec

open ObjectOwnerTable

variable {ε : Type} {keeps : ObjectID → ReferenceToken → Prop} {s s' : ObjectOwnerTable ε}

theorem refl (s : ObjectOwnerTable ε) : ReferenceSpec keeps s s :=
  ⟨fun _ _ _ h => h, fun _ _ h => .inl h, fun _ _ h => .inl h, fun _ _ h => .inl h,
    fun _ h => h, fun _ h => .inl h⟩

theorem of_moves
    (hentry : ∀ o e, s.entries.get? o = some e → ∃ e', s'.entries.get? o = some e' ∧
      ReferenceMove s.toReferenceHistory s'.toReferenceHistory o
        (e.collectionPending = false ∨ ¬ e.Unused) e.toReferenceFields e'.toReferenceFields)
    (habsent : ∀ o, s.entries.get? o = none → s'.entries.get? o = none ∧
      SameTombstones s.toReferenceHistory s'.toReferenceHistory o)
    (hcollected : s'.collected = s.collected)
    (hdead : ∀ w, s.Dead w → s'.Dead w)
    (hfenced : ∀ w, s'.Dead w → s.Dead w ∨ ∀ o ref, ref.workerId = some w → ¬ s'.Live o ref) :
    ReferenceSpec keeps s s' := by
  have hgone : ∀ o, s.entries.get? o = none → ∀ ref, s'.Gone o ref ↔ s.Gone o ref := by
    intro o ho ref
    obtain ⟨ho', hs⟩ := habsent o ho
    cases ref with
    | localRef t => simp [Gone, ho, ho']
    | submitted t => simpa [Gone, ho, ho'] using hs.submitted t
    | borrowed t => simp [Gone, ho, ho', IsCollected, hcollected]
    | retained t => simpa [Gone, ho, ho'] using hs.retained t
    | contained t => simpa [Gone, ho, ho'] using hs.contained t
    | lineage t => simpa [Gone, ho, ho'] using hs.lineage t
  refine ⟨?_, ?_, ?_, ?_, hdead, hfenced⟩
  · intro o ref _ h
    cases ho : s.entries.get? o with
    | none => exact (hgone o ho ref).mpr h
    | some e =>
      obtain ⟨e', he', hm⟩ := hentry o e ho
      simp only [Gone, ho] at h
      simpa only [Gone, he'] using hm.gone_mono ref h
  · rintro o ref ⟨e', he', hh⟩
    cases ho : s.entries.get? o with
    | none => simp [(habsent o ho).1] at he'
    | some e =>
      obtain ⟨e₁, he₁, hm⟩ := hentry o e ho
      cases he'.symm.trans he₁
      rcases hm.granted ref hh with hh | ⟨hn, hw, hi⟩
      · exact .inl ⟨e, ho, hh⟩
      · refine .inr ⟨by simpa only [Gone, ho] using hn, hw, ?_⟩
        intro e₂ he₂
        cases ho.symm.trans he₂
        exact hi
  · rintro o ref ⟨e, he, hh⟩
    obtain ⟨e', he', hm⟩ := hentry o e he
    rcases hm.retired ref hh with hh | hl | hg
    · exact .inl ⟨e', he', hh⟩
    · exact .inr (.inl hl)
    · exact .inr (.inr (by simpa only [Gone, he'] using hg))
  · intro o ref h
    cases ho : s.entries.get? o with
    | none => exact .inl ((hgone o ho ref).mp h)
    | some e =>
      obtain ⟨e', he', hm⟩ := hentry o e ho
      simp only [Gone, he'] at h
      rcases hm.buried ref h with hg | hn
      · exact .inl (by simpa only [Gone, ho] using hg)
      · refine .inr ?_
        rintro ⟨e₁, he₁, hh⟩
        cases he'.symm.trans he₁
        exact hn hh

variable {e e' : ObjectOwnerEntry ε}

theorem of_entry (he : s.entries.get? e.objectId = some e)
    (hentries : s'.entries = (s.setEntry e').entries) (hid : e'.objectId = e.objectId)
    (hcollected : s'.collected = s.collected) (hdead : s'.deadWorkerCleanups = s.deadWorkerCleanups)
    (hother : ∀ o, o ≠ e.objectId → SameTombstones s.toReferenceHistory s'.toReferenceHistory o)
    (hmove : ReferenceMove s.toReferenceHistory s'.toReferenceHistory e.objectId
      (e.collectionPending = false ∨ ¬ e.Unused) e.toReferenceFields e'.toReferenceFields) :
    ReferenceSpec keeps s s' := by
  have hw : ∀ w, s'.Dead w ↔ s.Dead w := fun w => by simp [ReferenceHistory.Dead, hdead]
  refine of_moves ?_ ?_ hcollected (fun w => (hw w).mpr) (fun w h => .inl ((hw w).mp h))
  · intro o e₁ he₁
    rw [hentries, get?_setEntry, hid]
    by_cases ho : e.objectId = o
    · subst ho
      cases he.symm.trans he₁
      exact ⟨e', by simp, hmove⟩
    · exact ⟨e₁, by simp [ho, he₁], .same (hother o (Ne.symm ho))⟩
  · intro o ho
    have hne : e.objectId ≠ o := by
      rintro rfl
      simp [he] at ho
    rw [hentries, get?_setEntry, hid]
    exact ⟨by simp [hne, ho], hother o hne.symm⟩

theorem of_absent (ho : s.entries.get? o = none) (hentries : s'.entries = s.entries)
    (hcollected : s'.collected = s.collected) (hdead : s'.deadWorkerCleanups = s.deadWorkerCleanups)
    (hother : ∀ x, x ≠ o → SameTombstones s.toReferenceHistory s'.toReferenceHistory x)
    (hgrown : ∀ ref, s.Gone o ref → s'.Gone o ref) : ReferenceSpec keeps s s' := by
  have hw : ∀ w, s'.Dead w ↔ s.Dead w := fun w => by simp [ReferenceHistory.Dead, hdead]
  have hlive : ∀ x ref, s'.Live x ref ↔ s.Live x ref := by
    intro x ref
    simp [Live, hentries]
  have hgone : ∀ x, x ≠ o → ∀ ref, s'.Gone x ref ↔ s.Gone x ref := by
    intro x hne ref
    have hs := hother x hne
    simp only [Gone, hentries]
    cases s.entries.get? x <;> cases ref <;>
      simp [ReferenceFields.Gone, IsCollected, hcollected, hs.submitted, hs.retained,
        hs.contained, hs.lineage]
  refine ⟨?_, fun x ref h => .inl ((hlive x ref).mp h), fun x ref h => .inl ((hlive x ref).mpr h),
    ?_, fun w => (hw w).mpr, fun w h => .inl ((hw w).mp h)⟩
  · intro x ref _ h
    by_cases hne : x = o
    · subst hne
      exact hgrown ref h
    · exact (hgone x hne ref).mpr h
  · intro x ref h
    by_cases hne : x = o
    · subst hne
      refine .inr fun hl => ?_
      obtain ⟨e, he, _⟩ := (hlive x ref).mp hl
      simp [ho] at he
    · exact .inl ((hgone x hne ref).mp h)

theorem of_kept
    (hentries : ∀ o, (s'.entries.get? o).map ObjectOwnerEntry.toReferenceFields =
      (s.entries.get? o).map ObjectOwnerEntry.toReferenceFields)
    (hhistory : s'.toReferenceHistory = s.toReferenceHistory)
    (hcollected : s'.collected = s.collected) : ReferenceSpec keeps s s' := by
  have hw : ∀ w, s'.Dead w ↔ s.Dead w := fun w => by rw [hhistory]
  refine of_moves ?_ ?_ hcollected (fun w => (hw w).mpr) (fun w h => .inl ((hw w).mp h))
  · intro o e he
    have h := hentries o
    rw [he, Option.map_some, Option.map_eq_some_iff] at h
    obtain ⟨e', he', hf⟩ := h
    exact ⟨e', he', by rw [hhistory, hf]; exact .same (.refl _ _)⟩
  · intro o ho
    have h := hentries o
    rw [ho, Option.map_none, Option.map_eq_none_iff] at h
    exact ⟨h, by rw [hhistory]; exact .refl _ _⟩

theorem of_result (he : s.entries.get? e.objectId = some e)
    (hentries : s'.entries = (s.setEntry e').entries) (hid : e'.objectId = e.objectId)
    (hrefs : e'.toReferenceFields = e.toReferenceFields)
    (hhistory : s'.toReferenceHistory = s.toReferenceHistory)
    (hcollected : s'.collected = s.collected) : ReferenceSpec keeps s s' := by
  refine of_kept ?_ hhistory hcollected
  intro o
  rw [hentries, get?_setEntry, hid]
  by_cases ho : e.objectId = o
  · subst ho
    simp [he, hrefs]
  · simp [ho]

theorem of_register (ho : s.entries.get? e'.objectId = none)
    (hcollected : ¬ s.IsCollected e'.objectId)
    (hfresh : ∃ token, e'.toReferenceFields = .fresh token) :
    ReferenceSpec keeps s (s.setEntry e') := by
  obtain ⟨token, hfresh⟩ := hfresh
  have hlocal : ∀ ref, e'.Holds ref → ref.IsLocal := by
    rw [hfresh]
    rintro (t | t | t | t | t | t) <;> simp [ReferenceFields.Holds, ReferenceFields.fresh,
      Reference.IsLocal]
  have hother : ∀ o, e'.objectId ≠ o → ∀ ref, (s.setEntry e').Gone o ref ↔ s.Gone o ref := by
    intro o hne ref
    cases ref <;> simp [Gone, get?_setEntry, hne, IsCollected]
  refine ⟨?_, ?_, ?_, ?_, fun _ h => h, fun _ h => .inl h⟩
  · intro o ref _ h
    by_cases hne : e'.objectId = o
    · subst hne
      cases ref with
      | localRef t => simp [Gone, ho] at h
      | borrowed t => simp [Gone, ho, hcollected] at h
      | _ => simpa [Gone, ho, get?_setEntry, ReferenceFields.Gone] using h
    · exact (hother o hne ref).mpr h
  · rintro o ref ⟨e, he, hh⟩
    rw [get?_setEntry] at he
    split at he
    · next hne =>
        cases he
        subst hne
        cases ref with
        | localRef t =>
          refine .inr ⟨by simp [Gone, ho], by simp [Reference.workerId], ?_⟩
          intro e he
          simp [ho] at he
        | _ => exact absurd (hlocal _ hh) id
    · exact .inl ⟨e, he, hh⟩
  · rintro o ref ⟨e, he, hh⟩
    have hne : e'.objectId ≠ o := by
      rintro rfl
      simp [ho] at he
    exact .inl ⟨e, by simp [get?_setEntry, hne, he], hh⟩
  · intro o ref h
    by_cases hne : e'.objectId = o
    · subst hne
      cases ref with
      | localRef t => simp [Gone, get?_setEntry, ReferenceFields.Gone] at h
      | borrowed t =>
        simp [Gone, get?_setEntry, ReferenceFields.Gone, hfresh, ReferenceFields.fresh] at h
      | _ => exact .inl (by simpa [Gone, ho, get?_setEntry, ReferenceFields.Gone] using h)
    · exact .inl ((hother o hne ref).mp h)

theorem of_forget (ho : s.entries.get? o = some e) (hlocal : ∀ ref, e.Holds ref → ref.IsLocal)
    (hentries : s'.entries = (s.eraseEntry o).entries)
    (hhistory : s'.toReferenceHistory = s.toReferenceHistory)
    (hcollected : ∀ x, x ≠ o → (s'.IsCollected x ↔ s.IsCollected x))
    (hkeeps : ∀ t, keeps o t → t ∉ e.releasedBorrowedTokens ∨ s'.IsCollected o) :
    ReferenceSpec keeps s s' := by
  have habsent : s'.entries.get? o = none := by simp [hentries, get?_eraseEntry]
  have hsame : ∀ x, x ≠ o → s'.entries.get? x = s.entries.get? x := by
    intro x hne
    simp [hentries, get?_eraseEntry, hne.symm]
  have hother : ∀ x, x ≠ o → ∀ ref, s'.Gone x ref ↔ s.Gone x ref := by
    intro x hne ref
    simp only [Gone, hsame x hne, hhistory]
    cases s.entries.get? x <;> cases ref <;> simp [hcollected x hne]
  have hlive : ∀ x ref, s'.Live x ref → x ≠ o ∧ s.Live x ref := by
    rintro x ref ⟨e', he', hh⟩
    have hne : x ≠ o := by
      rintro rfl
      simp [habsent] at he'
    exact ⟨hne, e', hsame x hne ▸ he', hh⟩
  refine ⟨?_, fun x ref h => .inl (hlive x ref h).2, ?_, ?_, ?_, ?_⟩
  · intro x ref hk h
    by_cases hne : x = o
    · subst hne
      simp only [Gone, ho, habsent, hhistory] at h ⊢
      cases ref with
      | localRef t => exact h
      | borrowed t =>
        exact (hkeeps t (hk t rfl)).resolve_left (not_not.mpr h)
      | submitted t => exact h
      | retained t => exact h
      | contained t => exact h
      | lineage t => exact h
    · exact (hother x hne ref).mpr h
  · rintro x ref ⟨e₁, he₁, hh⟩
    by_cases hne : x = o
    · subst hne
      cases ho.symm.trans he₁
      exact .inr (.inl (hlocal ref hh))
    · exact .inl ⟨e₁, (hsame x hne).trans he₁, hh⟩
  · intro x ref h
    by_cases hne : x = o
    · exact .inr fun hl => (hlive x ref hl).1 hne
    · exact .inl ((hother x hne ref).mp h)
  · intro w
    rw [hhistory]
    exact id
  · intro w h
    rw [hhistory] at h
    exact .inl h

end ReferenceSpec

end MiniRay
