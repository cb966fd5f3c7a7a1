import MiniRay.Ownership.Representation

/-! A released reference stays released. The borrower tombstones of an entry go with the entry when
it is forgotten outside a two-phase collection, so there the object must not be registered again. -/

namespace MiniRay

open Checked Run

namespace ObjectOwnerTable

variable {ε : Type} {self s' : ObjectOwnerTable ε} {o : ObjectID}

/-! ## Releases by name -/

variable {b : Bool}

variable {hold : TaskReferenceHold}

theorem releaseSubmittedReference_gone (h : self.releaseSubmittedReference o hold = .ok (b, s')) :
    s'.Gone o (.submitted hold) := by
  simp only [releaseSubmittedReference, bind_eq_ok, entry_eq_ok, pure_eq_ok, Prod.mk.injEq] at h
  obtain ⟨_, _, e, he, _, rfl⟩ := h
  simp [Gone, get?_setEntry, self.keyed o e he, ReferenceFields.Gone]

variable {token : ReferenceToken}

theorem releaseBorrowedReference_gone (h : self.releaseBorrowedReference o token = .ok (b, s')) :
    s'.Gone o (.borrowed token) := by
  unfold releaseBorrowedReference at h
  cases he : self.entries.get? o with
  | none =>
    simp only [he, bind_eq_ok, raiseIf_eq_ok, not_not, pure_eq_ok, Prod.mk.injEq] at h
    obtain ⟨_, hc, _, rfl⟩ := h
    simpa [Gone, he, IsCollected] using hc
  | some e =>
    simp only [he, Except.ok.injEq, Prod.mk.injEq] at h
    obtain ⟨_, rfl⟩ := h
    simp [Gone, get?_setEntry, self.keyed o e he, ReferenceFields.Gone]

theorem releaseRetainedReferenceForTask_gone
    (h : self.releaseRetainedReferenceForTask o hold = .ok (b, s')) :
    s'.Gone o (.retained hold) := by
  simp only [releaseRetainedReferenceForTask, bind_eq_ok] at h
  obtain ⟨_, _, h⟩ := h
  cases he : self.entries.get? o with
  | none =>
    simp only [he, pure_eq_ok, Prod.mk.injEq] at h
    obtain ⟨_, rfl⟩ := h
    simp [Gone, he]
  | some e =>
    simp only [he, pure_eq_ok, Prod.mk.injEq] at h
    obtain ⟨_, rfl⟩ := h
    simp [Gone, get?_setEntry, self.keyed o e he, ReferenceFields.Gone]

theorem releaseContainedReference_gone {hold : ContainedReferenceHold}
    (h : self.releaseContainedReference o hold = .ok (b, s')) : s'.Gone o (.contained hold) := by
  simp only [releaseContainedReference, bind_eq_ok] at h
  obtain ⟨_, _, h⟩ := h
  cases he : self.entries.get? o with
  | none =>
    simp only [he, bind_eq_ok, ite_eq_ok, pure_eq_ok, Prod.mk.injEq] at h
    rcases h with ⟨hknown, _, rfl⟩ | ⟨_, _, _, _, rfl⟩
    · simpa [Gone, he] using hknown
    · simp [Gone, he]
  | some e =>
    simp only [he, pure_eq_ok, Prod.mk.injEq] at h
    obtain ⟨_, rfl⟩ := h
    simp [Gone, get?_setEntry, self.keyed o e he, ReferenceFields.Gone]

theorem releaseLineageReference_gone (self : ObjectOwnerTable ε) (o : ObjectID)
    (token : ReferenceToken) :
    (self.releaseLineageReference o token).2.Gone o (.lineage token) := by
  unfold releaseLineageReference
  cases he : self.entries.get? o with
  | none => simp [Gone, he]
  | some e => simp [Gone, get?_setEntry, self.keyed o e he, ReferenceFields.Gone]

variable {ref : Reference}

theorem releaseReference_gone {kind : ReferenceKind}
    (hkind : kind = .borrowed ∧ ref = .borrowed token ∨ kind = .lineage ∧ ref = .lineage token)
    (h : self.releaseReference o kind token = .ok (b, s')) : s'.Gone o ref := by
  simp only [releaseReference, bind_eq_ok] at h
  obtain ⟨_, _, h⟩ := h
  rcases hkind with ⟨rfl, rfl⟩ | ⟨rfl, rfl⟩
  · simp only [bind_eq_ok, entry_eq_ok, pure_eq_ok, Prod.mk.injEq] at h
    obtain ⟨e, he, _, rfl⟩ := h
    simp [Gone, get?_setEntry, self.keyed o e he, ReferenceFields.Gone]
  · simp only [pure_eq_ok] at h
    have hg := releaseLineageReference_gone self o token
    rwa [h] at hg

variable [BEq ε] {s : ObjectOwnerTable ε}

/-- The call releases the reference by name and returns. -/
def ReleasedBy (s : ObjectOwnerTable ε) (op : Op ε) (o : ObjectID) (ref : Reference) : Prop :=
  match op with
  | .releaseSubmittedReference x hold => o = x ∧ ref = .submitted hold ∧
      ∃ r, s.releaseSubmittedReference x hold = .ok r
  | .releaseBorrowedReference x token => o = x ∧ ref = .borrowed token ∧
      ∃ r, s.releaseBorrowedReference x token = .ok r
  | .releaseRetainedReferenceForTask x hold => o = x ∧ ref = .retained hold ∧
      ∃ r, s.releaseRetainedReferenceForTask x hold = .ok r
  | .releaseContainedReference x hold => o = x ∧ ref = .contained hold ∧
      ∃ r, s.releaseContainedReference x hold = .ok r
  | .releaseLineageReference x token => o = x ∧ ref = .lineage token
  | .releaseReference x kind token => o = x ∧
      (kind = .borrowed ∧ ref = .borrowed token ∨ kind = .lineage ∧ ref = .lineage token) ∧
      ∃ r, s.releaseReference x kind token = .ok r
  | _ => False

/-- The call ends the reference: it names it in a release, or ends it on the way. -/
def Releases (s : ObjectOwnerTable ε) (op : Op ε) (o : ObjectID) (ref : Reference) : Prop :=
  s.ReleasedBy op o ref ∨ s.Live o ref ∧ ¬ (s.step op).Live o ref

variable {op : Op ε}

theorem ReleasedBy.gone (h : s.ReleasedBy op o ref) : (s.step op).Gone o ref := by
  cases op with
  | releaseSubmittedReference x hold =>
    obtain ⟨rfl, rfl, ⟨b, s'⟩, hr⟩ := h
    rw [step, hr]
    exact releaseSubmittedReference_gone hr
  | releaseBorrowedReference x token =>
    obtain ⟨rfl, rfl, ⟨b, s'⟩, hr⟩ := h
    rw [step, hr]
    exact releaseBorrowedReference_gone hr
  | releaseRetainedReferenceForTask x hold =>
    obtain ⟨rfl, rfl, ⟨b, s'⟩, hr⟩ := h
    rw [step, hr]
    exact releaseRetainedReferenceForTask_gone hr
  | releaseContainedReference x hold =>
    obtain ⟨rfl, rfl, ⟨b, s'⟩, hr⟩ := h
    rw [step, hr]
    exact releaseContainedReference_gone hr
  | releaseLineageReference x token =>
    obtain ⟨rfl, rfl⟩ := h
    exact releaseLineageReference_gone s o token
  | releaseReference x kind token =>
    obtain ⟨rfl, hkind, ⟨b, s'⟩, hr⟩ := h
    rw [step, hr]
    exact releaseReference_gone hkind hr
  | _ => exact h.elim

/-! ## The ledger of references -/

/-- The reference belongs to a dead Worker. -/
def Fenced (s : ObjectOwnerTable ε) (ref : Reference) : Prop :=
  ∃ w, ref.workerId = some w ∧ s.Dead w

/-- The references in force, tombstoned or fenced, local handles aside. -/
def ledger (s : ObjectOwnerTable ε) : Ledger (ObjectID × Reference) where
  live := {x | ¬ x.2.IsLocal ∧ s.Live x.1 x.2}
  gone := {x | s.Gone x.1 x.2 ∨ s.Fenced x.2}

/-- The call forgets the tombstone of a borrower that is not fenced. -/
def LosesTombstone (s : ObjectOwnerTable ε) (op : Op ε) (o : ObjectID) (t : ReferenceToken) :
    Prop :=
  ¬ s.BorrowerIsDead t ∧ ∃ e, s.Forgets op o e ∧ t ∈ e.releasedBorrowedTokens

def KeepsReference (s : ObjectOwnerTable ε) (op : Op ε) (x : ObjectID × Reference) : Prop :=
  ∀ t, x.2 = .borrowed t → ¬ s.LosesTombstone op x.1 t

theorem ledger_step (s : ObjectOwnerTable ε) (op : Op ε) :
    Ledger.Step (s.KeepsReference op) s.ledger (s.step op).ledger := by
  have h := (s.step_spec op).references
  have hfenced : ∀ ref, s.Fenced ref → (s.step op).Fenced ref :=
    fun ref ⟨w, hw, hd⟩ => ⟨w, hw, h.dead_mono w hd⟩
  refine ⟨?_, ?_, ?_, ?_⟩
  · rintro ⟨o, ref⟩ (hg | hf) hkeeps
    · by_cases hf : s.Fenced ref
      · exact .inr (hfenced ref hf)
      · refine .inl (h.gone_mono o ref ?_ hg)
        rintro t rfl e he ht
        exact hkeeps t rfl ⟨fun hd => hf hd, e, he, ht⟩
    · exact .inr (hfenced ref hf)
  · rintro ⟨o, ref⟩ ⟨hl, hlive⟩
    rcases h.granted o ref hlive with hlive | ⟨hn, hw, _⟩
    · exact .inl ⟨hl, hlive⟩
    · refine .inr ?_
      rintro (hg | ⟨w, hwid, hd⟩)
      · exact hn hg
      · exact hw w hwid (h.dead_mono w hd)
  · rintro ⟨o, ref⟩ ⟨hl, hlive⟩
    rcases h.retired o ref hlive with hlive | hlocal | hg
    · exact .inl ⟨hl, hlive⟩
    · exact absurd hlocal hl
    · exact .inr (.inl hg)
  · rintro ⟨o, ref⟩ (hg | ⟨w, hwid, hd⟩)
    · exact (h.buried o ref hg).imp .inl fun hn hx => hn hx.2
    · rcases h.fenced w hd with hd | hn
      · exact .inl (.inr ⟨w, hwid, hd⟩)
      · exact .inr fun hx => hn o ref hwid hx.2

theorem ledger_consistent (ops : List (Op ε)) :
    (run step (.empty : ObjectOwnerTable ε) ops).ledger.Consistent :=
  Ledger.run_consistent (v := ledger) ledger_step
    (by rintro x ⟨_, e, he, _⟩; simp at he) ops

theorem Releases.gone (hlocal : ¬ ref.IsLocal) (h : s.Releases op o ref) :
    (s.step op).Gone o ref := by
  rcases h with h | ⟨hlive, hn⟩
  · exact h.gone
  · rcases (s.step_spec op).references.retired o ref hlive with h | h | h
    · exact absurd h hn
    · exact absurd h hlocal
    · exact h

/-! ## Objects that are not registered again -/

theorem absent_step (ho : s.entries.get? o = none) (hn : ¬ op.Registers o) :
    (s.step op).entries.get? o = none := by
  have hslot := (s.step_spec op).results.slots o
  rw [ho] at hslot
  generalize (s.step op).entries.get? o = after at hslot
  cases hslot with
  | absent => rfl
  | registered e' fresh idle uncollected named => exact absurd named hn

theorem absent_run {ops : List (Op ε)} (ho : s.entries.get? o = none)
    (hn : ∀ op ∈ ops, ¬ op.Registers o) : (run step s ops).entries.get? o = none := by
  induction ops generalizing s with
  | nil => exact ho
  | cons op ops ih =>
    exact ih (absent_step ho (hn op (by simp))) fun op' h => hn op' (by simp [h])

theorem Forgets.absent {e : ObjectOwnerEntry ε} (h : s.Forgets op o e) :
    (s.step op).entries.get? o = none := by
  obtain ⟨he, h⟩ := h
  have hid := s.keyed o e he
  cases op with
  | abortRegisteredTaskOutputs plan edges =>
    obtain ⟨rfl, hw⟩ := h
    obtain ⟨⟨_, aborted⟩, habort⟩ := hw.lineage
    have hcall : s.abortRegisteredTaskOutputs plan edges =
        .ok (true, aborted.eraseEntry plan.execution.output) := by
      simp only [abortRegisteredTaskOutputs, he, bind_eq_ok, raiseIf_eq_ok, not_not]
      exact ⟨(), hw.execution, (), by simpa using hw.own, (), hw.abortable, _, habort, rfl⟩
    rw [step, hcall]
    simp [commit, get?_eraseEntry]
  | collectIfUnused x =>
    obtain ⟨rfl, hf⟩ := h
    have hcall : s.collectIfUnused o = .ok (true, s.eraseEntry o) := by
      simp only [collectIfUnused, bind_eq_ok, entry_eq_ok]
      exact ⟨e, he, by rw [if_pos hf]; rfl⟩
    rw [step, hcall]
    simp [commit, get?_eraseEntry]
  | collectUnusedWithEdges x =>
    obtain ⟨rfl, hidle, hr, l, hl⟩ := h
    have hl' : s.claimedLineage o = .ok ⟨l, finalTaskLineage_claims hl⟩ :=
      claimedLineage_eq_ok.mpr hl
    have hcall : ∃ r, s.collectUnusedWithEdges o =
        .ok (r, { s.eraseEntry o with taskLineage := s.taskLineage.erase o.taskId }) := by
      simp only [collectUnusedWithEdges, bind_eq_ok, keyedEntry_eq_ok,
        requireNotCollecting_eq_ok]
      exact ⟨_, ⟨e, hid⟩, he, (), hidle, by rw [if_pos hr, hl']; rfl⟩
    obtain ⟨r, hcall⟩ := hcall
    rw [step, hcall]
    simp [commit, get?_eraseEntry]
  | _ => exact h.elim

/-- No object is registered again once a live Worker's tombstone went with it. -/
def NeverReused (ops : List (Op ε)) : Prop :=
  ∀ as op bs, ops = as ++ op :: bs → ∀ o t, (run step .empty as).LosesTombstone op o t →
    ∀ op' ∈ bs, ¬ op'.Registers o

/-- Along every run that registers no object again after a call forgot a live Worker's
tombstone with it, a released reference never comes back. -/
theorem released_never_returns (ops : List (Op ε)) (hreuse : NeverReused ops) :
    ∀ as op bs cs, ops = as ++ op :: bs ++ cs → ∀ o ref, ¬ ref.IsLocal →
      (run step .empty as).Releases op o ref → ¬ (run step .empty (as ++ op :: bs)).Live o ref := by
  intro as op bs cs hops o ref hlocal hrel hlive
  have hgone : (o, ref) ∈ (run step (.empty : ObjectOwnerTable ε) (as ++ [op])).ledger.gone := by
    rw [run_concat]
    exact .inl (hrel.gone hlocal)
  have hsplit : as ++ op :: bs = (as ++ [op]) ++ bs := by simp
  rw [hsplit, run_append] at hlive
  by_cases hkeeps : Admissible step (fun s op => s.KeepsReference op (o, ref))
      (run step (.empty : ObjectOwnerTable ε) (as ++ [op])) bs
  · exact Ledger.run_never_returns (v := ledger) ledger_step hkeeps (ledger_consistent _) hgone
      ⟨hlocal, hlive⟩
  -- From the call that forgot the tombstone on, the object is not registered.
  · obtain ⟨xs, x, ys, rfl, hloses⟩ : ∃ xs x ys, bs = xs ++ x :: ys ∧
        ¬ (run step (run step .empty (as ++ [op])) xs).KeepsReference x (o, ref) := by
      by_contra hn
      push Not at hn
      exact hkeeps (admissible_iff.mpr hn)
    simp only [KeepsReference, not_forall, not_not] at hloses
    obtain ⟨t, _, hloses⟩ := hloses
    rw [← run_append] at hloses
    have hlater := hreuse (as ++ op :: xs) x (ys ++ cs) (by simp [hops]) o t
      (by simpa using hloses)
    obtain ⟨_, e, hforgets, _⟩ := hloses
    have hys : ∀ op' ∈ ys, ¬ op'.Registers o := fun op' h => hlater op' (by simp [h])
    have habsent := absent_run hforgets.absent hys
    rw [run_append, run_cons, ← run_append] at hlive
    obtain ⟨e', he', _⟩ := hlive
    cases habsent.symm.trans he'

/-! ## A borrower that comes back -/

namespace Sample

/-- A borrower without a Worker. -/
def borrower : ReferenceToken := .plain "borrower"

/-- A borrower is added and released, and its object is forgotten and registered again. -/
def reused : List (Op Unit) :=
  [.register object none none none, .addBorrowedReference object borrower,
    .releaseBorrowedReference object borrower, .collectIfUnused object,
    .register object none none none, .addBorrowedReference object borrower]

end Sample

open Sample in
/-- Without a forgotten object the released borrower stays out. -/
theorem released_never_returns_kept :
    let ops : List (Op Unit) := reused.take 3
    ∀ as op bs cs, ops = as ++ op :: bs ++ cs → ∀ o ref, ¬ ref.IsLocal →
      (run step .empty as).Releases op o ref → ¬ (run step .empty (as ++ op :: bs)).Live o ref :=
  released_never_returns _ fun as op bs hops o t ⟨_, e, ⟨_, hforgets⟩, _⟩ => by
    have hop : op ∈ reused.take 3 := by rw [hops]; simp
    simp only [reused, List.take, List.mem_cons, List.not_mem_nil, or_false] at hop
    rcases hop with rfl | rfl | rfl <;> exact hforgets.elim

open Sample in
/-- The entry is forgotten with the only tombstone `add_borrowed_reference` reads. -/
theorem not_released_never_returns : ¬ ∀ ops : List (Op Unit),
    ∀ as op bs cs, ops = as ++ op :: bs ++ cs → ∀ o ref, ¬ ref.IsLocal →
      (run step .empty as).Releases op o ref →
        ¬ (run step .empty (as ++ op :: bs)).Live o ref := by
  intro h
  have hreleased : (run step .empty (reused.take 2)).ReleasedBy
      (.releaseBorrowedReference object borrower) object (.borrowed borrower) :=
    ⟨rfl, rfl, _, by rfl⟩
  refine h reused (reused.take 2) _ (reused.drop 3) [] rfl object (.borrowed borrower) id
    (.inl hreleased) ?_
  have hback : ((run step .empty reused).entries.get? object).map (fun e => e.borrowedTokens) =
      some {borrower} := by
    rfl
  obtain ⟨e, he, htokens⟩ := Option.map_eq_some_iff.mp hback
  exact ⟨e, he, by simp [ReferenceFields.Holds, htokens]⟩

end ObjectOwnerTable

end MiniRay

/-! ## Dead Workers

What installing a Worker's death takes away at once, and what it keeps out for good. -/

namespace MiniRay

open Checked Run

namespace ObjectOwnerTable

variable {ε : Type} {s s' : ObjectOwnerTable ε} {w : WorkerID}

/-- From one table to the next exactly the references of the Worker are gone. -/
structure RetiresWorker (w : WorkerID) (s s' : ObjectOwnerTable ε) : Prop where
  objects : ∀ o, s'.entries.get? o = none ↔ s.entries.get? o = none
  results : ∀ o e e', s.entries.get? o = some e → s'.entries.get? o = some e' →
    e'.toResultFields = e.toResultFields
  collections : ∀ o e e', s.entries.get? o = some e → s'.entries.get? o = some e' →
    e'.toCollectionFields = e.toCollectionFields
  bindings : ∀ o e e', s.entries.get? o = some e → s'.entries.get? o = some e' →
    e'.borrowedSources = e.borrowedSources ∧
      e'.retainedBorrowerTokens = e.retainedBorrowerTokens
  references : ∀ o ref, s'.Live o ref ↔ s.Live o ref ∧ ref.workerId ≠ some w
  publication_history : s'.toPublicationHistory = s.toPublicationHistory
  collection_history : s'.toCollectionHistory = s.toCollectionHistory

variable {cleanup : DeadWorkerReferenceCleanup}

theorem dead_of_install {d : String} (h : s.installDeadWorker w d = .ok (cleanup, s')) :
    s'.Dead w := by
  rcases installDeadWorker_cases h with ⟨hknown, rfl⟩ | ⟨record, rfl, rfl, rfl⟩
  · simp [ReferenceHistory.Dead, hknown]
  · simp [ReferenceHistory.Dead, buryWorker]

theorem retiresWorker_of_install {d : String} (h : s.installDeadWorker w d = .ok (cleanup, s'))
    (hfence : s.Dead w → ∀ o ref, ref.workerId = some w → ¬ s.Live o ref) :
    RetiresWorker w s s' := by
  rcases installDeadWorker_cases h with ⟨hknown, rfl⟩ | ⟨record, rfl, rfl, rfl⟩
  · have hdead : s'.Dead w := by simp [ReferenceHistory.Dead, hknown]
    refine ⟨fun _ => .rfl, ?_, ?_, ?_, ?_, rfl, rfl⟩
    · rintro o e e' he he'
      cases he.symm.trans he'
      rfl
    · rintro o e e' he he'
      cases he.symm.trans he'
      rfl
    · rintro o e e' he he'
      cases he.symm.trans he'
      exact ⟨rfl, rfl⟩
    · exact fun o ref => ⟨fun hl => ⟨hl, fun hw => hfence hdead o ref hw hl⟩, And.left⟩
  · refine ⟨fun o => by simp, ?_, ?_, ?_, ?_, rfl, rfl⟩
    · rintro o e e' he he'
      simp only [get?_mapEntries, he, Option.map_some, Option.some.injEq] at he'
      subst he'
      rfl
    · rintro o e e' he he'
      simp only [get?_mapEntries, he, Option.map_some, Option.some.injEq] at he'
      subst he'
      rfl
    · rintro o e e' he he'
      simp only [get?_mapEntries, he, Option.map_some, Option.some.injEq] at he'
      subst he'
      exact ⟨rfl, rfl⟩
    · intro o ref
      simp only [Live, get?_mapEntries, Option.map_eq_some_iff]
      constructor
      · rintro ⟨_, ⟨e, he, rfl⟩, hh⟩
        have hh := (ReferenceFields.withoutWorker_holds ref).mp hh
        exact ⟨⟨e, he, hh.1⟩, hh.2⟩
      · rintro ⟨⟨e, he, hh⟩, hw⟩
        exact ⟨_, ⟨e, he, rfl⟩, (ReferenceFields.withoutWorker_holds ref).mpr ⟨hh, hw⟩⟩

variable [BEq ε]

theorem not_live_of_dead (ops : List (Op ε)) (hw : (run step .empty ops).Dead w) (o : ObjectID)
    {ref : Reference} (href : ref.workerId = some w) : ¬ (run step .empty ops).Live o ref := by
  intro hlive
  have hlocal : ¬ ref.IsLocal := by
    intro hl
    cases ref <;> simp [Reference.IsLocal, Reference.workerId] at hl href
  exact ledger_consistent ops (o, ref) ⟨hlocal, hlive⟩ (.inr ⟨w, href, hw⟩)

theorem dead_run (hw : s.Dead w) (ops : List (Op ε)) : (run step s ops).Dead w :=
  run_invariant (p := fun s : ObjectOwnerTable ε => s.Dead w)
    (fun s op hd => (s.step_spec op).references.dead_mono w hd) hw ops

/-- A dead Worker's references are gone for good, and no publication it owns is applied. -/
theorem dead_worker_fenced (as : List (Op ε)) (w : WorkerID) (d : String)
    (cleanup : DeadWorkerReferenceCleanup) (s' : ObjectOwnerTable ε)
    (h : (run step .empty as).installDeadWorker w d = .ok (cleanup, s')) :
    RetiresWorker w (run step .empty as) s' ∧ ∀ bs : List (Op ε),
      (∀ o ref, ref.workerId = some w → ¬ (run step s' bs).Live o ref) ∧
      ∀ plan receipt s'', plan.envelope.manifest.header.ownerWorkerId = w →
        (run step s' bs).commitOutputPublication plan = .ok (receipt, s'') →
          receipt.disposition ≠ .applied := by
  refine ⟨retiresWorker_of_install h fun hw o ref => not_live_of_dead as hw o, fun bs => ?_⟩
  have hs : s' = (run step .empty as).step (.installDeadWorker w d) := by
    rw [step, h]
    rfl
  have hrun : run step s' bs = run step .empty (as ++ .installDeadWorker w d :: bs) := by
    rw [run_append, run_cons, hs]
  have hdead := dead_run (dead_of_install h) bs
  refine ⟨fun o ref href => ?_, ?_⟩
  · rw [hrun] at hdead ⊢
    exact not_live_of_dead _ hdead o href
  · rintro plan receipt s'' rfl hcommit happlied
    rcases commitOutputPublication_cases hcommit with ⟨hn, _⟩ | ⟨_, e, _, happ, _⟩
    · exact hn happlied
    · exact happ.owner_alive hdead

open Sample in
theorem dead_worker_fenced_borrower :
    let as : List (Op Unit) := [.register object none none none,
      .addBorrowedReference object (.worker ⟨5⟩ "handle")]
    ∃ cleanup s', (run step .empty as).installDeadWorker ⟨5⟩ "exit" = .ok (cleanup, s') ∧
      RetiresWorker ⟨5⟩ (run step .empty as) s' ∧ ∀ bs : List (Op Unit),
        (∀ o ref, ref.workerId = some ⟨5⟩ → ¬ (run step s' bs).Live o ref) ∧
        ∀ plan receipt s'', plan.envelope.manifest.header.ownerWorkerId = ⟨5⟩ →
          (run step s' bs).commitOutputPublication plan = .ok (receipt, s'') →
            receipt.disposition ≠ .applied := by
  intro as
  obtain ⟨⟨cleanup, s'⟩, h⟩ : ∃ r, (run step .empty as).installDeadWorker ⟨5⟩ "exit" = .ok r :=
    ⟨_, rfl⟩
  exact ⟨cleanup, s', h, dead_worker_fenced as _ _ cleanup s' h⟩

end ObjectOwnerTable

end MiniRay
