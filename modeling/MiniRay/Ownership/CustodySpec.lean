import MiniRay.Ownership.Custody

/-! From its preparation on, a child is held by the provisional pin, then by the final one. The
exchange happens once, and neither pin comes back. -/

namespace MiniRay

open Checked Run

namespace ObjectOwnerTable

variable {ε : Type} {s s' : ObjectOwnerTable ε} {t u : PreparedContainedTransfer} {o : ObjectID}
  {hold : ContainedReferenceHold}

def Prepared (s : ObjectOwnerTable ε) (t : PreparedContainedTransfer) : Prop :=
  s.storedContainedPreparations.get? (t.containedObjectId, t.provisionalHold) = some t

def Promoted (s : ObjectOwnerTable ε) (t : PreparedContainedTransfer) : Prop :=
  s.storedContainedPromotions.get? (t.containedObjectId, t.finalHold) = some t

theorem Prepared.unique (ht : s.Prepared t) (hu : s.Prepared u)
    (ho : u.containedObjectId = t.containedObjectId) (hp : u.provisionalHold = t.provisionalHold) :
    u = t := by
  rw [Prepared, ho, hp] at hu
  exact Option.some.inj (hu.symm.trans ht)

/-! ## The calls that write the records -/

theorem live_setEntry {e : ObjectOwnerEntry ε} {f : ReferenceFields} {h : ReferenceHistory}
    {ref : Reference} (he : s.entries.get? o = some e)
    (hs : s' = { s.setEntry { e with toReferenceFields := f } with toReferenceHistory := h })
    (href : f.Holds ref) : s'.Live o ref :=
  ⟨{ e with toReferenceFields := f }, by simp [hs, get?_setEntry, s.keyed o e he], href⟩

variable {w : WorkerID} {d : StoredContainedReferenceDisposition}

theorem prepareStoredContainedReference_cases
    (h : s.prepareStoredContainedReference t w = .ok (d, s')) :
    d = .alreadyPrepared ∧ s.Prepared t ∧ s' = s ∨
      d = .prepared ∧
        s.storedContainedPreparations.get? (t.containedObjectId, t.provisionalHold) = none ∧
        s'.Live t.containedObjectId (.contained t.provisionalHold) ∧ s'.containedRecords =
          (s.releasedContainedHolds,
            s.storedContainedPreparations.set (t.containedObjectId, t.provisionalHold) t,
            s.storedContainedPromotions) := by
  simp only [prepareStoredContainedReference, bind_eq_ok] at h
  obtain ⟨_, _, h⟩ := h
  cases hp : s.storedContainedPreparations.get? (t.containedObjectId, t.provisionalHold) with
  | some previous =>
    simp only [hp, bind_eq_ok, raiseIf_eq_ok, not_not, pure_eq_ok, Prod.mk.injEq] at h
    obtain ⟨_, rfl, rfl, rfl⟩ := h
    exact .inl ⟨rfl, hp, rfl⟩
  | none =>
    simp only [hp, bind_eq_ok, entry_eq_ok, pure_eq_ok, Prod.mk.injEq] at h
    obtain ⟨e, he, _, _, _, _, _, _, _, _, rfl, rfl⟩ := h
    refine .inr ⟨rfl, rfl, live_setEntry he rfl ?_, rfl⟩
    exact Finset.mem_insert_self _ _

theorem promoteStoredContainedReference_cases
    (h : s.promoteStoredContainedReference t w = .ok (d, s')) :
    d = .alreadyPromoted ∧ s.Promoted t ∧ s' = s ∨
      d = .promoted ∧ s.Prepared t ∧
        s.storedContainedPromotions.get? (t.containedObjectId, t.finalHold) = none ∧
        (t.containedObjectId, t.finalHold) ∉ s.releasedContainedHolds ∧
        ¬ s.Dead t.finalHold.containerOwnerWorkerId ∧
        s'.Live t.containedObjectId (.contained t.finalHold) ∧ s'.containedRecords =
          (insert (t.containedObjectId, t.provisionalHold) s.releasedContainedHolds,
            s.storedContainedPreparations,
            s.storedContainedPromotions.set (t.containedObjectId, t.finalHold) t) := by
  simp only [promoteStoredContainedReference, bind_eq_ok] at h
  obtain ⟨_, _, h⟩ := h
  cases hp : s.storedContainedPromotions.get? (t.containedObjectId, t.finalHold) with
  | some previous =>
    simp only [hp, bind_eq_ok, raiseIf_eq_ok, not_not, pure_eq_ok, Prod.mk.injEq] at h
    obtain ⟨_, rfl, rfl, rfl⟩ := h
    exact .inl ⟨rfl, hp, rfl⟩
  | none =>
    simp only [hp, bind_eq_ok, raiseIf_eq_ok, entry_eq_ok, requireLiveWorker_eq_ok, pure_eq_ok,
      Prod.mk.injEq, not_not] at h
    obtain ⟨_, hprepared, e, he, _, _, _, hdead, _, hr, _, _, rfl, rfl⟩ := h
    refine .inr ⟨rfl, hprepared, rfl, hr, hdead, live_setEntry he rfl ?_, rfl⟩
    exact Finset.mem_insert_self _ _

theorem releaseContainedReference_records {b : Bool}
    (h : s.releaseContainedReference o hold = .ok (b, s')) : s'.containedRecords =
      (insert (o, hold) s.releasedContainedHolds, s.storedContainedPreparations,
        s.storedContainedPromotions) := by
  simp only [releaseContainedReference, bind_eq_ok] at h
  obtain ⟨_, _, h⟩ := h
  cases he : s.entries.get? o with
  | none =>
    simp only [he, bind_eq_ok, ite_eq_ok, pure_eq_ok, Prod.mk.injEq] at h
    rcases h with ⟨hknown, _, rfl⟩ | ⟨_, _, _, _, rfl⟩
    · rw [Finset.insert_eq_of_mem hknown]
      rfl
    · rfl
  | some e =>
    simp only [he, pure_eq_ok, Prod.mk.injEq] at h
    obtain ⟨_, rfl⟩ := h
    rfl

variable {cleanup : DeadWorkerReferenceCleanup}

theorem installDeadWorker_records {deathId : String}
    (h : s.installDeadWorker w deathId = .ok (cleanup, s')) :
    (∀ x ∈ s.releasedContainedHolds, x ∈ s'.releasedContainedHolds) ∧
      (∀ x ∈ s'.releasedContainedHolds, x ∈ s.releasedContainedHolds ∨
        x.2.containerOwnerWorkerId = w) ∧
      s'.storedContainedPreparations = s.storedContainedPreparations ∧
        s'.storedContainedPromotions = s.storedContainedPromotions := by
  rcases installDeadWorker_cases h with ⟨_, rfl⟩ | ⟨record, rfl, rfl, rfl⟩
  · exact ⟨fun x hx => hx, fun x hx => .inl hx, rfl, rfl⟩
  · refine ⟨fun x hx => Finset.mem_union_left _ hx, ?_, rfl, rfl⟩
    rintro ⟨o, hold⟩ hx
    simp only [buryWorker, deathCleanup, Finset.mem_union, mem_retiredBy] at hx
    rcases hx with hx | ⟨e, _, hmem⟩
    · exact .inl hx
    · exact .inr (Finset.mem_filter.mp hmem).2

/-! ## One step -/

/-- The call releases the hold by name, or installs the death of its container's owner. -/
def EndsHold (s : ObjectOwnerTable ε) (op : Op ε) (o : ObjectID)
    (hold : ContainedReferenceHold) : Prop :=
  match op with
  | .releaseContainedReference x h => x = o ∧ h = hold ∧
      ∃ r, s.releaseContainedReference x h = .ok r
  | .installDeadWorker w d => w = hold.containerOwnerWorkerId ∧
      ∃ r, s.installDeadWorker w d = .ok r
  | _ => False

/-- The call exchanges the pins of the transfer. -/
def Promotes (s : ObjectOwnerTable ε) (op : Op ε) (t : PreparedContainedTransfer) : Prop :=
  match op with
  | .promoteStoredContainedReference u w => u = t ∧
      ∃ s', s.promoteStoredContainedReference u w = .ok (.promoted, s')
  | _ => False

/-- The call consumes the hold as the provisional pin of a transfer. -/
def Exchanges (s : ObjectOwnerTable ε) (op : Op ε) (o : ObjectID)
    (hold : ContainedReferenceHold) : Prop :=
  ∃ t, s.Promotes op t ∧ t.containedObjectId = o ∧ t.provisionalHold = hold

theorem gone_contained_iff :
    s.Gone o (.contained hold) ↔ (o, hold) ∈ s.releasedContainedHolds := by
  unfold Gone
  cases s.entries.get? o with
  | none => exact .rfl
  | some e => exact .rfl

/-- What one call does to the records of contained pins. -/
structure RecordsMove (s s' : ObjectOwnerTable ε) (op : Op ε) : Prop where
  released : ∀ x ∈ s.releasedContainedHolds, x ∈ s'.releasedContainedHolds
  ended : ∀ o hold, (o, hold) ∈ s'.releasedContainedHolds →
    (o, hold) ∈ s.releasedContainedHolds ∨ s.EndsHold op o hold ∨ s.Exchanges op o hold
  prepared : ∀ t, s.Prepared t → s'.Prepared t
  promoted : ∀ t, s.Promoted t → s'.Promoted t
  exchanged : ∀ t, s'.Promoted t → s.Promoted t ∨ s.Prepared t ∧ s.Promotes op t ∧
    s'.Live t.containedObjectId (.contained t.finalHold) ∧
    (t.containedObjectId, t.provisionalHold) ∈ s'.releasedContainedHolds

variable {op : Op ε}

theorem SameContained.recordsMove (h : SameContained s s') : RecordsMove s s' op := by
  refine ⟨fun x hx => ?_, fun o hold hx => .inl ?_, fun t ht => ?_, fun t ht => ?_,
    fun t ht => .inl ?_⟩
  · rwa [h.released]
  · rwa [h.released] at hx
  · rwa [Prepared, h.preparations]
  · rwa [Promoted, h.promotions]
  · rwa [Promoted, h.promotions] at ht

theorem RecordsMove.commit {α : Type} {x : Except Raised (α × ObjectOwnerTable ε)}
    (h : ∀ a s', x = .ok (a, s') → RecordsMove s s' op) : RecordsMove s (commit s x) op :=
  commit_of (p := (RecordsMove s · op)) (SameContained.recordsMove rfl) h

theorem prepareStoredContainedReference_move
    (h : s.prepareStoredContainedReference t w = .ok (d, s')) : RecordsMove s s' op := by
  rcases prepareStoredContainedReference_cases h with ⟨_, _, rfl⟩ | ⟨_, hnew, _, hrecords⟩
  · exact SameContained.recordsMove rfl
  · simp only [ReferenceHistory.containedRecords, Prod.mk.injEq] at hrecords
    obtain ⟨hreleased, hpreparations, hpromotions⟩ := hrecords
    refine ⟨fun x hx => ?_, fun o hold hx => .inl ?_, fun u hu => ?_, fun u hu => ?_,
      fun u hu => .inl ?_⟩
    · rwa [hreleased]
    · rwa [hreleased] at hx
    · rw [Prepared, hpreparations]
      exact Dict.get?_set_kept hnew hu
    · rwa [Promoted, hpromotions]
    · rwa [Promoted, hpromotions] at hu

theorem promoteStoredContainedReference_move
    (h : s.promoteStoredContainedReference t w = .ok (d, s')) :
    RecordsMove s s' (.promoteStoredContainedReference t w) := by
  rcases promoteStoredContainedReference_cases h with
    ⟨_, _, rfl⟩ | ⟨rfl, hprepared, hnew, _, _, hlive, hrecords⟩
  · exact SameContained.recordsMove rfl
  · have hpromotes : s.Promotes (.promoteStoredContainedReference t w) t := ⟨rfl, s', h⟩
    simp only [ReferenceHistory.containedRecords, Prod.mk.injEq] at hrecords
    obtain ⟨hreleased, hpreparations, hpromotions⟩ := hrecords
    refine ⟨fun x hx => ?_, fun o hold hx => ?_, fun u hu => ?_, fun u hu => ?_, fun u hu => ?_⟩
    · rw [hreleased]
      exact Finset.mem_insert_of_mem hx
    · rw [hreleased, Finset.mem_insert, Prod.mk.injEq] at hx
      rcases hx with ⟨ho, hhold⟩ | hx
      · exact .inr (.inr ⟨t, hpromotes, ho.symm, hhold.symm⟩)
      · exact .inl hx
    · rwa [Prepared, hpreparations]
    · rw [Promoted, hpromotions]
      exact Dict.get?_set_kept hnew hu
    · rw [Promoted, hpromotions, Dict.get?_set] at hu
      split at hu
      · cases hu
        refine .inr ⟨hprepared, hpromotes, hlive, ?_⟩
        rw [hreleased]
        exact Finset.mem_insert_self _ _
      · exact .inl hu

theorem releaseContainedReference_move {b : Bool}
    (h : s.releaseContainedReference o hold = .ok (b, s')) :
    RecordsMove s s' (.releaseContainedReference o hold) := by
  have hrecords := releaseContainedReference_records h
  simp only [ReferenceHistory.containedRecords, Prod.mk.injEq] at hrecords
  obtain ⟨hreleased, hpreparations, hpromotions⟩ := hrecords
  refine ⟨fun x hx => ?_, fun x held hx => ?_, fun u hu => ?_, fun u hu => ?_,
    fun u hu => .inl ?_⟩
  · rw [hreleased]
    exact Finset.mem_insert_of_mem hx
  · rw [hreleased, Finset.mem_insert, Prod.mk.injEq] at hx
    rcases hx with ⟨ho, hheld⟩ | hx
    · exact .inr (.inl ⟨ho.symm, hheld.symm, _, h⟩)
    · exact .inl hx
  · rwa [Prepared, hpreparations]
  · rwa [Promoted, hpromotions]
  · rwa [Promoted, hpromotions] at hu

theorem installDeadWorker_move {deathId : String}
    (h : s.installDeadWorker w deathId = .ok (cleanup, s')) :
    RecordsMove s s' (.installDeadWorker w deathId) := by
  obtain ⟨hreleased, hended, hpreparations, hpromotions⟩ := installDeadWorker_records h
  refine ⟨hreleased, fun o hold hx => ?_, fun u hu => ?_, fun u hu => ?_, fun u hu => .inl ?_⟩
  · rcases hended _ hx with hx | hw
    · exact .inl hx
    · exact .inr (.inl ⟨hw.symm, _, h⟩)
  · rwa [Prepared, hpreparations]
  · rwa [Promoted, hpromotions]
  · rwa [Promoted, hpromotions] at hu

theorem Promotes.prepared (h : s.Promotes op t) : s.Prepared t := by
  cases op with
  | promoteStoredContainedReference u w =>
    obtain ⟨rfl, s', hpromote⟩ := h
    rcases promoteStoredContainedReference_cases hpromote with ⟨hd, _⟩ | ⟨_, hprepared, _⟩
    · cases hd
    · exact hprepared
  | _ => exact h.elim

variable [BEq ε]

theorem step_records (s : ObjectOwnerTable ε) (op : Op ε) : RecordsMove s (s.step op) op := by
  by_cases hop : Op.MovesContained op
  · cases op with
    | prepareStoredContainedReference t w =>
      exact .commit fun _ _ h => prepareStoredContainedReference_move h
    | promoteStoredContainedReference t w =>
      exact .commit fun _ _ h => promoteStoredContainedReference_move h
    | releaseContainedReference o hold =>
      exact .commit fun _ _ h => releaseContainedReference_move h
    | installDeadWorker w d => exact .commit fun _ _ h => installDeadWorker_move h
    | _ => exact hop.elim
  · exact (step_sameContained s op hop).recordsMove

theorem Promotes.promoted (h : s.Promotes op t) : (s.step op).Promoted t := by
  cases op with
  | promoteStoredContainedReference u w =>
    obtain ⟨rfl, s', hpromote⟩ := h
    have hstep : s.step (.promoteStoredContainedReference u w) = s' := by
      rw [step, hpromote]
      rfl
    rw [hstep]
    rcases promoteStoredContainedReference_cases hpromote with
      ⟨hd, _⟩ | ⟨_, _, _, _, _, _, hrecords⟩
    · cases hd
    · simp only [ReferenceHistory.containedRecords, Prod.mk.injEq] at hrecords
      rw [Promoted, hrecords.2.2, Dict.get?_set_self]
  | _ => exact h.elim

/-! ## Custody -/

/-- No live pin leaves the table unless a call ends or exchanges it. -/
theorem contained_stays (hledger : s.ledger.Consistent) (hlive : s.Live o (.contained hold))
    (hends : ¬ s.EndsHold op o hold) (hexchanges : ¬ s.Exchanges op o hold) :
    (s.step op).Live o (.contained hold) := by
  rcases (s.step_spec op).references.retired o _ hlive with h | h | hgone
  · exact h
  · exact h.elim
  · rcases (step_records s op).ended o hold (gone_contained_iff.mp hgone) with h | h | h
    · exact absurd (.inl (gone_contained_iff.mpr h)) (hledger (o, .contained hold) ⟨id, hlive⟩)
    · exact absurd h hends
    · exact absurd h hexchanges

/-- A pin in force keeps every collection of the object off. -/
def RefusesCollection (s : ObjectOwnerTable ε) (o : ObjectID) : Prop :=
  (∀ name uuid size checksum r s',
    s.beginCollection o name uuid size checksum = .ok (r, s') → r = none ∧ s' = s) ∧
  (∀ b s', s.collectIfUnused o = .ok (b, s') → b = false ∧ s' = s) ∧
  (∀ r s', s.collectUnusedWithEdges o = .ok (r, s') → r = .notCollected o ∧ s' = s) ∧
  ∀ name r s', s.beginOutputPublicationCollection o name = .ok (r, s') → r = .ok none ∧ s' = s

/-- What the table knows of a transfer whose child it holds. -/
structure Held (s : ObjectOwnerTable ε) (t : PreparedContainedTransfer) : Prop where
  prepared : s.Prepared t
  provisional : ¬ s.Promoted t → s.Live t.containedObjectId (.contained t.provisionalHold)
  final : s.Promoted t → s.Live t.containedObjectId (.contained t.finalHold)

theorem Held.step (h : s.Held t) (hledger : s.ledger.Consistent)
    (hends : ¬ s.EndsHold op t.containedObjectId t.finalHold)
    (hexchanges : ¬ s.Exchanges op t.containedObjectId t.finalHold)
    (hlost : s.EndsHold op t.containedObjectId t.provisionalHold → s.Promoted t) :
    (s.step op).Held t := by
  have hmove := step_records s op
  refine ⟨hmove.prepared t h.prepared, fun hn => ?_, fun hp => ?_⟩
  · have hbefore : ¬ s.Promoted t := fun hp => hn (hmove.promoted t hp)
    refine contained_stays hledger (h.provisional hbefore) (fun he => hbefore (hlost he)) ?_
    -- Only the transfer itself is prepared for its provisional pin.
    intro hx
    obtain ⟨u, hpromotes, ho, hu⟩ := hx
    obtain rfl := h.prepared.unique hpromotes.prepared ho hu
    exact hn hpromotes.promoted
  · rcases hmove.exchanged t hp with hbefore | ⟨_, _, hlive, _⟩
    · exact contained_stays hledger (h.final hbefore) hends hexchanges
    · exact hlive

omit [BEq ε] in
theorem live_refusesCollection {ref : Reference} (h : s.Live o ref) : s.RefusesCollection o := by
  obtain ⟨e, he, href⟩ := h
  have hused : ¬ e.Unused := by
    rw [ReferenceFields.unused_iff]
    exact fun hn => hn ref href
  have hbegin : ∀ name uuid size checksum r s',
      s.beginCollection o name uuid size checksum = .ok (r, s') → r = none ∧ s' = s := by
    intro name uuid size checksum r s' hb
    simp only [beginCollection, bind_eq_ok, entry_eq_ok, he, Option.some.injEq] at hb
    obtain ⟨_, rfl, _, _, hb⟩ := hb
    rw [if_pos (.inl hused)] at hb
    simp only [pure_eq_ok, Prod.mk.injEq] at hb
    exact ⟨hb.1.symm, hb.2.symm⟩
  refine ⟨hbegin, ?_, ?_, ?_⟩
  · intro b s' hc
    simp only [collectIfUnused, bind_eq_ok, entry_eq_ok, he, Option.some.injEq] at hc
    obtain ⟨_, rfl, hc⟩ := hc
    rw [if_neg fun hf => hused hf.1] at hc
    simp only [pure_eq_ok, Prod.mk.injEq] at hc
    exact ⟨hc.1.symm, hc.2.symm⟩
  · intro r s' hc
    simp only [collectUnusedWithEdges, bind_eq_ok, keyedEntry_eq_ok] at hc
    obtain ⟨e', he', _, _, hc⟩ := hc
    cases he.symm.trans he'
    rw [if_neg fun hr => hused hr.2.1] at hc
    simp only [pure_eq_ok, Prod.mk.injEq] at hc
    exact ⟨hc.1.symm, hc.2.symm⟩
  · intro name r s' hc
    simp only [beginOutputPublicationCollection, bind_eq_ok] at hc
    obtain ⟨_, _, hc⟩ := hc
    cases hr : s.outputCollectionReceipts.get? o with
    | some terminal =>
      simp only [hr, bind_eq_ok, pure_eq_ok, Prod.mk.injEq] at hc
      obtain ⟨_, _, rfl, rfl⟩ := hc
      exact ⟨rfl, rfl⟩
    | none =>
      simp only [hr, bind_eq_ok, entry_eq_ok] at hc
      obtain ⟨e', _, hc⟩ := hc
      cases hm : e'.outputPublication with
      | none => simp [hm] at hc
      | some membership =>
        simp only [hm, bind_eq_ok] at hc
        obtain ⟨result, _, hc⟩ := hc
        cases result with
        | none => cases hc
        | some descriptor =>
          simp only [bind_eq_ok, pure_eq_ok, Prod.mk.injEq] at hc
          obtain ⟨_, _, ⟨metadata, table⟩, hb, rfl, rfl⟩ := hc
          obtain ⟨rfl, rfl⟩ := hbegin _ _ _ _ _ _ hb
          exact ⟨rfl, rfl⟩

/-! ## Whole runs -/

/-- Every recorded promotion was prepared and consumed its provisional pin. -/
def WellRecorded (s : ObjectOwnerTable ε) : Prop :=
  ∀ t, s.Promoted t → s.Prepared t ∧
    (t.containedObjectId, t.provisionalHold) ∈ s.releasedContainedHolds

theorem wellRecorded_run (ops : List (Op ε)) : (run step .empty ops).WellRecorded := by
  refine run_invariant (p := WellRecorded) (fun s op hs t ht => ?_) ?_ ops
  · have hmove := step_records s op
    rcases hmove.exchanged t ht with hbefore | ⟨hprepared, _, _, hreleased⟩
    · exact ⟨hmove.prepared t (hs t hbefore).1, hmove.released _ (hs t hbefore).2⟩
    · exact ⟨hmove.prepared t hprepared, hreleased⟩
  · intro t ht
    simp [Promoted, empty] at ht

/-- The provisional pin of the transfer is ended before the transfer is promoted. -/
def LostBeforePromotion (s : ObjectOwnerTable ε) (t : PreparedContainedTransfer)
    (ops : List (Op ε)) : Prop :=
  ∃ xs op ys, ops = xs ++ op :: ys ∧
    (run step s xs).EndsHold op t.containedObjectId t.provisionalHold ∧
    ¬ Occurs step (fun s op => s.Promotes op t) s xs

/-- What a run that starts with the accepted preparation of a transfer does to its pins. -/
structure CustodySpec (s : ObjectOwnerTable ε) (t : PreparedContainedTransfer)
    (ops : List (Op ε)) : Prop where
  held : ¬ Occurs step (fun s op => s.EndsHold op t.containedObjectId t.finalHold) s ops →
    ¬ Occurs step (fun s op => s.Exchanges op t.containedObjectId t.finalHold) s ops →
    ¬ s.LostBeforePromotion t ops →
    ((run step s ops).Live t.containedObjectId (.contained t.provisionalHold) ∨
        (run step s ops).Live t.containedObjectId (.contained t.finalHold)) ∧
      (run step s ops).RefusesCollection t.containedObjectId
  exchanged : Occurs step (fun s op => s.Promotes op t) s ops →
    ¬ (run step s ops).Live t.containedObjectId (.contained t.provisionalHold)
  replayed : Occurs step (fun s op => s.EndsHold op t.containedObjectId t.finalHold) s ops →
    ¬ (run step s ops).Live t.containedObjectId (.contained t.finalHold) ∧
      (∀ w d s', (run step s ops).prepareStoredContainedReference t w = .ok (d, s') →
        s' = run step s ops) ∧
      ∀ w d s', (run step s ops).promoteStoredContainedReference t w = .ok (d, s') →
        s' = run step s ops

theorem prepared_run (h : s.Prepared t) (ops : List (Op ε)) : (run step s ops).Prepared t :=
  run_invariant (p := fun s : ObjectOwnerTable ε => s.Prepared t)
    (fun s op hs => (step_records s op).prepared t hs) h ops

variable {ops : List (Op ε)}

theorem promoted_of_occurs (h : Occurs step (fun s op => s.Promotes op t) s ops) :
    (run step s ops).Promoted t :=
  h.invariant (q := fun s : ObjectOwnerTable ε => s.Promoted t) (fun _ _ hp => hp.promoted)
    fun s op hs => (step_records s op).promoted t hs

theorem held_run (hledger : ∀ xs : List (Op ε), (run step s xs).ledger.Consistent)
    (hstart : s.Held t)
    (hends : ¬ Occurs step (fun s op => s.EndsHold op t.containedObjectId t.finalHold) s ops)
    (hexchanges : ¬ Occurs step (fun s op => s.Exchanges op t.containedObjectId t.finalHold) s ops)
    (hlost : ¬ s.LostBeforePromotion t ops) : (run step s ops).Held t := by
  induction ops using List.reverseRecOn with
  | nil => exact hstart
  | append_singleton ops op ih =>
    rw [occurs_concat, not_or] at hends hexchanges
    have hlost' : ¬ s.LostBeforePromotion t ops := by
      intro h
      obtain ⟨xs, a, ys, rfl, hl⟩ := h
      exact hlost ⟨xs, a, ys ++ [op], by simp, hl⟩
    rw [run_concat]
    refine (ih hends.1 hexchanges.1 hlost').step (hledger ops) hends.2 hexchanges.2 ?_
    intro he
    by_contra hn
    exact hlost ⟨ops, op, [], rfl, he, fun hp => hn (promoted_of_occurs hp)⟩

def Ended (s : ObjectOwnerTable ε) (o : ObjectID) (hold : ContainedReferenceHold) : Prop :=
  (o, hold) ∈ s.releasedContainedHolds ∨ s.Dead hold.containerOwnerWorkerId

theorem EndsHold.ended (h : s.EndsHold op o hold) : (s.step op).Ended o hold := by
  cases op with
  | releaseContainedReference x held =>
    obtain ⟨rfl, rfl, ⟨b, s'⟩, hr⟩ := h
    rw [step, hr]
    exact .inl (gone_contained_iff.mp (releaseContainedReference_gone hr))
  | installDeadWorker w d =>
    obtain ⟨rfl, ⟨cleanup, s'⟩, hr⟩ := h
    rw [step, hr]
    exact .inr (dead_of_install hr)
  | _ => exact h.elim

theorem ended_of_occurs (h : Occurs step (fun s op => s.EndsHold op o hold) s ops) :
    (run step s ops).Ended o hold :=
  h.invariant (q := fun s : ObjectOwnerTable ε => s.Ended o hold) (fun _ _ hp => hp.ended)
    fun s op hs => hs.imp ((step_records s op).released _)
      ((s.step_spec op).references.dead_mono _)

omit [BEq ε] in
/-- A transfer whose final hold ended is not promoted any more. -/
theorem promote_after_end (hended : s.Ended t.containedObjectId t.finalHold)
    (h : s.promoteStoredContainedReference t w = .ok (d, s')) : s' = s := by
  rcases promoteStoredContainedReference_cases h with
    ⟨_, _, hs⟩ | ⟨_, _, _, hreleased, hdead, _⟩
  · exact hs
  · rcases hended with hr | hd
    · exact absurd hr hreleased
    · exact absurd hd hdead

theorem custodySpec_run (as bs : List (Op ε)) (t : PreparedContainedTransfer) (w : WorkerID)
    (s : ObjectOwnerTable ε)
    (h : (run step .empty as).prepareStoredContainedReference t w = .ok (.prepared, s)) :
    s.CustodySpec t bs := by
  have hs : s = run step .empty (as ++ [.prepareStoredContainedReference t w]) := by
    rw [run_concat, step, h]
    rfl
  have hreach : ∀ xs : List (Op ε), run step s xs =
      run step .empty (as ++ .prepareStoredContainedReference t w :: xs) := by
    intro xs
    rw [hs, ← run_append]
    simp
  have hledger : ∀ xs : List (Op ε), (run step s xs).ledger.Consistent := by
    intro xs
    rw [hreach]
    exact ledger_consistent _
  rcases prepareStoredContainedReference_cases h with ⟨hd, _⟩ | ⟨_, hnew, hlive, hrecords⟩
  · cases hd
  simp only [ReferenceHistory.containedRecords, Prod.mk.injEq] at hrecords
  have hprepared : s.Prepared t := by rw [Prepared, hrecords.2.1, Dict.get?_set_self]
  have hfresh : ¬ s.Promoted t := by
    intro hp
    rw [Promoted, hrecords.2.2] at hp
    have hbefore := (wellRecorded_run as t hp).1
    rw [Prepared, hnew] at hbefore
    cases hbefore
  have hstart : s.Held t := ⟨hprepared, fun _ => hlive, fun hp => absurd hp hfresh⟩
  refine ⟨fun hends hexchanges hlost => ?_, fun hpromotes => ?_, fun hends => ?_⟩
  · have hheld := held_run hledger hstart hends hexchanges hlost
    by_cases hp : (run step s bs).Promoted t
    · exact ⟨.inr (hheld.final hp), live_refusesCollection (hheld.final hp)⟩
    · exact ⟨.inl (hheld.provisional hp), live_refusesCollection (hheld.provisional hp)⟩
  · have hpromoted := promoted_of_occurs hpromotes
    have hreleased : (t.containedObjectId, t.provisionalHold) ∈
        (run step s bs).releasedContainedHolds := by
      rw [hreach] at hpromoted ⊢
      exact (wellRecorded_run _ t hpromoted).2
    exact fun hl => hledger bs (t.containedObjectId, .contained t.provisionalHold) ⟨id, hl⟩
      (.inl (gone_contained_iff.mpr hreleased))
  · have hended := ended_of_occurs hends
    refine ⟨fun hl => ?_, fun w' d s' hprepare => ?_, fun w' d s' => promote_after_end hended⟩
    · refine hledger bs (t.containedObjectId, .contained t.finalHold) ⟨id, hl⟩ ?_
      rcases hended with hr | hd
      · exact .inl (gone_contained_iff.mpr hr)
      · exact .inr ⟨_, rfl, hd⟩
    · rcases prepareStoredContainedReference_cases hprepare with ⟨_, _, hsame⟩ | ⟨_, hnone, _⟩
      · exact hsame
      · have hstill := prepared_run hprepared bs
        rw [Prepared, hnone] at hstill
        cases hstill

/-! ## A pin that is handed on -/

namespace Sample

def pin (owner : WorkerID) : ContainedReferenceHold :=
  ⟨.forTask ⟨8⟩ 0, owner, "pin", by decide⟩

/-- Hands the child from the pin of one container owner to that of another. -/
def handover (executor owner : WorkerID) (h : executor ≠ owner) : PreparedContainedTransfer where
  containedObjectId := object
  containedOwnerWorkerId := ⟨1⟩
  containedOwnerAddress := default
  source := .owned ⟨1⟩
  provisionalHold := pin executor
  finalHold := pin owner
  owned_source := fun _ h => (ContainedPublicationSource.owned.inj h).symm
  share_outer := rfl
  custody_change := fun hp => h (congrArg ContainedReferenceHold.containerOwnerWorkerId hp)
  token_namespace := (if_neg h).symm

def toOwner : PreparedContainedTransfer := handover ⟨2⟩ ⟨3⟩ (by decide)

/-- Takes the final pin of the first transfer for its provisional one. -/
def fromOwner : PreparedContainedTransfer := handover ⟨3⟩ ⟨4⟩ (by decide)

def handedOn : List (Op Unit) :=
  [.promoteStoredContainedReference toOwner ⟨1⟩, .prepareStoredContainedReference fromOwner ⟨1⟩,
    .promoteStoredContainedReference fromOwner ⟨1⟩]

end Sample

open Sample in
theorem custodySpec_run_handedOn :
    ∃ s : ObjectOwnerTable Unit, (run step .empty [.register object none none
      none]).prepareStoredContainedReference toOwner ⟨1⟩ = .ok (.prepared, s) ∧
        s.CustodySpec toOwner handedOn := by
  have h : ∃ s : ObjectOwnerTable Unit, (run step .empty [.register object none none
      none]).prepareStoredContainedReference toOwner ⟨1⟩ = .ok (.prepared, s) := ⟨_, rfl⟩
  obtain ⟨s, h⟩ := h
  exact ⟨s, h, custodySpec_run _ handedOn _ _ s h⟩

open Sample in
/-- The second transfer consumes the final pin, which nobody released. -/
theorem not_held_until_released : ¬ ∀ (as bs : List (Op Unit)) (t : PreparedContainedTransfer)
    (w : WorkerID) (s : ObjectOwnerTable Unit),
    (run step .empty as).prepareStoredContainedReference t w = .ok (.prepared, s) →
    ¬ Occurs step (fun s op => s.EndsHold op t.containedObjectId t.finalHold) s bs →
    ¬ s.LostBeforePromotion t bs →
    (run step s bs).Live t.containedObjectId (.contained t.provisionalHold) ∨
      (run step s bs).Live t.containedObjectId (.contained t.finalHold) := by
  intro h
  have hprepare : ∃ s : ObjectOwnerTable Unit, (run step .empty [.register object none none
      none]).prepareStoredContainedReference toOwner ⟨1⟩ = .ok (.prepared, s) ∧
        ((run step s handedOn).entries.get? object).map (fun e => e.containedHolds) =
          some {pin ⟨4⟩} := ⟨_, rfl, by decide⟩
  obtain ⟨s, hprepare, hpins⟩ := hprepare
  have hends : ∀ (s : ObjectOwnerTable Unit) (hold : ContainedReferenceHold) (op : Op Unit),
      op ∈ handedOn → ¬ s.EndsHold op object hold := by
    intro s hold op hop
    simp only [handedOn, List.mem_cons, List.not_mem_nil, or_false] at hop
    rcases hop with rfl | rfl | rfl <;> exact id
  have hno : ∀ xs op ys, handedOn = xs ++ op :: ys → op ∈ handedOn := by
    intro xs op ys hsplit
    rw [hsplit]
    simp
  have hlive := h _ handedOn toOwner ⟨1⟩ s hprepare
    (fun ⟨xs, op, ys, hsplit, hp⟩ => hends _ _ op (hno xs op ys hsplit) hp)
    (fun ⟨xs, op, ys, hsplit, hp, _⟩ => hends _ _ op (hno xs op ys hsplit) hp)
  have hpin : ∀ owner, (run step s handedOn).Live object (.contained (pin owner)) →
      pin owner = pin ⟨4⟩ := by
    rintro owner ⟨e, he, hh⟩
    rw [he, Option.map_some, Option.some.injEq] at hpins
    simpa [ReferenceFields.Holds, hpins] using hh
  rcases hlive with hl | hl
  · exact absurd (hpin ⟨2⟩ hl) (by decide)
  · exact absurd (hpin ⟨3⟩ hl) (by decide)

end ObjectOwnerTable

end MiniRay
