import MiniRay.EnhancedPublication.DutyRounds

/-! Committing an owner's death fences its records and files their duties; a later request that adds
a record of that owner commits the death again. -/

namespace MiniRay

open Checked PublicationSnapshot

namespace PublicationAuthority

variable {self : PublicationAuthority}

variable {s : PublicationSnapshot}

theorem closedHolds_reference (h : self.Inv) {key : PublicationKey}
    (hs : self.records.get? key = some s) (holds : ClosedContainedHolds)
    (hholds : s.closedHolds = some holds) : holds.reference = s.reference := by
  have hvalid := (h.records key s hs).closed_fact holds hholds
  simp only [PublicationSnapshot.validateClosed, bind_eq_ok, raiseIf_eq_ok, exists_const] at hvalid
  exact not_not.mp hvalid.1

variable {closed : ClosedContainedHolds}

theorem apply_retire (h : self.Inv) (hs : self.records.get? s.reference.key = some s)
    (hfence : s.fence ≠ none) (hopen : s.receipt .retired = none)
    (href : closed.reference = s.reference) (hclosed : s.validateClosed closed = .ok ()) :
    ∃ reply, (self.apply (.retireGraph closed)).1 = .ok reply ∧ reply.accepted = true := by
  have hget : self.records.get? closed.reference.key = some s := by rw [href]; exact hs
  have hnone : s.closedHolds = none := by
    have hreceipt := (h.records _ s hs).closed_receipt
    rw [has_eq_false_iff.mpr hopen] at hreceipt
    exact Option.not_isSome_iff_eq_none.mp (by simp [hreceipt])
  have hgated : Gated self (.retireGraph closed) := by
    refine ⟨fun s' hs' => ?_, .inr ⟨s, { s with closedHolds := some closed }, ?_, ?_⟩⟩
    · obtain rfl : s = s' := Option.some.inj (hget.symm.trans hs')
      exact href.symm
    · simp only [addressed, PublicationRequest.reference, PublicationRequest.publication, hget]
      rfl
    · simp [changes, hfence, hclosed, hnone, raiseIf, bind, Except.bind, pure, Except.pure]
  obtain ⟨reply, hreply, _⟩ := apply_outcome h (.retireGraph closed)
  exact ⟨reply, hreply, (accepted_iff_gated h hreply).mpr hgated⟩

theorem retired_of_accepted (h : self.Inv) {reply : PublicationReply}
    (hreply : (self.apply (.retireGraph closed)).1 = .ok reply)
      (haccepted : reply.accepted = true) :
    ∃ s receipt,
      (self.apply (.retireGraph closed)).2.records.get? closed.reference.key = some s ∧
        s.receipt .retired = some receipt := by
  obtain ⟨s, receipt, hget, hreceipt, _⟩ :=
    (outcome_of_reply h hreply).accepted (show _ = some .retired from rfl) haccepted
  exact ⟨s, receipt, hget, hreceipt⟩

end PublicationAuthority

namespace EnhancedPublicationControl

open DeathCleanup
open PublicationAuthority (Preserves closedHolds_reference)

variable {c c' : EnhancedPublicationControl} {workers : WorkerTable}

/-! ## Invariants -/

/-- The duty is about one fenced record. -/
structure Filed (c : EnhancedPublicationControl) (key : PublicationRef) (work : DeathCleanup) :
    Prop where
  key_eq : work.publication.reference = key
  record : ∃ s, c.authority.records.get? key.key = some s ∧ s.publication = work.publication ∧
    s.fence ≠ none

structure Base (workers : WorkerTable) (c : EnhancedPublicationControl) : Prop where
  authority : c.authority.Inv
  filed : ∀ key work, c.deaths.get? key = some work → c.Filed key work
  certified : ∀ key work, c.deaths.get? key = some work → Certified workers work.death
  sound : ∀ key work, c.deaths.get? key = some work → work.Sound

def Covered (c : EnhancedPublicationControl) (death : WorkerDeathRecord)
    (s : PublicationSnapshot) : Prop :=
  s.fence ≠ none ∧ ∃ work, c.deaths.get? s.reference = some work ∧ work.death = death

/-- Every record of the dead owner is fenced and has its duty. -/
def Covers (c : EnhancedPublicationControl) (death : WorkerDeathRecord) : Prop :=
  ∀ key s, c.authority.records.get? key = some s →
    s.publication.ownerWorkerId = death.workerId → c.Covered death s

structure Inv (workers : WorkerTable) (c : EnhancedPublicationControl) : Prop
    extends Base workers c where
  covers : ∀ death ∈ c.committed, Certified workers death ∧ c.Covers death

theorem inv_new (workers : WorkerTable) : Inv workers {} where
  authority := PublicationAuthority.inv_empty
  filed _ _ h := by cases h
  certified _ _ h := by cases h
  sound _ _ h := by cases h
  covers _ h := by cases h

/-- Records go on and duties stay as they are; no record is new. -/
structure Extends (c c' : EnhancedPublicationControl) : Prop where
  records : ∀ key s, c.authority.records.get? key = some s →
    ∃ s', c'.authority.records.get? key = some s' ∧ Preserves s s'
  origins : ∀ key s', c'.authority.records.get? key = some s' →
    ∃ s, c.authority.records.get? key = some s ∧ Preserves s s'
  duties : ∀ key work, c.deaths.get? key = some work → c'.deaths.get? key = some work

theorem Extends.refl (c : EnhancedPublicationControl) : c.Extends c :=
  ⟨fun _ s h => ⟨s, h, .refl s⟩, fun _ s h => ⟨s, h, .refl s⟩, fun _ _ h => h⟩

theorem Extends.trans {c'' : EnhancedPublicationControl} (h : c.Extends c')
    (h' : c'.Extends c'') : c.Extends c'' := by
  refine ⟨?_, ?_, ?_⟩
  · intro key s hs
    obtain ⟨s', hs', hpreserves⟩ := h.records key s hs
    obtain ⟨s'', hs'', hpreserves'⟩ := h'.records key s' hs'
    exact ⟨s'', hs'', hpreserves.trans hpreserves'⟩
  · intro key s hs
    obtain ⟨s', hs', hpreserves⟩ := h'.origins key s hs
    obtain ⟨s'', hs'', hpreserves'⟩ := h.origins key s' hs'
    exact ⟨s'', hs'', hpreserves'.trans hpreserves⟩
  · intro key work hwork
    exact h'.duties key work (h.duties key work hwork)

variable {s : PublicationSnapshot}

variable {s' : PublicationSnapshot}

theorem fence_ne_none (h : Preserves s s') (hs : s.fence ≠ none) : s'.fence ≠ none := by
  obtain ⟨f, hf⟩ := Option.ne_none_iff_exists'.mp hs
  simp [h.fence f hf]

theorem reference_eq (h : Preserves s s') : s'.reference = s.reference := by
  rw [PublicationSnapshot.reference, h.publication, PublicationSnapshot.reference]

variable {death : WorkerDeathRecord}

theorem Covers.extends (h : c.Covers death) (hnext : c.Extends c') : c'.Covers death := by
  intro key s' hs' howner
  obtain ⟨s, hs, hpreserves⟩ := hnext.origins key s' hs'
  obtain ⟨hfenced, work, hwork, hdeath⟩ :=
    h key s hs (by rw [← hpreserves.publication]; exact howner)
  refine ⟨fence_ne_none hpreserves hfenced, work, hnext.duties _ _ ?_, hdeath⟩
  rw [reference_eq hpreserves]
  exact hwork

theorem Base.applied (h : c.Base workers) (request : PublicationRequest) :
    Base workers { c with authority := (c.authority.apply request).2 } := by
  refine ⟨h.authority.step request, ?_, h.certified, h.sound⟩
  intro key work hwork
  obtain ⟨hkey, s, hs, hpublication, hfenced⟩ := h.filed key work hwork
  obtain ⟨s', hs', hpreserves⟩ := PublicationAuthority.apply_history h.authority request hs
  exact ⟨hkey, s', hs', hpreserves.publication.trans hpublication,
    fence_ne_none hpreserves hfenced⟩

/-! ## Owner deaths -/

theorem Base.fence (h : c.Base workers) (hs : c.authority.records.get? s.reference.key = some s)
    (valid : ValidFence s.publication (.death death)) :
    ∃ after s', c.fence death s valid = (.ok (), after) ∧ Base workers after ∧
      after.authority.records = c.authority.records.set s.reference.key s' ∧ Preserves s s' ∧
      s'.fence ≠ none ∧ after.deaths = c.deaths ∧ after.committed = c.committed := by
  by_cases hopen : s.fence = none
  · obtain ⟨reply, updated, happly, haccepted, hpreserves, hfenced⟩ :=
      PublicationAuthority.apply_fence h.authority hs hopen valid
    have hbase := h.applied (.fencePublication ⟨s.publication, .death death, valid⟩)
    rw [happly] at hbase
    refine ⟨_, updated, ?_, hbase, rfl, hpreserves, hfenced, rfl, rfl⟩
    simp [EnhancedPublicationControl.fence, hopen, happly, haccepted]
  · refine ⟨c, s, by simp [EnhancedPublicationControl.fence, hopen], h, ?_, .refl s, hopen, rfl,
      rfl⟩
    exact (Dict.set_get? hs).symm

theorem Base.death_eq (h : c.Base workers) (hdeath : Certified workers death) {key : PublicationRef}
    {work : DeathCleanup} (hwork : c.deaths.get? key = some work)
    (howner : work.publication.ownerWorkerId = death.workerId) : work.death = death := by
  have hknown := (h.certified key work hwork).known
  have hid : work.death.workerId = death.workerId := work.valid.2.2.trans howner
  rw [hid, hdeath.known] at hknown
  exact (Option.some.inj hknown).symm

theorem Base.files (h : c.Base workers) (hdeath : Certified workers death)
    (valid : ValidFence s.publication (.death death)) (closed : Option ClosedContainedHolds)
    (hclosed : ∀ holds, closed = some holds → holds.reference = s.reference)
    (hs : ∃ s', c.authority.records.get? s.reference.key = some s' ∧
      s'.publication = s.publication ∧ s'.fence ≠ none) :
    Base workers (c.update s.reference
      ⟨s.publication, death, valid, .empty, .empty, closed, false, false, false, none⟩) := by
  have hget : ∀ key work, (c.update s.reference ⟨s.publication, death, valid, .empty, .empty,
      closed, false, false, false, none⟩).deaths.get? key = some work →
      (s.reference = key ∧ work = ⟨s.publication, death, valid, .empty, .empty, closed, false,
        false, false, none⟩) ∨ c.deaths.get? key = some work := by
    intro key work hwork
    rw [update] at hwork
    rcases Dict.of_get?_set hwork with ⟨hkey, hwork⟩ | hwork
    · exact .inl ⟨hkey, hwork.symm⟩
    · exact .inr hwork
  refine ⟨h.authority, ?_, ?_, ?_⟩
  · intro key work hwork
    rcases hget key work hwork with ⟨rfl, rfl⟩ | hold
    · exact ⟨rfl, hs⟩
    · exact ⟨(h.filed key work hold).key_eq, (h.filed key work hold).record⟩
  · intro key work hwork
    rcases hget key work hwork with ⟨rfl, rfl⟩ | hold
    · exact hdeath
    · exact h.certified key work hold
  · intro key work hwork
    rcases hget key work hwork with ⟨rfl, rfl⟩ | hold
    · exact ⟨fun _ _ hr => by simp at hr, fun _ _ hd => by simp at hd, hclosed,
        fun _ hp => by cases hp⟩
    · exact h.sound key work hold

theorem Base.fenceRecords (hdeath : Certified workers death) {snapshots : List PublicationSnapshot}
    (hnodup : (snapshots.map fun s => s.reference.key).Nodup) (h : c.Base workers)
    (hlist : ∀ s ∈ snapshots, c.authority.records.get? s.reference.key = some s ∧
      s.publication.ownerWorkerId = death.workerId) :
    ∃ after, c.fenceRecords death snapshots = (.ok (), after) ∧ Base workers after ∧
      c.Extends after ∧ after.committed = c.committed ∧
      ∀ s ∈ snapshots, ∀ s', after.authority.records.get? s.reference.key = some s' →
        after.Covered death s' := by
  induction snapshots generalizing c with
  | nil => exact ⟨c, rfl, h, .refl c, rfl, by simp⟩
  | cons s rest ih =>
    obtain ⟨hfresh, hrest⟩ := List.nodup_cons.mp hnodup
    obtain ⟨hs, howner⟩ := hlist s List.mem_cons_self
    have valid : ValidFence s.publication (.death death) :=
      ⟨hdeath.bounded, hdeath.confirmed, howner.symm⟩
    obtain ⟨mid, s', hfence, hmid, hrecords, hpreserves, hfenced, hdeaths, hcommitted⟩ :=
      h.fence hs valid
    have hself : mid.authority.records.get? s.reference.key = some s' := by
      rw [hrecords]
      exact Dict.get?_set_self _ _ _
    have hother : ∀ key, s.reference.key ≠ key →
        mid.authority.records.get? key = c.authority.records.get? key := by
      intro key hne
      rw [hrecords]
      exact Dict.get?_set_of_ne _ _ hne
    have hextends : c.Extends mid := by
      refine ⟨fun key x hx => ?_, fun key x hx => ?_, fun key work hwork => ?_⟩
      · by_cases hkey : s.reference.key = key
        · obtain rfl : s = x := Option.some.inj (hs.symm.trans (hkey ▸ hx))
          exact ⟨s', hkey ▸ hself, hpreserves⟩
        · exact ⟨x, (hother key hkey).trans hx, .refl x⟩
      · by_cases hkey : s.reference.key = key
        · obtain rfl : s' = x := Option.some.inj (hself.symm.trans (hkey ▸ hx))
          exact ⟨s, hkey ▸ hs, hpreserves⟩
        · exact ⟨x, (hother key hkey).symm.trans hx, .refl x⟩
      · rw [hdeaths]
        exact hwork
    -- the duty is filed now, or it was and is about the same death
    have hduty : ∃ next, c.fenceRecords death (s :: rest) = next.fenceRecords death rest ∧
        Base workers next ∧ mid.Extends next ∧ next.committed = mid.committed ∧
        next.authority = mid.authority ∧
        ∃ work, next.deaths.get? s.reference = some work ∧ work.death = death := by
      cases hwork : mid.deaths.get? s.reference with
      | none =>
        refine ⟨_, by simp only [EnhancedPublicationControl.fenceRecords, dif_pos valid, hfence,
          hwork], hmid.files hdeath valid s.closedHolds
          (closedHolds_reference h.authority hs)
          ⟨s', hself, hpreserves.publication, hfenced⟩, ⟨fun _ x hx => ⟨x, hx, .refl x⟩,
          fun _ x hx => ⟨x, hx, .refl x⟩, fun key work hkept => ?_⟩, rfl, rfl, _,
          Dict.get?_set_self _ _ _, rfl⟩
        exact Dict.get?_set_kept hwork hkept
      | some work =>
        obtain ⟨_, x, hx, hpublication, _⟩ := hmid.filed _ work hwork
        obtain rfl : s' = x := Option.some.inj (hself.symm.trans hx)
        have hsame : work.publication = s.publication :=
          hpublication.symm.trans hpreserves.publication
        have hexact : work.death = death :=
          hmid.death_eq hdeath hwork (by rw [hsame]; exact howner)
        refine ⟨mid, ?_, hmid, .refl mid, rfl, rfl, work, hwork, hexact⟩
        simp [EnhancedPublicationControl.fenceRecords, valid, hfence, hwork, hexact, hsame]
    obtain ⟨next, hnext, hbase, hfiled, hsame, hauthority, work, hwork, hexact⟩ := hduty
    have hlater : ∀ x ∈ rest, next.authority.records.get? x.reference.key = some x ∧
        x.publication.ownerWorkerId = death.workerId := by
      intro x hx
      obtain ⟨hget, hxowner⟩ := hlist x (List.mem_cons_of_mem _ hx)
      have hne : s.reference.key ≠ x.reference.key := by
        intro heq
        exact hfresh (List.mem_map.mpr ⟨x, hx, heq.symm⟩)
      exact ⟨by rw [hauthority, hother _ hne]; exact hget, hxowner⟩
    obtain ⟨after, hafter, hfinal, hgrown, hcommitted', hcovered⟩ := ih hrest hbase hlater
    refine ⟨after, hnext.trans hafter, hfinal, hextends.trans (hfiled.trans hgrown),
      hcommitted'.trans (hsame.trans hcommitted), ?_⟩
    intro x hx x' hx'
    rcases List.mem_cons.mp hx with rfl | hx
    · obtain ⟨y, hy, hpreserves'⟩ := hgrown.origins _ x' hx'
      rw [hauthority, hself, Option.some.injEq] at hy
      subst hy
      refine ⟨fence_ne_none hpreserves' hfenced, work, hgrown.duties _ _ ?_, hexact⟩
      rw [reference_eq hpreserves', reference_eq hpreserves]
      exact hwork
    · exact hcovered x hx x' hx'

theorem nodup_forOwner (h : c.authority.Inv) (owner : WorkerID) :
    ((c.forOwner owner).map fun s => s.reference.key).Nodup := by
  have hkeys : (c.authority.records.values.map fun s => s.reference.key) =
      c.authority.records.keys := by
    rw [Dict.values, Dict.keys, List.map_map]
    refine List.map_congr_left fun item hitem => ?_
    exact h.keys item.1 item.2 (Dict.get?_eq_some_iff.mpr hitem)
  have hnodup : (c.authority.records.values.map fun s => s.reference.key).Nodup := by
    rw [hkeys]
    exact c.authority.records.nodup
  exact hnodup.sublist (List.Sublist.map _ List.filter_sublist)

theorem mem_forOwner {owner : WorkerID} : s ∈ c.forOwner owner ↔
    (∃ key, c.authority.records.get? key = some s) ∧ s.publication.ownerWorkerId = owner := by
  simp [forOwner, Dict.mem_values_iff]

theorem Base.commitOwnerDeath (h : c.Base workers) (hdeath : Certified workers death) : ∃ after,
      c.commitOwnerDeath workers death = (.ok (), after) ∧ Base workers after ∧
      c.Extends after ∧ after.committed = c.committed ++ [death] ∧ after.Covers death := by
  have hlist : ∀ s ∈ c.forOwner death.workerId,
      c.authority.records.get? s.reference.key = some s ∧
        s.publication.ownerWorkerId = death.workerId := by
    intro s hs
    obtain ⟨⟨key, hget⟩, howner⟩ := mem_forOwner.mp hs
    exact ⟨PublicationAuthority.get?_of_reference h.authority hget, howner⟩
  obtain ⟨after, hafter, hbase, hextends, hcommitted, hcovered⟩ :=
    h.fenceRecords hdeath (nodup_forOwner h.authority _) hlist
  refine ⟨{ after with committed := after.committed ++ [death] }, ?_,
    ⟨hbase.authority, fun key work hwork => ⟨(hbase.filed key work hwork).key_eq,
      (hbase.filed key work hwork).record⟩, hbase.certified, hbase.sound⟩,
    ⟨hextends.records, hextends.origins, hextends.duties⟩, by simp [hcommitted], ?_⟩
  · simp [EnhancedPublicationControl.commitOwnerDeath, hdeath.validated, hafter]
  · intro key s' hs' howner
    obtain ⟨s, hs, hpreserves⟩ := hextends.origins key s' hs'
    have hmem : s ∈ c.forOwner death.workerId :=
      mem_forOwner.mpr ⟨⟨key, hs⟩, by rw [← hpreserves.publication]; exact howner⟩
    have hreference := h.authority.keys key s hs
    exact hcovered s hmem s' (hreference.symm ▸ hs')

/-- A death that membership does not hold is refused without a trace. -/
theorem commitOwnerDeath_cases (h : c.Base workers) (death : WorkerDeathRecord) :
    (∃ after, c.commitOwnerDeath workers death = (.ok (), after) ∧ Certified workers death ∧
      Base workers after ∧ c.Extends after ∧ after.committed = c.committed ++ [death] ∧
      after.Covers death) ∨
    ∃ raised, c.commitOwnerDeath workers death = (.error raised, c) := by
  cases hvalid : validatedDeath workers death with
  | error raised =>
    exact .inr ⟨raised, by simp [EnhancedPublicationControl.commitOwnerDeath, hvalid]⟩
  | ok proof =>
    have hdeath := certified_of_validated hvalid
    obtain ⟨after, hcommit, hbase, hextends, hcommitted, hcovers⟩ := h.commitOwnerDeath hdeath
    exact .inl ⟨after, hcommit, hdeath, hbase, hextends, hcommitted, hcovers⟩

end EnhancedPublicationControl

end MiniRay
