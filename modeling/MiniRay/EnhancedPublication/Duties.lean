import MiniRay.Control.WorkerLifetimes
import MiniRay.EnhancedPublication.Atomicity
import MiniRay.EnhancedPublication.Control

/-! Every record of a dead owner is fenced and has one duty, and no call takes either away. -/

namespace MiniRay

open Checked PublicationSnapshot

/-! ## Committed deaths -/

/-- Membership holds exactly this unexpected death. -/
structure Certified (workers : WorkerTable) (death : WorkerDeathRecord) : Prop where
  bounded : death.OwnerDeath
  confirmed : death.ConfirmedExit
  known : (workers.get? death.workerId).bind WorkerSnapshot.death = some death

section Certified

variable {workers workers' : WorkerTable} {death : WorkerDeathRecord} {owner : WorkerID}

theorem certified_of_validated {r : PLift (death.OwnerDeath ∧ death.ConfirmedExit)}
    (h : validatedDeath workers death = .ok r) : Certified workers death := by
  simp only [validatedDeath, bind_eq_ok] at h
  obtain ⟨_, _, worker, hget, ⟨hchecks⟩, _⟩ := h
  have hworker : workers.get? death.workerId = some worker := by
    unfold getWorker at hget
    split at hget
    · rename_i hfound
      cases hget
      exact hfound
    · cases hget
  exact ⟨r.down.1, r.down.2, by rw [hworker]; exact hchecks.2.2.1⟩

theorem Certified.validated (h : Certified workers death) :
    validatedDeath workers death = .ok ⟨h.bounded, h.confirmed⟩ := by
  obtain ⟨worker, hworker, hdeath⟩ := Option.bind_eq_some_iff.mp h.known
  have hstate := WorkerSnapshot.dead_of_death hdeath
  obtain ⟨d, hd, hincarnation⟩ := worker.dead_record hstate
  obtain rfl : d = death := Option.some.inj (hd.symm.trans hdeath)
  have hcopy : copyOwnerDeath d = .ok ⟨h.bounded⟩ := by
    obtain ⟨hpid, hepoch, hworkerPid, hdeathEpoch⟩ := h.bounded
    simp [copyOwnerDeath, certify, hpid, hepoch, hworkerPid, hdeathEpoch, bind, Except.bind,
      pure, Except.pure]
  simp [validatedDeath, hcopy, getWorker, hworker, certify, hstate, hincarnation, hdeath,
    h.confirmed, bind, Except.bind, pure, Except.pure]

theorem Certified.ownerDeath (h : Certified workers death) :
    ownerDeath? workers death.workerId = .ok (some death) := by
  simp [ownerDeath?, h.known, h.confirmed, h.validated, bind, Except.bind, pure, Except.pure]

theorem certified_of_ownerDeath (h : ownerDeath? workers owner = .ok (some death)) :
    Certified workers death ∧ (workers.get? owner).bind WorkerSnapshot.death = some death := by
  unfold ownerDeath? at h
  split at h
  · cases h
  · rename_i hfound
    split at h
    · simp only [bind_eq_ok, pure_eq_ok, Option.some.injEq] at h
      obtain ⟨_, hvalid, rfl⟩ := h
      exact ⟨certified_of_validated hvalid, hfound⟩
    · cases h

/-- Dead Workers stay as they are, and every Worker stands under its own id. -/
structure WorkerTable.Continues (workers workers' : WorkerTable) : Prop where
  dead : ∀ item ∈ workers.items, item.2.state = .dead → workers'.get? item.1 = some item.2
  keyed : ∀ item ∈ workers'.items, item.2.incarnation.workerId = item.1

instance (workers workers' : WorkerTable) : Decidable (workers.Continues workers') :=
  decidable_of_iff (_ ∧ _) ⟨fun h => ⟨h.1, h.2⟩, fun h => ⟨h.1, h.2⟩⟩

theorem Certified.continues (h : Certified workers death) (hnext : workers.Continues workers') :
    Certified workers' death := by
  obtain ⟨worker, hworker, hdeath⟩ := Option.bind_eq_some_iff.mp h.known
  have hkept := hnext.dead (death.workerId, worker) (Dict.get?_eq_some_iff.mp hworker)
    (WorkerSnapshot.dead_of_death hdeath)
  exact ⟨h.bounded, h.confirmed, by rw [hkept]; exact hdeath⟩

end Certified

/-! ## The authority -/

namespace PublicationAuthority

variable {self : PublicationAuthority}

variable {s : PublicationSnapshot} {key : PublicationKey}

theorem get?_of_reference (h : self.Inv) (hs : self.records.get? key = some s) :
    self.records.get? s.reference.key = some s := by
  rw [h.keys key s hs]
  exact hs

theorem apply_query (h : self.Inv) (hs : self.records.get? s.reference.key = some s) :
    ((self.apply (.getPublication s.publication.reference)).1 = .ok
      (.accept (.getPublication s.publication.reference) (some s) none)) := by
  have hgated : Gated self (.getPublication s.publication.reference) := by
    refine ⟨fun s' hs' => ?_, .inl rfl⟩
    obtain rfl : s = s' := Option.some.inj (hs.symm.trans hs')
    rfl
  obtain ⟨reply, hreply, hout⟩ := apply_outcome h (.getPublication s.publication.reference)
  have haccepted := (accepted_iff_gated h hreply).mpr hgated
  generalize (self.apply (.getPublication s.publication.reference)).2 = next at hout
  cases hout with
  | rejected => cases haccepted
  | queried =>
    rw [hreply]
    change Except.ok (PublicationReply.accept _ (self.records.get? s.reference.key) none) = _
    rw [hs]
  | replayed hstage => cases hstage
  | recorded hstage => cases hstage

theorem apply_fence (h : self.Inv) {death : WorkerDeathRecord}
    (hs : self.records.get? s.reference.key = some s) (hopen : s.fence = none)
    (valid : ValidFence s.publication (.death death)) :
    ∃ reply updated, self.apply (.fencePublication ⟨s.publication, .death death, valid⟩) =
        (.ok reply, ⟨self.records.set s.reference.key updated, self.sequence + 1⟩) ∧
      reply.accepted = true ∧ Preserves s updated ∧ updated.fence ≠ none := by
  have hgated : Gated self (.fencePublication ⟨s.publication, .death death, valid⟩) := by
    refine ⟨fun s' hs' => ?_, .inr ⟨s, { s with fence := some (.death death) }, ?_, ?_⟩⟩
    · obtain rfl : s = s' := Option.some.inj (hs.symm.trans hs')
      rfl
    · have hget : self.records.get? s.publication.reference.key = some s := hs
      simp [addressed, PublicationRequest.reference, PublicationRequest.publication, hget,
        raiseIf, bind, Except.bind, pure, Except.pure]
    · simp [changes, hopen, FenceProof.isAbort, raiseIf, bind, Except.bind, pure, Except.pure]
  obtain ⟨reply, hreply, hout⟩ :=
    apply_outcome h (.fencePublication ⟨s.publication, .death death, valid⟩)
  have haccepted := (accepted_iff_gated h hreply).mpr hgated
  have hnot : s.receipt .fenced = none := by
    have hreceipt := (h.records _ s hs).fence_receipt
    rw [hopen] at hreceipt
    exact has_eq_false_iff.mp hreceipt.symm
  generalize hnext : (self.apply (.fencePublication ⟨s.publication, .death death, valid⟩)).2 = next
    at hout
  cases hout with
  | rejected => cases haccepted
  | queried hquery => cases hquery
  | @replayed stage previous receipt hstage hknown hreceipt =>
    cases hstage
    obtain rfl : s = previous := Option.some.inj (hs.symm.trans hknown)
    rw [hnot] at hreceipt
    cases hreceipt
  | @recorded stage previous changed receipt updated hstage ha hc hnew hr hu hinv =>
    cases hstage
    have hprevious : previous = s := by
      rcases ha.known with hknown | ⟨hfresh, _⟩
      · exact (Option.some.inj (hs.symm.trans hknown)).symm
      · exact absurd (hs.symm.trans hfresh) (by simp)
    subst hprevious
    refine ⟨_, updated, Prod.ext hreply hnext, rfl, hc.preserves ha.inv rfl hnew hu, ?_⟩
    have hhas : updated.has .fenced = true := by
      have hreceipts : updated.receipts = previous.receipts ++ [receipt] := by
        rw [hu, hc.receipts_eq]
      rw [has_append hreceipts, hr]
      simp
    rw [← Option.isSome_iff_ne_none, hinv.fence_receipt]
    exact hhas

theorem apply_records (h : self.Inv) (request : PublicationRequest)
    (hs : (self.apply request).2.records.get? key = some s) :
    (∃ old, self.records.get? key = some old ∧ Preserves old s) ∨
      request.publication ≠ none ∧ ∃ reply, (self.apply request).1 = .ok reply ∧
        reply.accepted = true ∧ request.stage.isSome = true ∧ reply.snapshot = some s := by
  obtain ⟨reply, hreply, hout⟩ := apply_outcome h request
  generalize (self.apply request).2 = next at hout hs
  cases hout with
  | rejected => exact .inl ⟨s, hs, .refl s⟩
  | queried _ => exact .inl ⟨s, hs, .refl s⟩
  | replayed _ _ _ => exact .inl ⟨s, hs, .refl s⟩
  | @recorded stage previous changed receipt updated hstage ha hc hnew hr hu hinv =>
    by_cases hkey : request.reference.key = key
    · have hupdated : updated = s := by
        rw [hkey] at hs
        exact Option.some.inj ((Dict.get?_set_self _ _ _).symm.trans hs)
      subst hupdated
      rcases ha.known with hknown | ⟨_, _, hcreates, _⟩
      · exact .inl ⟨previous, hkey ▸ hknown, hc.preserves ha.inv hstage hnew hu⟩
      · exact .inr ⟨by simp [hcreates], _, hreply, rfl, by simp [hstage], rfl⟩
    · exact .inl ⟨s, (Dict.get?_set_of_ne _ _ hkey).symm.trans hs, .refl s⟩

theorem apply_history (h : self.Inv) (request : PublicationRequest)
    (hs : self.records.get? key = some s) :
    ∃ s', (self.apply request).2.records.get? key = some s' ∧ Preserves s s' := by
  obtain ⟨_, _, hout⟩ := apply_outcome h request
  exact hout.history hs

end PublicationAuthority

end MiniRay
