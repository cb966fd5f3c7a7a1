import MiniRay.Pull.Transfers

/-! A completed transfer is sealed and shown, or it fails; either way its record and its store entry
stay together, and so do they when the replica is dropped or pinned. -/

namespace MiniRay

open Checked Run Buffer

variable {ℓ α ω τ : Type}

namespace ObjectManager

variable {s s' : ObjectManager ℓ α ω τ} {d : ObjectID → List (Write UInt8)} {o : ObjectID}
  {r : PullRecord ℓ α ω} {st : ObjectStore τ}

theorem delete_eq (hinv : st.Inv d) (o : ObjectID) : ∃ removed after, st.delete o =
    (.ok removed, after) ∧ after.Inv d ∧
      (removed = false ∧ after = st ∨ removed = true ∧ after.entries = st.entries.erase o) := by
  unfold ObjectStore.delete
  cases he : st.entries.get? o with
  | none => exact ⟨false, st, rfl, hinv, .inl ⟨rfl, rfl⟩⟩
  | some e =>
    by_cases hpins : e.pinTokens ≠ []
    · exact ⟨false, st, if_pos hpins, hinv, .inl ⟨rfl, rfl⟩⟩
    · obtain ⟨removed, hremove, hafter, hentries⟩ := removeEntry_eq hinv he
      exact ⟨true, removed, by rw [← hremove]; exact if_neg hpins, hafter,
        .inr ⟨rfl, hentries⟩⟩

theorem quarantine_inv {β : Type} (h : InvBut r.objectId d s) (hcreated : ∀ e,
      s.objectStore.entries.get? r.objectId = some e → e.isSealed = false →
        r.targetCreated = true) (error : ObjectManagerError) :
    ∃ s', s.quarantine (β := β) r error = (.error error, s') ∧ Inv d s' := by
  unfold quarantine
  by_cases hsealed : s.objectStore.contains r.objectId true = true
  · obtain ⟨removed, after, hdelete, hafter, heffect⟩ := delete_eq h.store r.objectId
    rw [if_pos hsealed, hdelete]
    have hothers : ∀ x, x ≠ r.objectId →
        after.entries.get? x = s.objectStore.entries.get? x := by
      intro x hx
      rcases heffect with ⟨_, rfl⟩ | ⟨_, hentries⟩
      · rfl
      · rw [hentries, Dict.get?_erase_of_ne _ (Ne.symm hx)]
    refine failWith_inv (h.setStore hafter hothers) (fun e he hopen => ?_) error
    rcases heffect with ⟨_, rfl⟩ | ⟨_, hentries⟩
    · exact hcreated e he hopen
    · simp [setStore, hentries] at he
  · rw [if_neg hsealed]
    exact failWith_inv h hcreated error

section Readers

variable [DecidableEq τ]

theorem pinAll_sealed (readers : List τ) (hinv : st.Inv d) {data : List UInt8}
    (h : ∃ e, st.entries.get? o = some e ∧ e.sealedData = some data) :
    (pinAll st o readers).Inv d ∧
      (∃ e, (pinAll st o readers).entries.get? o = some e ∧ e.sealedData = some data) ∧
      ∀ x, x ≠ o → (pinAll st o readers).entries.get? x = st.entries.get? x := by
  induction readers generalizing st with
  | nil => exact ⟨hinv, h, fun _ _ => rfl⟩
  | cons token readers ih =>
    cases hpin : st.pin o token with
    | error e =>
      have hsame : (st.atomic (st.pin o token)).2 = st := by rw [hpin]; rfl
      simpa only [pinAll, List.foldl_cons, hsame] using ih hinv h
    | ok pinned =>
      have hsame : (st.atomic (st.pin o token)).2 = pinned := by rw [hpin]; rfl
      obtain ⟨e, he, hsealed, hset⟩ := ObjectStore.pin_ok hpin
      obtain ⟨e', he', hdata⟩ := h
      cases he.symm.trans he'
      have hentry : pinned.entries.get? o =
          some { e with pinTokens := e.pinTokens.insert token } := by
        rw [hset]
        exact Dict.get?_set_self _ _ _
      obtain ⟨hinv', hentry', hothers⟩ := ih (hinv.pin hpin) ⟨_, hentry, hdata⟩
      have hstep : pinAll st o (token :: readers) = pinAll pinned o readers := by
        rw [pinAll, List.foldl_cons, hsame]
        rfl
      rw [hstep]
      refine ⟨hinv', hentry', fun x hx => ?_⟩
      rw [hothers x hx, hset]
      exact Dict.get?_set_of_ne _ _ (Ne.symm hx)

variable [DecidableEq ℓ]

theorem finishPull_inv (h : Inv d s) (transfer : Option String) (source : Option ℓ)
    (publication : PublicationOutcome) (readers : List τ) :
    Inv d (s.finishPull o transfer source publication readers).2 := by
  unfold finishPull
  cases hcheck : s.checkFinish o transfer source with
  | error e => exact h
  | ok checked =>
    obtain ⟨r, buffer, size, checksum⟩ := checked
    simp only [checkFinish, bind_eq_ok] at hcheck
    obtain ⟨r', hpulling, hcheck⟩ := hcheck
    obtain ⟨hr, hstate, _⟩ := pullingRecord_ok hpulling
    have hrecord : r' = r ∧ r.buffer = some buffer ∧ r.expectedChecksum = some checksum := by
      split at hcheck
      · next held _ text hheld _ htext =>
          simp only [bind_eq_ok, pure_eq_ok, Prod.mk.injEq] at hcheck
          obtain ⟨_, _, rfl, rfl, _, rfl⟩ := hcheck
          exact ⟨rfl, hheld, htext⟩
      · cases hcheck
    obtain ⟨rfl, hbuffer, hchecksum⟩ := hrecord
    have htracks := h.tracks o
    rw [hr] at htracks
    obtain rfl := htracks.named
    obtain ⟨checksum', hsize, hchecksum', hnormalized, _, hcreated, hentry⟩ :=
      configured_of_buffer htracks hstate hbuffer
    cases hchecksum.symm.trans hchecksum'
    have hbut := h.but r'.objectId
    simp only
    by_cases hdigest : Sha256.hexdigest buffer ≠ lowerHex checksum
    · rw [if_pos hdigest]
      obtain ⟨failed, hfail, hinv⟩ := failPulling_inv (β := PullCompletion ℓ ω) h hr hstate
        (.pullChecksum "transferred object checksum does not match its descriptor")
      rwa [hfail]
    rw [if_neg hdigest]
    have hknown : r'.expectedChecksum = some (Sha256.hexdigest buffer) := by
      rw [hchecksum, not_not.mp hdigest, hnormalized]
    cases hseal : s.objectStore.seal_ r'.objectId with
    | error e =>
      obtain ⟨failed, hfail, hinv⟩ := quarantine_inv (β := PullCompletion ℓ ω) hbut
        (fun _ _ _ => hcreated) (.store e)
      simpa only [hfail] using hinv
    | ok ready =>
      obtain ⟨e, he, _, _, held, hheld, hset⟩ := ObjectStore.seal_eq_ok.mp hseal
      cases hentry.symm.trans he
      obtain rfl : buffer = held := Option.some.inj hheld
      have hready : ∃ e, ready.entries.get? r'.objectId = some e ∧
          e.sealedData = some buffer := by
        rw [← hset]
        exact ⟨_, Dict.get?_set_self _ _ _, rfl⟩
      obtain ⟨hinv, ⟨e', he', hdata⟩, hothers⟩ :=
        pinAll_sealed readers (h.store.seal hseal) hready
      have hsealed : InvBut r'.objectId d (s.setStore (pinAll ready r'.objectId readers)) := by
        refine hbut.setStore hinv fun x hx => ?_
        rw [hothers x hx, ← hset]
        exact Dict.get?_set_of_ne _ _ (Ne.symm hx)
      have hexit : ∀ error, Inv d ((s.setStore (pinAll ready r'.objectId readers)).quarantine
          (β := PullCompletion ℓ ω) r' error).2 := by
        intro error
        obtain ⟨failed, hfail, hfailed⟩ := quarantine_inv (β := PullCompletion ℓ ω) hsealed
          (fun _ _ _ => hcreated) error
        rwa [hfail]
      simp only
      by_cases hshown : (s.setStore (pinAll ready r'.objectId readers)).objectStore.contains
          r'.objectId true = false
      · rw [if_pos hshown]
        exact hexit _
      rw [if_neg hshown]
      cases publishLocalLocation publication with
      | error e => exact hexit e
      | ok u =>
        refine hsealed.setRecord ?_
        have hafter : (s.setStore (pinAll ready r'.objectId readers)).objectStore.entries.get?
            r'.objectId = some e' := he'
        rw [hafter]
        exact .ready _ e' buffer rfl rfl hdata hsize hknown

end Readers

/-! ## The end of a record -/

theorem failPull_inv (h : Inv d s) (error : String) : Inv d (s.failPull o error).2 := by
  unfold failPull
  cases hr : s.pullRecord o with
  | error e => exact h
  | ok r =>
    rw [pullRecord_eq_ok] at hr
    have htracks := h.tracks o
    rw [hr] at htracks
    obtain rfl := htracks.named
    simp only
    by_cases hended : r.state = .failed ∨ r.state = .ready
    · rw [if_pos hended]
      exact h
    · rw [if_neg hended]
      have hcreated : ∀ e, s.objectStore.entries.get? r.objectId = some e →
          e.isSealed = false → r.targetCreated = true := by
        intro e he _
        rw [he] at htracks
        cases htracks with
        | configured _ _ _ _ _ _ _ _ _ _ _ _ created => exact created
        | ready _ _ _ _ state => exact absurd (.inr state) hended
        | failed _ _ _ state => exact absurd (.inl state) hended
      obtain ⟨failed, hfail, hinv⟩ := failRecord_spec (h.but _) hcreated error
      rwa [hfail]

theorem erase_inv (h : InvBut o d s) (ho : s.objectStore.entries.get? o = none) :
    Inv d { s with pulls := s.pulls.erase o } := by
  have hbut : InvBut o d { s with pulls := s.pulls.erase o } := by
    refine ⟨h.store, h.agree, fun x hx => ?_⟩
    simp only [Dict.get?_erase_of_ne _ (Ne.symm hx)]
    exact h.tracks x hx
  refine hbut.inv ?_
  simp only [ho, Dict.get?_erase_self]
  exact .absent

theorem absent_of_not_contains (h : ¬ st.contains o false = true) : st.entries.get? o = none := by
  cases he : st.entries.get? o with
  | none => rfl
  | some e => exact absurd (contains_iff.mpr ⟨e, he, .inr rfl⟩) h

theorem commit_inv {β : Type} {result : Except ObjectManagerError (β × ObjectManager ℓ α ω τ)}
    (h : Inv d s) (hresult : ∀ b s', result = .ok (b, s') → Inv d s') :
    Inv d (s.commit result) := by
  cases result with
  | error e => exact h
  | ok r => exact hresult r.1 r.2 rfl

theorem resetFailedPull_inv (h : Inv d s) : Inv d (s.commit (s.resetFailedPull o)) := by
  refine commit_inv h fun b s' hcall => ?_
  unfold resetFailedPull at hcall
  cases hr : s.pulls.get? o with
  | none =>
    simp only [hr, Except.ok.injEq, Prod.mk.injEq] at hcall
    exact hcall.2 ▸ h
  | some r =>
    simp only [hr, ite_eq_ok, bind_eq_ok, raiseIf_eq_ok, pure_eq_ok, Prod.mk.injEq] at hcall
    rcases hcall with ⟨_, _, rfl⟩ | ⟨_, _, hgone, _, rfl⟩
    · exact h
    · exact erase_inv (h.but o) (absent_of_not_contains hgone)

section Drops

variable [DecidableEq α]

theorem forgetLocalReplica_ok {attempt : Option α} {b : Bool}
    (hcall : s.forgetLocalReplica o attempt = .ok (b, s')) :
    s' = s ∧ (b = false) ∨ s' = { s with pulls := s.pulls.erase o } ∧
      s.objectStore.entries.get? o = none := by
  unfold forgetLocalReplica at hcall
  cases hr : s.pulls.get? o with
  | none =>
    simp only [hr, Except.ok.injEq, Prod.mk.injEq] at hcall
    exact .inl ⟨hcall.2.symm, hcall.1.symm⟩
  | some r =>
    simp only [hr, ite_eq_ok, bind_eq_ok, raiseIf_eq_ok, pure_eq_ok, Prod.mk.injEq] at hcall
    rcases hcall with ⟨_, rfl, rfl⟩ | ⟨_, _, _, _, hgone, _, rfl⟩
    · exact .inl ⟨rfl, rfl⟩
    · exact .inr ⟨rfl, absent_of_not_contains hgone⟩

theorem forgetLocalReplica_inv (h : Inv d s) (attempt : Option α) :
    Inv d (s.commit (s.forgetLocalReplica o attempt)) := by
  refine commit_inv h fun b s' hcall => ?_
  rcases forgetLocalReplica_ok hcall with ⟨rfl, _⟩ | ⟨rfl, hgone⟩
  · exact h
  · exact erase_inv (h.but o) hgone

theorem dropReplica_inv (h : Inv d s) (attempt : Option α) :
    Inv d (s.dropReplica o attempt).2 := by
  unfold dropReplica
  by_cases hguard : s.objectStore.contains o true = false ∨
      ∃ r ∈ s.pulls.get? o, AttemptsDiffer r.attemptId attempt
  · rw [if_pos hguard]
    exact h
  rw [if_neg hguard]
  rw [not_or, Bool.not_eq_false, contains_iff] at hguard
  obtain ⟨⟨e, he, hsealed⟩, hattempt⟩ := hguard
  obtain ⟨removed, after, hdelete, hafter, heffect⟩ := delete_eq h.store o
  rw [hdelete]
  rcases heffect with ⟨rfl, rfl⟩ | ⟨rfl, hentries⟩
  · exact (h.but o).setStore hafter (fun _ _ => rfl) |>.inv (h.tracks o)
  · have hgone : (s.setStore after).objectStore.entries.get? o = none := by
      simp [setStore, hentries]
    have hbut : InvBut o d (s.setStore after) := by
      refine (h.but o).setStore hafter fun x hx => ?_
      rw [hentries, Dict.get?_erase_of_ne _ (Ne.symm hx)]
    have htracks := h.tracks o
    rw [he] at htracks
    cases hr : s.pulls.get? o with
    | none =>
      rw [hr] at htracks
      cases htracks
    | some r =>
      rw [hr] at htracks
      have hidle : r.state ≠ .pulling := by
        cases htracks with
        | configured => simp [StoreEntry.isSealed] at hsealed
        | ready _ _ _ _ state => simp [state]
        | failed _ _ _ state => simp [state]
      have hforget : (s.setStore after).forgetLocalReplica o attempt =
          .ok (true, { s.setStore after with pulls := (s.setStore after).pulls.erase o }) := by
        have hsame : ¬ AttemptsDiffer r.attemptId attempt := fun hd => hattempt ⟨r, hr, hd⟩
        have hnot : ¬ (s.setStore after).objectStore.contains o false = true := by
          rw [contains_iff]
          rintro ⟨e, he, _⟩
          rw [hgone] at he
          cases he
        have hrecord : (s.setStore after).pulls.get? o = some r := hr
        simp only [forgetLocalReplica, hrecord, if_neg hsame, raiseIf_ok hidle,
          raiseIf_ok hnot]
        rfl
      simp only [hforget]
      exact erase_inv hbut hgone

end Drops

/-! ## Pins of readers -/

section Pins

theorem pinned_inv (h : Inv d s) {e e' : StoreEntry τ}
    (he : s.objectStore.entries.get? o = some e) (hst : st.Inv d)
    (hset : st = s.objectStore.setEntry o e') (hdata : e'.sealedData = e.sealedData)
    (hsame : e.isSealed = false → e' = e) : Inv d (s.setStore st) := by
  have hbut : InvBut o d (s.setStore st) := by
    refine (h.but o).setStore hst fun x hx => ?_
    rw [hset]
    exact Dict.get?_set_of_ne _ _ (Ne.symm hx)
  refine hbut.inv ?_
  have hentry : (s.setStore st).objectStore.entries.get? o = some e' := by
    simp only [setStore, hset, ObjectStore.setEntry, Dict.get?_set_self]
  have htracks := h.tracks o
  rw [hentry]
  rw [he] at htracks
  show Tracks (d o) o (s.pulls.get? o) (some e')
  generalize s.pulls.get? o = record at htracks
  cases htracks with
  | configured r size buffer checksum named state transfer buffer_eq length size_eq checksum_eq
      normalized created =>
      rw [hsame rfl]
      exact .configured r size buffer checksum named state transfer buffer_eq length size_eq
        checksum_eq normalized created
  | ready r _ data named state sealedData size_eq checksum_eq =>
    exact .ready r e' data named state (hdata.trans sealedData) size_eq checksum_eq
  | failed r _ named state unconfigured isSealed =>
    refine .failed r _ named state unconfigured fun x hx => ?_
    cases hx
    simpa [StoreEntry.isSealed, hdata] using isSealed e rfl

variable [DecidableEq τ]

theorem pin_inv (h : Inv d s) (token : τ) :
    Inv d (s.setStore (s.objectStore.step (.pin o token))) := by
  cases hpin : s.objectStore.pin o token with
  | error e =>
    simpa [ObjectStore.step, ObjectStore.call, ObjectStore.atomic, hpin, setStore] using h
  | ok pinned =>
    obtain ⟨e, he, hsealed, hset⟩ := ObjectStore.pin_ok hpin
    have hinv := pinned_inv h he (h.store.pin hpin) hset rfl fun hopen => by
      simp [hsealed] at hopen
    simpa [ObjectStore.step, ObjectStore.call, ObjectStore.atomic, hpin] using hinv

theorem unpin_inv (h : Inv d s) (token : τ) :
    Inv d (s.setStore (s.objectStore.step (.unpin o token))) := by
  cases hunpin : s.objectStore.unpin o token with
  | error e => simpa [ObjectStore.step, ObjectStore.call, hunpin, setStore] using h
  | ok result =>
    obtain ⟨existed, next⟩ := result
    obtain ⟨e, he, hset⟩ := ObjectStore.unpin_ok hunpin
    have hinv := pinned_inv h he (h.store.unpin hunpin) hset rfl fun hopen => by
      cases h.store.replicas o e he with
      | writing => rfl
      | sealed => simp [StoreEntry.isSealed] at hopen
    simpa [ObjectStore.step, ObjectStore.call, hunpin] using hinv

end Pins

end ObjectManager

end MiniRay
