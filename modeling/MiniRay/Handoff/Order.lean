import MiniRay.Handoff.Table

/-! Messages may come late, early or twice. A record only grows, its end is final, and what was
accepted once is accepted again. -/

namespace MiniRay

open Checked Run

/-! ## Records grow -/

namespace OutputHandoffSnapshot

/-- What is set stays; after an abort no Complete is added. -/
structure Follows (s s' : OutputHandoffSnapshot) : Prop where
  identity : s'.publicationId = s.publicationId
  manifest : ∀ m, s.manifest = some m → s'.manifest = some m
  complete : ∀ c, s.complete = some c → s'.complete = some c
  adoption : ∀ a, s.adoption = some a → s'.adoption = some a
  abortReason : ∀ r, s.abortReason = some r → s'.abortReason = some r
  aborted : s.phase = .aborted → s'.phase = .aborted ∧ s'.complete = s.complete

variable {s s' s'' : OutputHandoffSnapshot}

theorem Follows.refl (s : OutputHandoffSnapshot) : Follows s s :=
  ⟨rfl, fun _ h => h, fun _ h => h, fun _ h => h, fun _ h => h, fun h => ⟨h, rfl⟩⟩

theorem Follows.trans (h : Follows s s') (h' : Follows s' s'') : Follows s s'' := by
  refine ⟨h'.identity.trans h.identity, fun m hm => h'.manifest m (h.manifest m hm),
    fun c hc => h'.complete c (h.complete c hc), fun a ha => h'.adoption a (h.adoption a ha),
    fun r hr => h'.abortReason r (h.abortReason r hr), fun hphase => ?_⟩
  obtain ⟨hphase', hcomplete'⟩ := h.aborted hphase
  obtain ⟨hphase'', hcomplete''⟩ := h'.aborted hphase'
  exact ⟨hphase'', hcomplete''.trans hcomplete'⟩

theorem make_ok {publicationId manifest phase complete adoption abortReason}
    (h : make publicationId manifest phase complete adoption abortReason = .ok s) :
    s.publicationId = publicationId ∧ s.manifest = manifest ∧ s.phase = phase ∧
      s.complete = complete ∧ s.adoption = adoption ∧ s.abortReason = abortReason := by
  simp only [make, bind_eq_ok, pure_eq_ok] at h
  obtain ⟨_, _, _, _, _, _, _, _, _, _, _, _, _, _, rfl⟩ := h
  exact ⟨rfl, rfl, rfl, rfl, rfl, rfl⟩

theorem make_self (s : OutputHandoffSnapshot) :
    make s.publicationId s.manifest s.phase s.complete s.adoption s.abortReason = .ok s := by
  unfold make
  rw [certify_ok s.exact_manifest, certify_ok s.unregistered, certify_ok s.complete_manifest,
    certify_ok s.adoption_complete, certify_ok s.adopted, certify_ok s.reason, certify_ok s.live]
  rfl

theorem adopted_of_adoption {a : OutputPublicationAdoptionProof} (h : s.adoption = some a) :
    s.phase = .adopted := s.adopted.mpr (by simp [h])

theorem no_adoption (h : s.phase ≠ .adopted) : s.adoption = none := by
  by_contra hne
  exact h (s.adopted.mpr hne)

end OutputHandoffSnapshot

open OutputHandoffSnapshot

namespace OutputHandoffTable

variable {t t' : OutputHandoffTable}

/-! ## What an accepted call does -/

def Call.identity : Call → OutputPublicationID
  | .register manifest _ => manifest.publicationId
  | .recordComplete witness => witness.publicationId
  | .adopt proof => proof.complete.publicationId
  | .abortManifest manifest _ => manifest.publicationId
  | .abort identity _ => identity

/-- What the record of an identity tells about a call once it was accepted. -/
def Call.Answered (s : OutputHandoffSnapshot) : Call → Prop
  | .register manifest attempt =>
    manifest.publicationId.attemptId = attempt ∧ s.manifest = some manifest
  | .recordComplete witness => s.complete = some witness
  | .adopt proof => s.adoption = some proof
  | .abortManifest manifest reason =>
    reason ≠ "" ∧ s.phase = .aborted ∧ s.manifest = some manifest
  | .abort _ reason =>
    reason ≠ "" ∧ (s.phase = .adopted ∨ s.phase = .aborted ∧ s.abortReason = some reason)

/-- An accepted call writes one record, which continues the old one and answers the call. -/
structure Accepted (t : OutputHandoffTable) (c : Call) (t' : OutputHandoffTable)
    (s : OutputHandoffSnapshot) : Prop where
  record : t'.query c.identity = some s
  others : ∀ x, c.identity ≠ x → t'.query x = t.query x
  follows : ∀ previous, t.query c.identity = some previous → Follows previous s
  answered : c.Answered s
  created : t.query c.identity = none → s.publicationId = c.identity

variable {c : Call} {s : OutputHandoffSnapshot}

theorem new_accepted (hnew : t.query c.identity = none) (hidentity : s.publicationId = c.identity)
    (answered : c.Answered s) : Accepted t c (t.set c.identity s) s := by
  refine ⟨Dict.get?_set_self _ _ _, fun _ hne => Dict.get?_set_of_ne _ _ hne, ?_, answered,
    fun _ => hidentity⟩
  intro previous hprevious
  exact absurd (hnew.symm.trans hprevious) (by simp)

theorem changed_accepted {previous : OutputHandoffSnapshot} (h : t.query c.identity = some previous)
    (follows : Follows previous s) (answered : c.Answered s) :
    Accepted t c (t.set c.identity s) s := by
  refine ⟨Dict.get?_set_self _ _ _, fun _ hne => Dict.get?_set_of_ne _ _ hne, ?_, answered, ?_⟩
  · intro previous' hprevious
    rw [h, Option.some.injEq] at hprevious
    exact hprevious ▸ follows
  · intro hnone
    exact absurd (h.symm.trans hnone) (by simp)

theorem same_accepted (h : t.query c.identity = some s) (answered : c.Answered s) :
    Accepted t c t s := by
  refine ⟨h, fun _ _ => rfl, fun previous hprevious => ?_, answered, fun hnone => ?_⟩
  · rw [h, Option.some.injEq] at hprevious
    exact hprevious ▸ Follows.refl s
  · exact absurd (h.symm.trans hnone) (by simp)

variable {identity : OutputPublicationID}

theorem record_eq_ok : t.record identity = .ok s ↔ t.query identity = some s := by
  unfold record query
  split <;> simp [*]

theorem register_accepted {manifest : OutputPublicationManifest} {attempt : AttemptID}
    (h : t.register manifest attempt = .ok (s, t')) :
    Accepted t (.register manifest attempt) t' s ∧ s.phase ≠ .aborted := by
  simp only [register, bind_eq_ok, raiseIf_eq_ok, exists_const, not_or, not_not] at h
  obtain ⟨⟨_, hattempt⟩, h⟩ := h
  cases hprevious : t.records.get? manifest.publicationId with
  | none =>
    simp only [hprevious, bind_eq_ok, pure_eq_ok, Prod.mk.injEq] at h
    obtain ⟨snapshot, hmake, rfl, rfl⟩ := h
    obtain ⟨hidentity, hmanifest, hphase, _⟩ := make_ok hmake
    exact ⟨new_accepted (c := .register manifest attempt) hprevious hidentity
      ⟨hattempt, hmanifest⟩, by simp [hphase]⟩
  | some previous =>
    simp only [hprevious, bind_eq_ok, raiseIf_eq_ok, exists_const, pure_eq_ok, Prod.mk.injEq] at h
    obtain ⟨hmanifest, hphase, rfl, rfl⟩ := h
    have hregistered : previous.manifest ≠ none := mt previous.unregistered hphase
    have hsame : previous.manifest = some manifest := by tauto
    exact ⟨same_accepted hprevious ⟨hattempt, hsame⟩, hphase⟩

theorem recordComplete_accepted {witness : OutputPublicationCompleteWitness}
    (h : t.recordComplete witness = .ok (s, t')) : Accepted t (.recordComplete witness) t' s := by
  simp only [recordComplete, bind_eq_ok, raiseIf_eq_ok, record_eq_ok, exists_const] at h
  obtain ⟨previous, hprevious, _, h⟩ := h
  by_cases hcomplete : previous.complete = none
  · simp only [hcomplete, ne_eq, not_true_eq_false, if_false, bind_eq_ok, raiseIf_eq_ok,
      exists_const, pure_eq_ok, Prod.mk.injEq] at h
    obtain ⟨hphase, snapshot, hmake, rfl, rfl⟩ := h
    obtain ⟨hidentity, hm, _, hc, ha, hr⟩ := make_ok hmake
    refine changed_accepted (c := .recordComplete witness) hprevious ?_ hc
    exact ⟨hidentity, fun m h => hm.trans h, fun c h => by simp [hcomplete] at h,
      fun a h => ha.trans h, fun r h => hr.trans h, fun h => absurd h hphase⟩
  · simp only [ne_eq, hcomplete, not_false_eq_true, if_true, bind_eq_ok, raiseIf_eq_ok,
      exists_const, pure_eq_ok, Prod.mk.injEq, not_not] at h
    obtain ⟨hsame, rfl, rfl⟩ := h
    exact same_accepted (c := .recordComplete witness) hprevious hsame

theorem adopt_accepted {proof : OutputPublicationAdoptionProof} (h : t.adopt proof = .ok (s, t')) :
    Accepted t (.adopt proof) t' s := by
  simp only [adopt, bind_eq_ok, raiseIf_eq_ok, record_eq_ok, exists_const, not_or, not_not] at h
  obtain ⟨previous, hprevious, _, h⟩ := h
  by_cases hadoption : previous.adoption = none
  · simp only [hadoption, ne_eq, not_true_eq_false, if_false, bind_eq_ok, raiseIf_eq_ok,
      exists_const, pure_eq_ok, Prod.mk.injEq] at h
    obtain ⟨hphase, snapshot, hmake, rfl, rfl⟩ := h
    obtain ⟨hidentity, hm, _, hc, ha, hr⟩ := make_ok hmake
    refine changed_accepted (c := .adopt proof) hprevious ?_ ha
    exact ⟨hidentity, fun m h => hm.trans h, fun c h => hc.trans h,
      fun a h => by simp [hadoption] at h, fun r h => hr.trans h, fun h => absurd h hphase⟩
  · simp only [ne_eq, hadoption, not_false_eq_true, if_true, bind_eq_ok, raiseIf_eq_ok,
      exists_const, pure_eq_ok, Prod.mk.injEq, not_not] at h
    obtain ⟨hsame, rfl, rfl⟩ := h
    exact same_accepted (c := .adopt proof) hprevious hsame

theorem abortManifest_accepted {manifest : OutputPublicationManifest} {reason : String}
    (h : t.abortManifest manifest reason = .ok (s, t')) :
    Accepted t (.abortManifest manifest reason) t' s := by
  simp only [abortManifest, checkReason, bind_eq_ok, raiseIf_eq_ok, exists_const] at h
  obtain ⟨hreason, h⟩ := h
  cases hprevious : t.records.get? manifest.publicationId with
  | none =>
    simp only [hprevious, bind_eq_ok, pure_eq_ok, Prod.mk.injEq] at h
    obtain ⟨snapshot, hmake, rfl, rfl⟩ := h
    obtain ⟨hidentity, hm, hp, _⟩ := make_ok hmake
    exact new_accepted (c := .abortManifest manifest reason) hprevious hidentity
      ⟨hreason, hp, hm⟩
  | some previous =>
    simp only [hprevious, bind_eq_ok, raiseIf_eq_ok, exists_const, ite_eq_ok, pure_eq_ok,
      Prod.mk.injEq] at h
    obtain ⟨hmanifest, hphase, h⟩ := h
    have hadoption := previous.no_adoption hphase
    have hmanifest' : ∀ m, previous.manifest = some m → m = manifest := by
      intro m hm
      simp only [hm, not_and, not_not, Option.some.injEq] at hmanifest
      exact hmanifest (by simp)
    rcases h with ⟨haborted, snapshot, hmake, rfl, rfl⟩ | ⟨hlive, snapshot, hmake, rfl, rfl⟩
    · obtain ⟨hidentity, hm, hp, hc, ha, hr⟩ := make_ok hmake
      refine changed_accepted (c := .abortManifest manifest reason) hprevious ?_
        ⟨hreason, hp.trans haborted, hm⟩
      refine ⟨hidentity, ?_, fun c h => hc.trans h, fun a h => ha.trans h, fun r h => hr.trans h,
        fun _ => ⟨hp.trans haborted, hc⟩⟩
      intro m h
      rw [hm, hmanifest' m h]
    · obtain ⟨hidentity, hm, hp, hc, ha, _⟩ := make_ok hmake
      have hregistered : previous.manifest = some manifest := by
        cases h : previous.manifest with
        | none => exact absurd (previous.unregistered h) hlive
        | some m => rw [hmanifest' m h]
      refine changed_accepted (c := .abortManifest manifest reason) hprevious ?_
        ⟨hreason, hp, hm.trans hregistered⟩
      exact ⟨hidentity, fun m h => hm.trans h, fun c h => hc.trans h, fun a h => ha.trans h,
        fun r h => by simp [previous.live hlive] at h, fun h => absurd h hlive⟩

theorem abort_accepted {reason : String} {fenced : Bool}
    (h : t.abort identity reason = .ok (fenced, t')) :
    ∃ s, Accepted t (.abort identity reason) t' s := by
  simp only [abort, checkReason, bind_eq_ok, raiseIf_eq_ok, exists_const] at h
  obtain ⟨hreason, h⟩ := h
  cases hprevious : t.records.get? identity with
  | none =>
    simp only [hprevious, bind_eq_ok, pure_eq_ok, Prod.mk.injEq] at h
    obtain ⟨snapshot, hmake, _, rfl⟩ := h
    obtain ⟨hidentity, _, hp, _, _, hr⟩ := make_ok hmake
    exact ⟨snapshot, new_accepted (c := .abort identity reason) hprevious hidentity
      ⟨hreason, .inr ⟨hp, hr⟩⟩⟩
  | some previous =>
    simp only [hprevious] at h
    by_cases hadopted : previous.phase = .adopted
    · simp only [hadopted, if_true, pure_eq_ok, Prod.mk.injEq] at h
      obtain ⟨_, rfl⟩ := h
      exact ⟨previous, same_accepted (c := .abort identity reason) hprevious
        ⟨hreason, .inl hadopted⟩⟩
    · by_cases haborted : previous.phase = .aborted
      · simp only [haborted, reduceCtorEq, if_false, if_true, bind_eq_ok, raiseIf_eq_ok,
          exists_const, pure_eq_ok, Prod.mk.injEq, not_not] at h
        obtain ⟨hsame, _, rfl⟩ := h
        exact ⟨previous, same_accepted (c := .abort identity reason) hprevious
          ⟨hreason, .inr ⟨haborted, hsame⟩⟩⟩
      · simp only [hadopted, haborted, if_false, bind_eq_ok, pure_eq_ok, Prod.mk.injEq] at h
        obtain ⟨snapshot, hmake, _, rfl⟩ := h
        obtain ⟨hidentity, hm, hp, hc, ha, hr⟩ := make_ok hmake
        refine ⟨snapshot, changed_accepted (c := .abort identity reason) hprevious ?_
          ⟨hreason, .inr ⟨hp, hr⟩⟩⟩
        exact ⟨hidentity, fun m h => hm.trans h, fun c h => hc.trans h, fun a h => ha.trans h,
          fun r h => by simp [previous.live haborted] at h, fun h => absurd h haborted⟩

variable {reply : Reply}

theorem call_accepted (h : t.call c = .ok (reply, t')) : ∃ s, Accepted t c t' s := by
  cases c with
  | register manifest attempt =>
    simp only [call, map_eq_ok, Prod.mk.injEq] at h
    obtain ⟨⟨s, t''⟩, h, _, rfl⟩ := h
    exact ⟨s, (register_accepted h).1⟩
  | recordComplete witness =>
    simp only [call, map_eq_ok, Prod.mk.injEq] at h
    obtain ⟨⟨s, t''⟩, h, _, rfl⟩ := h
    exact ⟨s, recordComplete_accepted h⟩
  | adopt proof =>
    simp only [call, map_eq_ok, Prod.mk.injEq] at h
    obtain ⟨⟨s, t''⟩, h, _, rfl⟩ := h
    exact ⟨s, adopt_accepted h⟩
  | abortManifest manifest reason =>
    simp only [call, map_eq_ok, Prod.mk.injEq] at h
    obtain ⟨⟨s, t''⟩, h, _, rfl⟩ := h
    exact ⟨s, abortManifest_accepted h⟩
  | abort identity reason =>
    simp only [call, map_eq_ok, Prod.mk.injEq] at h
    obtain ⟨⟨fenced, t''⟩, h, _, rfl⟩ := h
    exact abort_accepted h

/-! ## Every step and every run -/

theorem step_cases (t : OutputHandoffTable) (c : Call) :
    t.step c = t ∨ ∃ s, Accepted t c (t.step c) s := by
  unfold step
  cases hcall : t.call c with
  | error e => exact .inl rfl
  | ok r =>
    obtain ⟨reply, t'⟩ := r
    exact .inr (call_accepted hcall)

variable {x : OutputPublicationID}

theorem step_follows (h : t.query x = some s) (c : Call) :
    ∃ s', (t.step c).query x = some s' ∧ Follows s s' := by
  rcases step_cases t c with hsame | ⟨s', hnext⟩
  · rw [hsame]
    exact ⟨s, h, .refl s⟩
  · by_cases hx : c.identity = x
    · subst hx
      exact ⟨s', hnext.record, hnext.follows s h⟩
    · exact ⟨s, (hnext.others x hx).trans h, .refl s⟩

theorem run_follows (h : t.query x = some s) (later : List Call) :
    ∃ s', (run step t later).query x = some s' ∧ Follows s s' := by
  induction later generalizing t s with
  | nil => exact ⟨s, h, .refl s⟩
  | cons c later ih =>
    obtain ⟨s₁, h₁, hfollows₁⟩ := step_follows h c
    obtain ⟨s₂, h₂, hfollows₂⟩ := ih h₁
    exact ⟨s₂, h₂, hfollows₁.trans hfollows₂⟩

/-- Records stand under their own identities. -/
def Keyed (t : OutputHandoffTable) : Prop := ∀ x s, t.query x = some s → s.publicationId = x

theorem keyed_step (h : Keyed t) (c : Call) : Keyed (t.step c) := by
  rcases step_cases t c with hsame | ⟨s', hnext⟩
  · rwa [hsame]
  · intro x s hx
    by_cases heq : c.identity = x
    · subst heq
      rw [hnext.record, Option.some.injEq] at hx
      subst hx
      cases hprevious : t.query c.identity with
      | none => exact hnext.created hprevious
      | some previous => exact (hnext.follows previous hprevious).identity.trans (h _ _ hprevious)
    · exact h x s ((hnext.others x heq).symm.trans hx)

theorem keyed_run (calls : List Call) : Keyed (run step empty calls) :=
  run_invariant (p := Keyed) (fun _ c h => keyed_step h c) (by simp [Keyed, query, empty]) calls

/-! ## Repetition -/

theorem Call.Answered.follows {s' : OutputHandoffSnapshot} (h : c.Answered s)
    (hfollows : Follows s s') : c.Answered s' := by
  cases c with
  | register manifest attempt => exact ⟨h.1, hfollows.manifest _ h.2⟩
  | recordComplete witness => exact hfollows.complete _ h
  | adopt proof => exact hfollows.adoption _ h
  | abortManifest manifest reason =>
    exact ⟨h.1, (hfollows.aborted h.2.1).1, hfollows.manifest _ h.2.2⟩
  | abort identity reason =>
    refine ⟨h.1, h.2.imp ?_ ?_⟩
    · intro hadopted
      obtain ⟨a, ha⟩ := Option.ne_none_iff_exists'.mp (s.adopted.mp hadopted)
      exact adopted_of_adoption (hfollows.adoption a ha)
    · exact fun haborted => ⟨(hfollows.aborted haborted.1).1, hfollows.abortReason _ haborted.2⟩

/-- A registration whose identity was aborted since. -/
def Call.Fenced (s : OutputHandoffSnapshot) : Call → Prop
  | .register _ _ => s.phase = .aborted
  | _ => False

theorem call_answered (h : t.query c.identity = some s) (answered : c.Answered s)
    (live : ¬ c.Fenced s) : ∃ reply, t.call c = .ok (reply, t) := by
  cases c with
  | register manifest attempt =>
    obtain ⟨hattempt, hmanifest⟩ := answered
    have hslots := (s.exact_manifest manifest hmanifest).2
    have hphase : s.phase ≠ .aborted := live
    have hget : t.records.get? manifest.publicationId = some s := h
    have hcall : t.register manifest attempt = .ok (s, t) := by
      simp [register, hget, hattempt, hslots, hmanifest, hphase]
    exact ⟨.snapshot s, map_eq_ok.mpr ⟨_, hcall, rfl⟩⟩
  | recordComplete witness =>
    have hcomplete : s.complete = some witness := answered
    obtain ⟨m, hm, _, hdigest⟩ := s.complete_manifest witness hcomplete
    have hrecord : t.record witness.publicationId = .ok s := record_eq_ok.mpr h
    have hcall : t.recordComplete witness = .ok (s, t) := by
      simp [recordComplete, hrecord, hcomplete, Option.mem_def.mp hm, hdigest]
    exact ⟨.snapshot s, map_eq_ok.mpr ⟨_, hcall, rfl⟩⟩
  | adopt proof =>
    have hadoption : s.adoption = some proof := answered
    obtain ⟨m, hm, hcomplete, howner⟩ := s.adoption_complete proof hadoption
    have hrecord : t.record proof.complete.publicationId = .ok s := record_eq_ok.mpr h
    have hcall : t.adopt proof = .ok (s, t) := by
      simp [adopt, hrecord, hadoption, hcomplete, Option.mem_def.mp hm, howner]
    exact ⟨.snapshot s, map_eq_ok.mpr ⟨_, hcall, rfl⟩⟩
  | abortManifest manifest reason =>
    obtain ⟨hreason, hphase, hmanifest⟩ := answered
    have hget : t.records.get? manifest.publicationId = some s := h
    have hmake := s.make_self
    rw [hmanifest, hphase] at hmake
    have hset : t.set manifest.publicationId s = t := by
      unfold set
      rw [Dict.set_get? hget]
    have hcall : t.abortManifest manifest reason = .ok (s, t) := by
      simp [abortManifest, checkReason, hreason, hget, hmanifest, hphase, hmake, hset]
    exact ⟨.snapshot s, map_eq_ok.mpr ⟨_, hcall, rfl⟩⟩
  | abort identity reason =>
    obtain ⟨hreason, hend⟩ := answered
    have hget : t.records.get? identity = some s := h
    have hcall : t.abort identity reason = .ok (false, t) := by
      rcases hend with hadopted | ⟨haborted, hsame⟩
      · simp [abort, checkReason, hreason, hget, hadopted]
      · simp [abort, checkReason, hreason, hget, haborted, hsame]
    exact ⟨.fenced false, map_eq_ok.mpr ⟨_, hcall, rfl⟩⟩

/-- An accepted call stays accepted, but for a registration of an aborted identity. -/
theorem call_repeated (h : t.call c = .ok (reply, t')) (later : List Call) :
    ∃ s, (run step t' later).query c.identity = some s ∧
      (c.Fenced s ∨ ∃ reply', (run step t' later).call c = .ok (reply', run step t' later)) := by
  obtain ⟨s, haccepted⟩ := call_accepted h
  obtain ⟨s', hs', hfollows⟩ := run_follows haccepted.record later
  refine ⟨s', hs', ?_⟩
  by_cases hfenced : c.Fenced s'
  · exact .inl hfenced
  · exact .inr (call_answered hs' (haccepted.answered.follows hfollows) hfenced)

/-! ## The fence -/

theorem register_aborted {manifest : OutputPublicationManifest}
    (h : t.query manifest.publicationId = some s) (haborted : s.phase = .aborted)
    (attempt : AttemptID) : ∃ e, t.register manifest attempt = .error e := by
  cases hcall : t.register manifest attempt with
  | error e => exact ⟨e, rfl⟩
  | ok r =>
    obtain ⟨s', t'⟩ := r
    obtain ⟨haccepted, hlive⟩ := register_accepted hcall
    have hfollows := haccepted.follows s h
    exact absurd (hfollows.aborted haborted).1 hlive

def Call.IsAbort : Call → Prop
  | .abortManifest _ _ => True
  | .abort _ _ => True
  | _ => False

theorem early_abort (habort : c.IsAbort) (hnew : t.query c.identity = none)
    (h : t.call c = .ok (reply, t')) : ∃ s, t'.query c.identity = some s ∧ s.phase = .aborted := by
  cases c with
  | abortManifest manifest reason =>
    obtain ⟨s, haccepted⟩ := call_accepted h
    exact ⟨s, haccepted.record, haccepted.answered.2.1⟩
  | abort identity reason =>
    have hget : t.records.get? identity = none := hnew
    simp only [call, abort, checkReason, hget, map_eq_ok, bind_eq_ok, raiseIf_eq_ok, exists_const,
      pure_eq_ok, Prod.mk.injEq] at h
    obtain ⟨r, ⟨_, snapshot, hmake, rfl⟩, _, rfl⟩ := h
    obtain ⟨_, _, hphase, _⟩ := make_ok hmake
    exact ⟨snapshot, Dict.get?_set_self _ _ _, hphase⟩
  | _ => exact absurd habort (by simp [Call.IsAbort])

theorem register_fenced (h : t.query x = some s) (haborted : s.phase = .aborted) (later : List Call)
    {manifest : OutputPublicationManifest} (hx : manifest.publicationId = x) (attempt : AttemptID) :
    ∃ e, (run step t later).register manifest attempt = .error e := by
  subst hx
  obtain ⟨s', hs', hfollows⟩ := run_follows h later
  exact register_aborted hs' (hfollows.aborted haborted).1 attempt

/-! ## The contract of the table -/

/-- What a table promises at any moment, and for every order of the messages to come. -/
structure HandoffSpec (t : OutputHandoffTable) : Prop where
  exclusive : ∀ x s, t.query x = some s → ¬ (s.phase = .aborted ∧ s.adoption ≠ none) ∧
    ¬ (s.phase = .adopted ∧ s.abortReason ≠ none)
  grows : ∀ x s, t.query x = some s → ∀ later,
    ∃ s', (run step t later).query x = some s' ∧ Follows s s'
  fenced : ∀ c reply t', c.IsAbort → t.query c.identity = none → t.call c = .ok (reply, t') →
    ∀ later manifest attempt, manifest.publicationId = c.identity →
      ∃ e, (run step t' later).register manifest attempt = .error e
  adopts : ∀ x s proof, t.query x = some s → s.adoption = some proof → ∃ m,
    s.manifest = some m ∧ m.publicationId = x ∧ s.complete = some proof.complete ∧
      proof.complete.publicationId = x ∧ proof.complete.manifestDigest = m.manifestDigest ∧
      proof.ownerWorkerId = m.header.ownerWorkerId
  repeats : ∀ c reply t', t.call c = .ok (reply, t') → ∀ later,
    ∃ s, (run step t' later).query c.identity = some s ∧
      (c.Fenced s ∨ ∃ reply', (run step t' later).call c = .ok (reply', run step t' later))
  raises : ∀ c e, t.call c = .error e → t.step c = t

namespace Sample

/-- The record of a new registration. -/
def registered (m : OutputPublicationManifest) : OutputHandoffSnapshot where
  publicationId := m.publicationId
  manifest := some m
  phase := .pending
  complete := none
  adoption := none
  abortReason := none
  exact_manifest := fun m' h => by
    rw [← Option.some.inj h, m.slots_eq]
    exact ⟨rfl, rfl⟩
  unregistered := nofun
  complete_manifest := nofun
  adoption_complete := nofun
  adopted := by simp
  reason := nofun
  live := fun _ => rfl

theorem register_empty (m : OutputPublicationManifest) :
    empty.register m m.publicationId.attemptId =
      .ok (registered m, empty.set m.publicationId (registered m)) := by
  have hmake : make m.publicationId (some m) .pending none none none = .ok (registered m) :=
    (registered m).make_self
  have hget : empty.records.get? m.publicationId = none := rfl
  simp [register, hget, m.slots_eq, hmake]

def aborted (m : OutputPublicationManifest) : OutputHandoffSnapshot :=
  { registered m with
    phase := .aborted
    abortReason := some "cancelled"
    unregistered := nofun
    adopted := by simp [registered]
    reason := fun _ => ⟨_, rfl, by decide⟩
    live := fun hne => absurd rfl hne }

theorem abort_registered {m : OutputPublicationManifest}
    (h : t.query m.publicationId = some (registered m)) :
    (t.step (.abort m.publicationId "cancelled")).query m.publicationId = some (aborted m) := by
  have hget : t.records.get? m.publicationId = some (registered m) := h
  have hpending : (registered m).phase = .pending := rfl
  have hmake : make (registered m).publicationId (registered m).manifest .aborted
      (registered m).complete (registered m).adoption (some "cancelled") = .ok (aborted m) :=
    (aborted m).make_self
  have hcall : t.abort m.publicationId "cancelled" =
      .ok (true, t.set m.publicationId (aborted m)) := by
    simp [abort, checkReason, hget, hpending, hmake]
  rw [step, call, hcall]
  exact Dict.get?_set_self _ _ _

def slot : OutputSlotManifest where
  objectId := ⟨⟨1⟩, 0⟩
  tier := .inline
  sizeBytes := 2
  checksum := Sha256.hexdigest []
  transfers := []
  size_uint := by decide
  checksum_hex := emptyChecksum_hex
  framable := by simp
  own_transfers := by simp
  hold_keys := by simp

def manifest : OutputPublicationManifest := .create .sample [slot] <| by
  refine ⟨rfl, by simp [slot], by simp [slot, Functional]⟩

end Sample

end OutputHandoffTable

end MiniRay
