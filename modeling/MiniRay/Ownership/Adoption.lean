import MiniRay.Ownership.Tombstones

/-! A publication that was applied holds its output's slot until the slot is retired, discarded or
collected, and nothing is applied for that attempt again. -/

namespace MiniRay

open Checked Run

structure ResultFields.HoldsSlot {ε : Type} (r : ResultFields ε) (p : OutputPublicationID) :
    Prop where
  member : ∃ m, r.outputPublication = some m ∧ m.publicationId = p
  attempt : r.currentAttempt = some p.attemptId
  settled : r.state ≠ .pending

theorem ResultFields.HoldsSlot.move {ε : Type} {r r' : ResultFields ε} {p : OutputPublicationID}
    {c : CallerConditions} {h h' : PublicationHistory} (hr : r.HoldsSlot p)
    (hm : ResultMove c h h' p.output r r') :
    r'.HoldsSlot p ∨ (p.output, p.attemptId) ∈ h'.retiredOutputAttempts := by
  obtain ⟨⟨m, hmember, hid⟩, hattempt, hsettled⟩ := hr
  have hsome : r.outputPublication ≠ none := by simp [hmember]
  have hheld : r.outputPublication = some m ∧ m.publicationId = p := ⟨hmember, hid⟩
  cases hm with
  | same => exact .inl ⟨⟨m, hheld⟩, hattempt, hsettled⟩
  | advanced next free => exact absurd free hsome
  | publishedInline => exact .inl ⟨⟨m, hheld⟩, hattempt, nofun⟩
  | republishedInline => exact .inl ⟨⟨m, hheld⟩, hattempt, hsettled⟩
  | publishedStored => exact .inl ⟨⟨m, hheld⟩, hattempt, nofun⟩
  | replicated => exact .inl ⟨⟨m, hheld⟩, hattempt, hsettled⟩
  | republishedStored => exact .inl ⟨⟨m, hheld⟩, hattempt, hsettled⟩
  | forgotReplica node =>
    refine .inl ⟨⟨m, hheld⟩, hattempt, ?_⟩
    simp only
    split
    · exact nofun
    · exact hsettled
  | lost => exact .inl ⟨⟨m, hheld⟩, hattempt, nofun⟩
  | failed => exact .inl ⟨⟨m, hheld⟩, hattempt, nofun⟩
  | assigned _ trust settled attempt spec publication =>
    exact .inl ⟨⟨m, by rw [publication]; exact hheld⟩, attempt.trans hattempt, settled⟩
  | adopted envelope output attempt pristine free => exact absurd free hsome
  | keptInline manifest data output attempt member =>
    have hsame : r.outputPublication = some (.ofManifest manifest) :=
      member.resolve_left hsome
    exact .inl ⟨⟨m, by rw [← hsame]; exact hheld⟩, hattempt, nofun⟩
  | keptStored manifest unavailable =>
    refine .inl ⟨⟨m, hheld⟩, hattempt, ?_⟩
    simp only
    split <;> rintro ⟨⟩
  | discarded a completed attempt named retired pristine =>
    cases completed with
    | false => exact absurd (pristine rfl).2 hsome
    | true =>
      cases hattempt.symm.trans attempt
      exact .inr (retired rfl)
  | retiring => exact .inl ⟨⟨m, hheld⟩, hattempt, hsettled⟩
  | retired a state attempt named retired =>
    cases hattempt.symm.trans attempt
    exact .inr retired
  | edged edges free => exact absurd free hsome

namespace ObjectOwnerTable

variable {ε : Type} {s s' : ObjectOwnerTable ε} {p : OutputPublicationID}
  {plan : OutputOwnerPublicationPlan}

def Adopted (s : ObjectOwnerTable ε) (p : OutputPublicationID) : Prop :=
  ∃ e, s.entries.get? p.output = some e ∧ e.HoldsSlot p

/-- The attempt's output was retired or discarded, or the object collected. -/
def Closed (s : ObjectOwnerTable ε) (p : OutputPublicationID) : Prop :=
  (p.output, p.attemptId) ∈ s.retiredOutputAttempts ∨ s.IsCollected p.output

variable {receipt : OutputOwnerPublicationReceipt}

theorem Closed.fenced (h : s.Closed p) (hoid : plan.output = p.output)
    (hattempt : plan.execution.attemptId = p.attemptId)
    (hcommit : s.commitOutputPublication plan = .ok (receipt, s')) :
    receipt.disposition = .fenced ∧ s' = s := by
  simp only [commitOutputPublication, validateOutputPublication, bind_eq_ok] at hcommit
  obtain ⟨disposition, ⟨_, _, hv⟩, hcommit⟩ := hcommit
  rw [if_pos (by
    rcases h with h | h
    · exact .inr (.inr (.inl (by rw [hoid, hattempt]; exact h)))
    · exact .inl (by rw [hoid]; exact h)), pure_eq_ok] at hv
  subst hv
  simp only [ne_eq, reduceCtorEq, not_false_eq_true, if_true, pure_eq_ok, Prod.mk.injEq] at hcommit
  exact ⟨by rw [← hcommit.1], hcommit.2.symm⟩

/-- An applied commit needs a free slot of an attempt that is not closed. -/
theorem not_applied (h : s.Adopted p ∨ s.Closed p) (hoid : plan.output = p.output)
    (hattempt : plan.execution.attemptId = p.attemptId)
    (hcommit : s.commitOutputPublication plan = .ok (receipt, s')) :
    receipt.disposition ≠ .applied := by
  rcases h with ⟨e, he, ⟨m, hm, _⟩, _, _⟩ | hclosed
  · rcases commitOutputPublication_cases hcommit with ⟨hn, _⟩ | ⟨_, e', _, happ, _⟩
    · exact hn
    · have he' := happ.entry
      rw [hoid] at he'
      cases he.symm.trans he'
      cases hm.symm.trans happ.free
  · rw [(hclosed.fenced hoid hattempt hcommit).1]
    nofun

theorem adopted_of_applied (hcommit : s.commitOutputPublication plan = .ok (receipt, s'))
    (happlied : receipt.disposition = .applied) : s'.Adopted plan.publicationId := by
  rcases commitOutputPublication_cases hcommit with ⟨hn, _⟩ | ⟨_, e, hid, happ, rfl⟩
  · exact absurd happlied hn
  · refine ⟨adopt plan e hid, ?_, ⟨_, rfl, rfl⟩, ?_, ?_⟩
    · simp [get?_setEntry, adopt, hid, OutputOwnerPublicationPlan.output]
    · rw [← plan.attempt_eq]
      exact happ.attempt
    · simp only [adopt]
      split <;> rintro ⟨⟩

variable [BEq ε]

variable {op : Op ε}

theorem adopted_step (h : s.Adopted p ∨ s.Closed p) :
    (s.step op).Adopted p ∨ (s.step op).Closed p := by
  have hspec := (s.step_spec op).results
  rcases h with ⟨e, he, hslot⟩ | hretired | hcollected
  · have hmove := hspec.slots p.output
    rw [he] at hmove
    generalize he' : (s.step op).entries.get? p.output = after at hmove
    cases hmove with
    | moved _ e' collection frozen move =>
      rcases hslot.move move with h | h
      · exact .inl ⟨e', he', h⟩
      · exact .inr (.inl h)
    | frozen _ e' plan idle result => exact .inl ⟨e', he', result ▸ hslot⟩
    | forgotten _ idle free =>
      obtain ⟨⟨m, hm, _⟩, _, hsettled⟩ := hslot
      rcases free with hn | hp
      · cases hm.symm.trans hn
      · exact absurd hp hsettled
    | completed _ collected => exact .inr (.inr collected)
  · exact .inr (.inl (hspec.retired_mono hretired))
  · exact .inr (.inr (hspec.collected_mono _ hcollected))

theorem adopted_run (ops : List (Op ε)) (h : s.Adopted p ∨ s.Closed p) :
    (run step s ops).Adopted p ∨ (run step s ops).Closed p :=
  run_invariant (p := fun s : ObjectOwnerTable ε => s.Adopted p ∨ s.Closed p)
    (fun _ _ h => adopted_step h) h ops

theorem closed_run (ops : List (Op ε)) (h : s.Closed p) : (run step s ops).Closed p :=
  run_invariant (p := fun s : ObjectOwnerTable ε => s.Closed p)
    (fun s op h => h.imp (fun hr => (s.step_spec op).results.retired_mono hr)
      ((s.step_spec op).results.collected_mono _)) h ops

def Applies (s : ObjectOwnerTable ε) (op : Op ε) (p : OutputPublicationID) : Prop :=
  ∃ plan, op = .commitOutputPublication plan ∧ plan.publicationId = p ∧
    ∃ receipt s', s.commitOutputPublication plan = .ok (receipt, s') ∧
      receipt.disposition = .applied

theorem Applies.adopted (h : s.Applies op p) : (s.step op).Adopted p := by
  obtain ⟨plan, rfl, rfl, receipt, s', hcommit, happlied⟩ := h
  rw [step, hcommit]
  exact adopted_of_applied hcommit happlied

/-- The call retires, discards or collects the slot of the publication. -/
def EndsSlot (s : ObjectOwnerTable ε) (op : Op ε) (p : OutputPublicationID) : Prop :=
  match op with
  | .completeOutputPublicationRetirement plan edges replicas =>
    plan.member.publicationId = p ∧ ∃ receipt s',
      s.completeOutputPublicationRetirement plan edges replicas = .ok (receipt, s') ∧
      receipt.disposition = .applied
  | .resolveOutputNodeLoss manifest resolution envelope nodes =>
    manifest.publicationId = p ∧ resolution.keep = false ∧
      ∃ s', s.resolveOutputNodeLoss manifest resolution envelope nodes = .ok (true, s')
  | .completeOutputPublicationCollection plan =>
    plan.objectId = p.output ∧ s.outputCollectionReceipts.get? plan.objectId = none ∧
      ∃ r, s.completeOutputPublicationCollection plan = .ok r
  | .completeCollection plan => plan.objectId = p.output ∧ ∃ r, s.completeCollection plan = .ok r
  | _ => False

omit [BEq ε] in
theorem Completed.not_adopted {plan : ObjectMetadataCollectionPlan} {e : ObjectOwnerEntry ε}
    {collection : ObjectMetadataCollection} (h : Completed s s' plan e collection)
    (ho : plan.objectId = p.output) : ¬ s'.Adopted p := by
  rintro ⟨e', he', _⟩
  simp [h.entries, get?_eraseEntry, ho] at he'

theorem EndsSlot.not_adopted (h : s.EndsSlot op p) : ¬ (s.step op).Adopted p := by
  cases op with
  | completeOutputPublicationRetirement plan edges replicas =>
    obtain ⟨rfl, receipt, s', hcall, happlied⟩ := h
    rw [step, hcall]
    rcases completeOutputPublicationRetirement_cases hcall with ⟨halready, _⟩ |
      ⟨_, e, he, _, _, _, _, rfl⟩
    · simp [halready] at happlied
    · rintro ⟨e', he', ⟨m, hm, _⟩, _⟩
      rw [← plan.member.objectId_eq] at he'
      simp only [commit, get?_setEntry, retireOutput, s.keyed _ e he, if_true,
        Option.some.injEq] at he'
      simp [← he'] at hm
  | resolveOutputNodeLoss manifest resolution envelope nodes =>
    obtain ⟨rfl, hkeep, s', hcall⟩ := h
    rw [step, hcall]
    rcases resolveOutputNodeLoss_cases hcall with ⟨hreplay, _⟩ |
      ⟨_, e, _, he, _, hentries, _, _, ⟨hk, _⟩ | ⟨_, rfl, _⟩⟩
    · cases hreplay
    · simp [hkeep] at hk
    · rintro ⟨e', he', ⟨m, hm, _⟩, _⟩
      rw [commit, hentries, get?_setEntry, discardOutput, ← manifest.slot_objectId, if_pos he,
        Option.some.injEq] at he'
      simp [← he'] at hm
  | completeOutputPublicationCollection plan =>
    obtain ⟨ho, hfirst, ⟨r, s'⟩, hcall⟩ := h
    rw [step, hcall]
    rcases completeOutputPublicationCollection_cases hcall with ⟨hn, _⟩ | ⟨e, collection, hc⟩
    · exact absurd hfirst hn
    · exact hc.not_adopted (plan.matches_slot.1.trans ho)
  | completeCollection plan =>
    obtain ⟨ho, ⟨collection, s'⟩, hcall⟩ := h
    rw [step, hcall]
    obtain ⟨e, hc⟩ := completeCollection_cases hcall
    exact hc.not_adopted ho
  | _ => exact h.elim

/-- In every run at most one publication is applied for an output and attempt, and only
once. When a call has ended its slot, or the publication has lost it in any other way, every
later commit for that output and attempt is fenced or raises, and changes nothing. -/
theorem adopted_once (ops : List (Op ε)) :
    (∀ as op bs op' cs p p', ops = as ++ op :: bs ++ op' :: cs →
      (run step .empty as).Applies op p → (run step .empty (as ++ op :: bs)).Applies op' p' →
        ¬ (p'.output = p.output ∧ p'.attemptId = p.attemptId)) ∧
    (∀ as op bs p, ops = as ++ op :: bs → (run step .empty as).Applies op p →
      ¬ (run step .empty (as ++ op :: bs)).Adopted p → ∀ cs plan, plan.output = p.output →
        plan.execution.attemptId = p.attemptId → ∀ receipt s',
          (run step .empty (as ++ op :: bs ++ cs)).commitOutputPublication plan =
            .ok (receipt, s') → receipt.disposition = .fenced ∧
              s' = run step .empty (as ++ op :: bs ++ cs)) ∧
    (∀ as op bs p, ops = as ++ op :: bs → (run step .empty as).EndsSlot op p →
      ¬ (run step .empty (as ++ [op])).Adopted p) := by
  have hlater : ∀ as op bs p, (run step (.empty : ObjectOwnerTable ε) as).Applies op p →
      (run step .empty (as ++ op :: bs)).Adopted p ∨
        (run step .empty (as ++ op :: bs)).Closed p := by
    intro as op bs p h
    rw [run_append, run_cons]
    exact adopted_run bs (.inl h.adopted)
  refine ⟨?_, ?_, ?_⟩
  · rintro as op bs op' cs p p' rfl h ⟨plan, rfl, rfl, receipt, s', hcommit, happlied⟩ ⟨ho, ha⟩
    exact not_applied (hlater as op bs p h) ho (plan.attempt_eq.trans ha) hcommit happlied
  · rintro as op bs p rfl h hgone cs plan ho ha receipt s' hcommit
    have hclosed := closed_run cs ((hlater as op bs p h).resolve_left hgone)
    rw [← run_append] at hclosed
    exact hclosed.fenced ho ha hcommit
  · rintro as op bs p rfl h
    rw [run_concat]
    exact h.not_adopted

end ObjectOwnerTable

end MiniRay
