import MiniRay.Journal.Transitions

/-! Once a rollback is planned the record only collects the acknowledgements of its plan, in the
order of the plan, and nothing is left when the last one arrives. -/

namespace MiniRay

open Checked Run

namespace JournalRecord

variable {r r' : JournalRecord} {plan : OutputPublicationRollbackPlan}

/-! ## Finishing -/

theorem subscript_eq_ok {κ ν : Type} [DecidableEq κ] {d : Dict κ ν} {k : κ} {v : ν} :
    subscript d k = .ok v ↔ d.get? k = some v := by
  unfold subscript
  split <;> simp [*]

theorem nextRollback_eq_none :
    r.nextRollback plan = none ↔ ∀ e ∈ plan.effects, r.acknowledgements.get? e ≠ none := by
  simp [nextRollback, List.find?_eq_none, Option.isNone_iff_eq_none]

/-- The effects of a plan in order: some were acknowledged, the others were not. -/
def InOrder (r : JournalRecord) (plan : OutputPublicationRollbackPlan) : Prop :=
  ∃ done rest, plan.effects = done ++ rest ∧ (∀ e ∈ done, r.acknowledgements.get? e ≠ none) ∧
    ∀ e ∈ rest, r.acknowledgements.get? e = none

inductive Finishes (r : JournalRecord) (plan : OutputPublicationRollbackPlan) :
    JournalRecord → Prop
  | waits (pending : r.nextRollback plan ≠ none) : Finishes r plan r
  | ends (settled : r.nextRollback plan = none) (t : OutputPublicationRollbackTombstone) :
      Finishes r plan { r with rollbackTombstone := some t, state := .retired }

theorem finishes_of_ok (h : r.finishRollbackIfReady plan = .ok r') : Finishes r plan r' := by
  unfold finishRollbackIfReady at h
  split at h
  · next hnext =>
    cases h
    exact .waits (Option.isSome_iff_ne_none.mp hnext)
  · next hnext =>
    simp only [bind_eq_ok, pure_eq_ok] at h
    obtain ⟨_, _, acks, _, ⟨hordered⟩, _, rfl⟩ := h
    exact .ends (by simpa using hnext) _

/-- Every acknowledgement is filed under its effect. -/
def Keyed (r : JournalRecord) : Prop :=
  ∀ e a, r.acknowledgements.get? e = some a → a.effect = e

/-- Every retained result was intended, and its slot is not dropped yet. -/
def Held (r : JournalRecord) : Prop :=
  ∀ s d, r.results.get? s = some d → r.effect (.materialize s) ∈ r.intents ∧
    r.acknowledgements.get? (r.effect (.slotDrop s)) = none

/-- The plan drops every slot that may hold a result. -/
def Drops (r : JournalRecord) (plan : OutputPublicationRollbackPlan) : Prop :=
  ∀ s, r.effect (.materialize s) ∈ r.intents → r.effect (.slotDrop s) ∈ plan.effects

theorem finishRollbackIfReady_ok (hkeyed : Keyed r) (hheld : Held r) (hdrops : Drops r plan) :
    ∃ r', r.finishRollbackIfReady plan = .ok r' := by
  unfold finishRollbackIfReady
  split
  · exact ⟨r, rfl⟩
  · next hnext =>
    have hall := nextRollback_eq_none.mp (by simpa using hnext)
    have hresults : r.results.items = [] := by
      rw [Dict.items_eq_nil_iff]
      intro s
      by_contra hs
      obtain ⟨d, hd⟩ := Option.ne_none_iff_exists'.mp hs
      obtain ⟨hintended, hdropped⟩ := hheld s d hd
      exact hall _ (hdrops s hintended) hdropped
    have hacks : List.Forall₂ (fun e a => subscript r.acknowledgements e = .ok a) plan.effects
        (plan.effects.filterMap r.acknowledgements.get?) := by
      generalize plan.effects = effects at hall
      induction effects with
      | nil => exact .nil
      | cons e es ih =>
        obtain ⟨a, ha⟩ := Option.ne_none_iff_exists'.mp (hall e (by simp))
        rw [List.filterMap_cons_some ha]
        exact .cons (subscript_eq_ok.mpr ha) (ih fun e he => hall e (by simp [he]))
    have hordered : (plan.effects.filterMap r.acknowledgements.get?).map
        OutputPublicationAck.effect = plan.effects := by
      generalize plan.effects.filterMap r.acknowledgements.get? = acks at hacks
      generalize plan.effects = effects at hacks
      induction hacks with
      | nil => rfl
      | cons ha _ ih => rw [List.map_cons, ih, hkeyed _ _ (subscript_eq_ok.mp ha)]
    refine bind_ok_of (raiseIf_ok (not_not.mpr hresults)) (bind_ok_of (mapM_eq_ok.mpr hacks) ?_)
    rw [certify, dif_pos hordered]
    exact ⟨_, rfl⟩

/-! ## The invariant -/

/-- What holds of a record also while a rollback call is about to finish. -/
structure Steady (r : JournalRecord) : Prop where
  addressed : ∀ e ∈ r.intents, ∃ key, e = r.effect key ∧ key.isForward = true ∧
    r.checkKey key = .ok ()
  keyed : Keyed r
  acked : ∀ e, r.acknowledgements.get? e ≠ none → e ∈ r.intents ∨
    ∃ plan, r.rollback = some plan ∧ e ∈ plan.effects
  held : Held r
  frozen : ∀ plan, r.rollback = some plan → plan.effects = r.rollbackEffects ∧
    r.state ≠ .active ∧ r.complete = none
  closed : r.complete ≠ none → r.state ≠ .active
  inOrder : ∀ plan, r.rollback = some plan → r.InOrder plan

/-- What holds of every record of a journal. -/
structure Sound (r : JournalRecord) : Prop extends Steady r where
  terminal : r.rollbackTombstone ≠ none ↔ ∃ plan, r.rollback = some plan ∧
    r.nextRollback plan = none

theorem sound_opened (manifest : OutputPublicationManifest) : Sound (opened manifest) := by
  refine ⟨⟨?_, ?_, ?_, ?_, ?_, ?_, ?_⟩, ?_⟩ <;> simp [opened, Keyed, Held]

/-- The records agree on intents, acknowledgements and decisions; results may be forgotten. -/
structure Agrees (r r' : JournalRecord) : Prop where
  manifest : r'.manifest = r.manifest
  intents : r'.intents = r.intents
  acks : r'.acknowledgements = r.acknowledgements
  rollback : r'.rollback = r.rollback
  complete : r'.complete = r.complete
  results : ∀ s d, r'.results.get? s = some d → r.results.get? s = some d
  state : r'.state = .active → r.state = .active

theorem Agrees.effect (h : Agrees r r') : r'.effect = r.effect := by
  funext key
  rw [JournalRecord.effect, JournalRecord.effect, h.manifest]

theorem Agrees.rollbackEffects (h : Agrees r r') : r'.rollbackEffects = r.rollbackEffects := by
  have hundone : r'.undone = r.undone := by
    funext key
    rw [undone, undone, intended, intended, h.effect, h.intents]
  rw [JournalRecord.rollbackEffects, JournalRecord.rollbackEffects, h.manifest, hundone]

theorem Agrees.nextRollback (h : Agrees r r') : r'.nextRollback = r.nextRollback := by
  funext plan
  rw [JournalRecord.nextRollback, JournalRecord.nextRollback, h.acks]

theorem Steady.agrees (hr : Steady r) (h : Agrees r r') : Steady r' := by
  constructor
  · intro e he
    obtain ⟨key, heq, hforward, hknown⟩ := hr.addressed e (h.intents ▸ he)
    refine ⟨key, by rw [h.effect, heq], hforward, ?_⟩
    rw [checkKey, h.manifest]
    exact hknown
  · intro e a ha
    exact hr.keyed e a (h.acks ▸ ha)
  · intro e he
    rw [h.intents, h.rollback]
    exact hr.acked e (h.acks ▸ he)
  · intro s d hd
    rw [h.effect, h.intents, h.acks]
    exact hr.held s d (h.results s d hd)
  · intro plan hplan
    obtain ⟨hplanned, hactive, hincomplete⟩ := hr.frozen plan (h.rollback ▸ hplan)
    exact ⟨hplanned.trans h.rollbackEffects.symm, fun ha => hactive (h.state ha),
      h.complete.trans hincomplete⟩
  · intro hc ha
    exact hr.closed (h.complete ▸ hc) (h.state ha)
  · intro plan hplan
    rw [InOrder, h.acks]
    exact hr.inOrder plan (h.rollback ▸ hplan)

theorem Sound.agrees (hr : Sound r) (h : Agrees r r')
    (htombstone : r'.rollbackTombstone = r.rollbackTombstone) : Sound r' := by
  refine ⟨hr.toSteady.agrees h, ?_⟩
  rw [htombstone, h.rollback, h.nextRollback]
  exact hr.terminal

/-! ## Steady records -/

theorem keepPayload_results {key : OperationKey} {given payload : AckPayload}
    (hvalid : r.validatePayload key given = .ok payload) {s : Nat} {d : ResultDescriptor}
    (hd : (r.keepPayload (r.effect key) payload).results.get? s = some d) :
    key = .materialize s ∨ r.results.get? s = some d := by
  cases payload with
  | none => exact .inr hd
  | childReply reply => exact .inr hd
  | descriptor descriptor =>
    cases key with
    | materialize s' =>
      by_cases hs : s' = s
      · exact .inl (hs ▸ rfl)
      · exact .inr (by rwa [← Dict.get?_set_of_ne _ descriptor hs])
    | _ => exact .inr hd

theorem keepPayload_frame (e : OutputPublicationEffect) (payload : AckPayload) :
    (r.keepPayload e payload).manifest = r.manifest ∧
      (r.keepPayload e payload).intents = r.intents ∧
      (r.keepPayload e payload).rollback = r.rollback ∧
      (r.keepPayload e payload).complete = r.complete ∧
      (r.keepPayload e payload).state = r.state ∧
      (r.keepPayload e payload).rollbackTombstone = r.rollbackTombstone := by
  cases payload with
  | descriptor descriptor =>
    simp only [keepPayload]
    cases e.key <;> exact ⟨rfl, rfl, rfl, rfl, rfl, rfl⟩
  | _ => exact ⟨rfl, rfl, rfl, rfl, rfl, rfl⟩

namespace Steady

theorem rollback_none (h : Steady r) (hactive : r.state = .active) : r.rollback = none := by
  by_contra hrollback
  obtain ⟨plan, hplan⟩ := Option.ne_none_iff_exists'.mp hrollback
  exact (h.frozen plan hplan).2.1 hactive

theorem complete_none (h : Steady r) (hactive : r.state = .active) : r.complete = none := by
  by_contra hcomplete
  exact h.closed hcomplete hactive

variable {key : OperationKey}

theorem cleanup_none (h : Steady r) (hrollback : r.rollback = none) (hkey : key.isForward = false) :
    r.acknowledgements.get? (r.effect key) = none := by
  by_contra hacked
  rcases h.acked _ hacked with hintended | ⟨plan, hplan, _⟩
  · obtain ⟨key', heq, hforward, _⟩ := h.addressed _ hintended
    rw [r.manifest.effect_injective heq, hforward] at hkey
    cases hkey
  · simp [hrollback] at hplan

variable {e : OutputPublicationEffect}

section

variable (h : Steady r) (hplan : r.rollback = some plan)
include h hplan

theorem mem_plan :
    e ∈ plan.effects ↔ ∃ key k, key.inverse = some k ∧ r.effect key ∈ r.intents ∧
      e = r.effect k := by
  rw [(h.frozen plan hplan).1, mem_rollbackEffects]
  constructor
  · rintro ⟨key, _, hintended, k, hk, rfl⟩
    exact ⟨key, k, hk, by simpa [intended] using hintended, rfl⟩
  · rintro ⟨key, k, hk, hintended, rfl⟩
    obtain ⟨key', heq, _, hknown⟩ := h.addressed _ hintended
    cases r.manifest.effect_injective heq
    exact ⟨key, mem_undoOrder_of_checkKey hknown hk, by simpa [intended] using hintended, k, hk,
      rfl⟩

theorem drops : Drops r plan := by
  intro s hs
  exact (h.mem_plan hplan).mpr ⟨.materialize s, .slotDrop s, rfl, hs, rfl⟩

theorem finish_ok :
    ∃ r', r.finishRollbackIfReady plan = .ok r' :=
  finishRollbackIfReady_ok h.keyed h.held (h.drops hplan)

/-- A record whose rollback was pending is sound after the finish was tried. -/
theorem finishes (hpending : r.rollbackTombstone = none)
    (hfinishes : Finishes r plan r') : Sound r' := by
  cases hfinishes with
  | waits pending =>
    refine ⟨h, fun ht => absurd hpending ht, ?_⟩
    rintro ⟨plan', hplan', hsettled⟩
    cases hplan.symm.trans hplan'
    exact absurd hsettled pending
  | ends settled t =>
    have hagrees : Agrees r { r with rollbackTombstone := some t, state := .retired } :=
      ⟨rfl, rfl, rfl, rfl, rfl, fun _ _ hd => hd, nofun⟩
    exact ⟨h.agrees hagrees, fun _ => ⟨plan, hplan, settled⟩, fun _ => nofun⟩

end

/-! ## Forward steps -/

theorem intend (h : Steady r) (hforward : key.isForward = true) (hactive : r.state = .active)
    (hknown : r.checkKey key = .ok ()) :
    Steady { r with intents := r.intents.insert (r.effect key) } := by
  have hrollback := h.rollback_none hactive
  have hmem : ∀ {e}, e ∈ r.intents → e ∈ r.intents.insert (r.effect key) := List.mem_insert_of_mem
  refine ⟨?_, h.keyed, ?_, ?_, ?_, h.closed, ?_⟩
  · intro e he
    rcases List.mem_insert_iff.mp he with rfl | he
    · exact ⟨key, rfl, hforward, hknown⟩
    · exact h.addressed e he
  · intro e he
    exact (h.acked e he).imp_left hmem
  · intro s d hd
    exact (h.held s d hd).imp_left hmem
  · intro plan hplan
    cases hrollback.symm.trans hplan
  · intro plan hplan
    cases hrollback.symm.trans hplan

variable {ack : OutputPublicationAck}

theorem keep (h : Steady r) (hforward : key.isForward = true) (hactive : r.state = .active)
    (hintended : r.effect key ∈ r.intents) (hack : ack.effect = r.effect key)
    {given payload : AckPayload} (hvalid : r.validatePayload key given = .ok payload) :
    Steady { r.keepPayload (r.effect key) payload with
      acknowledgements := r.acknowledgements.set (r.effect key) ack } := by
  have hrollback := h.rollback_none hactive
  have hresults := @keepPayload_results r key given payload hvalid
  obtain ⟨hmanifest, hintents, hrollback', hcomplete, hstate, _⟩ :=
    keepPayload_frame (r := r) (r.effect key) payload
  generalize r.keepPayload (r.effect key) payload = kept at *
  have hacks : ∀ e, (r.acknowledgements.set (r.effect key) ack).get? e ≠ none →
      e = r.effect key ∨ r.acknowledgements.get? e ≠ none := by
    intro e he
    rw [Dict.get?_set] at he
    split at he
    · next heq => exact .inl heq.symm
    · exact .inr he
  refine ⟨?_, ?_, ?_, ?_, ?_, ?_, ?_⟩
  · intro e he
    obtain ⟨key', heq, hforward', hknown⟩ := h.addressed e (hintents ▸ he)
    refine ⟨key', by simp only [effect, hmanifest]; exact heq, hforward', ?_⟩
    simp only [checkKey, hmanifest]
    exact hknown
  · intro e a ha
    simp only [Dict.get?_set] at ha
    split at ha
    · next heq =>
      cases ha
      exact hack.trans heq
    · exact h.keyed e a ha
  · intro e he
    simp only [hintents]
    rcases hacks e he with rfl | he
    · exact .inl hintended
    · refine (h.acked e he).imp_right ?_
      rintro ⟨plan, hplan, _⟩
      cases hrollback.symm.trans hplan
  · intro s d hd
    simp only [effect, hmanifest, hintents]
    have hintended' : r.effect (.materialize s) ∈ r.intents := by
      rcases hresults hd with rfl | hd
      · exact hintended
      · exact (h.held s d hd).1
    refine ⟨hintended', ?_⟩
    by_contra hne
    rcases hacks _ hne with heq | hne
    · rw [← r.manifest.effect_injective heq] at hforward
      cases hforward
    · exact hne (h.cleanup_none hrollback rfl)
  · intro plan hplan
    cases hrollback.symm.trans (hrollback'.symm.trans hplan)
  · intro hc
    exact absurd (h.complete_none hactive) (hcomplete ▸ hc)
  · intro plan hplan
    cases hrollback.symm.trans (hrollback'.symm.trans hplan)

/-! ## Rollback steps -/

theorem plan_ (h : Steady r) (hactive : r.state = .active) {rollbackId : String}
    (named : rollbackId ≠ "") :
    Steady { r with
      rollback := some (r.rollbackPlan rollbackId named)
      state := .rollingBack } := by
  have hrollback := h.rollback_none hactive
  refine ⟨h.addressed, h.keyed, ?_, h.held, ?_, fun _ => nofun, ?_⟩
  · intro e he
    refine (h.acked e he).imp_right ?_
    rintro ⟨plan, hplan, _⟩
    cases hrollback.symm.trans hplan
  · rintro _ ⟨⟩
    exact ⟨rfl, nofun, h.complete_none hactive⟩
  · rintro _ ⟨⟩
    refine ⟨[], r.rollbackEffects, rfl, by simp, ?_⟩
    intro e he
    obtain ⟨key, _, _, k, hk, rfl⟩ := mem_rollbackEffects.mp he
    exact h.cleanup_none hrollback (by simp [OperationKey.isForward, isRollback_of_inverse hk])

/-- The next effect splits the plan: what comes before it was acknowledged, the rest not. -/
theorem split_next (h : Steady r) (hplan : r.rollback = some plan)
    (hnext : r.nextRollback plan = some e) :
    ∃ done rest, plan.effects = done ++ e :: rest ∧
      (∀ d ∈ done, r.acknowledgements.get? d ≠ none) ∧
      ∀ d ∈ e :: rest, r.acknowledgements.get? d = none := by
  obtain ⟨done, rest, hsplit, hdone, hrest⟩ := h.inOrder plan hplan
  have hskip : done.find? (fun d => (r.acknowledgements.get? d).isNone) = none := by
    rw [List.find?_eq_none]
    intro d hd
    simpa [Option.isNone_iff_eq_none] using hdone d hd
  rw [nextRollback, hsplit, List.find?_append, hskip, Option.none_or] at hnext
  cases rest with
  | nil => cases hnext
  | cons d rest =>
    rw [List.find?_cons_of_pos (by simp [hrest d (by simp)]), Option.some.injEq] at hnext
    exact ⟨done, rest, hnext ▸ hsplit, hdone, hnext ▸ hrest⟩

theorem keepCleanup (h : Steady r) (hplan : r.rollback = some plan)
    (hnext : r.nextRollback plan = some ack.effect) (kept : Option CleanupReply) :
    Steady (r.keepCleanup ack kept) := by
  obtain ⟨done, rest, hsplit, hdone, hrest⟩ := h.split_next hplan hnext
  have hmem : ack.effect ∈ plan.effects := by simp [hsplit]
  have hown : ack.effect = r.effect ack.effect.key := by
    obtain ⟨_, k, _, _, heq⟩ := (h.mem_plan hplan).mp hmem
    rw [heq]
    rfl
  refine ⟨h.addressed, ?_, ?_, ?_, h.frozen, h.closed, ?_⟩
  · intro e a ha
    simp only [JournalRecord.keepCleanup, Dict.get?_set] at ha
    split at ha
    · next heq =>
      cases ha
      exact heq
    · exact h.keyed e a ha
  · intro e he
    simp only [JournalRecord.keepCleanup, Dict.get?_set] at he
    split at he
    · next heq => exact .inr ⟨plan, hplan, heq ▸ hmem⟩
    · exact h.acked e he
  · intro s d hd
    have hheld : r.results.get? s = some d ∧ ack.effect.key ≠ .slotDrop s := by
      simp only [JournalRecord.keepCleanup] at hd
      split at hd
      · next s' hkey =>
        obtain ⟨hne, hd⟩ := Dict.of_get?_erase hd
        refine ⟨hd, ?_⟩
        rw [hkey]
        exact fun heq => hne (OperationKey.slotDrop.inj heq)
      · next hkey => exact ⟨hd, fun heq => hkey s heq⟩
    refine ⟨(h.held s d hheld.1).1, ?_⟩
    simp only [JournalRecord.keepCleanup]
    rw [Dict.get?_set_of_ne]
    · exact (h.held s d hheld.1).2
    · intro heq
      exact hheld.2 (congrArg OutputPublicationEffect.key heq)
  · intro plan' hplan'
    cases hplan.symm.trans hplan'
    refine ⟨done ++ [ack.effect], rest, by simp [hsplit], ?_, ?_⟩
    · intro e he
      simp only [JournalRecord.keepCleanup, Dict.get?_set]
      split
      · exact nofun
      · next hne =>
        rcases List.mem_append.mp he with he | he
        · exact hdone e he
        · exact absurd (List.mem_singleton.mp he).symm hne
    · intro e he
      have hne : ack.effect ≠ e := by
        rintro rfl
        have honce := plan.once
        rw [hsplit] at honce
        exact (List.nodup_cons.mp (List.nodup_append.mp honce).2.1).1 he
      simp only [JournalRecord.keepCleanup]
      rw [Dict.get?_set_of_ne _ _ hne]
      exact hrest e (by simp [he])

end Steady

/-! ## Retirement -/

theorem commitRetirement_agrees (r : JournalRecord) (t : OutputPublicationSlotTombstone) :
    Agrees r (r.commitRetirement t) ∧
      (r.commitRetirement t).rollbackTombstone = r.rollbackTombstone := by
  refine ⟨⟨rfl, rfl, rfl, rfl, rfl, ?_, ?_⟩, rfl⟩
  · intro s d hd
    simp only [commitRetirement, Dict.get?_erase] at hd
    split at hd
    · cases hd
    · exact hd
  · intro hstate
    simp only [commitRetirement] at hstate
    split at hstate
    · cases hstate
    · exact hstate

theorem Sound.retire (h : Sound r) (terminals : List OutputPublicationSlotTombstone) :
    Sound (terminals.foldl commitRetirement r) := by
  induction terminals generalizing r with
  | nil => exact h
  | cons t ts ih =>
    obtain ⟨hagrees, htombstone⟩ := commitRetirement_agrees r t
    exact ih (h.agrees hagrees htombstone)

/-! ## Every call -/

theorem Sound.tombstone_none (h : Sound r) (hrollback : r.rollback = none) :
    r.rollbackTombstone = none := by
  by_contra htombstone
  obtain ⟨plan, hplan, _⟩ := h.terminal.mp htombstone
  cases hrollback.symm.trans hplan

theorem Sound.moves {evs : List Event} (h : Sound r) (hmoves : Moves r evs r') : Sound r' := by
  cases hmoves with
  | stayed => exact h
  | intended key forward active known ready =>
    refine ⟨h.intend forward active known, ?_⟩
    exact h.terminal
  | acknowledged key forward active intended ready ack isAck payload valid =>
    obtain ⟨given, hvalid⟩ := valid
    refine ⟨h.keep forward active intended isAck hvalid, ?_⟩
    have hrollback := h.rollback_none active
    obtain ⟨_, _, hrollback', _, _, htombstone⟩ :=
      keepPayload_frame (r := r) (r.effect key) payload
    simp [hrollback', htombstone, hrollback, h.tombstone_none hrollback]
  | received stage receipt =>
    exact h.agrees ⟨rfl, rfl, rfl, rfl, rfl, fun _ _ hd => hd, id⟩ rfl
  | completed witness ready held =>
    have hrollback : r.rollback = none := by
      cases hcomplete : r.complete with
      | none => exact h.rollback_none (ready hcomplete).1
      | some witness' =>
        by_contra hplanned
        obtain ⟨plan, hplan⟩ := Option.ne_none_iff_exists'.mp hplanned
        cases hcomplete.symm.trans (h.frozen plan hplan).2.2
    refine ⟨⟨h.addressed, h.keyed, h.acked, h.held, ?_, fun _ => nofun, h.inOrder⟩, h.terminal⟩
    intro plan hplan
    cases hrollback.symm.trans hplan
  | rollbackBegun active incomplete unplanned rollbackId named r' finished =>
    exact (h.plan_ active named).finishes rfl (h.tombstone_none unplanned)
      (finishes_of_ok finished)
  | rollbackAcked plan planned ack next reply kept valid r' finished =>
    have hpending : r.rollbackTombstone = none := by
      by_contra htombstone
      obtain ⟨plan', hplan', hsettled⟩ := h.terminal.mp htombstone
      cases planned.symm.trans hplan'
      cases next.symm.trans hsettled
    exact (h.keepCleanup planned next kept).finishes planned hpending (finishes_of_ok finished)
  | retired terminals complete => exact h.retire terminals
  | ownerDied death =>
    refine h.agrees ⟨rfl, rfl, rfl, rfl, rfl, ?_, nofun⟩ rfl
    intro s d hd
    cases hd

theorem beginRollback_cases (h : Sound r) {rollbackId : String} (named : rollbackId ≠ "") :
    (∃ e, r.admitRollback rollbackId = .error e ∧
      r.beginRollback rollbackId named = (.error e, r)) ∨
      ∃ plan r', r.beginRollback rollbackId named = (.ok plan, r') ∧ Moves r [] r' := by
  unfold beginRollback
  cases hadmit : r.admitRollback rollbackId with
  | error e => exact .inl ⟨e, rfl, rfl⟩
  | ok known =>
    cases known with
    | some plan => exact .inr ⟨plan, r, rfl, .stayed⟩
    | none =>
      simp only [admitRollback, bind_eq_ok, raiseIf_eq_ok, not_not] at hadmit
      obtain ⟨_, hincomplete, hadmit⟩ := hadmit
      split at hadmit
      · simp at hadmit
      · next hunplanned =>
        simp only [bind_eq_ok, requireActive_eq_ok] at hadmit
        obtain ⟨_, hactive, _⟩ := hadmit
        obtain ⟨r', hr'⟩ := (h.plan_ hactive named).finish_ok rfl
        refine .inr ⟨r.rollbackPlan rollbackId named, r', by simp only [finishing, hr'], ?_⟩
        exact .rollbackBegun hactive hincomplete hunplanned rollbackId named r' hr'

theorem ackRollback_cases (h : Sound r) (ack : OutputPublicationAck) (reply : Option CleanupReply) :
    (∃ e, r.admitRollbackAck ack reply = .error e ∧ r.ackRollback ack reply = (.error e, r)) ∨
      r.ackRollback ack reply = (.ok false, r) ∨
      ∃ r', r.ackRollback ack reply = (.ok true, r') ∧ Moves r [.acknowledged ack.effect] r' := by
  unfold ackRollback
  cases hadmit : r.admitRollbackAck ack reply with
  | error e => exact .inl ⟨e, rfl, rfl⟩
  | ok known =>
    cases known with
    | none => exact .inr (.inl rfl)
    | some admitted =>
      obtain ⟨plan, kept⟩ := admitted
      simp only [admitRollbackAck, bind_eq_ok] at hadmit
      obtain ⟨_, _, hadmit⟩ := hadmit
      split at hadmit
      · cases hadmit
      · next plan' hplan =>
        simp only [bind_eq_ok] at hadmit
        obtain ⟨_, _, hadmit⟩ := hadmit
        split at hadmit
        · simp at hadmit
        · simp only [bind_eq_ok, raiseIf_eq_ok, not_not, pure_eq_ok, Option.some.injEq,
            Prod.mk.injEq] at hadmit
          obtain ⟨_, hnext, valid, hkept, rfl, rfl⟩ := hadmit
          obtain ⟨r', hr'⟩ := (h.keepCleanup hplan hnext valid).finish_ok hplan
          refine .inr (.inr ⟨r', by simp only [finishing, hr'], ?_⟩)
          exact .rollbackAcked plan' hplan ack hnext reply valid hkept r' hr'

end JournalRecord

namespace OutputPublicationJournal

variable {s : OutputPublicationJournal}

/-! ## The history of a journal -/

def Reply.events : Reply → List Event
  | .effect e => [.intended e]
  | .acknowledged e true => [.acknowledged e]
  | .receipt p retained => [.received p retained.stage]
  | _ => []

/-- What a call that returned adds to the history. -/
def eventsOf : Except JournalError Reply → List Event
  | .ok reply => reply.events
  | .error _ => []

def events (s : OutputPublicationJournal) (op : Op) : List Event := eventsOf (s.call op).1

/-- Every record is sound and filed under its own publication. -/
def Sound (s : OutputPublicationJournal) : Prop :=
  ∀ p r, s.records.get? p = some r → r.manifest.publicationId = p ∧ r.Sound

/-- One call adds a record or moves one. -/
inductive CallStep (s : OutputPublicationJournal) :
    List Event → OutputPublicationJournal → Prop
  | same : CallStep s [] s
  | opened (manifest : OutputPublicationManifest)
      (new : s.records.get? manifest.publicationId = none) :
      CallStep s [] ⟨s.records.set manifest.publicationId (.opened manifest)⟩
  | moved (p : OutputPublicationID) (r r' : JournalRecord) (known : s.records.get? p = some r)
      (evs : List Event) (moves : r.Moves evs r') : CallStep s evs ⟨s.records.set p r'⟩

variable {p : OutputPublicationID}

theorem on_step {α : Type} {reply : α → Reply}
    {f : JournalRecord → Except JournalError α × JournalRecord}
    (hf : ∀ r, s.records.get? p = some r → r.Moves (eventsOf ((f r).1.map reply)) (f r).2) :
    CallStep s (eventsOf (s.on p reply f).1) (s.on p reply f).2 := by
  unfold on
  cases hr : s.records.get? p with
  | none => exact .same
  | some r => exact .moved p r _ hr _ (hf r hr)

theorem atomic_step {α : Type} {reply : α → Reply}
    {f : JournalRecord → Except JournalError (α × JournalRecord)}
    (hf : ∀ r a r', s.records.get? p = some r → f r = .ok (a, r') → r.Moves (reply a).events r') :
    CallStep s (eventsOf (s.on p reply (atomic f)).1) (s.on p reply (atomic f)).2 := by
  refine on_step fun r hr => ?_
  unfold atomic
  cases hfr : f r with
  | error e => exact .stayed
  | ok result => exact hf r _ _ hr hfr

theorem ackForward_step {stage : OutputPublicationStage} (hstage : stage.isRollback = false)
    (ack : OutputPublicationAck) (payload : JournalRecord.AckPayload) :
    CallStep s (eventsOf (s.ackForward stage ack payload).1)
      (s.ackForward stage ack payload).2 := by
  unfold ackForward
  split
  · exact .same
  · next heq =>
    refine atomic_step fun r isNew r' _ h => ?_
    have hforward : ack.effect.key.isForward = true := by
      rw [not_not] at heq
      rw [OperationKey.isForward, show ack.effect.key.stage = stage from heq, hstage]
      rfl
    have hmoves := JournalRecord.ackForward_moves hforward h
    cases isNew <;> exact hmoves

theorem callStep (hs : s.Sound) (op : Op) : CallStep s (s.events op) (s.step op) := by
  unfold events step
  cases op with
  | open_ manifest =>
    simp only [call, open_]
    split
    · split <;> exact .same
    · next hnew => exact .opened manifest hnew
  | beginOwnerRegister p =>
    exact atomic_step fun r e r' _ h => JournalRecord.beginEffect_moves rfl h
  | beginPrepare p s t => exact atomic_step fun r e r' _ h => JournalRecord.beginEffect_moves rfl h
  | beginMaterialize p s =>
    exact atomic_step fun r e r' _ h => JournalRecord.beginEffect_moves rfl h
  | beginPromote p s t => exact atomic_step fun r e r' _ h => JournalRecord.beginEffect_moves rfl h
  | ackOwnerRegistered ack => exact ackForward_step rfl ack _
  | ackPrepared ack reply => exact ackForward_step rfl ack _
  | ackMaterialized ack descriptor => exact ackForward_step rfl ack _
  | ackPromoted ack reply => exact ackForward_step rfl ack _
  | recordPublicationReply p request reply stage forward =>
    simp only [call]
    split
    · exact .same
    · refine atomic_step fun r receipt r' hr h => ?_
      have hmoves := JournalRecord.recordPublicationReply_moves h
      rwa [(hs p r hr).1] at hmoves
  | complete p witness =>
    exact atomic_step fun r envelope r' _ h => JournalRecord.completeWith_moves h
  | beginRollback p rollbackId =>
    simp only [call]
    split
    · exact .same
    · next named =>
      refine on_step fun r hr => ?_
      rcases JournalRecord.beginRollback_cases (hs p r hr).2 named with
        ⟨e, _, heq⟩ | ⟨plan, r', heq, hmoves⟩
      · rw [heq]
        exact .stayed
      · rw [heq]
        exact hmoves
  | ackRollback ack reply =>
    refine on_step fun r hr => ?_
    rcases JournalRecord.ackRollback_cases (hs _ r hr).2 ack reply with
      ⟨e, _, heq⟩ | heq | ⟨r', heq, hmoves⟩
    · rw [heq]
      exact .stayed
    · rw [heq]
      exact .stayed
    · rw [heq]
      exact hmoves
  | retireSlot p slotIndex proof =>
    refine atomic_step fun r _ r' _ h => ?_
    simp only [JournalRecord.retireSlot, bind_eq_ok, pure_eq_ok, Prod.mk.injEq] at h
    obtain ⟨terminal, hterminal, rfl, rfl⟩ := h
    exact .retired [terminal] (JournalRecord.prepareRetirement_complete hterminal)
  | retireCompleted proof =>
    exact atomic_step fun r terminals r' _ h => JournalRecord.retireCompleted_moves h
  | retireOwnerDeath p death =>
    simp only [call]
    split
    · exact .same
    · refine atomic_step fun r _ r' _ h => ?_
      simp only [JournalRecord.retireOwnerDeath, bind_eq_ok, pure_eq_ok, Prod.mk.injEq] at h
      obtain ⟨_, _, _, _, _, rfl⟩ := h
      exact .ownerDied death

end OutputPublicationJournal

end MiniRay
