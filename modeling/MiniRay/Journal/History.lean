import MiniRay.Journal.Rollback

/-! The record of a publication remembers exactly what happened to it, each effect came after what
it waits for, and a rollback collects its acknowledgements in the order of its plan. -/

namespace MiniRay

open Checked Run Causal

/-! ## One move -/

variable {m : OutputPublicationManifest}

theorem OutputPublicationManifest.Requires.about {x y : Event} (h : m.Requires x y) :
    y.publicationId = m.publicationId := by
  cases h <;> rfl

theorem OutputPublicationManifest.Requires.about_left {x y : Event} (h : m.Requires x y) :
    x.publicationId = m.publicationId := by
  have hawaited : ∀ key, ∀ x ∈ m.awaited key, x.publicationId = m.publicationId := by
    intro key x hx
    cases key <;>
      simp only [awaited, awaited.reserved, awaited.prepared, List.mem_append, List.mem_cons,
        List.mem_map, List.not_mem_nil, or_false] at hx
    case prepare => rcases hx with rfl | rfl <;> rfl
    case materialize => rcases hx with (rfl | rfl) | ⟨_, _, rfl⟩ <;> rfl
    case promote => rcases hx with ((rfl | rfl) | ⟨_, _, rfl⟩) | ⟨_, _, rfl⟩ <;> rfl
  cases h with
  | intent h => exact hawaited _ _ h
  | acknowledgement h => exact hawaited _ _ h
  | intended => rfl

namespace OutputPublicationManifest

variable {m : OutputPublicationManifest} {x : Event} {key : OperationKey}

theorem requires_intended :
    m.Requires x (.intended (m.effect key)) ↔ x ∈ m.awaited key := by
  constructor
  · intro h
    generalize hev : Event.intended (m.effect key) = ev at h
    cases h with
    | intent h => exact m.effect_injective (Event.intended.inj hev) ▸ h
    | _ => cases hev
  · exact .intent

theorem requires_acknowledged : m.Requires x (.acknowledged (m.effect key)) ↔
    x ∈ m.awaited key ∨ key.isForward = true ∧ x = .intended (m.effect key) := by
  constructor
  · intro h
    generalize hev : Event.acknowledged (m.effect key) = ev at h
    cases h with
    | intent => cases hev
    | acknowledgement h => exact .inl (m.effect_injective (Event.acknowledged.inj hev) ▸ h)
    | intended h =>
      cases m.effect_injective (Event.acknowledged.inj hev)
      exact .inr ⟨h, rfl⟩
  · rintro (h | ⟨h, rfl⟩)
    · exact .acknowledgement h
    · exact .intended h

theorem awaited_of_rollback (h : key.stage.isRollback = true) : m.awaited key = [] := by
  cases key <;> first | rfl | cases h

end OutputPublicationManifest

namespace JournalRecord

variable {r r' : JournalRecord} {evs : List Event}

variable {plan : OutputPublicationRollbackPlan} {e : OutputPublicationEffect}

theorem Sound.exact_next (h : Sound r) (hplan : r.rollback = some plan)
    (hnext : r.nextRollback plan = some e) :
    ∃ key, e = r.effect key ∧ key.stage.isRollback = true := by
  obtain ⟨_, key, hkey, _, heq⟩ := (h.mem_plan hplan).mp (List.mem_of_find?_eq_some hnext)
  exact ⟨key, heq, isRollback_of_inverse hkey⟩

/-- Retirement touches none of the tables that the history is kept in. -/
theorem retire_frame (terminals : List OutputPublicationSlotTombstone) (r : JournalRecord) :
    (terminals.foldl commitRetirement r).manifest = r.manifest ∧
      (terminals.foldl commitRetirement r).intents = r.intents ∧
      (terminals.foldl commitRetirement r).acknowledgements = r.acknowledgements ∧
      (terminals.foldl commitRetirement r).publicationReceipts = r.publicationReceipts ∧
      (terminals.foldl commitRetirement r).rollback = r.rollback ∧
      (terminals.foldl commitRetirement r).complete = r.complete := by
  induction terminals generalizing r with
  | nil => exact ⟨rfl, rfl, rfl, rfl, rfl, rfl⟩
  | cons t ts ih => exact ih (r.commitRetirement t)

theorem Moves.manifest (hmoves : Moves r evs r') : r'.manifest = r.manifest := by
  cases hmoves with
  | acknowledged key forward active intended ready ack isAck payload =>
    exact (keepPayload_frame (r := r) (r.effect key) payload).1
  | rollbackBegun active incomplete unplanned rollbackId named r' finished =>
    cases finishes_of_ok finished <;> rfl
  | rollbackAcked plan planned ack next reply kept valid r' finished =>
    cases finishes_of_ok finished <;> rfl
  | retired terminals => exact (retire_frame terminals r).1
  | _ => rfl

theorem Moves.about (h : Sound r) (hmoves : Moves r evs r') :
    ∀ ev ∈ evs, ev.publicationId = r.manifest.publicationId := by
  cases hmoves with
  | rollbackAcked plan planned ack next =>
    obtain ⟨key, heq, _⟩ := h.exact_next planned next
    simp [heq, Event.publicationId, OutputPublicationManifest.effect]
  | _ => simp [Event.publicationId, OutputPublicationManifest.effect]

theorem Moves.awaited (h : Sound r) (hmoves : Moves r evs r') :
    ∀ ev ∈ evs, ∀ x, r.manifest.Requires x ev → r.Happened x := by
  cases hmoves with
  | intended key forward active known ready =>
    simp only [List.mem_singleton, forall_eq, OutputPublicationManifest.requires_intended]
    exact ready
  | acknowledged key forward active intended ready =>
    simp only [List.mem_singleton, forall_eq, OutputPublicationManifest.requires_acknowledged]
    rintro x (hx | ⟨_, rfl⟩)
    · exact ready x hx
    · exact intended
  | received stage receipt =>
    simp only [List.mem_singleton, forall_eq]
    intro x hx
    cases hx
  | rollbackAcked plan planned ack next =>
    obtain ⟨key, heq, hrollback⟩ := h.exact_next planned next
    simp [heq, OutputPublicationManifest.requires_acknowledged, OperationKey.isForward, hrollback,
      OutputPublicationManifest.awaited_of_rollback hrollback]
  | _ => simp

variable {ev : Event}

theorem happened_of_tables (hintents : r'.intents = r.intents)
    (hacks : r'.acknowledgements = r.acknowledgements)
    (hreceipts : r'.publicationReceipts = r.publicationReceipts) :
    r'.Happened ev ↔ r.Happened ev := by
  cases ev <;> simp only [Happened, hintents, hacks, hreceipts]

theorem happened_acknowledge {a : OutputPublicationAck} (hintents : r'.intents = r.intents)
    (hacks : r'.acknowledgements = r.acknowledgements.set e a)
    (hreceipts : r'.publicationReceipts = r.publicationReceipts) :
    r'.Happened ev ↔ r.Happened ev ∨ ev ∈ [Event.acknowledged e] := by
  cases ev with
  | acknowledged e' =>
    simp only [Happened, hacks, Dict.get?_set, List.mem_singleton, Event.acknowledged.injEq]
    by_cases heq : e = e' <;> simp [heq, eq_comm (a := e')]
  | _ => simp [Happened, hintents, hreceipts]

theorem Moves.happened (hmoves : Moves r evs r') (hev :
    ev.publicationId = r.manifest.publicationId) :
    r'.Happened ev ↔ r.Happened ev ∨ ev ∈ evs := by
  cases hmoves with
  | intended key =>
    cases ev <;> simp [Happened, or_comm]
  | acknowledged key forward active intended ready ack isAck payload =>
    refine happened_acknowledge ?_ rfl ?_
    · exact (keepPayload_frame (r := r) (r.effect key) payload).2.1
    · cases payload with
      | descriptor descriptor => simp only [keepPayload]; cases key <;> rfl
      | _ => rfl
  | received stage receipt =>
    cases ev with
    | received p stage' =>
      obtain rfl : p = r.manifest.publicationId := hev
      simp only [Happened, Dict.get?_set, List.mem_singleton, Event.received.injEq, true_and]
      by_cases heq : stage = stage' <;> simp [heq, eq_comm (a := stage')]
    | _ => simp [Happened]
  | rollbackBegun active incomplete unplanned rollbackId named r' finished =>
    rw [List.mem_nil_iff, or_false]
    cases finishes_of_ok finished <;> exact happened_of_tables rfl rfl rfl
  | rollbackAcked plan planned ack next reply kept valid r' finished =>
    cases finishes_of_ok finished <;> exact happened_acknowledge rfl rfl rfl
  | retired terminals =>
    obtain ⟨_, hintents, hacks, hreceipts, _⟩ := retire_frame terminals r
    rw [List.mem_nil_iff, or_false]
    exact happened_of_tables hintents hacks hreceipts
  | stayed => simp
  | _ =>
    rw [List.mem_nil_iff, or_false]
    exact happened_of_tables rfl rfl rfl

theorem Moves.rollback (h : Sound r) (hmoves : Moves r evs r') (hplan : r.rollback = some plan) :
    r'.rollback = some plan := by
  cases hmoves with
  | acknowledged key forward active =>
    cases (h.rollback_none active).symm.trans hplan
  | rollbackBegun active incomplete unplanned => cases unplanned.symm.trans hplan
  | rollbackAcked plan planned ack next reply kept valid r' finished =>
    cases finishes_of_ok finished <;> exact hplan
  | retired terminals => exact (retire_frame terminals r).2.2.2.2.1.trans hplan
  | _ => exact hplan

theorem Moves.ready (hmoves : Moves r evs r') (hnone : r.complete = none)
    (hsome : r'.complete ≠ none) : r.readyToComplete = true := by
  cases hmoves with
  | completed witness ready => exact (ready hnone).2
  | acknowledged key forward active intended ready ack isAck payload =>
    exact absurd ((keepPayload_frame (r := r) (r.effect key) payload).2.2.2.1.trans hnone) hsome
  | rollbackBegun active incomplete unplanned rollbackId named r' finished =>
    cases finishes_of_ok finished <;> exact absurd hnone hsome
  | rollbackAcked plan planned ack next reply kept valid r' finished =>
    cases finishes_of_ok finished <;> exact absurd hnone hsome
  | retired terminals complete => exact absurd hnone complete
  | _ => exact absurd hnone hsome

/-! ## Recorded histories -/

/-- An acknowledged compensation of the publication. -/
def cleanupOf (p : OutputPublicationID) : Event → Option OutputPublicationEffect
  | .acknowledged e =>
    if e.publicationId = p ∧ e.stage.isRollback = true then some e else none
  | _ => none

/-- The compensations of the publication in the order they were acknowledged. -/
def cleanups (p : OutputPublicationID) (log : List Event) : List OutputPublicationEffect :=
  log.filterMap (cleanupOf p)

variable {log : List Event}

variable {p : OutputPublicationID}

theorem mem_cleanups :
    e ∈ cleanups p log ↔
      .acknowledged e ∈ log ∧ e.publicationId = p ∧ e.stage.isRollback = true := by
  simp only [cleanups, List.mem_filterMap]
  constructor
  · rintro ⟨ev, hev, heq⟩
    cases ev with
    | acknowledged e' =>
      simp only [cleanupOf] at heq
      split at heq
      · next hown =>
        cases heq
        exact ⟨hev, hown⟩
      · cases heq
    | _ => cases heq
  · rintro ⟨hev, hown⟩
    exact ⟨_, hev, by simp [cleanupOf, hown]⟩

theorem cleanups_append (p : OutputPublicationID) (log evs : List Event) :
    cleanups p (log ++ evs) = cleanups p log ++ cleanups p evs := List.filterMap_append

/-- The log says exactly what the record remembers, in a possible order. -/
structure Recorded (log : List Event) (r : JournalRecord) : Prop where
  happened : ∀ ev, ev.publicationId = r.manifest.publicationId → (r.Happened ev ↔ ev ∈ log)
  ordered : Ordered r.manifest.Requires log
  cleanup : ∀ plan, r.rollback = some plan →
    ∃ rest, plan.effects = cleanups r.manifest.publicationId log ++ rest

theorem Moves.cleanups (hmoves : Moves r evs r') :
    JournalRecord.cleanups r.manifest.publicationId evs = [] ∨ ∃ plan e,
      r.rollback = some plan ∧ r.nextRollback plan = some e ∧ evs = [.acknowledged e] := by
  cases hmoves with
  | acknowledged key forward =>
    have hkey : key.stage.isRollback = false := by simpa [OperationKey.isForward] using forward
    refine .inl ?_
    simp [JournalRecord.cleanups, cleanupOf, OutputPublicationEffect.stage,
      OutputPublicationManifest.effect, hkey]
  | rollbackAcked plan planned ack next => exact .inr ⟨plan, _, planned, next, rfl⟩
  | _ => exact .inl rfl

theorem cleanups_eq_nil (h : Sound r) (hlog : Recorded log r) (hrollback : r.rollback = none) :
    JournalRecord.cleanups r.manifest.publicationId log = [] := by
  rw [List.eq_nil_iff_forall_not_mem]
  intro e he
  obtain ⟨hev, hown, hstage⟩ := mem_cleanups.mp he
  have hacked : r.acknowledgements.get? e ≠ none := (hlog.happened (.acknowledged e) hown).mpr hev
  rcases h.acked e hacked with hintended | ⟨plan, hplan, _⟩
  · obtain ⟨key, rfl, hforward, _⟩ := h.addressed e hintended
    simp [OperationKey.isForward, show key.stage.isRollback = true from hstage] at hforward
  · cases hrollback.symm.trans hplan

theorem mem_plan_own (h : Sound r) (hplan : r.rollback = some plan) (he : e ∈ plan.effects) :
    e.publicationId = r.manifest.publicationId ∧ e.stage.isRollback = true := by
  obtain ⟨key, k, hk, _, rfl⟩ := (h.mem_plan hplan).mp he
  exact ⟨rfl, isRollback_of_inverse hk⟩

theorem Recorded.unacked (hlog : Recorded log r) (h : Sound r) (hplan : r.rollback = some plan)
    {rest : List OutputPublicationEffect}
    (hsplit : plan.effects = JournalRecord.cleanups r.manifest.publicationId log ++ rest) :
    ∀ e ∈ rest, r.acknowledgements.get? e = none := by
  intro e he
  by_contra hacked
  obtain ⟨hown, hstage⟩ := mem_plan_own h hplan (hsplit ▸ List.mem_append_right _ he)
  have hev := (hlog.happened (.acknowledged e) hown).mp hacked
  have honce := plan.once
  rw [hsplit] at honce
  exact List.disjoint_of_nodup_append honce (mem_cleanups.mpr ⟨hev, hown, hstage⟩) he

theorem Recorded.acked (hlog : Recorded log r)
    (he : e ∈ JournalRecord.cleanups r.manifest.publicationId log) :
    r.acknowledgements.get? e ≠ none := by
  obtain ⟨hev, hown, _⟩ := mem_cleanups.mp he
  exact (hlog.happened (.acknowledged e) hown).mpr hev

theorem Recorded.next (hlog : Recorded log r) (h : Sound r) (hplan : r.rollback = some plan)
    (hnext : r.nextRollback plan = some e) :
    ∃ rest, plan.effects = JournalRecord.cleanups r.manifest.publicationId log ++ e :: rest := by
  obtain ⟨rest, hsplit⟩ := hlog.cleanup plan hplan
  have hskip : (JournalRecord.cleanups r.manifest.publicationId log).find?
      (fun d => (r.acknowledgements.get? d).isNone) = none := by
    rw [List.find?_eq_none]
    intro d hd
    simpa [Option.isNone_iff_eq_none] using hlog.acked hd
  rw [nextRollback, hsplit, List.find?_append, hskip, Option.none_or] at hnext
  cases rest with
  | nil => cases hnext
  | cons d rest =>
    have hd := hlog.unacked h hplan hsplit d (by simp)
    rw [List.find?_cons_of_pos (by simp [hd]), Option.some.injEq] at hnext
    exact ⟨rest, hnext ▸ hsplit⟩

theorem Recorded.moves (hlog : Recorded log r) (h : Sound r) (hmoves : Moves r evs r') :
    Recorded (log ++ evs) r' := by
  refine ⟨?_, ?_, ?_⟩
  · intro ev hev
    rw [hmoves.manifest] at hev
    rw [hmoves.happened hev, hlog.happened ev hev, List.mem_append]
  · rw [hmoves.manifest]
    refine hlog.ordered.append ?_
    intro z hz x hx
    exact (hlog.happened x hx.about_left).mp (hmoves.awaited h z hz x hx)
  · intro plan hplan
    rw [hmoves.manifest, cleanups_append]
    cases hrollback : r.rollback with
    | none =>
      refine ⟨plan.effects, ?_⟩
      rw [cleanups_eq_nil h hlog hrollback]
      rcases hmoves.cleanups with hnil | ⟨plan', _, hplan', _⟩
      · rw [hnil, List.append_nil, List.nil_append]
      · cases hrollback.symm.trans hplan'
    | some plan' =>
      cases hplan.symm.trans (hmoves.rollback h hrollback)
      obtain ⟨rest, hrest⟩ := hlog.cleanup plan hrollback
      rcases hmoves.cleanups with hnil | ⟨plan', e, hplan', hnext, rfl⟩
      · exact ⟨rest, by rw [hnil, List.append_nil, hrest]⟩
      · cases hrollback.symm.trans hplan'
        obtain ⟨rest, hrest⟩ := hlog.next h hrollback hnext
        have hown := mem_plan_own h hrollback (List.mem_of_find?_eq_some hnext)
        refine ⟨rest, ?_⟩
        simp [hrest, JournalRecord.cleanups, cleanupOf, hown]

theorem Recorded.frame (hlog : Recorded log r) (hevs : ∀ ev ∈ evs, ev.publicationId = p)
    (hp : p ≠ r.manifest.publicationId) : Recorded (log ++ evs) r := by
  have hother : ∀ ev ∈ evs, ev.publicationId ≠ r.manifest.publicationId :=
    fun ev hev => (hevs ev hev).trans_ne hp
  refine ⟨?_, ?_, ?_⟩
  · intro ev hown
    rw [hlog.happened ev hown, List.mem_append, or_iff_left fun hev => hother ev hev hown]
  · exact hlog.ordered.append fun ev hev x hx => absurd hx.about (hother ev hev)
  · intro plan hplan
    have hnone : JournalRecord.cleanups r.manifest.publicationId evs = [] := by
      rw [List.eq_nil_iff_forall_not_mem]
      intro e he
      obtain ⟨hev, hown, _⟩ := mem_cleanups.mp he
      exact hother _ hev hown
    rw [cleanups_append, hnone, List.append_nil]
    exact hlog.cleanup plan hplan

theorem recorded_opened {manifest : OutputPublicationManifest}
    (hlog : ∀ ev ∈ log, ev.publicationId ≠ manifest.publicationId) :
    Recorded log (opened manifest) := by
  refine ⟨?_, ?_, nofun⟩
  · intro ev hown
    refine iff_of_false ?_ fun hev => hlog ev hev hown
    cases ev <;> simp [Happened, opened]
  · exact fun x y hxy => precedes_of_not_mem fun hy => hlog y hy hxy.about

end JournalRecord

namespace OutputPublicationJournal

variable {s : OutputPublicationJournal}

/-! ## Runs -/

/-- Every record is sound and its history is in the log; nothing else is. -/
structure Logged (log : List Event) (s : OutputPublicationJournal) : Prop where
  sound : s.Sound
  recorded : ∀ p r, s.records.get? p = some r → r.Recorded log
  known : ∀ ev ∈ log, s.records.get? ev.publicationId ≠ none

theorem logged_empty : Logged [] empty := by
  refine ⟨?_, ?_, ?_⟩ <;> simp [Sound, empty]

theorem Sound.step (h : s.Sound) (op : Op) : (s.step op).Sound := by
  have hcall := callStep h op
  generalize s.events op = evs at hcall
  generalize s.step op = s' at hcall
  cases hcall with
  | same => exact h
  | opened manifest new =>
    intro p r hr
    simp only [Dict.get?_set] at hr
    split at hr
    · next heq =>
      cases hr
      exact ⟨heq, JournalRecord.sound_opened manifest⟩
    · exact h p r hr
  | moved p r r' known _ moves =>
    obtain ⟨hown, hsound⟩ := h p r known
    intro p' r₁ hr₁
    simp only [Dict.get?_set] at hr₁
    split at hr₁
    · next heq =>
      cases hr₁
      exact ⟨by rw [moves.manifest, hown, heq], hsound.moves moves⟩
    · exact h p' r₁ hr₁

theorem Logged.step {log : List Event} (h : Logged log s) (op : Op) :
    Logged (log ++ s.events op) (s.step op) := by
  have hsound := h.sound.step op
  have hcall := callStep h.sound op
  generalize s.events op = evs at hcall
  generalize s.step op = s' at hcall hsound
  cases hcall with
  | same => rwa [List.append_nil]
  | opened manifest new =>
    rw [List.append_nil]
    have hnew : ∀ ev ∈ log, ev.publicationId ≠ manifest.publicationId :=
      fun ev hev heq => h.known ev hev (heq ▸ new)
    refine ⟨hsound, ?_, ?_⟩
    · intro p r hr
      simp only [Dict.get?_set] at hr
      split at hr
      · cases hr
        exact JournalRecord.recorded_opened hnew
      · exact h.recorded p r hr
    · intro ev hev
      rw [Dict.get?_set_of_ne _ _ (hnew ev hev).symm]
      exact h.known ev hev
  | moved p r r' known _ moves =>
    obtain ⟨hown, hr⟩ := h.sound p r known
    have habout : ∀ ev ∈ evs, ev.publicationId = p :=
      fun ev hev => (moves.about hr ev hev).trans hown
    refine ⟨hsound, ?_, ?_⟩
    · intro p' r₁ hr₁
      simp only [Dict.get?_set] at hr₁
      split at hr₁
      · cases hr₁
        exact (h.recorded p r known).moves hr moves
      · next hne =>
        refine (h.recorded p' r₁ hr₁).frame habout ?_
        rwa [(h.sound p' r₁ hr₁).1]
    · intro ev hev
      simp only [Dict.get?_set]
      split
      · exact nofun
      · next hne =>
        rcases List.mem_append.mp hev with hev | hev
        · exact h.known ev hev
        · exact absurd (habout ev hev).symm hne

theorem logged_run (ops : List Op) : Logged (outputs step events empty ops) (run step empty ops) :=
  outputs_invariant (fun _ _ op h => h.step op) logged_empty ops

variable {p : OutputPublicationID}

variable {P : JournalRecord → Prop}

section

variable (hmoves : ∀ r evs r', r.Sound → r.Moves evs r' → P r → P r') (hs : s.Sound)
  (h : ∃ r, s.records.get? p = some r ∧ P r)
include hmoves hs h

theorem follows_step (op : Op) :
    ∃ r, (s.step op).records.get? p = some r ∧ P r := by
  obtain ⟨r, hr, hP⟩ := h
  have hcall := callStep hs op
  generalize s.events op = evs at hcall
  generalize s.step op = s' at hcall
  cases hcall with
  | same => exact ⟨r, hr, hP⟩
  | opened manifest new =>
    exact ⟨r, Dict.get?_set_kept new hr, hP⟩
  | moved p' r₀ r' known _ moves =>
    by_cases heq : p' = p
    · subst heq
      cases known.symm.trans hr
      exact ⟨r', Dict.get?_set_self _ _ _, hmoves r evs r' (hs p' r known).2 moves hP⟩
    · exact ⟨r, (Dict.get?_set_of_ne _ _ heq).trans hr, hP⟩

theorem follows_run (later : List Op) :
    ∃ r, (run step s later).records.get? p = some r ∧ P r :=
  (run_invariant (p := fun s : OutputPublicationJournal =>
    s.Sound ∧ ∃ r, s.records.get? p = some r ∧ P r)
    (fun _ op hinv => ⟨hinv.1.step op, follows_step hmoves hinv.1 hinv.2 op⟩) ⟨hs, h⟩ later).2

end

theorem rollback_run (hs : s.Sound) {plan : OutputPublicationRollbackPlan}
    (h : ∃ r, s.records.get? p = some r ∧ r.rollback = some plan) (later : List Op) :
    ∃ r, (run step s later).records.get? p = some r ∧ r.rollback = some plan :=
  follows_run (fun _ _ _ hr hmoves hplan => hmoves.rollback hr hplan) hs h later

/-! ## Complete -/

/-- Everything a Complete stands for happened, in the order of its stages. -/
structure HandedOff (m : OutputPublicationManifest) (log : List Event) : Prop where
  registered : .acknowledged (m.effect .ownerRegister) ∈ log
  reserved : .received m.publicationId .prepared ∈ log
  prepared : ∀ i ∈ m.transferIndices, .acknowledged (m.effect (.prepare i.1 i.2)) ∈ log
  materialized : ∀ s < m.slots.length, .acknowledged (m.effect (.materialize s)) ∈ log
  promoted : ∀ i ∈ m.transferIndices, .acknowledged (m.effect (.promote i.1 i.2)) ∈ log
  armed : .received m.publicationId .armed ∈ log
  intended_first : ∀ key, key.isForward = true →
    Precedes log (.intended (m.effect key)) (.acknowledged (m.effect key))
  reserved_first : ∀ key, key.isForward = true → key ≠ .ownerRegister →
    Precedes log (.received m.publicationId .prepared) (.intended (m.effect key))
  registered_before_prepared : ∀ s t, Precedes log
    (.acknowledged (m.effect .ownerRegister)) (.acknowledged (m.effect (.prepare s t)))
  prepared_before_materialized : ∀ i ∈ m.transferIndices, ∀ s, Precedes log
    (.acknowledged (m.effect (.prepare i.1 i.2))) (.acknowledged (m.effect (.materialize s)))
  materialized_before_promoted : ∀ s < m.slots.length, ∀ s' t, Precedes log
    (.acknowledged (m.effect (.materialize s))) (.intended (m.effect (.promote s' t)))

theorem handedOff {r : JournalRecord} {log : List Event} (h : r.Recorded log)
    (hready : r.readyToComplete = true) : HandedOff r.manifest log := by
  simp only [JournalRecord.readyToComplete, JournalRecord.preparationReady, Bool.and_eq_true,
    JournalRecord.acked_iff, JournalRecord.allMaterialized_iff] at hready
  obtain ⟨⟨⟨hregistered, hmaterialized⟩, hpromoted⟩, harmed⟩ := hready
  have hin : ∀ {ev : Event}, ev.publicationId = r.manifest.publicationId → r.Happened ev →
      ev ∈ log := fun hown hhappened => (h.happened _ hown).mp hhappened
  have hmaterialized' : ∀ s < r.manifest.slots.length,
      .acknowledged (r.effect (.materialize s)) ∈ log := fun s hs => hin rfl (hmaterialized s hs)
  have hslot : 0 < r.manifest.slots.length := by simp [r.manifest.slots_eq]
  -- the only slot waited for the reservation and for every prepare
  have hwaited : ∀ x ∈ r.manifest.awaited (.materialize 0), x ∈ log := by
    intro x hx
    exact (h.ordered x _ (.acknowledgement hx)).mem (hmaterialized' 0 hslot)
  have hprepared : ∀ i ∈ r.manifest.transferIndices, ∀ s,
      .acknowledged (r.effect (.prepare i.1 i.2)) ∈ r.manifest.awaited (.materialize s) := by
    intro i hi s
    exact List.mem_append_right _ (List.mem_map.mpr ⟨i, hi, rfl⟩)
  constructor
  · exact hin rfl hregistered
  · exact hwaited _ (by simp [OutputPublicationManifest.awaited,
      OutputPublicationManifest.awaited.reserved])
  · exact fun i hi => hwaited _ (hprepared i hi 0)
  · exact hmaterialized'
  · intro i hi
    simp only [JournalRecord.allPromoted, List.all_eq_true, JournalRecord.acked_iff] at hpromoted
    exact hin rfl (hpromoted i hi)
  · exact hin rfl (Option.isSome_iff_ne_none.mp harmed)
  · exact fun key hkey => h.ordered _ _ (.intended hkey)
  · intro key hforward hkey
    refine h.ordered _ _ (.intent ?_)
    cases key with
    | ownerRegister => exact absurd rfl hkey
    | prepare | materialize | promote =>
      simp [OutputPublicationManifest.awaited, OutputPublicationManifest.awaited.reserved]
    | _ => cases hforward
  · intro s t
    refine h.ordered _ _ (.acknowledgement ?_)
    simp [OutputPublicationManifest.awaited, OutputPublicationManifest.awaited.reserved]
  · exact fun i hi s => h.ordered _ _ (.acknowledgement (hprepared i hi s))
  · intro s hs s' t
    refine h.ordered _ _ (.intent ?_)
    exact List.mem_append_right _ (List.mem_map.mpr ⟨s, List.mem_range.mpr hs, rfl⟩)

/-- A step that sets a Complete takes place after the whole handoff. -/
def CompletesHandedOff (log : List Event) (s s' : OutputPublicationJournal) : Prop :=
  ∀ p r r', s.records.get? p = some r → r.complete = none →
    s'.records.get? p = some r' → r'.complete ≠ none → HandedOff r.manifest log

/-- Complete is set only after the owner registration, every child and data effect and both
receipts, in their order. -/
theorem complete_after_handoff (ops : List Op) (op : Op) :
    CompletesHandedOff (outputs step events empty ops) (run step empty ops)
      ((run step empty ops).step op) := by
  have h := logged_run ops
  generalize run step empty ops = s at h
  generalize outputs step events empty ops = log at h
  intro p r r' hr hnone hr' hsome
  have hcall := callStep h.sound op
  generalize s.events op = evs at hcall
  generalize s.step op = s' at hcall hr'
  cases hcall with
  | same =>
    cases hr.symm.trans hr'
    exact absurd hnone hsome
  | opened manifest new =>
    cases (Dict.get?_set_kept new hr).symm.trans hr'
    exact absurd hnone hsome
  | moved p' r₀ r₁ known _ moves =>
    by_cases heq : p' = p
    · subst heq
      cases known.symm.trans hr
      cases (Dict.get?_set_self _ _ _).symm.trans hr'
      exact handedOff (h.recorded p' r hr) (moves.ready hnone hsome)
    · cases (Dict.get?_set_of_ne _ _ heq).symm.trans hr' |>.symm.trans hr
      exact absurd hnone hsome

end OutputPublicationJournal

end MiniRay
