import MiniRay.Core.WorkerDeathSteps

/-! Every record before the cursor is installed everywhere, and no record after the next one is
installed anywhere. What the records before the cursor made collectable is handed over, unless an
interrupt comes in between. -/

namespace MiniRay

open Checked Run DeathSync

namespace DeathJournal

variable {ε : Type} {journal journal' : List WorkerDeathRecord} {c c' : DeathSync ε}

/-- What records before the cursor made collectable is handed over, or next to be. -/
def Handed (journal : List WorkerDeathRecord) (c : DeathSync ε) : Prop :=
  ∀ i d known, i < c.cursor → journal[i]? = some d → d.ConfirmedExit →
    c.ownerTable.deadWorkerCleanups.get? d.workerId = some known →
      ∀ o ∈ known.collectableObjectIds, o ∈ c.handedOver ∨ i + 1 = c.cursor ∧ o ∈ awaiting c.point

variable {lossless : Prop}

theorem Handed.step (h : Handed journal c) (hknown : Known journal c)
    (hs : Steps journal c lossless c') (hl : lossless) : Handed journal c' := by
  intro i d known hi hget hexit hcleanup o ho
  cases hs with
  | grows _ hg _ hhanded hkept =>
    rw [hg.cursor] at hi ⊢
    obtain ⟨known', hold, _⟩ := (hknown.installed i d hi hget hexit).fenced
    have hsame := (hg.cleanups _ _ hold).symm.trans hcleanup
    rw [Option.some.injEq] at hsame
    subst hsame
    rcases h i d known' hi hget hexit hold o ho with hold | ⟨hlast, hold⟩
    · exact .inl (hhanded o hold)
    · exact (hkept hl o hold).imp_right fun hnew => ⟨hlast, hnew⟩
  | commits watermark d' rest collectable next suffix quiet installed =>
    change i < c.cursor + 1 at hi
    rcases Nat.lt_succ_iff_lt_or_eq.mp hi with hlt | rfl
    · rcases h i d known hlt hget hexit hcleanup o ho with hold | ⟨_, hold⟩
      · exact .inl hold
      · rw [quiet] at hold
        cases hold
    · rw [hget, Option.some.injEq] at next
      subst next
      refine .inr ⟨rfl, ?_⟩
      rw [(installed hexit).2 known hcleanup] at ho
      exact ho

/-! ## Other threads -/

theorem other_grows [BEq ε] (hknown : Known journal c) (a : Action ε) :
    Grows journal c (other c a) ∧ (other c a).point = c.point ∧
      (other c a).handedOver = c.handedOver := by
  have hsame : c.Fenced c := .refl c
  have herase : ∀ {κ ν : Type} [DecidableEq κ] (d : Dict κ ν) (k x : κ), d.get? x = none →
      (d.erase k).get? x = none := by
    intro κ ν _ d k x hx
    rw [Dict.get?_erase, hx, ite_self]
  cases a with
  | call op =>
    simp only [other]
    by_cases hop : Op.InstallsDeath op = true
    · rw [if_pos hop]
      exact ⟨.refl c, rfl, rfl⟩
    · rw [if_neg hop]
      refine ⟨.of_same rfl ?_ rfl rfl ⟨fun _ _ h => h, fun _ _ h => h, fun _ _ h => h⟩, rfl, rfl⟩
      exact ObjectOwnerTable.step_deaths _ op (by simpa using hop)
  | oweBorrowed obligation =>
    simp only [other]
    by_cases halive : c.ownerIsDead obligation.release.ownerWorkerId = true
    · rw [if_pos halive]
      exact ⟨.refl c, rfl, rfl⟩
    · rw [if_neg halive]
      refine ⟨.of_same rfl rfl rfl rfl ⟨fun key hdead h => ?_, hsame.attempts, hsame.guards⟩,
        rfl, rfl⟩
      have hne : obligation.key ≠ key := by
        rintro rfl
        exact halive hdead
      exact (Dict.get?_setDefault_of_ne _ _ hne).trans h
  | oweAttempt obligation =>
    simp only [other]
    by_cases halive : c.ownerIsDead obligation.transfer.ownerWorkerId = true
    · rw [if_pos halive]
      exact ⟨.refl c, rfl, rfl⟩
    · rw [if_neg halive]
      refine ⟨.of_same rfl rfl rfl rfl ⟨hsame.borrowed, fun key hdead h => ?_, hsame.guards⟩,
        rfl, rfl⟩
      have hne : obligation.key ≠ key := by
        rintro rfl
        exact halive hdead
      exact (Dict.get?_setDefault_of_ne _ _ hne).trans h
  | oweGuard guard =>
    simp only [other]
    by_cases halive : c.ownerIsDead guard.ownerWorkerId = true
    · rw [if_pos halive]
      exact ⟨.refl c, rfl, rfl⟩
    · rw [if_neg halive]
      refine ⟨.of_same rfl rfl rfl rfl ⟨hsame.borrowed, hsame.attempts, fun key hdead h => ?_⟩,
        rfl, rfl⟩
      have hne : guard.key ≠ key := by
        rintro rfl
        exact halive hdead
      exact (Dict.get?_set_of_ne _ _ hne).trans h
  | settleBorrowed key =>
    exact ⟨.of_same rfl rfl rfl rfl ⟨fun _ _ => herase _ _ _, fun _ _ h => h, fun _ _ h => h⟩,
      rfl, rfl⟩
  | settleAttempt key =>
    exact ⟨.of_same rfl rfl rfl rfl ⟨fun _ _ h => h, fun _ _ => herase _ _ _, fun _ _ h => h⟩,
      rfl, rfl⟩
  | settleGuard key =>
    exact ⟨.of_same rfl rfl rfl rfl ⟨fun _ _ h => h, fun _ _ h => h, fun _ _ => herase _ _ _⟩,
      rfl, rfl⟩
  | lookupOwner owner =>
    simp only [other]
    cases hget : c.ownerTable.deadWorkerCleanups.get? owner with
    | none => exact ⟨.refl c, rfl, rfl⟩
    | some known =>
      dsimp only
      cases hmark : c.foreign.markOwnerDead known.record with
      | error _ => exact ⟨.refl c, rfl, rfl⟩
      | ok foreign =>
        obtain ⟨_, _, _, hown, _⟩ := hknown.cleanups _ _ hget
        exact ⟨marks_grows hget hown hmark c.point, rfl, rfl⟩
  | collections _ | finishes _ _ | sessions _ _ =>
    exact ⟨.of_same rfl rfl rfl rfl ⟨fun _ _ h => h, fun _ _ h => h, fun _ _ h => h⟩, rfl, rfl⟩
  | register _ _ | report _ | failNode _ | begin | receive _ | advance | raise _ =>
    exact ⟨.refl c, rfl, rfl⟩

theorem other_steps [BEq ε] (hknown : Known journal c) (hplaced : Placed journal c) (a : Action ε) :
    Steps journal c True (other c a) := by
  obtain ⟨hg, hpoint, hhanded⟩ := other_grows hknown a
  refine .grows _ hg (hplaced.grow hg hpoint) (fun _ ho => hhanded ▸ ho) fun _ o ho => .inr ?_
  rwa [hpoint]

/-! ## Runs -/

structure Inv (s : DeathJournal ε) : Prop where
  gcs : s.gcs.Inv
  known : Known s.gcs.deathJournal s.core
  placed : Placed s.gcs.deathJournal s.core

theorem Known.step (h : Known journal c) (hs : Steps journal c lossless c') : Known journal c' := by
  cases hs with
  | grows _ hg _ _ _ => exact h.grow hg
  | commits watermark d rest collectable next suffix quiet installed =>
    have hreached : ∀ d, Reached journal c.cursor d → Reached journal (c.cursor + 1) d :=
      fun d hd => hd.mono (List.prefix_refl _) (Nat.le_succ _)
    refine ⟨?_, fun w known hk => ?_, fun w d hd => ?_, h.owners, fun i d' hi hget hexit => ?_⟩
    · obtain ⟨hlt, _⟩ := List.getElem?_eq_some_iff.mp next
      exact hlt
    · obtain ⟨d, hd, hrest⟩ := h.cleanups w known hk
      exact ⟨d, hreached d hd, hrest⟩
    · exact ⟨(h.records w d hd).1, hreached d (h.records w d hd).2⟩
    · change i < c.cursor + 1 at hi
      have hhere : Installed c d' := by
        rcases Nat.lt_succ_iff_lt_or_eq.mp hi with hlt | rfl
        · exact h.installed i d' hlt hget hexit
        · rw [hget, Option.some.injEq] at next
          subst next
          exact (installed hexit).1
      exact ⟨hhere.fenced, hhere.recorded, ⟨hhere.released.borrowed, hhere.released.attempts,
        hhere.released.guards⟩⟩

theorem Placed.step (hs : Steps journal c lossless c') : Placed journal c' := by
  cases hs with
  | grows _ _ hp _ _ => exact hp
  | commits watermark d rest collectable next suffix quiet installed =>
    exact .resting suffix nofun

variable {s : DeathJournal ε}

/-- The step would lose objects that are to be handed over. -/
def LosesHandover (s : DeathJournal ε) : Action ε → Prop
  | .raise interrupt => Loses s.core interrupt
  | _ => False

/-- A step of the journal or of the Core, seen from the consumer. -/
inductive Moves (s : DeathJournal ε) (lossless : Prop) : DeathJournal ε → Prop
  | journal (gcs : WorkerRegistry) (keeps : s.gcs.Keeps gcs) :
      Moves s lossless { s with gcs := gcs }
  | core (c : DeathSync ε) (steps : Steps s.gcs.deathJournal s.core lossless c) :
      Moves s lossless { s with core := c }

theorem step_moves [BEq ε] (h : Inv s) (a : Action ε) :
    Moves s (¬ LosesHandover s a) (s.step a) := by
  have hj := genuine_journal h.gcs
  cases a with
  | register nodes incarnation =>
    exact .journal _ (h.gcs.registered (WorkerRegistry.register_spec nodes incarnation))
  | report request => exact .journal _ (h.gcs.keeps_report request)
  | failNode death => exact .journal _ (h.gcs.failNode death)
  | begin => exact .core _ ((begin_steps h.placed).mono fun _ => trivial)
  | receive reply => exact .core _ ((receive_steps h.placed hj reply).mono fun _ => trivial)
  | advance => exact .core _ ((advance_steps h.known h.placed hj).mono fun _ => trivial)
  | raise interrupt => exact .core _ (raise_steps h.known h.placed hj interrupt)
  | _ => exact .core _ ((other_steps h.known h.placed _).mono fun _ => trivial)

theorem Inv.step [BEq ε] (h : Inv s) (a : Action ε) : Inv (s.step a) := by
  have hmoves := step_moves h a
  generalize s.step a = s' at hmoves
  cases hmoves with
  | journal gcs keeps =>
    exact ⟨keeps.inv, h.known.append keeps.journal, h.placed.append keeps.journal⟩
  | core c steps => exact ⟨h.gcs, h.known.step steps, .step steps⟩

theorem Handed.append (h : Handed journal c) (hknown : Known journal c)
    (hj : journal <+: journal') : Handed journal' c := by
  intro i d known hi hget
  have hlt : i < journal.length := hi.trans_le hknown.cursor_le
  refine h i d known hi ?_
  rw [← hget, List.prefix_iff_getElem?.mp hj i hlt, List.getElem?_eq_getElem hlt]

theorem Handed.moves {s' : DeathJournal ε} (h : Inv s) (hh : Handed s.gcs.deathJournal s.core)
    (hm : Moves s lossless s') (hl : lossless) : Handed s'.gcs.deathJournal s'.core := by
  cases hm with
  | journal gcs keeps => exact hh.append h.known keeps.journal
  | core c steps => exact hh.step h.known steps hl

/-- An interrupt comes only when no object is still to be handed over. -/
def Regular (s : DeathJournal ε) (a : Action ε) : Prop := ¬ LosesHandover s a

theorem inv_run [BEq ε] (actions : List (Action ε)) :
    Inv (run step ({} : DeathJournal ε) actions) := by
  refine run_invariant (p := Inv) (fun s a h => h.step a) ?_ actions
  refine ⟨WorkerRegistry.inv_new, ⟨Nat.zero_le _, ?_, ?_, ?_, ?_⟩, .resting List.nil_prefix nofun⟩
  · intro w known h
    cases h
  · intro w d h
    cases h
  · intro w r h
    cases h
  · intro i d hi
    cases hi

theorem handed_run [BEq ε] {actions : List (Action ε)}
    (hrun : Admissible step Regular ({} : DeathJournal ε) actions) :
    Handed (run step ({} : DeathJournal ε) actions).gcs.deathJournal
      (run step ({} : DeathJournal ε) actions).core := by
  have hboth := hrun.invariant
    (p := fun s : DeathJournal ε => Inv s ∧ Handed s.gcs.deathJournal s.core)
    (fun s a hok h => ⟨h.1.step a, Handed.moves h.1 h.2 (step_moves h.1 a) hok⟩)
    ⟨inv_run [], fun i d known hi => by cases hi⟩
  exact hboth.2

/-- What a consumer of the journal has to guarantee in a state it reaches. -/
structure ConsumerSpec (s : DeathJournal ε) : Prop where
  /-- The records before the cursor are a beginning of the journal, -/
  cursor_le : s.core.cursor ≤ s.gcs.deathJournal.length
  /-- each unexpected one of them is installed everywhere, exactly as it was recorded, -/
  installed : ∀ i d, i < s.core.cursor → s.gcs.deathJournal[i]? = some d → d.ConfirmedExit →
    Installed s.core d
  /-- and of the others at most the next one is, be it only in part. -/
  next : ∀ i d, s.core.cursor < i → s.gcs.deathJournal[i]? = some d →
    s.core.ownerTable.deadWorkerCleanups.get? d.workerId = none ∧
      s.core.deathRecords.get? d.workerId = none ∧
        s.core.foreign.deadOwners.get? d.workerId = none
  /-- Nothing is installed that the journal does not hold. -/
  recorded : ∀ w known, s.core.ownerTable.deadWorkerCleanups.get? w = some known →
    ∃ d ∈ s.gcs.deathJournal, d.ConfirmedExit ∧ d.workerId = w ∧ known.record.workerId = w ∧
      known.record.deathId = d.referenceId
  /-- What became collectable is handed to collection; when no synchronisation is under way,
  this is done. -/
  handed : ∀ i d known, i < s.core.cursor → s.gcs.deathJournal[i]? = some d → d.ConfirmedExit →
    s.core.ownerTable.deadWorkerCleanups.get? d.workerId = some known →
      ∀ o ∈ known.collectableObjectIds,
        o ∈ s.core.handedOver ∨ i + 1 = s.core.cursor ∧ o ∈ awaiting s.core.point
  /-- An installation that failed half-way is repeated with the same candidates. -/
  replayed : ∀ (d : WorkerDeathRecord) known, s.core.ownerTable.deadWorkerCleanups.get? d.workerId =
    some known → ∀ repeated table, s.core.ownerTable.installDeadWorker d.workerId d.referenceId =
      .ok (repeated, table) → repeated = known ∧ table = s.core.ownerTable

theorem Inv.unreached (h : Inv s) {i : Nat} {d d' : WorkerDeathRecord} (hi : s.core.cursor < i)
    (hget : s.gcs.deathJournal[i]? = some d)
    (hreached : Reached s.gcs.deathJournal s.core.cursor d') (hid : d'.workerId = d.workerId) :
    False := by
  have hj := genuine_journal h.gcs
  have hsame := hj.unique d' hreached.mem d (List.mem_of_getElem? hget) hid
  subst hsame
  obtain ⟨j, hj', hget', _⟩ := hreached
  have hepoch := hj.epoch i _ hget
  have hepoch' := hj.epoch j _ hget'
  omega

/-- As long as no interrupt comes between the cursor and the last hand-over, the consumer
keeps up with the journal in every state it reaches. -/
theorem worker_death_consumer {ε : Type} [BEq ε] (actions : List (Action ε))
    (hrun : Admissible step Regular ({} : DeathJournal ε) actions) :
    ConsumerSpec (run step ({} : DeathJournal ε) actions) := by
  have h := inv_run actions
  refine ⟨h.known.cursor_le, h.known.installed, fun i d hi hget => ⟨?_, ?_, ?_⟩, ?_,
    handed_run hrun, ?_⟩
  · cases hknown : (run step ({} : DeathJournal ε) actions).core.ownerTable.deadWorkerCleanups.get?
      d.workerId with
    | none => rfl
    | some known =>
      obtain ⟨d', hd', hid, _⟩ := h.known.cleanups _ _ hknown
      exact (h.unreached hi hget hd' hid).elim
  · cases hrecord : (run step ({} : DeathJournal ε) actions).core.deathRecords.get? d.workerId with
    | none => rfl
    | some d' =>
      obtain ⟨hid, hd'⟩ := h.known.records _ _ hrecord
      exact (h.unreached hi hget hd' hid).elim
  · cases howner : (run step ({} : DeathJournal ε) actions).core.foreign.deadOwners.get?
      d.workerId with
    | none => rfl
    | some r =>
      obtain ⟨known, hknown, _⟩ := h.known.owners _ _ howner
      obtain ⟨d', hd', hid, _⟩ := h.known.cleanups _ _ hknown
      exact (h.unreached hi hget hd' hid).elim
  · intro w known hknown
    obtain ⟨d, hd, hid, hown, hdeath⟩ := h.known.cleanups w known hknown
    obtain ⟨_, _, _, hexit⟩ := id hd
    exact ⟨d, hd.mem, hexit, hid, hown, hdeath⟩
  · intro d known hknown repeated table hinstall
    exact (ObjectOwnerTable.installDeadWorker_receipt hinstall).repeated known hknown

/-! ## One dead borrower -/

/-- Outside a synchronisation, what records before the cursor made collectable is handed over. -/
def HandsOver (s : DeathJournal ε) : Prop :=
  s.core.point = .idle → ∀ i d known, i < s.core.cursor → s.gcs.deathJournal[i]? = some d →
    d.ConfirmedExit → s.core.ownerTable.deadWorkerCleanups.get? d.workerId = some known →
      ∀ o ∈ known.collectableObjectIds, o ∈ s.core.handedOver

namespace Sample

def home : NodeRegistry where
  nodes := Dict.empty.set ⟨1⟩ {
    nodeId := ⟨1⟩
    nodePid := 11
    registrationEpoch := 1
    address := default
    positive := by decide }

def borrowing : WorkerIncarnation := ⟨⟨1⟩, 11, 1, ⟨5⟩, 55, by decide⟩

def exited : ReportWorkerDeath := ⟨"killed", borrowing, 1, .processExit, by decide⟩

def exitRecord : WorkerDeathRecord := exited.record 1 (by decide)

def lent : ObjectID := ⟨⟨3⟩, 0⟩

/-- A Worker borrows an object and exits, and the cursor has passed its death. -/
def consumed : List (Action Unit) :=
  [.register home borrowing, .report exited, .call (.register lent none none none),
    .call (.addBorrowedReference lent (.worker ⟨5⟩ "handle")), .begin,
    .receive (some ⟨0, 1, [0]⟩), .advance, .advance, .advance, .advance, .advance, .advance]

/-- An interrupt comes right after. -/
def lost : DeathJournal Unit := run step ({} : DeathJournal Unit) (consumed ++ [.raise true])

theorem lost_idle : lost.core.point = .idle := by decide +kernel

theorem lost_cursor : 0 < lost.core.cursor := by decide +kernel

theorem lost_journal : lost.gcs.deathJournal[0]? = some exitRecord := by decide +kernel

theorem lost_installed :
    (lost.core.ownerTable.deadWorkerCleanups.get? exitRecord.workerId).isSome = true := by
  decide +kernel

theorem lost_collectable : ∀ known ∈ lost.core.ownerTable.deadWorkerCleanups.get?
    exitRecord.workerId, lent ∈ known.collectableObjectIds := by decide +kernel

theorem lost_handedOver : lent ∉ lost.core.handedOver := by decide +kernel

end Sample

open Sample in
theorem worker_death_consumer_exit :
    Admissible step Regular ({} : DeathJournal Unit) (consumed ++ [.advance, .advance, .advance]) ∧
      ConsumerSpec (run step ({} : DeathJournal Unit)
        (consumed ++ [.advance, .advance, .advance])) := by
  have hrun : Admissible step Regular ({} : DeathJournal Unit)
      (consumed ++ [.advance, .advance, .advance]) := by
    simp [consumed, Admissible, Regular, LosesHandover]
  exact ⟨hrun, worker_death_consumer _ hrun⟩

open Sample in
/-- An interrupt right after the cursor moved: the object is never handed to collection. -/
theorem interrupt_loses_handover : ¬ ∀ actions : List (Action Unit),
    HandsOver (run step ({} : DeathJournal Unit) actions) := by
  intro h
  have hlost : HandsOver lost := by
    unfold lost
    exact h _
  obtain ⟨known, hknown⟩ := Option.isSome_iff_exists.mp lost_installed
  exact lost_handedOver (hlost lost_idle 0 exitRecord known lost_cursor lost_journal (.inl rfl)
    hknown lent (lost_collectable known hknown))

end DeathJournal

end MiniRay
