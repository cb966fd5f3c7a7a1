import MiniRay.Journal.History

/-! Complete and rollback exclude each other, a rollback undoes every effect that was ever intended
and nothing else, and it ends exactly when all of it was undone, in order. -/

namespace MiniRay

open Checked Run

namespace JournalRecord

variable {r r' : JournalRecord}

theorem requireActive_error (h : r.state ≠ .active) :
    r.requireActive = .error (.journalState "forward work requires an ACTIVE publication") := by
  simp [requireActive, raiseIf, h]

theorem beginEffect_error (h : r.state ≠ .active) (key : OperationKey) :
    ∃ e, r.beginEffect key = .error e := by
  rw [beginEffect, requireActive_error h]
  exact ⟨_, rfl⟩

theorem ackForward_error (h : r.state ≠ .active) (ack : OutputPublicationAck)
    (payload : AckPayload) : ∃ e, r.ackForward ack payload = .error e := by
  rw [ackForward, requireActive_error h]
  exact ⟨_, rfl⟩

/-! ## The error that is never raised -/

/-- What a finish would raise over a result that no drop retired. -/
def leftover : JournalError := .journalState "rollback left unretired materialized payloads"

/-- Another error than `leftover`. -/
def Other (e : JournalError) : Prop := e ≠ leftover

@[simp] theorem other_journalState {message : String} :
    Other (.journalState message) ↔ message ≠ "rollback left unretired materialized payloads" := by
  simp [Other, leftover]

@[simp] theorem other_conflict (message : String) : Other (.conflict message) := nofun

@[simp] theorem other_valueError (message : String) : Other (.valueError message) := nofun

@[simp] theorem other_typeError (message : String) : Other (.typeError message) := nofun

@[simp] theorem other_keyError : Other .keyError := nofun

@[simp] theorem other_payloadRetired (p : OutputPublicationID)
    (tombstones : List OutputPublicationSlotTombstone) : Other (.payloadRetired p tombstones) :=
  nofun

abbrev Clean {α : Type} (x : Except JournalError α) : Prop := RaisesOnly Other x

@[simp] theorem clean_certify {c : Prop} [Decidable c] {e : JournalError} (h : Other e) :
    Clean (certify c e) := by
  unfold certify
  split
  · exact raisesOnly_ok
  · exact raisesOnly_error.mpr h

@[simp] theorem clean_subscript {κ ν : Type} [DecidableEq κ] (d : Dict κ ν) (k : κ) :
    Clean (subscript d k) := by
  unfold subscript
  split <;> simp

theorem clean_mapM {α β : Type} {f : α → Except JournalError β} (h : ∀ a, Clean (f a))
    (xs : List α) : Clean (xs.mapM f) := by
  induction xs with
  | nil => simp
  | cons x xs ih => simp [List.mapM_cons, h x, ih]

@[simp] theorem clean_requireActive : Clean r.requireActive := by simp [requireActive]

@[simp] theorem clean_checkKey (key : OperationKey) : Clean (r.checkKey key) := by
  simp [checkKey]

@[simp] theorem clean_requireEffect (e : OutputPublicationEffect) : Clean (r.requireEffect e) := by
  simp [requireEffect]

@[simp] theorem clean_requireStageReady (stage : OutputPublicationStage) :
    Clean (r.requireStageReady stage) := by
  simp [requireStageReady, requireAllPrepared]

@[simp] theorem clean_transferAt (s t : Nat) : Clean (r.transferAt s t) := by
  unfold transferAt
  split <;> simp

@[simp] theorem clean_beginEffect (key : OperationKey) : Clean (r.beginEffect key) := by
  simp [beginEffect]

@[simp] theorem clean_validateDescriptor (s : Nat) (d : ResultDescriptor) :
    Clean (r.validateDescriptor s d) := by
  have hcopy : Clean ((checkedDescriptor d).mapError fun e => .valueError e.message) := by
    intro e he
    cases h : checkedDescriptor d with
    | error raised =>
      rw [h] at he
      cases he
      exact other_valueError _
    | ok d' =>
      rw [h] at he
      cases he
  simp only [validateDescriptor, raisesOnly_bind]
  refine ⟨hcopy, fun d' _ => ?_⟩
  split <;> simp

@[simp] theorem clean_validateChildReply (isPrepare : Bool) (s t : Nat)
    (reply : StoredContainedPinReply) : Clean (r.validateChildReply isPrepare s t reply) := by
  simp [validateChildReply]

@[simp] theorem clean_validatePayload (key : OperationKey) (payload : AckPayload) :
    Clean (r.validatePayload key payload) := by
  unfold validatePayload
  split <;> simp

@[simp] theorem clean_checkReplay (key : OperationKey) (payload : AckPayload) :
    Clean (r.checkReplay key payload) := by
  unfold checkReplay
  split <;> simp

@[simp] theorem clean_ackForward (ack : OutputPublicationAck) (payload : AckPayload) :
    Clean (r.ackForward ack payload) := by
  simp [ackForward]

@[simp] theorem clean_preparationReceipt : Clean r.preparationReceipt := by
  have hreplies : ∀ key, Clean (r.childRepliesOf key) := fun key => clean_mapM (fun _ => by simp) _
  have hcheck : ∀ b replies label, Clean (checkReplies b replies label) := by
    intro b replies label
    simp [checkReplies]
  simp [preparationReceipt, hreplies, hcheck]

@[simp] theorem clean_checkForward (snapshot : PublicationSnapshot) (stage : PublicationStage) :
    Clean (r.checkForward snapshot stage) := by
  simp [checkForward]

@[simp] theorem clean_recordPublicationReply (request : PublicationRequest)
    (reply : PublicationReply) (stage : PublicationStage) (forward : Bool) :
    Clean (r.recordPublicationReply request reply stage forward) := by
  unfold recordPublicationReply
  split <;> simp

@[simp] theorem clean_completeWith (witness : OutputPublicationCompleteWitness) :
    Clean (r.completeWith witness) := by
  have hresults : Clean ((List.range r.manifest.slots.length).mapM (subscript r.results)) :=
    clean_mapM (fun _ => by simp) _
  simp [completeWith, createEnvelope, hresults]

@[simp] theorem clean_admitRollback (rollbackId : String) : Clean (r.admitRollback rollbackId) := by
  simp only [admitRollback, raisesOnly_bind]
  refine ⟨by simp, fun _ _ => ?_⟩
  split <;> simp

@[simp] theorem clean_ownerDeathOf (death : Option WorkerDeathRecord) :
    Clean (ownerDeathOf death) := by
  unfold ownerDeathOf
  split <;> simp [checkOwnerDeath]

@[simp] theorem clean_cleanupReply (key : OperationKey) (reply : Option CleanupReply) :
    Clean (r.cleanupReply key reply) := by
  have hreply : ∀ s t, Clean (r.validateCleanupReply key s t reply) := by
    intro s t
    simp only [validateCleanupReply, raisesOnly_bind]
    refine ⟨by simp, fun _ _ => ?_⟩
    split <;> simp
  unfold cleanupReply
  split <;> simp [hreply]

@[simp] theorem clean_admitRollbackAck (ack : OutputPublicationAck) (reply : Option CleanupReply) :
    Clean (r.admitRollbackAck ack reply) := by
  simp only [admitRollbackAck, raisesOnly_bind]
  refine ⟨by simp, fun _ _ => ?_⟩
  split <;> simp

@[simp] theorem clean_prepareRetirement (s : Nat) (proof : OutputPublicationRetirementProof) :
    Clean (r.prepareRetirement s proof) := by
  simp only [prepareRetirement, raisesOnly_bind]
  refine ⟨by simp, fun _ _ => ?_⟩
  split <;> simp

end JournalRecord

namespace OutputPublicationJournal

open JournalRecord

variable {s : OutputPublicationJournal}

variable {α : Type} {p : OutputPublicationID} {reply : α → Reply}

theorem clean_on {f : JournalRecord → Except JournalError α × JournalRecord}
    (hf : ∀ r, s.records.get? p = some r → Clean (f r).1) : Clean (s.on p reply f).1 := by
  unfold on
  split
  · exact raisesOnly_error.mpr (by rintro ⟨⟩)
  · next r hr => exact fun e he => hf r hr e (map_eq_error.mp he)

variable {f : JournalRecord → Except JournalError (α × JournalRecord)}

theorem clean_atomic (hf : ∀ r, Clean (f r)) : Clean (s.on p reply (atomic f)).1 := by
  refine clean_on fun r _ e he => ?_
  unfold atomic at he
  split at he
  · cases he
  · next e' he' =>
    cases he
    exact hf r _ he'

theorem clean_ackStage (stage : OutputPublicationStage) (ack : OutputPublicationAck)
    (payload : AckPayload) : Clean (s.ackForward stage ack payload).1 := by
  unfold ackForward
  split
  · exact raisesOnly_error.mpr (by rintro ⟨⟩)
  · exact clean_atomic fun r => clean_ackForward ack payload

theorem clean_call (hs : s.Sound) (op : Op) : Clean (s.call op).1 := by
  cases op with
  | open_ manifest =>
    simp only [call, open_]
    split
    · split
      · exact raisesOnly_error.mpr (by rintro ⟨⟩)
      · exact raisesOnly_ok
    · exact raisesOnly_ok
  | beginOwnerRegister p => exact clean_atomic fun r => clean_beginEffect _
  | beginPrepare p s t => exact clean_atomic fun r => clean_beginEffect _
  | beginMaterialize p s => exact clean_atomic fun r => clean_beginEffect _
  | beginPromote p s t => exact clean_atomic fun r => clean_beginEffect _
  | ackOwnerRegistered ack => exact clean_ackStage _ ack _
  | ackPrepared ack reply => exact clean_ackStage _ ack _
  | ackMaterialized ack descriptor => exact clean_ackStage _ ack _
  | ackPromoted ack reply => exact clean_ackStage _ ack _
  | recordPublicationReply p request reply stage forward =>
    simp only [call]
    split
    · exact raisesOnly_error.mpr (by rintro ⟨⟩)
    · exact clean_atomic fun r => clean_recordPublicationReply _ _ _ _
  | complete p witness => exact clean_atomic fun r => clean_completeWith witness
  | beginRollback p rollbackId =>
    simp only [call]
    split
    · exact raisesOnly_error.mpr (by rintro ⟨⟩)
    · next named =>
      refine clean_on fun r hr => ?_
      rcases beginRollback_cases (hs p r hr).2 named with ⟨e, hadmit, heq⟩ | ⟨plan, r', heq, _⟩
      · rw [heq]
        exact raisesOnly_error.mpr (clean_admitRollback rollbackId e hadmit)
      · rw [heq]
        exact raisesOnly_ok
  | ackRollback ack reply =>
    refine clean_on fun r hr => ?_
    rcases ackRollback_cases (hs _ r hr).2 ack reply with ⟨e, hadmit, heq⟩ | heq | ⟨r', heq, _⟩
    · rw [heq]
      exact raisesOnly_error.mpr (clean_admitRollbackAck ack reply e hadmit)
    · rw [heq]
      exact raisesOnly_ok
    · rw [heq]
      exact raisesOnly_ok
  | retireSlot p slotIndex proof =>
    exact clean_atomic fun r => by simp [JournalRecord.retireSlot]
  | retireCompleted proof =>
    refine clean_atomic fun r => ?_
    have hterminals := clean_mapM (fun s => clean_prepareRetirement (r := r) s (.adoption proof))
    simp [JournalRecord.retireCompleted, hterminals]
  | retireOwnerDeath p death =>
    simp only [call]
    split
    · next e he =>
      exact raisesOnly_error.mpr (by
        have hclean : Clean (JournalRecord.checkOwnerDeath death) := by
          simp [JournalRecord.checkOwnerDeath]
        exact hclean e he)
    · exact clean_atomic fun r => by simp [JournalRecord.retireOwnerDeath]

/-! ## Forward calls -/

def Op.forward? : Op → Option OutputPublicationID
  | .beginOwnerRegister p | .beginPrepare p _ _ | .beginMaterialize p _ | .beginPromote p _ _ =>
    some p
  | .ackOwnerRegistered ack | .ackPrepared ack _ | .ackMaterialized ack _ | .ackPromoted ack _ =>
    some ack.effect.publicationId
  | _ => none

variable {r : JournalRecord}

theorem on_error (hr : s.records.get? p = some r) (hf : ∃ e, f r = .error e) :
    ∃ e, (s.on p reply (atomic f)).1 = .error e := by
  obtain ⟨e, he⟩ := hf
  simp only [on, hr, atomic, he]
  exact ⟨e, rfl⟩

theorem ackForward_closed {stage : OutputPublicationStage} {ack : OutputPublicationAck}
    {payload : AckPayload} (hr : s.records.get? ack.effect.publicationId = some r)
    (hclosed : r.state ≠ .active) : ∃ e, (s.ackForward stage ack payload).1 = .error e := by
  unfold ackForward
  split
  · exact ⟨_, rfl⟩
  · exact on_error hr (ackForward_error hclosed ack payload)

/-- A closed publication accepts no forward intent and no forward acknowledgement. -/
theorem forward_closed (hr : s.records.get? p = some r) (hclosed : r.state ≠ .active) {op : Op}
    (hop : op.forward? = some p) : ∃ e, (s.call op).1 = .error e := by
  cases op <;> simp only [Op.forward?, Option.some.injEq, reduceCtorEq] at hop <;> subst hop
  case beginOwnerRegister => exact on_error hr (beginEffect_error hclosed _)
  case beginPrepare => exact on_error hr (beginEffect_error hclosed _)
  case beginMaterialize => exact on_error hr (beginEffect_error hclosed _)
  case beginPromote => exact on_error hr (beginEffect_error hclosed _)
  case ackOwnerRegistered => exact ackForward_closed hr hclosed
  case ackPrepared => exact ackForward_closed hr hclosed
  case ackMaterialized => exact ackForward_closed hr hclosed
  case ackPromoted => exact ackForward_closed hr hclosed

/-! ## Every run -/

/-- The plan undoes exactly what was ever intended, no forward work is accepted any more,
the plan stays, and the tombstone says that all of it was acknowledged in order. -/
structure Compensates (log : List Event) (s : OutputPublicationJournal) (p : OutputPublicationID)
    (r : JournalRecord) (plan : OutputPublicationRollbackPlan) : Prop where
  undoes : ∀ e, e ∈ plan.effects ↔ ∃ key k, key.inverse = some k ∧
    .intended (r.effect key) ∈ log ∧ e = r.effect k
  fences : ∀ op : Op, op.forward? = some p → ∃ e, (s.call op).1 = .error e
  stays : ∀ later, ∃ r', (run step s later).records.get? p = some r' ∧ r'.rollback = some plan
  inOrder : cleanups p log <+: plan.effects
  ends : r.rollbackTombstone ≠ none ↔ cleanups p log = plan.effects

theorem compensates {log : List Event} (h : Logged log s) (hr : s.records.get? p = some r)
    {plan : OutputPublicationRollbackPlan} (hplan : r.rollback = some plan) :
    Compensates log s p r plan := by
  obtain ⟨rfl, hsound⟩ := h.sound p r hr
  have hlog := h.recorded _ r hr
  obtain ⟨rest, hsplit⟩ := hlog.cleanup plan hplan
  refine ⟨?_, ?_, ?_, ⟨rest, hsplit.symm⟩, ?_⟩
  · intro e
    rw [hsound.mem_plan hplan]
    have hintended : ∀ key, r.effect key ∈ r.intents ↔ .intended (r.effect key) ∈ log :=
      fun key => hlog.happened (.intended (r.effect key)) rfl
    simp only [hintended]
  · exact fun op hop => forward_closed hr (hsound.frozen plan hplan).2.1 hop
  · exact rollback_run h.sound ⟨r, hr, hplan⟩
  · rw [hsound.terminal]
    constructor
    · rintro ⟨plan', hplan', hsettled⟩
      cases hplan.symm.trans hplan'
      have hrest : rest = [] := by
        rw [List.eq_nil_iff_forall_not_mem]
        intro e he
        exact nextRollback_eq_none.mp hsettled e (hsplit ▸ List.mem_append_right _ he)
          (hlog.unacked hsound hplan hsplit e he)
      rw [hsplit, hrest, List.append_nil]
    · intro heq
      refine ⟨plan, hplan, nextRollback_eq_none.mpr fun e he => ?_⟩
      exact hlog.acked (heq ▸ he)

/-- In every run, Complete and rollback exclude each other, every rollback compensates, and
no finish finds a result left over. -/
theorem rollback_compensates (ops : List Op) :
    let s := run step empty ops
    let log := outputs step events empty ops
    (∀ p r, s.records.get? p = some r →
      (r.complete = none ∨ r.rollback = none) ∧
      (r.rollbackTombstone ≠ none → r.rollback ≠ none) ∧
      ∀ plan, r.rollback = some plan → Compensates log s p r plan) ∧
    ∀ op, (s.call op).1 ≠ .error leftover := by
  have h := logged_run ops
  generalize run step empty ops = s at h
  generalize outputs step events empty ops = log at h
  refine ⟨fun p r hr => ?_, fun op hop => clean_call h.sound op _ hop rfl⟩
  have hsound := (h.sound p r hr).2
  refine ⟨?_, ?_, fun plan hplan => compensates h hr hplan⟩
  · cases hrollback : r.rollback with
    | none => exact .inr rfl
    | some plan => exact .inl (hsound.frozen plan hrollback).2.2
  · exact fun htombstone hrollback => htombstone (hsound.tombstone_none hrollback)

end OutputPublicationJournal

end MiniRay
