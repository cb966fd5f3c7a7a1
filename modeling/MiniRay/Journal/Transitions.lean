import MiniRay.Library.Causal
import MiniRay.Journal.Journal

/-! What one call can do to one record, and what it adds to the history of its publication. -/

namespace MiniRay

open Checked Run

/-! ## Addressed keys -/

/-- An operation that rollback may have to undo, or the owner registration. -/
def OperationKey.isForward (key : OperationKey) : Bool := !key.stage.isRollback

namespace OutputPublicationManifest

variable {m : OutputPublicationManifest}

theorem mem_undoOrder {key : OperationKey} : key ∈ m.undoOrder ↔
    match key with
    | .materialize s => s < m.slots.length
    | .prepare s t | .promote s t => m.transfer? s t ≠ none
    | _ => False := by
  simp only [undoOrder, List.mem_append, List.mem_map, List.mem_reverse, List.mem_range]
  constructor
  · rintro (⟨s, hs, rfl⟩ | ⟨⟨s, t⟩, hst, rfl⟩ | ⟨⟨s, t⟩, hst, rfl⟩)
    · exact hs
    · exact mem_transferIndices.mp hst
    · exact mem_transferIndices.mp hst
  · cases key with
    | materialize s => exact fun h => .inl ⟨s, h, rfl⟩
    | promote s t => exact fun h => .inr (.inl ⟨(s, t), mem_transferIndices.mpr h, rfl⟩)
    | prepare s t => exact fun h => .inr (.inr ⟨(s, t), mem_transferIndices.mpr h, rfl⟩)
    | _ => exact False.elim

end OutputPublicationManifest

namespace JournalRecord

variable {r r' : JournalRecord}

theorem requireActive_eq_ok {u : Unit} : r.requireActive = .ok u ↔ r.state = .active := by
  simp [requireActive]

theorem mem_undoOrder_of_checkKey {key k : OperationKey} (h : r.checkKey key = .ok ())
    (hk : key.inverse = some k) : key ∈ r.manifest.undoOrder := by
  rw [OutputPublicationManifest.mem_undoOrder]
  cases key with
  | materialize s =>
    simp only [checkKey, OperationKey.slotIndex, checkSome, bind_eq_ok, raiseIf_eq_ok] at h
    obtain ⟨_, _, _, _, _, hslot, _⟩ := h
    exact not_le.mp hslot
  | prepare s t | promote s t =>
    simp only [checkKey, OperationKey.slotIndex, OperationKey.transferIndex, checkSome,
      bind_eq_ok, raiseIf_eq_ok] at h
    obtain ⟨_, _, _, _, _, _, htransfer⟩ := h
    exact htransfer
  | _ => cases hk

theorem requireEffect_eq_ok {e : OutputPublicationEffect} :
    r.requireEffect e = .ok () ↔ r.checkKey e.key = .ok () ∧ e = r.effect e.key := by
  simp only [requireEffect, bind_eq_ok, raiseIf_eq_ok, not_not]
  exact ⟨fun h => h.elim fun _ h => h, fun h => ⟨(), h⟩⟩

/-! ## What a stage waits for -/

end JournalRecord

/-- A line of the history: an intent, a first acknowledgement, or a retained receipt. -/
inductive Event
  | intended (e : OutputPublicationEffect)
  | acknowledged (e : OutputPublicationEffect)
  | received (p : OutputPublicationID) (stage : PublicationStage)

def Event.publicationId : Event → OutputPublicationID
  | .intended e => e.publicationId
  | .acknowledged e => e.publicationId
  | .received p _ => p

/-- The events that an effect on this key waits for. -/
def OutputPublicationManifest.awaited (m : OutputPublicationManifest) : OperationKey → List Event
  | .prepare _ _ => reserved
  | .materialize _ => reserved ++ prepared
  | .promote _ _ =>
    reserved ++ prepared ++
      (List.range m.slots.length).map fun s => .acknowledged (m.effect (.materialize s))
  | _ => []
where
  reserved : List Event :=
    [.acknowledged (m.effect .ownerRegister), .received m.publicationId .prepared]
  prepared : List Event :=
    m.transferIndices.map fun (s, t) => .acknowledged (m.effect (.prepare s t))

/-- What an event waits for: its stage, and for an acknowledgement its intent as well. -/
inductive OutputPublicationManifest.Requires (m : OutputPublicationManifest) : Event → Event → Prop
  | intent {key : OperationKey} {x : Event} (h : x ∈ m.awaited key) :
      Requires m x (.intended (m.effect key))
  | acknowledgement {key : OperationKey} {x : Event} (h : x ∈ m.awaited key) :
      Requires m x (.acknowledged (m.effect key))
  | intended {key : OperationKey} (h : key.isForward = true) :
      Requires m (.intended (m.effect key)) (.acknowledged (m.effect key))

namespace JournalRecord

variable {r r' : JournalRecord}

def Happened (r : JournalRecord) : Event → Prop
  | .intended e => e ∈ r.intents
  | .acknowledged e => r.acknowledgements.get? e ≠ none
  | .received _ stage => r.publicationReceipts.get? stage ≠ none

variable {key : OperationKey}

theorem acked_iff : r.acked key = true ↔ r.Happened (.acknowledged (r.effect key)) := by
  simp [acked, Happened, Option.isSome_iff_ne_none]

theorem allPrepared_iff : r.allPrepared = true ↔
    ∀ x ∈ OutputPublicationManifest.awaited.prepared r.manifest, r.Happened x := by
  simp only [allPrepared, List.all_eq_true, acked_iff, OutputPublicationManifest.awaited.prepared,
    List.forall_mem_map]

theorem allMaterialized_iff : r.allMaterialized = true ↔ ∀ s < r.manifest.slots.length,
    r.Happened (.acknowledged (r.effect (.materialize s))) := by
  simp only [allMaterialized, List.all_eq_true, acked_iff, List.mem_range]

theorem awaited_of_requireStageReady (h : r.requireStageReady key.stage = .ok ()) :
    ∀ x ∈ r.manifest.awaited key, r.Happened x := by
  have hnone : ∀ {stage}, r.publicationReceipts.get? stage ≠ none →
      r.Happened (.received r.manifest.publicationId stage) := fun h => h
  cases key <;>
    simp only [requireStageReady, requireAllPrepared, OperationKey.stage, reduceCtorEq, if_false,
      if_true, bind_eq_ok, raiseIf_eq_ok, pure_eq_ok, exists_const, Bool.not_eq_false, acked_iff,
      allPrepared_iff, allMaterialized_iff, and_true] at h <;>
    simp only [OutputPublicationManifest.awaited, OutputPublicationManifest.awaited.reserved,
      List.forall_mem_append, List.forall_mem_cons, List.forall_mem_map, List.mem_range,
      List.not_mem_nil, false_imp_iff, implies_true, and_true]
  case prepare => exact ⟨h.1, hnone h.2⟩
  case materialize => exact ⟨⟨h.1, hnone h.2.1⟩, h.2.2.2⟩
  case promote => exact ⟨⟨⟨h.1, hnone h.2.1⟩, h.2.2.1.2⟩, h.2.2.2⟩

/-! ## One call -/

/-- What a call does to a record, and what it adds to the history. -/
inductive Moves (r : JournalRecord) : List Event → JournalRecord → Prop
  | stayed : Moves r [] r
  | intended (key : OperationKey) (forward : key.isForward = true) (active : r.state = .active)
      (known : r.checkKey key = .ok ()) (ready : ∀ x ∈ r.manifest.awaited key, r.Happened x) :
      Moves r [.intended (r.effect key)] { r with intents := r.intents.insert (r.effect key) }
  | acknowledged (key : OperationKey) (forward : key.isForward = true) (active : r.state = .active)
      (intended : r.effect key ∈ r.intents) (ready : ∀ x ∈ r.manifest.awaited key, r.Happened x)
      (ack : OutputPublicationAck) (isAck : ack.effect = r.effect key) (payload : AckPayload)
      (valid : ∃ given, r.validatePayload key given = .ok payload) :
      Moves r [.acknowledged (r.effect key)]
        { r.keepPayload (r.effect key) payload with
          acknowledgements := r.acknowledgements.set (r.effect key) ack }
  | received (stage : PublicationStage) (receipt : PublicationReceipt) :
      Moves r [.received r.manifest.publicationId stage]
        { r with publicationReceipts := r.publicationReceipts.set stage receipt }
  | completed (witness : OutputPublicationCompleteWitness)
      (ready : r.complete = none → r.state = .active ∧ r.readyToComplete = true)
      (held : r.results.items.length = r.manifest.slots.length) :
      Moves r [] { r with complete := some witness, state := .completed }
  | rollbackBegun (active : r.state = .active) (incomplete : r.complete = none)
      (unplanned : r.rollback = none) (rollbackId : String) (named : rollbackId ≠ "")
      (r' : JournalRecord)
      (finished : finishRollbackIfReady { r with
        rollback := some (r.rollbackPlan rollbackId named)
        state := .rollingBack } (r.rollbackPlan rollbackId named) = .ok r') : Moves r [] r'
  | rollbackAcked (plan : OutputPublicationRollbackPlan) (planned : r.rollback = some plan)
      (ack : OutputPublicationAck) (next : r.nextRollback plan = some ack.effect)
      (reply kept : Option CleanupReply) (valid : r.cleanupReply ack.effect.key reply = .ok kept)
      (r' : JournalRecord)
      (finished : (r.keepCleanup ack kept).finishRollbackIfReady plan = .ok r') :
      Moves r [.acknowledged ack.effect] r'
  | retired (terminals : List OutputPublicationSlotTombstone) (complete : r.complete ≠ none) :
      Moves r [] (terminals.foldl commitRetirement r)
  | ownerDied (death : WorkerDeathRecord) :
      Moves r [] { r with ownerDeath := some death, results := .empty, state := .retired }

/-! ## What a record call does -/

theorem beginEffect_moves {e : OutputPublicationEffect} (hforward : key.isForward = true)
    (h : r.beginEffect key = .ok (e, r')) : Moves r [.intended e] r' := by
  simp only [beginEffect, bind_eq_ok, requireActive_eq_ok, pure_eq_ok, Prod.mk.injEq] at h
  obtain ⟨_, hactive, _, hknown, _, hready, rfl, rfl⟩ := h
  exact .intended key hforward hactive hknown (awaited_of_requireStageReady hready)

theorem ackForward_moves {ack : OutputPublicationAck} {payload : AckPayload} {isNew : Bool}
    (hforward : ack.effect.key.isForward = true) (h : r.ackForward ack payload = .ok (isNew, r')) :
    Moves r (if isNew then [.acknowledged ack.effect] else []) r' := by
  simp only [ackForward, bind_eq_ok, requireActive_eq_ok, raiseIf_eq_ok, not_not] at h
  obtain ⟨_, hactive, _, hexact, _, hintended, _, hready, payload', hvalid, h⟩ := h
  obtain ⟨_, heffect⟩ := requireEffect_eq_ok.mp hexact
  split at h
  · simp only [bind_eq_ok, pure_eq_ok, Prod.mk.injEq] at h
    obtain ⟨_, _, rfl, rfl⟩ := h
    exact .stayed
  · simp only [pure_eq_ok, Prod.mk.injEq] at h
    obtain ⟨rfl, rfl⟩ := h
    generalize hkey : ack.effect.key = key at *
    simp only [heffect] at hintended ⊢
    exact .acknowledged key hforward hactive hintended
      (awaited_of_requireStageReady (by rwa [← hkey])) ack heffect payload' ⟨payload, hvalid⟩

theorem recordPublicationReply_moves {request : PublicationRequest} {reply : PublicationReply}
    {stage : PublicationStage} {forward : Bool} {receipt : PublicationReceipt}
    (h : r.recordPublicationReply request reply stage forward = .ok (receipt, r')) :
    Moves r [.received r.manifest.publicationId receipt.stage] r' := by
  unfold recordPublicationReply at h
  split at h
  · next receipt' snapshot hreceipt hsnapshot =>
    simp only [bind_eq_ok, raiseIf_eq_ok, pure_eq_ok, Prod.mk.injEq, not_or, not_not] at h
    obtain ⟨_, ⟨_, _, _, hstage, _⟩, _, _, _, _, rfl, rfl⟩ := h
    rw [hstage]
    exact .received stage receipt'
  · cases h

theorem completeWith_moves {witness : OutputPublicationCompleteWitness}
    {envelope : OutputPublicationEnvelope} (h : r.completeWith witness = .ok (envelope, r')) :
    Moves r [] r' := by
  simp only [completeWith, bind_eq_ok, raiseIf_eq_ok, pure_eq_ok, Prod.mk.injEq, not_not] at h
  obtain ⟨_, _, _, hready, _, _, _, hheld, _, _, _, _, _, rfl⟩ := h
  refine .completed witness ?_ hheld
  intro hcomplete
  simp only [hcomplete, if_true, bind_eq_ok, requireActive_eq_ok, raiseIf_eq_ok,
    Bool.not_eq_false] at hready
  obtain ⟨_, hactive, hready⟩ := hready
  exact ⟨hactive, hready⟩

theorem prepareRetirement_complete {slotIndex : Nat} {proof : OutputPublicationRetirementProof}
    {terminal : OutputPublicationSlotTombstone}
    (h : r.prepareRetirement slotIndex proof = .ok terminal) : r.complete ≠ none := by
  simp only [prepareRetirement, bind_eq_ok] at h
  obtain ⟨_, _, h⟩ := h
  split at h
  · cases h
  · simp only [bind_eq_ok, raiseIf_eq_ok] at h
    obtain ⟨_, hcomplete, _⟩ := h
    exact hcomplete

theorem retireCompleted_moves {proof : OutputPublicationAdoptionProof}
    {terminals : List OutputPublicationSlotTombstone}
    (h : r.retireCompleted proof = .ok (terminals, r')) : Moves r [] r' := by
  simp only [retireCompleted, bind_eq_ok, mapM_eq_ok, pure_eq_ok, Prod.mk.injEq] at h
  obtain ⟨_, hterminals, rfl, rfl⟩ := h
  rw [r.manifest.slots_eq] at hterminals
  obtain ⟨terminal, _, hterminal, _, _⟩ := List.forall₂_cons_left_iff.mp hterminals
  exact .retired _ (prepareRetirement_complete hterminal)

end JournalRecord

end MiniRay
