import MiniRay.Journal.Forward

/-! Rollback, retirement, and the calls of the journal. Compensation is planned from the intents, so
a missing acknowledgement never erases a possible effect. -/

namespace MiniRay

open Checked

/-! ## Planning a rollback -/

namespace OutputPublicationManifest

variable {m : OutputPublicationManifest}

theorem effect_injective (m : OutputPublicationManifest) {a b : OperationKey}
    (h : m.effect a = m.effect b) : a = b := (OutputPublicationEffect.mk.inj h).2.2

theorem transferIndices_eq (m : OutputPublicationManifest) :
    m.transferIndices = (List.range m.slot.transfers.length).map (0, ·) := by
  simp [transferIndices, m.slots_eq]

theorem mem_transferIndices {s t : Nat} :
    (s, t) ∈ m.transferIndices ↔ m.transfer? s t ≠ none := by
  rw [transferIndices_eq, transfer?, m.slots_eq]
  cases s with
  | zero => simp
  | succ s => simp

theorem nodup_transferIndices (m : OutputPublicationManifest) : m.transferIndices.Nodup := by
  rw [transferIndices_eq]
  exact List.nodup_range.map fun a b h => (Prod.mk.inj h).2

/-- What rollback undoes: slots before final before provisional holds, each backwards. -/
def undoOrder (m : OutputPublicationManifest) : List OperationKey :=
  (List.range m.slots.length).reverse.map .materialize ++
    (m.transferIndices.reverse.map (fun (s, t) => .promote s t) ++
      m.transferIndices.reverse.map (fun (s, t) => .prepare s t))

theorem nodup_undoOrder (m : OutputPublicationManifest) : m.undoOrder.Nodup := by
  have hindices := List.nodup_reverse.mpr m.nodup_transferIndices
  have hrange := List.nodup_reverse.mpr (List.nodup_range (n := m.slots.length))
  refine (hrange.map ?_).append ((hindices.map ?_).append (hindices.map ?_) ?_) ?_
  · exact fun a b h => OperationKey.materialize.inj h
  · exact fun a b h => Prod.ext (OperationKey.promote.inj h).1 (OperationKey.promote.inj h).2
  · exact fun a b h => Prod.ext (OperationKey.prepare.inj h).1 (OperationKey.prepare.inj h).2
  · intro k hpromote hprepare
    obtain ⟨_, _, rfl⟩ := List.mem_map.mp hpromote
    obtain ⟨_, _, h⟩ := List.mem_map.mp hprepare
    cases h
  · intro k hmaterialize hchild
    obtain ⟨_, _, rfl⟩ := List.mem_map.mp hmaterialize
    rcases List.mem_append.mp hchild with h | h <;> obtain ⟨_, _, h⟩ := List.mem_map.mp h <;>
      cases h

end OutputPublicationManifest

def CleanupReply.release? : CleanupReply → Option ReleaseContainedReferenceReply
  | .release reply => some reply
  | .workerState _ => none

/-- The death of a dead Worker's reply; only such replies are kept. -/
def CleanupReply.death? : CleanupReply → Option WorkerDeathRecord
  | .release _ => none
  | .workerState reply => reply.death

namespace JournalRecord

theorem inverse_injective {a b k : OperationKey} (ha : a.inverse = some k)
    (hb : b.inverse = some k) : a = b := by
  cases a <;> simp only [OperationKey.inverse, Option.some.injEq, reduceCtorEq] at ha <;>
    subst ha <;> cases b <;> simp_all [OperationKey.inverse]

/-- The compensation of a key that was intended. -/
def undone (r : JournalRecord) (key : OperationKey) : Option OutputPublicationEffect :=
  if r.intended key then key.inverse.map r.effect else none

variable {r : JournalRecord}

variable {key : OperationKey} {e : OutputPublicationEffect}

theorem undone_eq_some :
    r.undone key = some e ↔
      r.intended key = true ∧ ∃ k, key.inverse = some k ∧ e = r.effect k := by
  unfold undone
  split <;> simp [*, eq_comm]

def rollbackEffects (r : JournalRecord) : List OutputPublicationEffect :=
  r.manifest.undoOrder.filterMap r.undone

theorem mem_rollbackEffects :
    e ∈ r.rollbackEffects ↔ ∃ key ∈ r.manifest.undoOrder, r.intended key = true ∧
      ∃ k, key.inverse = some k ∧ e = r.effect k := by
  simp only [rollbackEffects, List.mem_filterMap, undone_eq_some]

theorem isRollback_of_inverse {k : OperationKey} (h : key.inverse = some k) :
    k.stage.isRollback = true := by
  cases key <;> simp only [OperationKey.inverse, Option.some.injEq, reduceCtorEq] at h <;>
    subst h <;> rfl

theorem rollbackEffects_own :
    ∀ e ∈ r.rollbackEffects, e.publicationId = r.manifest.publicationId ∧
      e.manifestDigest = r.manifest.manifestDigest ∧ e.stage.isRollback = true := by
  intro e he
  obtain ⟨key, _, _, k, hk, rfl⟩ := mem_rollbackEffects.mp he
  exact ⟨rfl, rfl, isRollback_of_inverse hk⟩

theorem nodup_rollbackEffects (r : JournalRecord) : r.rollbackEffects.Nodup := by
  refine List.Nodup.filterMap ?_ r.manifest.nodup_undoOrder
  intro a b e ha hb
  obtain ⟨_, k, hk, rfl⟩ := undone_eq_some.mp ha
  obtain ⟨_, k', hk', heq⟩ := undone_eq_some.mp hb
  rw [r.manifest.effect_injective heq] at hk
  exact inverse_injective hk hk'

/-- Compensation frozen from possible effects. -/
def rollbackPlan (r : JournalRecord) (rollbackId : String) (h : rollbackId ≠ "") :
    OutputPublicationRollbackPlan :=
  ⟨r.manifest.publicationId, r.manifest.manifestDigest, rollbackId, r.rollbackEffects, h,
    rollbackEffects_own, r.nodup_rollbackEffects⟩

/-! ## Driving a rollback -/

/-- The first effect of the plan that was not acknowledged. -/
def nextRollback (r : JournalRecord) (plan : OutputPublicationRollbackPlan) :
    Option OutputPublicationEffect :=
  plan.effects.find? fun e => (r.acknowledgements.get? e).isNone

def finishRollbackIfReady (r : JournalRecord) (plan : OutputPublicationRollbackPlan) :
    Except JournalError JournalRecord :=
  if (r.nextRollback plan).isSome then .ok r
  else do
    raiseIf (r.results.items ≠ [])
      (.journalState "rollback left unretired materialized payloads")
    let acknowledgements ← plan.effects.mapM (subscript r.acknowledgements)
    let ⟨hordered⟩ ← certify
      (acknowledgements.map OutputPublicationAck.effect = plan.effects)
      (.conflict "rollback terminal needs every ordered effect ACK")
    return { r with
      rollbackTombstone := some ⟨plan, acknowledgements, hordered⟩
      state := .retired }

/-- A call whose last step is the finish: a raise there leaves what it assigned before. -/
def finishing {α : Type} (r : JournalRecord) (plan : OutputPublicationRollbackPlan) (result : α) :
    Except JournalError α × JournalRecord :=
  match r.finishRollbackIfReady plan with
  | .ok finished => (.ok result, finished)
  | .error e => (.error e, r)

/-- Whether a rollback may begin; a replay returns the frozen plan. -/
def admitRollback (r : JournalRecord) (rollbackId : String) :
    Except JournalError (Option OutputPublicationRollbackPlan) := do
  raiseIf (r.complete ≠ none) (.journalState "rollback is forbidden after Complete")
  match r.rollback with
  | some plan => do
      raiseIf (plan.rollbackId ≠ rollbackId) (.conflict "rollback identity was rebound")
      return some plan
  | none => do
      r.requireActive
      return none

/-- Fence forward work and freeze compensation from possible effects. -/
def beginRollback (r : JournalRecord) (rollbackId : String) (h : rollbackId ≠ "") :
    Except JournalError OutputPublicationRollbackPlan × JournalRecord :=
  match r.admitRollback rollbackId with
  | .error e => (.error e, r)
  | .ok (some plan) => (.ok plan, r)
  | .ok none =>
    let plan := r.rollbackPlan rollbackId h
    finishing { r with rollback := some plan, state := .rollingBack } plan plan

/-- The record after a rollback effect was acknowledged. -/
def keepCleanup (r : JournalRecord) (ack : OutputPublicationAck) (reply : Option CleanupReply) :
    JournalRecord :=
  { r with
    acknowledgements := r.acknowledgements.set ack.effect ack
    results := match ack.effect.key with
      | .slotDrop slotIndex => r.results.erase slotIndex
      | _ => r.results
    cleanupReplies := match reply with
      | some reply => r.cleanupReplies.set ack.effect reply
      | none => r.cleanupReplies }

/-- The reply to keep with an acknowledged release; a slot drop has none. -/
def cleanupReply (r : JournalRecord) (key : OperationKey) (reply : Option CleanupReply) :
    Except JournalError (Option CleanupReply) :=
  match key with
  | .finalRelease s t | .provisionalRelease s t => some <$> r.validateCleanupReply key s t reply
  | _ => .ok none

/-- The plan and the kept reply of a rollback acknowledgement, or none for a replay. -/
def admitRollbackAck (r : JournalRecord) (ack : OutputPublicationAck)
    (reply : Option CleanupReply) :
    Except JournalError (Option (OutputPublicationRollbackPlan × Option CleanupReply)) := do
  r.requireEffect ack.effect
  match r.rollback with
  | none => throw (.journalState "effect is not part of this rollback")
  | some plan => do
      raiseIf (ack.effect ∉ plan.effects) (.journalState "effect is not part of this rollback")
      if (r.acknowledgements.get? ack.effect).isSome then return none
      raiseIf (r.nextRollback plan ≠ some ack.effect)
        (.journalState "rollback ACK arrived out of order")
      let kept ← r.cleanupReply ack.effect.key reply
      return some (plan, kept)

def ackRollback (r : JournalRecord) (ack : OutputPublicationAck) (reply : Option CleanupReply) :
    Except JournalError Bool × JournalRecord :=
  match r.admitRollbackAck ack reply with
  | .error e => (.error e, r)
  | .ok none => (.ok false, r)
  | .ok (some (plan, kept)) => finishing (r.keepCleanup ack kept) plan true

/-! ## What a rollback settled -/

def rollbackScope (r : JournalRecord) : Except JournalError TaskRollbackScope :=
  match r.rollback with
  | none => .error (.journalState "rollback scope requires an actual pre-Complete fence")
  | some plan => do
      raiseIf (r.complete ≠ none)
        (.journalState "rollback scope requires an actual pre-Complete fence")
      let indices (key : Nat → Nat → OperationKey) : List Nat :=
        (r.transferIndices.filter fun (s, t) => r.intended (key s t)).map Prod.snd
      let ⟨hprepares⟩ ← certify ((indices .prepare).Pairwise (· < ·))
        (.valueError "rollback indices must be sorted unique non-negative integers")
      let ⟨hpromotes⟩ ← certify ((indices .promote).Pairwise (· < ·))
        (.valueError "rollback indices must be sorted unique non-negative integers")
      let ⟨hsubset⟩ ← certify (indices .promote ⊆ indices .prepare)
        (.valueError "promotion intent requires corresponding prepare intent")
      return {
        reference := r.manifest.reference
        rollbackId := plan.rollbackId
        prepareIntents := indices .prepare
        promoteIntents := indices .promote
        materializationStarted := r.intended (.materialize 0)
        task_key := r.isOutput
        rollback_ne := plan.rollback_ne
        sorted_prepares := hprepares
        sorted_promotes := hpromotes
        promotes_prepared := hsubset }

/-- The graph retirement evidence of a completed compensation. -/
def closedRollbackHolds (r : JournalRecord) : Except JournalError ClosedContainedHolds :=
  match r.rollback with
  | none => .error (.journalState "graph retirement requires completed compensation")
  | some plan => do
      raiseIf (r.rollbackTombstone = none)
        (.journalState "graph retirement requires completed compensation")
      let scope ← r.rollbackScope
      let replies ← (plan.effects.filter (·.stage.isRelease)).mapM (subscript r.cleanupReplies)
      let releases := replies.filterMap CleanupReply.release?
      let deaths := (replies.filterMap CleanupReply.death?).eraseDups
      let ⟨haccepted⟩ ← certify (∀ reply ∈ releases, reply.accepted = true ∧ reply.error = none)
        (.valueError "closed holds require accepted exact Release replies")
      let ⟨honce⟩ ← certify
        ((releases.map fun reply => (reply.objectId, reply.ownerWorkerId, reply.hold)).Nodup)
        (.valueError "releases must not contain duplicates")
      let ⟨hdeaths⟩ ← certify (∀ death ∈ deaths, death.OwnerDeath ∧ death.ConfirmedExit)
        (.valueError "cleanup requires confirmed owner death")
      let ⟨hworkers⟩ ← certify ((deaths.map WorkerDeathRecord.workerId).Nodup)
        (.valueError "child deaths must not contain duplicates")
      let ⟨hscope⟩ ← certify (scope.reference = r.manifest.reference)
        (.valueError "rollback scope changed publication reference")
      return ⟨r.manifest.reference, releases, deaths, some scope, haccepted, honce, hdeaths,
        hworkers, fun _ h => Option.some.inj h ▸ hscope⟩

/-! ## Retirement -/

def prepareRetirement (r : JournalRecord) (slotIndex : Nat)
    (proof : OutputPublicationRetirementProof) :
    Except JournalError OutputPublicationSlotTombstone := do
  raiseIf (¬ Uint64 slotIndex) (.valueError "slot_index must be a non-negative uint64")
  match r.manifest.slots[slotIndex]? with
  | none => throw (.conflict "retirement slot is outside its manifest")
  | some slot => do
      raiseIf (r.complete = none) (.journalState "payload retirement requires local Complete")
      raiseIf (some proof.complete ≠ r.complete ∨
          proof.ownerWorkerId ≠ r.manifest.header.ownerWorkerId)
        (.conflict "retirement proof changed Complete or its owner")
      raiseIf (proof.adoption?.isSome ∧ r.adoptionProof.isSome ∧
          r.adoptionProof ≠ proof.adoption?)
        (.conflict "whole-batch owner commit identity was rebound")
      let ⟨hnames⟩ ← certify (proof.NamesSlot r.manifest.publicationId r.manifest.manifestDigest
          slotIndex slot.objectId)
        (.conflict "slot retirement proof changed its identity")
      let terminal : OutputPublicationSlotTombstone :=
        ⟨_, _, slotIndex, slot.objectId, proof, hnames⟩
      checkSome (fun previous => raiseIf (previous ≠ terminal)
        (.conflict "slot retirement proof was rebound")) (r.retiredSlots.get? slotIndex)
      return terminal

def commitRetirement (r : JournalRecord) (terminal : OutputPublicationSlotTombstone) :
    JournalRecord :=
  let retiredSlots := r.retiredSlots.set terminal.slotIndex terminal
  { r with
    retiredSlots := retiredSlots
    results := r.results.erase terminal.slotIndex
    adoptionProof := terminal.proof.adoption?.orElse fun _ => r.adoptionProof
    state := if retiredSlots.items.length = r.manifest.slots.length then .retired else r.state }

/-- Forget one reply-cache slot, never its physical replica. -/
def retireSlot (r : JournalRecord) (slotIndex : Nat) (proof : OutputPublicationRetirementProof) :
    Except JournalError (OutputPublicationSlotTombstone × JournalRecord) := do
  let terminal ← r.prepareRetirement slotIndex proof
  return (terminal, r.commitRetirement terminal)

/-- Preflight all slots, then apply the same payload retirement. -/
def retireCompleted (r : JournalRecord) (proof : OutputPublicationAdoptionProof) :
    Except JournalError (List OutputPublicationSlotTombstone × JournalRecord) := do
  let terminals ← (List.range r.manifest.slots.length).mapM fun slotIndex =>
    r.prepareRetirement slotIndex (.adoption proof)
  return (terminals, terminals.foldl commitRetirement r)

/-- Forget reply custody after exact owner-death cleanup; this is no rollback. -/
def retireOwnerDeath (r : JournalRecord) (death : WorkerDeathRecord) :
    Except JournalError (Unit × JournalRecord) := do
  raiseIf (death.workerId ≠ r.manifest.header.ownerWorkerId)
    (.conflict "cleanup names another owner")
  raiseIf (r.ownerDeath ≠ none ∧ r.ownerDeath ≠ some death)
    (.conflict "owner-death cleanup was rebound")
  return ((), { r with ownerDeath := some death, results := .empty, state := .retired })

end JournalRecord

/-! ## The journal -/

/-- One execution owns one frozen manifest. -/
structure OutputPublicationJournal where
  records : Dict OutputPublicationID JournalRecord

namespace OutputPublicationJournal

def empty : OutputPublicationJournal := ⟨.empty⟩

inductive Op
  | open_ (manifest : OutputPublicationManifest)
  | beginOwnerRegister (p : OutputPublicationID)
  | ackOwnerRegistered (ack : OutputPublicationAck)
  | beginPrepare (p : OutputPublicationID) (slotIndex transferIndex : Nat)
  | ackPrepared (ack : OutputPublicationAck) (reply : StoredContainedPinReply)
  | beginMaterialize (p : OutputPublicationID) (slotIndex : Nat)
  | ackMaterialized (ack : OutputPublicationAck) (descriptor : ResultDescriptor)
  | beginPromote (p : OutputPublicationID) (slotIndex transferIndex : Nat)
  | ackPromoted (ack : OutputPublicationAck) (reply : StoredContainedPinReply)
  | recordPublicationReply (p : OutputPublicationID) (request : PublicationRequest)
      (reply : PublicationReply) (stage : PublicationStage) (forward : Bool)
  | complete (p : OutputPublicationID) (witness : OutputPublicationCompleteWitness)
  | beginRollback (p : OutputPublicationID) (rollbackId : String)
  | ackRollback (ack : OutputPublicationAck) (reply : Option CleanupReply)
  | retireSlot (p : OutputPublicationID) (slotIndex : Nat)
      (proof : OutputPublicationRetirementProof)
  | retireCompleted (proof : OutputPublicationAdoptionProof)
  | retireOwnerDeath (p : OutputPublicationID) (death : WorkerDeathRecord)

inductive Reply
  | opened (isNew : Bool)
  | effect (effect : OutputPublicationEffect)
  | acknowledged (effect : OutputPublicationEffect) (isNew : Bool)
  | receipt (p : OutputPublicationID) (receipt : PublicationReceipt)
  | envelope (envelope : OutputPublicationEnvelope)
  | plan (plan : OutputPublicationRollbackPlan)
  | tombstones (tombstones : List OutputPublicationSlotTombstone)
  | done

def open_ (self : OutputPublicationJournal) (manifest : OutputPublicationManifest) :
    Except JournalError Reply × OutputPublicationJournal :=
  match self.records.get? manifest.publicationId with
  | some previous =>
    if previous.manifest ≠ manifest then
      (.error (.conflict "publication manifest was rebound"), self)
    else (.ok (.opened false), self)
  | none =>
    (.ok (.opened true), ⟨self.records.set manifest.publicationId (.opened manifest)⟩)

def on {α : Type} (self : OutputPublicationJournal) (p : OutputPublicationID) (reply : α → Reply)
    (f : JournalRecord → Except JournalError α × JournalRecord) :
    Except JournalError Reply × OutputPublicationJournal :=
  match self.records.get? p with
  | none => (.error .unknownPublication, self)
  | some r => ((f r).1.map reply, ⟨self.records.set p (f r).2⟩)

/-- A call that changes nothing when it raises. -/
def atomic {α : Type} (f : JournalRecord → Except JournalError (α × JournalRecord))
    (r : JournalRecord) : Except JournalError α × JournalRecord :=
  match f r with
  | .ok (a, r') => (.ok a, r')
  | .error e => (.error e, r)

def beginEffect (self : OutputPublicationJournal) (p : OutputPublicationID) (key : OperationKey) :
    Except JournalError Reply × OutputPublicationJournal :=
  self.on p .effect (atomic (·.beginEffect key))

def ackForward (self : OutputPublicationJournal) (stage : OutputPublicationStage)
    (ack : OutputPublicationAck) (payload : JournalRecord.AckPayload) :
    Except JournalError Reply × OutputPublicationJournal :=
  if ack.effect.stage ≠ stage then (.error (.conflict "ACK names another stage"), self)
  else self.on ack.effect.publicationId (.acknowledged ack.effect)
    (atomic (·.ackForward ack payload))

def call (self : OutputPublicationJournal) :
    Op → Except JournalError Reply × OutputPublicationJournal
  | .open_ manifest => self.open_ manifest
  | .beginOwnerRegister p => self.beginEffect p .ownerRegister
  | .ackOwnerRegistered ack => self.ackForward .ownerRegister ack .none
  | .beginPrepare p s t => self.beginEffect p (.prepare s t)
  | .ackPrepared ack reply => self.ackForward .prepare ack (.childReply reply)
  | .beginMaterialize p s => self.beginEffect p (.materialize s)
  | .ackMaterialized ack descriptor => self.ackForward .materialize ack (.descriptor descriptor)
  | .beginPromote p s t => self.beginEffect p (.promote s t)
  | .ackPromoted ack reply => self.ackForward .promote ack (.childReply reply)
  | .recordPublicationReply p request reply stage forward =>
    match reply.validate with
    | .error failure => (.error (.publication failure), self)
    | .ok _ =>
      self.on p (.receipt p) (atomic (·.recordPublicationReply request reply stage forward))
  | .complete p witness => self.on p .envelope (atomic (·.completeWith witness))
  | .beginRollback p rollbackId =>
    if h : rollbackId = "" then
      (.error (.typeError "rollback_id must be a non-empty string"), self)
    else self.on p .plan (·.beginRollback rollbackId h)
  | .ackRollback ack reply =>
    self.on ack.effect.publicationId (.acknowledged ack.effect) (·.ackRollback ack reply)
  | .retireSlot p slotIndex proof =>
    self.on p (.tombstones [·]) (atomic (·.retireSlot slotIndex proof))
  | .retireCompleted proof =>
    self.on proof.complete.publicationId .tombstones (atomic (·.retireCompleted proof))
  | .retireOwnerDeath p death =>
    match JournalRecord.checkOwnerDeath death with
    | .error e => (.error e, self)
    | .ok _ => self.on p (fun _ => .done) (atomic (·.retireOwnerDeath death))

def step (self : OutputPublicationJournal) (op : Op) : OutputPublicationJournal := (self.call op).2

end OutputPublicationJournal

end MiniRay
