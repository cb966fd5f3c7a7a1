import MiniRay.EnhancedPublication.Atomicity
import MiniRay.Journal.Settlement

/-! The journal reads the settled holds off its intents and replies, the authority recomputes what
must be settled from its own record; the first always meets the second. -/

namespace MiniRay

open Checked Run PublicationSnapshot JournalRecord

/-! ## The required holds -/

theorem PublicationSnapshot.mem_requiredHolds {publication : Publication} {promoted : Bool}
    {indices : List Nat × List Nat} {hold : HoldKey}
    (h : hold ∈ requiredHolds publication promoted indices) :
    ∃ index t, publication.transfers[index]? = some t ∧
      (index ∈ indices.1 ∧ hold = provisionalKey t ∨ index ∈ indices.2 ∧ hold = finalKey t) := by
  have hfold : ∀ (pairs : List (PreparedContainedTransfer × Nat)) (acc : Finset HoldKey),
      hold ∈ pairs.foldl (fun required pair =>
        let required :=
          if pair.2 ∈ indices.1 then insert (provisionalKey pair.1) required else required
        let required := if pair.2 ∈ indices.2 then insert (finalKey pair.1) required else required
        if promoted then required.erase (provisionalKey pair.1) else required) acc →
      hold ∈ acc ∨ ∃ pair ∈ pairs,
        (pair.2 ∈ indices.1 ∧ hold = provisionalKey pair.1 ∨
          pair.2 ∈ indices.2 ∧ hold = finalKey pair.1) := by
    intro pairs
    induction pairs with
    | nil => exact fun acc hmem => .inl hmem
    | cons pair pairs ih =>
      intro acc hmem
      rcases ih _ hmem with hmem | ⟨pair', hpair', hcase⟩
      · have hinserted : hold ∈ acc ∨ pair.2 ∈ indices.1 ∧ hold = provisionalKey pair.1 ∨
            pair.2 ∈ indices.2 ∧ hold = finalKey pair.1 := by
          have hmem' : hold ∈ (if pair.2 ∈ indices.2 then insert (finalKey pair.1)
              (if pair.2 ∈ indices.1 then insert (provisionalKey pair.1) acc else acc) else
              (if pair.2 ∈ indices.1 then insert (provisionalKey pair.1) acc else acc)) := by
            cases promoted with
            | false => exact hmem
            | true => exact Finset.mem_of_mem_erase hmem
          by_cases h₁ : pair.2 ∈ indices.1 <;> by_cases h₂ : pair.2 ∈ indices.2 <;>
            simp only [h₁, h₂, if_true, if_false, Finset.mem_insert] at hmem' ⊢ <;> tauto
        rcases hinserted with hacc | hcase
        · exact .inl hacc
        · exact .inr ⟨pair, by simp, hcase⟩
      · exact .inr ⟨pair', by simp [hpair'], hcase⟩
  rcases hfold _ _ h with hmem | ⟨⟨t, index⟩, hpair, hcase⟩
  · simp at hmem
  · exact ⟨index, t, List.mem_zipIdx_iff_getElem?.mp hpair, hcase⟩

namespace JournalRecord

variable {r : JournalRecord} {s : PublicationSnapshot} {closed : ClosedContainedHolds}

/-- Every forward effect that takes a hold or a slot was intended. -/
structure FullyIntended (r : JournalRecord) : Prop where
  prepared : ∀ t < r.manifest.slot.transfers.length, r.effect (.prepare 0 t) ∈ r.intents
  promoted : ∀ t < r.manifest.slot.transfers.length, r.effect (.promote 0 t) ∈ r.intents
  materialized : r.effect (.materialize 0) ∈ r.intents

theorem intendedIndices_eq_range {key : Nat → OperationKey}
    (h : ∀ t < r.manifest.slot.transfers.length, r.effect (key t) ∈ r.intents) :
    r.intendedIndices key = List.range r.manifest.slot.transfers.length := by
  refine List.filter_eq_self.mpr fun t ht => ?_
  simpa [intended] using h t (List.mem_range.mp ht)

theorem Accounts.settles (h : Accounts r closed) {hold : HoldKey} {index : Nat}
    {t : PreparedContainedTransfer} (hget : r.manifest.slot.transfers[index]? = some t)
    (hpossible : index ∈ r.intendedIndices (.prepare 0) ∧ hold = provisionalKey t ∨
      index ∈ r.intendedIndices (.promote 0) ∧ hold = finalKey t) :
    hold ∈ closed.releases.map ReleaseContainedReferenceReply.key ∨
      hold.2.1 ∈ closed.childDeaths.map WorkerDeathRecord.workerId := by
  have hsettled : ∀ key k, key.inverse = some k → r.effect key ∈ r.intents →
      r.manifest.hold? k = some hold →
      hold ∈ closed.releases.map ReleaseContainedReferenceReply.key ∨
        hold.2.1 ∈ closed.childDeaths.map WorkerDeathRecord.workerId := by
    intro key k hk hintended hhold
    rcases h.settled key k hold hk hintended hhold with ⟨reply, hmem, heq⟩ | ⟨death, hmem, heq⟩
    · exact .inl (List.mem_map.mpr ⟨reply, hmem, heq⟩)
    · exact .inr (List.mem_map.mpr ⟨death, hmem, heq⟩)
  rcases hpossible with ⟨hindex, rfl⟩ | ⟨hindex, rfl⟩
  · refine hsettled (.prepare 0 index) _ rfl (mem_intendedIndices.mp hindex).2 ?_
    exact OutputPublicationManifest.hold?_eq_some.mpr ⟨index, t, hget, .inl ⟨rfl, rfl⟩⟩
  · refine hsettled (.promote 0 index) _ rfl (mem_intendedIndices.mp hindex).2 ?_
    exact OutputPublicationManifest.hold?_eq_some.mpr ⟨index, t, hget, .inr ⟨rfl, rfl⟩⟩

theorem Accounts.validateClosed (h : Accounts r closed) {address : Address}
    (hpublication : s.publication = .task ⟨r.manifest, address⟩) (hcomplete : s.complete = none)
    (hadoption : s.adoption = none) (hprepared : s.prepared = none ∨ FullyIntended r) :
    s.validateClosed closed = .ok () := by
  obtain ⟨scope, hscope, hscopes⟩ := h.scope
  have htransfers : s.publication.transfers = r.manifest.slot.transfers := by rw [hpublication]; rfl
  have hreference : s.publication.reference = r.manifest.reference := by rw [hpublication]; rfl
  simp only [PublicationSnapshot.validateClosed, bind_eq_ok, raiseIf_eq_ok, checkSome_eq_ok,
    exists_const, checkScope, validateScope, checkSettlement]
  refine ⟨?_, ?_, ?_, ?_, ?_⟩
  · rw [PublicationSnapshot.reference, hreference, h.reference]
    exact not_not.mpr rfl
  · intro scope' hscope'
    cases hscope.symm.trans hscope'
    refine ⟨⟨?_, ?_⟩, ?_, ?_⟩
    · rw [hreference, hscopes.reference, hpublication]
      simp [Publication.isTask]
    · rintro ⟨index, hmem, hle⟩
      rw [hscopes.prepares, hscopes.promotes, htransfers] at *
      rcases List.mem_append.mp hmem with hmem | hmem
      · exact absurd (mem_intendedIndices.mp hmem).1 (not_lt.mpr hle)
      · exact absurd (mem_intendedIndices.mp hmem).1 (not_lt.mpr hle)
    · simp [hcomplete, hadoption]
    · rintro ⟨hsome, hcontradicts⟩
      have hall := hprepared.resolve_left hsome
      rw [hscopes.prepares, hscopes.promotes, hscopes.materialized, htransfers,
        intendedIndices_eq_range hall.prepared,
        intendedIndices_eq_range hall.promoted] at hcontradicts
      simp [intended, hall.materialized] at hcontradicts
  · refine not_not.mpr fun hold hmem => ?_
    obtain ⟨reply, hreply, rfl⟩ := List.mem_map.mp hmem
    obtain ⟨key, hkey⟩ := h.releases reply hreply
    obtain ⟨t, transfer, hget, hcase⟩ := OutputPublicationManifest.hold?_eq_some.mp hkey
    rw [htransfers]
    refine List.mem_flatMap.mpr ⟨transfer, List.mem_of_getElem? hget, ?_⟩
    rcases hcase with ⟨_, heq⟩ | ⟨_, heq⟩
    · exact List.mem_cons.mpr (.inl heq)
    · exact List.mem_cons_of_mem _ (List.mem_singleton.mpr heq)
  · refine not_not.mpr fun worker hmem => ?_
    obtain ⟨death, hdeath, rfl⟩ := List.mem_map.mp hmem
    obtain ⟨key, hold, hkey, howner⟩ := h.deaths death hdeath
    obtain ⟨t, transfer, hget, hcase⟩ := OutputPublicationManifest.hold?_eq_some.mp hkey
    rw [htransfers]
    refine List.mem_map.mpr ⟨transfer, List.mem_of_getElem? hget, ?_⟩
    rw [howner]
    rcases hcase with ⟨_, rfl⟩ | ⟨_, rfl⟩ <;> rfl
  · rintro ⟨hold, hmem, hreleased, hdead⟩
    obtain ⟨index, t, hget, hpossible⟩ := mem_requiredHolds hmem
    rw [htransfers] at hget
    rw [hscope] at hpossible
    simp only [possibleIndices, hscopes.prepares, hscopes.promotes] at hpossible
    rcases h.settles hget hpossible with hsettled | hsettled
    · exact hreleased hsettled
    · exact hdead hsettled

end JournalRecord

/-! ## Retirement -/

namespace PublicationAuthority

/-- A retirement with valid evidence for a fenced record that holds no other is accepted. -/
theorem retireGraph_accepted (requests : List PublicationRequest) {s : PublicationSnapshot}
    {closed : ClosedContainedHolds}
    (hget : (after requests).records.get? closed.reference.key = some s)
    (hreference : s.reference = closed.reference) (hfence : s.fence ≠ none)
    (hunretired : s.receipt .retired = none) (hvalid : s.validateClosed closed = .ok ()) :
    ∃ reply, ((after requests).apply (.retireGraph closed)).1 = .ok reply ∧
      reply.accepted = true := by
  have hinv := inv_after requests
  have hclosed : s.closedHolds = none := by
    rw [← Option.not_isSome_iff_eq_none, (hinv.records _ s hget).closed_receipt, has, hunretired]
    exact Bool.false_ne_true
  have hgated : Gated (after requests) (.retireGraph closed) := by
    refine ⟨?_, .inr ⟨s, { s with closedHolds := some closed }, ?_, ?_⟩⟩
    · intro s' hs'
      cases hget.symm.trans hs'
      exact hreference
    · simp only [addressed, PublicationRequest.reference, hget, PublicationRequest.publication]
      rfl
    · simp [changes, bind_eq_ok, hfence, hvalid, hclosed]
  obtain ⟨reply, hreply, _⟩ := apply_outcome hinv (.retireGraph closed)
  exact ⟨reply, hreply, (accepted_iff_gated hinv hreply).mpr hgated⟩

end PublicationAuthority

namespace OutputPublicationJournal

/-- The record is fenced, open to retirement, and has at most this run's preparation receipt. -/
structure AwaitsRetirement (ops : List Op) (p : OutputPublicationID) (r : JournalRecord)
    (s : PublicationSnapshot) : Prop where
  publication : ∃ address, s.publication = .task ⟨r.manifest, address⟩
  fenced : s.fence ≠ none
  unretired : s.receipt .retired = none
  incomplete : s.complete = none
  prepared : s.prepared = none ∨ ∃ before r₀ receipt, before <+: ops ∧
    (run step empty before).records.get? p = some r₀ ∧ r₀.preparationReceipt = .ok receipt ∧
    s.prepared = some (.task receipt)

variable {receipt : TaskPreparedReceipt}

theorem preparationReady_of_receipt {r : JournalRecord} (h : r.preparationReceipt = .ok receipt) :
    r.preparationReady = true := by
  simp only [preparationReceipt, bind_eq_ok, raiseIf_eq_ok, Bool.not_eq_false] at h
  obtain ⟨_, _, _, hready, _⟩ := h
  exact hready

theorem fullyIntended_of_receipt {before later : List Op} {p : OutputPublicationID}
    {r₀ r : JournalRecord} (hr₀ : (run step empty before).records.get? p = some r₀)
    (hreceipt : r₀.preparationReceipt = .ok receipt)
    (hr : (run step empty (before ++ later)).records.get? p = some r) : FullyIntended r := by
  have hbefore := logged_run before
  have hall := (hbefore.recorded p r₀ hr₀).allIntended (preparationReady_of_receipt hreceipt)
  have hafter := logged_run (before ++ later)
  have hlog := hafter.recorded p r hr
  have hmanifest : r.manifest = r₀.manifest := by
    rw [run_append] at hr
    obtain ⟨r', hr', heq⟩ := follows_run (P := fun r => r.manifest = r₀.manifest)
      (fun _ _ _ _ hmoves heq => hmoves.manifest.trans heq) hbefore.sound ⟨r₀, hr₀, rfl⟩ later
    cases hr.symm.trans hr'
    exact heq
  have hintended : ∀ key, .intended (r₀.effect key) ∈ outputs step events empty before →
      r.effect key ∈ r.intents := by
    intro key hin
    have heffect : r₀.effect key = r.effect key := by
      rw [JournalRecord.effect, JournalRecord.effect, hmanifest]
    rw [heffect] at hin
    refine (hlog.happened (.intended _) rfl).mpr ?_
    rw [outputs_append]
    exact List.mem_append_left _ hin
  have hindex : ∀ t < r.manifest.slot.transfers.length, (0, t) ∈ r₀.manifest.transferIndices := by
    intro t ht
    rw [OutputPublicationManifest.transferIndices_eq, ← hmanifest]
    exact List.mem_map.mpr ⟨t, List.mem_range.mpr ht, rfl⟩
  refine ⟨?_, ?_, hintended _ hall.materialized⟩
  · exact fun t ht => hintended _ (hall.prepared _ (hindex t ht))
  · exact fun t ht => hintended _ (hall.promoted _ (hindex t ht))

/-- A finished rollback over distinct holds, with one confirmed death per dead child owner,
yields evidence that the authority accepts wherever the publication awaits retirement. -/
theorem closed_holds_accepted (ops : List Op) (p : OutputPublicationID) (r : JournalRecord)
    (hr : (run step empty ops).records.get? p = some r) (hended : r.rollbackTombstone ≠ none)
    (hdistinct : r.manifest.DistinctHolds) (hone : r.OneDeath) (hconfirmed : r.ConfirmedDeaths) :
    ∃ closed, r.closedRollbackHolds = .ok closed ∧ ∀ requests s,
      (PublicationAuthority.after requests).records.get? (.output p) = some s →
      AwaitsRetirement ops p r s →
      ∃ reply, ((PublicationAuthority.after requests).apply (.retireGraph closed)).1 = .ok reply ∧
        reply.accepted = true := by
  have hlogged := logged_run ops
  obtain ⟨rfl, hsound⟩ := hlogged.sound p r hr
  obtain ⟨closed, hclosed, haccounts⟩ := closedRollbackHolds_ok hsound (kept_run ops _ r hr)
    (hlogged.recorded _ r hr) hended hdistinct hone hconfirmed
  refine ⟨closed, hclosed, fun requests s hs hawaits => ?_⟩
  obtain ⟨address, hpublication⟩ := hawaits.publication
  have hvalid := (PublicationAuthority.inv_after requests).records _ s hs
  have hadoption : s.adoption = none := by
    by_contra hadopted
    obtain ⟨adoption, hadoption⟩ := Option.ne_none_iff_exists'.mp hadopted
    have hcomplete := (hvalid.adoption_fact adoption hadoption).1
    cases hawaits.incomplete.symm.trans hcomplete
  have hprepared : s.prepared = none ∨ FullyIntended r := by
    refine hawaits.prepared.imp_right ?_
    rintro ⟨before, r₀, receipt, ⟨later, rfl⟩, hr₀, hreceipt, _⟩
    exact fullyIntended_of_receipt hr₀ hreceipt hr
  have hreference : s.reference = r.manifest.reference := by
    rw [PublicationSnapshot.reference, hpublication]
    rfl
  refine PublicationAuthority.retireGraph_accepted requests ?_ ?_ hawaits.fenced hawaits.unretired
    (haccounts.validateClosed hpublication hawaits.incomplete hadoption hprepared)
  · rw [haccounts.reference]
    exact hs
  · rw [haccounts.reference, hreference]

end OutputPublicationJournal

namespace JournalRecord

/-! ## A rollback over a dead child owner

The run prepares one child, rolls back, and settles the hold by the death of its owner. -/

namespace Sample

variable (m : OutputPublicationManifest)

/-- The owner registration, intended and acknowledged. -/
def ownerKnown : JournalRecord :=
  { opened m with
    intents := (opened m).intents.insert (m.effect .ownerRegister)
    acknowledgements := (opened m).acknowledgements.set (m.effect .ownerRegister)
      ⟨m.effect .ownerRegister, .applied⟩ }

theorem ack_owner :
    ({ opened m with intents := (opened m).intents.insert (m.effect .ownerRegister) } :
      JournalRecord).ackForward ⟨m.effect .ownerRegister, .applied⟩ .none =
      .ok (true, ownerKnown m) := by
  simp [ackForward, opened, requireActive, requireEffect, checkKey, checkSome, requireStageReady,
    validatePayload, keepPayload, ownerKnown, OutputPublicationManifest.effect,
    OutputPublicationEffect.stage, OperationKey.stage, OperationKey.slotIndex,
    OperationKey.transferIndex]

def receipt : PublicationReceipt := ⟨m.reference, .prepared, 2, by decide⟩

def address : Address := default

def snapshot : PublicationSnapshot :=
  { PublicationSnapshot.registered (.task ⟨m, address⟩) with
    receipts := [⟨m.reference, .intent, 1, Nat.one_pos⟩, receipt m] }

theorem valid_snapshot : (snapshot m).validate = .ok () := by
  simp [snapshot, PublicationSnapshot.registered, validate, validateSnapshot, receipt,
    PublicationSnapshot.reference, Publication.reference, TaskPublication.reference,
    OutputPublicationManifest.reference, has, PublicationSnapshot.receipt, checkSome, causalOrder,
    checkOrder, raiseIf, checkAll]

def reserved : JournalRecord :=
  { ownerKnown m with
    publicationReceipts := (ownerKnown m).publicationReceipts.set .prepared (receipt m) }

def reply : PublicationReply :=
  .accept (.prepareGraph m.reference) (some (snapshot m)) (some (receipt m))

theorem valid_reply : (reply m).validate = .ok () := by
  have href : (snapshot m).reference = m.reference := rfl
  have hin : receipt m ∈ (snapshot m).receipts := by simp [snapshot]
  simp [reply, PublicationReply.validate, PublicationReply.accept, checkSome, valid_snapshot, href,
    hin, PublicationRequest.reference]

theorem record_reply : (ownerKnown m).recordPublicationReply (.prepareGraph m.reference) (reply m)
    .prepared false = .ok (receipt m, reserved m) := by
  have href : (snapshot m).reference = m.reference := rfl
  have href' : (receipt m).reference = m.reference := rfl
  have hstage : (receipt m).stage = .prepared := rfl
  simp [recordPublicationReply, reply, PublicationReply.accept, href, href', hstage, checkSome,
    reserved, ownerKnown, opened]

/-- The child is prepared, as far as the intents tell. -/
def childIntended : JournalRecord :=
  { reserved m with intents := (reserved m).intents.insert (m.effect (.prepare 0 0)) }

variable {t : PreparedContainedTransfer} (ht : m.slot.transfers = [t])

/-- The release that undoes the prepared child. -/
def release : OutputPublicationEffect := m.effect (.provisionalRelease 0 0)

include ht in
theorem transfer?_first : m.transfer? 0 0 = some t := by
  simp [OutputPublicationManifest.transfer?, m.slots_eq, ht]

include ht in
theorem begin_prepare : (reserved m).beginEffect (.prepare 0 0) =
    .ok (m.effect (.prepare 0 0), childIntended m) := by
  simp [beginEffect, requireActive, reserved, ownerKnown, opened, checkKey, checkSome,
    OperationKey.slotIndex, OperationKey.transferIndex, transfer?_first m ht, m.slots_eq, Uint64,
    requireStageReady, OperationKey.stage, acked, childIntended]

def plan : OutputPublicationRollbackPlan := (childIntended m).rollbackPlan "rollback" (by decide)

include ht in
theorem plan_effects : (plan m).effects = [release m] := by
  have hinj : ∀ a b, m.effect a = m.effect b ↔ a = b :=
    fun a b => ⟨m.effect_injective, fun h => h ▸ rfl⟩
  show (childIntended m).rollbackEffects = _
  simp [rollbackEffects, childIntended, reserved, ownerKnown, opened, release,
    OutputPublicationManifest.undoOrder, m.slots_eq, OutputPublicationManifest.transferIndices_eq,
    ht, undone, intended, hinj, OperationKey.inverse, List.range_succ]

def death (owner : WorkerID) (reason : WorkerDeathReason) : WorkerDeathRecord where
  detectionId := "owner-exit"
  incarnation := ⟨⟨7⟩, 1, 1, owner, 1, by decide⟩
  deathEpoch := 1
  exitCode := 0
  reason := reason
  detection_ne := by decide
  epoch_pos := Nat.one_pos

def dead (owner : WorkerID) (reason : WorkerDeathReason) : GetWorkerStateReply where
  workerId := owner
  found := true
  watermark := 1
  state := some .dead
  incarnation := some (death owner reason).incarnation
  death := some (death owner reason)
  error := none
  missing := nofun
  present := fun _ => ⟨rfl, nofun, rfl, fun _ => ⟨_, rfl, rfl, le_rfl⟩, nofun⟩

def rolling : JournalRecord :=
  { childIntended m with rollback := some (plan m), state := .rollingBack }

theorem release_unacked : (rolling m).acknowledgements.get? (release m) = none := by
  have hne : m.effect .ownerRegister ≠ release m := by
    intro h
    cases m.effect_injective h
  simp [rolling, childIntended, reserved, ownerKnown, opened, Dict.get?_set_of_ne _ _ hne]

include ht in
theorem rolling_next : (rolling m).nextRollback (plan m) = some (release m) := by
  simp [nextRollback, plan_effects m ht, release_unacked]

include ht in
theorem begin_rollback :
    (childIntended m).beginRollback "rollback" (by decide) = (.ok (plan m), rolling m) := by
  have hfinish : (rolling m).finishRollbackIfReady (plan m) = .ok (rolling m) := by
    simp [finishRollbackIfReady, rolling_next m ht]
  have hadmit : (childIntended m).admitRollback "rollback" = .ok none := by
    simp [admitRollback, childIntended, reserved, ownerKnown, opened, requireActive]
  unfold beginRollback
  rw [ hadmit]
  show finishing (rolling m) (plan m) (plan m) = _
  rw [finishing, hfinish]

/-- The record that acknowledged the release with the death of the child owner. -/
structure Ended (reason : WorkerDeathReason) (r : JournalRecord) : Prop where
  manifest : r.manifest = m
  rollback : r.rollback = some (plan m)
  replies : r.cleanupReplies =
    Dict.empty.set (release m) (.workerState (dead t.containedOwnerWorkerId reason))
  tombstone : r.rollbackTombstone ≠ none

include ht in
theorem ack_rollback (reason : WorkerDeathReason) : ∃ r,
    (rolling m).ackRollback ⟨release m, .applied⟩
      (some (.workerState (dead t.containedOwnerWorkerId reason))) = (.ok true, r) ∧
      Ended m (t := t) reason r := by
  have hvalid : (rolling m).cleanupReply (release m).key
      (some (.workerState (dead t.containedOwnerWorkerId reason))) =
      .ok (some (.workerState (dead t.containedOwnerWorkerId reason))) := by
    have hfirst : (rolling m).manifest.transfer? 0 0 = some t := transfer?_first m ht
    have htransfer : (rolling m).transferAt 0 0 = .ok t := by rw [transferAt, hfirst]
    simp [cleanupReply, release, OutputPublicationManifest.effect, validateCleanupReply, htransfer,
      dead, ownerDeathOf_eq_ok, WorkerDeathRecord.OwnerDeath, death, WorkerDeathRecord.workerId,
      Uint64]
  have hexact : (rolling m).requireEffect (release m) = .ok () := by
    refine requireEffect_eq_ok.mpr ⟨?_, rfl⟩
    simp [rolling, childIntended, reserved, ownerKnown, opened, checkKey, checkSome, release,
      OutputPublicationManifest.effect, OperationKey.slotIndex, OperationKey.transferIndex,
      transfer?_first m ht, m.slots_eq, Uint64]
  have hadmit : (rolling m).admitRollbackAck ⟨release m, .applied⟩
      (some (.workerState (dead t.containedOwnerWorkerId reason))) =
      .ok (some (plan m, some (.workerState (dead t.containedOwnerWorkerId reason)))) := by
    have hplan : (rolling m).rollback = some (plan m) := rfl
    simp [admitRollbackAck, hexact, hplan, plan_effects m ht, release_unacked, rolling_next m ht,
      hvalid]
  let kept := (rolling m).keepCleanup ⟨release m, .applied⟩
    (some (.workerState (dead t.containedOwnerWorkerId reason)))
  have hacked : kept.acknowledgements.get? (release m) = some ⟨release m, .applied⟩ :=
    Dict.get?_set_self _ _ _
  have hnext : kept.nextRollback (plan m) = none := by
    simp [nextRollback, plan_effects m ht, hacked]
  have hresults : kept.results.items = [] := rfl
  have hfinish : ∃ r, kept.finishRollbackIfReady (plan m) = .ok r := by
    have hmapped : (plan m).effects.mapM (subscript kept.acknowledgements) =
        .ok [⟨release m, .applied⟩] := by
      rw [plan_effects m ht, mapM_eq_ok]
      exact .cons (subscript_eq_ok.mpr hacked) .nil
    have hordered : [(⟨release m, .applied⟩ : OutputPublicationAck)].map
        OutputPublicationAck.effect = (plan m).effects := (plan_effects m ht).symm
    rw [finishRollbackIfReady, hnext]
    exact bind_ok_of (raiseIf_ok (not_not.mpr hresults)) (bind_ok_of hmapped
      (bind_ok_of (certify_ok hordered) ⟨_, rfl⟩))
  obtain ⟨r, hr⟩ := hfinish
  refine ⟨r, ?_, ?_⟩
  · rw [ackRollback, hadmit]
    show finishing kept (plan m) true = _
    rw [finishing, hr]
  · cases finishes_of_ok hr with
    | waits pending => exact absurd hnext pending
    | ends settled tombstone => exact ⟨rfl, rfl, rfl, by rintro ⟨⟩⟩

end Sample
end JournalRecord

namespace OutputPublicationJournal

namespace Sample

open JournalRecord.Sample

variable {s : OutputPublicationJournal} {p : OutputPublicationID} {r r' : JournalRecord} {o : Op}

theorem step_on {α : Type} {reply : α → Reply}
    {f : JournalRecord → Except JournalError α × JournalRecord} {result : Except JournalError α}
    (hcall : s.call o = s.on p reply f) (hr : s.records.get? p = some r)
    (hf : f r = (result, r')) : (s.step o).records.get? p = some r' := by
  simp [step, hcall, on, hr, hf]

theorem step_atomic {α : Type} {reply : α → Reply} {a : α}
    {f : JournalRecord → Except JournalError (α × JournalRecord)}
    (hcall : s.call o = s.on p reply (atomic f)) (hr : s.records.get? p = some r)
    (hf : f r = .ok (a, r')) : (s.step o).records.get? p = some r' := by
  have hstep : atomic f r = (.ok a, r') := by rw [atomic, hf]
  exact step_on hcall hr hstep

variable (m : OutputPublicationManifest) {t : PreparedContainedTransfer}
  (ht : m.slot.transfers = [t])

/-- A child is prepared, and its owner is dead when the preparation is undone. -/
def ops (t : PreparedContainedTransfer) (reason : WorkerDeathReason) : List Op :=
  [.open_ m, .beginOwnerRegister m.publicationId,
    .ackOwnerRegistered ⟨m.effect .ownerRegister, .applied⟩,
    .recordPublicationReply m.publicationId (.prepareGraph m.reference) (reply m) .prepared false,
    .beginPrepare m.publicationId 0 0, .beginRollback m.publicationId "rollback",
    .ackRollback ⟨release m, .applied⟩ (some (.workerState (dead t.containedOwnerWorkerId reason)))]

theorem call_ackOwner (s : OutputPublicationJournal) :
    s.call (.ackOwnerRegistered ⟨m.effect .ownerRegister, .applied⟩) =
      s.on m.publicationId (.acknowledged (m.effect .ownerRegister))
        (atomic (·.ackForward ⟨m.effect .ownerRegister, .applied⟩ .none)) := by
  have hstage : (m.effect .ownerRegister).stage = .ownerRegister := rfl
  simp only [call, OutputPublicationJournal.ackForward, hstage, ne_eq, not_true, if_false]
  rfl

theorem call_record (s : OutputPublicationJournal) :
    s.call (.recordPublicationReply m.publicationId (.prepareGraph m.reference) (reply m) .prepared
      false) = s.on m.publicationId (.receipt m.publicationId) (atomic
        (·.recordPublicationReply (.prepareGraph m.reference) (reply m) .prepared false)) := by
  rw [call, valid_reply]

theorem call_rollback (s : OutputPublicationJournal) :
    s.call (.beginRollback m.publicationId "rollback") =
      s.on m.publicationId .plan (·.beginRollback "rollback" (by decide)) := by
  rw [call, dif_neg (by decide)]

include ht in
theorem run_ops (reason : WorkerDeathReason) : ∃ r,
    (run step empty (ops m t reason)).records.get? m.publicationId = some r ∧
      Ended m (t := t) reason r := by
  obtain ⟨r, hacked, hended⟩ := ack_rollback m ht reason
  refine ⟨r, ?_, hended⟩
  have hopened : (empty.step (.open_ m)).records.get? m.publicationId = some (opened m) := by
    simp [step, call, open_, empty]
  have hintended := step_atomic (o := .beginOwnerRegister m.publicationId) rfl hopened
    (f := (·.beginEffect .ownerRegister)) rfl
  have hknown := step_atomic (call_ackOwner m _) hintended (ack_owner m)
  have hreserved := step_atomic (call_record m _) hknown (record_reply m)
  have hprepared := step_atomic (o := .beginPrepare m.publicationId 0 0) rfl hreserved
    (f := (·.beginEffect (.prepare 0 0))) (begin_prepare m ht)
  have hrolling := step_on (call_rollback m _) hprepared (begin_rollback m ht)
  exact step_on (o := .ackRollback ⟨release m, .applied⟩ _) rfl hrolling hacked

/-! One inline result with one child, owned by the executor. -/

def child : PreparedContainedTransfer := .sample

def manifest : OutputPublicationManifest := .sample .inline

def publicationId : OutputPublicationID := manifest.publicationId

theorem transfers_manifest : manifest.slot.transfers = [child] := rfl

theorem distinctHolds_manifest : manifest.DistinctHolds := by
  rw [OutputPublicationManifest.DistinctHolds, transfers_manifest]
  simpa using OutputPublicationManifest.provisional_ne_final child

theorem keptDeath {reason : WorkerDeathReason} (hended : Ended manifest (t := child) reason r)
    {d : WorkerDeathRecord} : r.KeptDeath d ↔ d = death child.containedOwnerWorkerId reason := by
  constructor
  · rintro ⟨e, reply, hget, hdeath⟩
    rw [hended.replies, Dict.get?_set] at hget
    split at hget
    · cases hget
      exact (Option.some.inj hdeath).symm
    · cases hget
  · rintro rfl
    refine ⟨release manifest, .workerState (dead child.containedOwnerWorkerId reason), ?_, rfl⟩
    rw [hended.replies, Dict.get?_set_self]

end Sample

open Sample in
theorem closed_holds_accepted_exit : ∃ r closed,
    (run step empty (ops manifest child .processExit)).records.get? publicationId = some r ∧
      r.closedRollbackHolds = .ok closed := by
  obtain ⟨r, hr, hended⟩ := run_ops manifest transfers_manifest .processExit
  have hdeath := @keptDeath r .processExit hended
  obtain ⟨closed, hclosed, _⟩ := closed_holds_accepted _ _ r hr hended.tombstone
    (hended.manifest ▸ distinctHolds_manifest)
    (fun d d' hd hd' _ => (hdeath.mp hd).trans (hdeath.mp hd').symm)
    (fun d hd => hdeath.mp hd ▸ .inl rfl)
  exact ⟨r, closed, hr, hclosed⟩

open Sample in
/-- The journal keeps an expected exit, which the evidence may not carry. -/
theorem not_closed_holds_ok : ¬ ∀ (ops : List Op) (p : OutputPublicationID) (r : JournalRecord),
    (run step empty ops).records.get? p = some r → r.rollbackTombstone ≠ none →
    r.manifest.DistinctHolds → r.OneDeath → ∃ closed, r.closedRollbackHolds = .ok closed := by
  intro hall
  obtain ⟨r, hr, hended⟩ := run_ops manifest transfers_manifest .expected
  have hdeath := @keptDeath r .expected hended
  obtain ⟨closed, hclosed⟩ := hall _ _ r hr hended.tombstone
    (hended.manifest ▸ distinctHolds_manifest)
    (fun d d' hd hd' _ => (hdeath.mp hd).trans (hdeath.mp hd').symm)
  unfold closedRollbackHolds at hclosed
  rw [hended.rollback] at hclosed
  simp only [bind_eq_ok, plan_effects _ transfers_manifest, mapM_eq_ok] at hclosed
  obtain ⟨_, _, _, _, replies, hreplies, _, _, _, _, ⟨hconfirmed⟩, _⟩ := hclosed
  have hmem : CleanupReply.workerState (dead child.containedOwnerWorkerId .expected) ∈ replies := by
    obtain ⟨reply, hreply, hget⟩ := exists_of_forall₂_left hreplies (x := release manifest)
      (by simp [release, OutputPublicationEffect.stage, OutputPublicationManifest.effect,
        OperationKey.stage, OutputPublicationStage.isRelease])
    rw [subscript_eq_ok, hended.replies, Dict.get?_set_self] at hget
    exact Option.some.inj hget ▸ hreply
  have hexit := (hconfirmed (death child.containedOwnerWorkerId .expected) (by
    rw [List.mem_eraseDups]
    exact List.mem_filterMap.mpr ⟨_, hmem, rfl⟩)).2
  rcases hexit with h | h <;> cases h

end OutputPublicationJournal

end MiniRay
