import MiniRay.Journal.History

/-! Every acknowledged release keeps the reply that settled its hold, so a finished rollback can
account for each hold that its publication may have taken. -/

namespace MiniRay

open Checked Run Causal PublicationSnapshot

theorem nodup_eraseDups {α : Type*} [DecidableEq α] (xs : List α) : xs.eraseDups.Nodup := by
  induction hn : xs.length using Nat.strong_induction_on generalizing xs with
  | _ n ih =>
    cases xs with
    | nil => simp
    | cons x xs =>
      rw [List.eraseDups_cons, List.nodup_cons]
      refine ⟨by simp [List.mem_eraseDups], ih _ ?_ _ rfl⟩
      have hle := List.length_filter_le (fun y => !y == x) xs
      rw [List.length_cons] at hn
      omega

theorem sublist_filterMap {α β γ δ : Type*} {R : α → β → Prop} {f : α → Option γ} {g : β → Option δ}
    {k : δ → γ} (hfg : ∀ a b d, R a b → g b = some d → f a = some (k d)) {xs : List α}
    {ys : List β} (h : List.Forall₂ R xs ys) :
    List.Sublist ((ys.filterMap g).map k) (xs.filterMap f) := by
  induction h with
  | nil => exact .slnil
  | @cons a b xs ys hab _ ih =>
    cases hd : g b with
    | none =>
      rw [List.filterMap_cons_none hd]
      cases hc : f a with
      | none => rwa [List.filterMap_cons_none hc]
      | some c =>
        rw [List.filterMap_cons_some hc]
        exact ih.cons c
    | some d =>
      rw [List.filterMap_cons_some hd, List.filterMap_cons_some (hfg a b d hab hd),
        List.map_cons]
      exact ih.cons_cons _

/-! ## The hold of a release -/

namespace OutputPublicationManifest

variable {m : OutputPublicationManifest}

/-- The child hold that a release gives back. -/
def hold? (m : OutputPublicationManifest) : OperationKey → Option HoldKey
  | .finalRelease s t => (m.transfer? s t).map finalKey
  | .provisionalRelease s t => (m.transfer? s t).map provisionalKey
  | _ => none

/-- The provisional and final holds are pairwise distinct credentials. -/
def DistinctHolds (m : OutputPublicationManifest) : Prop :=
  (m.slot.transfers.flatMap fun t => [provisionalKey t, finalKey t]).Nodup

theorem transfer?_eq_some {s t : Nat} {transfer : PreparedContainedTransfer} :
    m.transfer? s t = some transfer ↔ s = 0 ∧ m.slot.transfers[t]? = some transfer := by
  rw [transfer?, m.slots_eq]
  cases s <;> simp

variable {key : OperationKey}

theorem hold?_eq_some {hold : HoldKey} : m.hold? key = some hold ↔
    ∃ t transfer, m.slot.transfers[t]? = some transfer ∧
      (key = .provisionalRelease 0 t ∧ hold = provisionalKey transfer ∨
        key = .finalRelease 0 t ∧ hold = finalKey transfer) := by
  constructor
  · intro h
    cases key with
    | provisionalRelease s t =>
      obtain ⟨transfer, htransfer, rfl⟩ := Option.map_eq_some_iff.mp h
      obtain ⟨rfl, hget⟩ := transfer?_eq_some.mp htransfer
      exact ⟨t, transfer, hget, .inl ⟨rfl, rfl⟩⟩
    | finalRelease s t =>
      obtain ⟨transfer, htransfer, rfl⟩ := Option.map_eq_some_iff.mp h
      obtain ⟨rfl, hget⟩ := transfer?_eq_some.mp htransfer
      exact ⟨t, transfer, hget, .inr ⟨rfl, rfl⟩⟩
    | _ => cases h
  · rintro ⟨t, transfer, hget, ⟨rfl, rfl⟩ | ⟨rfl, rfl⟩⟩
    · exact Option.map_eq_some_iff.mpr ⟨transfer, transfer?_eq_some.mpr ⟨rfl, hget⟩, rfl⟩
    · exact Option.map_eq_some_iff.mpr ⟨transfer, transfer?_eq_some.mpr ⟨rfl, hget⟩, rfl⟩

theorem provisional_ne_final (t : PreparedContainedTransfer) : provisionalKey t ≠ finalKey t := by
  intro h
  exact t.custody_change (congrArg (fun key : HoldKey => key.2.2) h)

theorem DistinctHolds.hold?_injective (h : m.DistinctHolds) {key' : OperationKey} {hold : HoldKey}
    (hkey : m.hold? key = some hold) (hkey' : m.hold? key' = some hold) : key = key' := by
  obtain ⟨t, a, ha, hcase⟩ := hold?_eq_some.mp hkey
  obtain ⟨t', b, hb, hcase'⟩ := hold?_eq_some.mp hkey'
  have hhold : hold ∈ [provisionalKey a, finalKey a] := by
    rcases hcase with ⟨_, rfl⟩ | ⟨_, rfl⟩ <;> simp
  have hhold' : hold ∈ [provisionalKey b, finalKey b] := by
    rcases hcase' with ⟨_, rfl⟩ | ⟨_, rfl⟩ <;> simp
  have hindex : t = t' := by
    by_contra hne
    have hpairs := (List.nodup_flatMap.mp h).2
    obtain ⟨hlt, rfl⟩ := List.getElem?_eq_some_iff.mp ha
    obtain ⟨hlt', rfl⟩ := List.getElem?_eq_some_iff.mp hb
    rw [List.pairwise_iff_getElem] at hpairs
    rcases Nat.lt_or_gt_of_ne hne with hlt'' | hlt''
    · exact hpairs t t' hlt hlt' hlt'' hhold hhold'
    · exact hpairs t' t hlt' hlt hlt'' hhold' hhold
  subst hindex
  cases ha.symm.trans hb
  rcases hcase with ⟨rfl, rfl⟩ | ⟨rfl, rfl⟩ <;> rcases hcase' with ⟨rfl, heq⟩ | ⟨rfl, heq⟩
  · rfl
  · exact absurd heq (provisional_ne_final a)
  · exact absurd heq.symm (provisional_ne_final a)
  · rfl

end OutputPublicationManifest

def ReleaseContainedReferenceReply.key (reply : ReleaseContainedReferenceReply) : HoldKey :=
  (reply.objectId, reply.ownerWorkerId, reply.hold)

/-- The reply settles the hold: its owner gave it back, or died. -/
inductive Settles (hold : HoldKey) : CleanupReply → Prop
  | released (reply : ReleaseContainedReferenceReply) (exact : reply.key = hold)
      (accepted : reply.accepted = true) : Settles hold (.release reply)
  | ownerDied (reply : GetWorkerStateReply) (death : WorkerDeathRecord)
      (recorded : reply.death = some death) (owner : death.workerId = hold.2.1)
      (bounded : death.OwnerDeath) : Settles hold (.workerState reply)

theorem OperationKey.isForward_of_isRelease {key : OperationKey}
    (h : key.stage.isRelease = true) : key.isForward = false := by
  cases key <;> first | rfl | cases h

namespace JournalRecord

variable {r r' : JournalRecord} {evs : List Event}

theorem ownerDeathOf_eq_ok {death? : Option WorkerDeathRecord} {death : WorkerDeathRecord} :
    ownerDeathOf death? = .ok death ↔ death? = some death ∧ death.OwnerDeath := by
  cases death? with
  | none => simp [ownerDeathOf]
  | some d =>
    simp only [ownerDeathOf, bind_eq_ok, checkOwnerDeath_eq_ok, pure_eq_ok, Option.some.injEq,
      exists_const]
    constructor
    · rintro ⟨hbound, rfl⟩
      exact ⟨rfl, hbound⟩
    · rintro ⟨rfl, hbound⟩
      exact ⟨hbound, rfl⟩

variable {key : OperationKey} {t : Nat} {reply : Option CleanupReply}

theorem validateCleanupReply_settles {s : Nat} {kept : CleanupReply}
    (hkey : key = .finalRelease s t ∨ key = .provisionalRelease s t)
    (h : r.validateCleanupReply key s t reply = .ok kept) :
    ∃ hold, r.manifest.hold? key = some hold ∧ Settles hold kept := by
  simp only [validateCleanupReply, bind_eq_ok] at h
  obtain ⟨transfer, htransfer, h⟩ := h
  have hget : r.manifest.transfer? s t = some transfer := by
    unfold transferAt at htransfer
    split at htransfer
    · cases htransfer
    · cases htransfer
      assumption
  refine ⟨(transfer.containedObjectId, transfer.containedOwnerWorkerId, releasedHold key transfer),
    ?_, ?_⟩
  · rcases hkey with rfl | rfl <;> simp [OutputPublicationManifest.hold?, hget, releasedHold,
      OperationKey.stage, finalKey, provisionalKey]
  · split at h
    · next state =>
      simp only [bind_eq_ok, ownerDeathOf_eq_ok, raiseIf_eq_ok, pure_eq_ok, exists_const, not_or,
        not_not] at h
      obtain ⟨death, ⟨hdeath, hbound⟩, ⟨howner, hworker, _⟩, rfl⟩ := h
      exact .ownerDied state death hdeath (hworker.trans howner) hbound
    · next release =>
      simp only [bind_eq_ok, raiseIf_eq_ok, pure_eq_ok, exists_const, not_or, not_not,
        Bool.not_eq_false] at h
      obtain ⟨⟨hexact, haccepted⟩, rfl⟩ := h
      exact .released release hexact haccepted
    · simp at h

/-! ## Kept replies -/

/-- Every acknowledged release has its settling reply on record. -/
def Kept (r : JournalRecord) : Prop :=
  ∀ key, key.stage.isRelease = true → r.acknowledgements.get? (r.effect key) ≠ none →
    ∃ hold reply, r.manifest.hold? key = some hold ∧
      r.cleanupReplies.get? (r.effect key) = some reply ∧ Settles hold reply

theorem kept_opened (manifest : OutputPublicationManifest) : Kept (opened manifest) := by
  intro key _ hacked
  simp [opened] at hacked

theorem Kept.congr (h : Kept r) (hmanifest : r'.manifest = r.manifest)
    (hacks : r'.acknowledgements = r.acknowledgements)
    (hreplies : r'.cleanupReplies = r.cleanupReplies) : Kept r' := by
  intro key hkey
  rw [effect, hmanifest, hacks, hreplies]
  exact h key hkey

theorem retire_cleanupReplies (terminals : List OutputPublicationSlotTombstone)
    (r : JournalRecord) :
    (terminals.foldl commitRetirement r).cleanupReplies = r.cleanupReplies := by
  induction terminals generalizing r with
  | nil => rfl
  | cons t ts ih => exact ih (r.commitRetirement t)

theorem keepPayload_cleanupReplies (e : OutputPublicationEffect) (payload : AckPayload) :
    (r.keepPayload e payload).cleanupReplies = r.cleanupReplies := by
  cases payload with
  | descriptor descriptor =>
    simp only [keepPayload]
    cases e.key <;> rfl
  | _ => rfl

variable {kept : Option CleanupReply}

theorem cleanupReply_settles (hkey : key.stage.isRelease = true)
    (h : r.cleanupReply key reply = .ok kept) :
    ∃ hold reply', kept = some reply' ∧ r.manifest.hold? key = some hold ∧
      Settles hold reply' := by
  have hkept : ∀ {s t}, (key = .finalRelease s t ∨ key = .provisionalRelease s t) →
      some <$> r.validateCleanupReply key s t reply = .ok kept →
      ∃ hold reply', kept = some reply' ∧ r.manifest.hold? key = some hold ∧
        Settles hold reply' := by
    intro s t hcase hmap
    obtain ⟨reply', hvalid, rfl⟩ := map_eq_ok.mp hmap
    obtain ⟨hold, hhold, hsettles⟩ := validateCleanupReply_settles hcase hvalid
    exact ⟨hold, reply', rfl, hhold, hsettles⟩
  cases key with
  | finalRelease s t => exact hkept (.inl rfl) h
  | provisionalRelease s t => exact hkept (.inr rfl) h
  | _ => cases hkey

theorem Kept.keepCleanup (h : Kept r) {ack : OutputPublicationAck}
    (hexact : ack.effect = r.effect ack.effect.key)
    (hvalid : r.cleanupReply ack.effect.key reply = .ok kept) : Kept (r.keepCleanup ack kept) := by
  intro key hkey hacked
  by_cases heq : ack.effect.key = key
  · subst heq
    obtain ⟨hold, reply', rfl, hhold, hsettles⟩ := cleanupReply_settles hkey hvalid
    refine ⟨hold, reply', hhold, ?_, hsettles⟩
    simp [JournalRecord.keepCleanup, effect, ← hexact]
  · have hne : ack.effect ≠ r.effect key := by
      intro he
      exact heq (congrArg OutputPublicationEffect.key he)
    simp only [JournalRecord.keepCleanup, effect] at hacked ⊢
    rw [Dict.get?_set_of_ne _ _ hne] at hacked
    obtain ⟨hold, reply', hhold, hget, hsettles⟩ := h key hkey hacked
    refine ⟨hold, reply', hhold, ?_, hsettles⟩
    cases kept with
    | none => exact hget
    | some reply'' => exact (Dict.get?_set_of_ne _ _ hne).trans hget

theorem Kept.moves (h : Kept r) (hr : Sound r) (hmoves : Moves r evs r') : Kept r' := by
  cases hmoves with
  | acknowledged key forward active intended ready ack isAck payload =>
    obtain ⟨hmanifest, _⟩ := keepPayload_frame (r := r) (r.effect key) payload
    have hreplies := keepPayload_cleanupReplies (r := r) (r.effect key) payload
    intro key' hkey' hacked
    simp only [effect, hmanifest, hreplies] at hacked ⊢
    have hne : r.effect key ≠ r.effect key' := by
      intro he
      rw [r.manifest.effect_injective he, OperationKey.isForward_of_isRelease hkey'] at forward
      cases forward
    rw [Dict.get?_set_of_ne _ _ hne] at hacked
    exact h key' hkey' hacked
  | rollbackBegun active incomplete unplanned rollbackId named r' finished =>
    cases finishes_of_ok finished <;> exact h.congr rfl rfl rfl
  | rollbackAcked plan planned ack next reply kept valid r' finished =>
    have hexact : ack.effect = r.effect ack.effect.key := by
      obtain ⟨key, heq, _⟩ := hr.exact_next planned next
      rw [heq]
      rfl
    have hkept := h.keepCleanup hexact valid
    cases finishes_of_ok finished <;> exact hkept.congr rfl rfl rfl
  | retired terminals =>
    obtain ⟨hmanifest, _, hacks, _⟩ := retire_frame terminals r
    exact h.congr hmanifest hacks (retire_cleanupReplies terminals r)
  | _ => exact h.congr rfl rfl rfl

/-! ## Implied intents -/

variable {log : List Event}

theorem Recorded.prepare_intended (hlog : Recorded log r) (hkey : r.effect key ∈ r.intents)
    {s : Nat} (hst : (s, t) ∈ r.manifest.transferIndices)
    (hlate : key = .materialize s ∨ key = .promote s t) : r.effect (.prepare s t) ∈ r.intents := by
  have hawaited : .acknowledged (r.effect (.prepare s t)) ∈ r.manifest.awaited key := by
    have hprepared : .acknowledged (r.effect (.prepare s t)) ∈
        OutputPublicationManifest.awaited.prepared r.manifest :=
      List.mem_map.mpr ⟨(s, t), hst, rfl⟩
    rcases hlate with rfl | rfl <;> simp [OutputPublicationManifest.awaited, hprepared]
  have hin : .intended (r.effect key) ∈ log := (hlog.happened (.intended _) rfl).mp hkey
  have hacked := (hlog.ordered _ _ (.intent hawaited)).mem hin
  have hintended := (hlog.ordered _ _ (.intended rfl)).mem hacked
  exact (hlog.happened (.intended _) rfl).mpr hintended

/-- A complete preparation intended every forward effect. -/
structure AllIntended (m : OutputPublicationManifest) (log : List Event) : Prop where
  prepared : ∀ i ∈ m.transferIndices, .intended (m.effect (.prepare i.1 i.2)) ∈ log
  promoted : ∀ i ∈ m.transferIndices, .intended (m.effect (.promote i.1 i.2)) ∈ log
  materialized : .intended (m.effect (.materialize 0)) ∈ log

theorem Recorded.allIntended (hlog : Recorded log r) (hready : r.preparationReady = true) :
    AllIntended r.manifest log := by
  simp only [preparationReady, Bool.and_eq_true, acked_iff, allMaterialized_iff, allPromoted,
    List.all_eq_true] at hready
  obtain ⟨⟨_, hmaterialized⟩, hpromoted⟩ := hready
  have hintended : ∀ key, key.isForward = true → r.Happened (.acknowledged (r.effect key)) →
      .intended (r.effect key) ∈ log := by
    intro key hforward hacked
    have hin := (hlog.happened (.acknowledged _) rfl).mp hacked
    exact (hlog.ordered _ _ (.intended hforward)).mem hin
  have hpromotes : ∀ i ∈ r.manifest.transferIndices,
      .intended (r.effect (.promote i.1 i.2)) ∈ log :=
    fun i hi => hintended _ rfl (hpromoted i hi)
  refine ⟨?_, hpromotes, hintended _ rfl (hmaterialized 0 (by simp [r.manifest.slots_eq]))⟩
  intro i hi
  have hpromote : r.effect (.promote i.1 i.2) ∈ r.intents :=
    (hlog.happened (.intended _) rfl).mpr (hpromotes i hi)
  exact (hlog.happened (.intended _) rfl).mp (hlog.prepare_intended hpromote hi (.inr rfl))

/-! ## The evidence of a finished rollback -/

def intendedIndices (r : JournalRecord) (key : Nat → OperationKey) : List Nat :=
  (List.range r.manifest.slot.transfers.length).filter fun t => r.intended (key t)

theorem mem_intendedIndices {key : Nat → OperationKey} : t ∈ r.intendedIndices key ↔
    t < r.manifest.slot.transfers.length ∧ r.effect (key t) ∈ r.intents := by
  simp [intendedIndices, intended]

theorem sorted_intendedIndices (key : Nat → OperationKey) :
    (r.intendedIndices key).Pairwise (· < ·) :=
  List.pairwise_lt_range.filter _

theorem intendedIndices_eq (key : Nat → Nat → OperationKey) :
    (r.transferIndices.filter fun (s, t) => r.intended (key s t)).map Prod.snd =
      r.intendedIndices (key 0) := by
  rw [transferIndices, OutputPublicationManifest.transferIndices_eq, List.filter_map, List.map_map]
  exact List.map_id _

/-- What a finished rollback says of the intents. -/
structure Scopes (r : JournalRecord) (scope : TaskRollbackScope) : Prop where
  reference : scope.reference = r.manifest.reference
  prepares : scope.prepareIntents = r.intendedIndices (.prepare 0)
  promotes : scope.promoteIntents = r.intendedIndices (.promote 0)
  materialized : scope.materializationStarted = r.intended (.materialize 0)

theorem scopes_of_rollbackScope {scope : TaskRollbackScope} (h : r.rollbackScope = .ok scope) :
    Scopes r scope := by
  unfold rollbackScope at h
  split at h
  · cases h
  · simp only [bind_eq_ok, pure_eq_ok] at h
    obtain ⟨_, _, ⟨_⟩, _, ⟨_⟩, _, ⟨_⟩, _, rfl⟩ := h
    exact ⟨rfl, intendedIndices_eq _, intendedIndices_eq _, rfl⟩

variable {plan : OutputPublicationRollbackPlan}

theorem rollbackScope_ok (hlog : Recorded log r) (h : Sound r) (hplan : r.rollback = some plan) :
    ∃ scope, r.rollbackScope = .ok scope ∧ Scopes r scope := by
  have hsubset : r.intendedIndices (.promote 0) ⊆ r.intendedIndices (.prepare 0) := by
    intro t ht
    obtain ⟨hlt, hpromote⟩ := mem_intendedIndices.mp ht
    refine mem_intendedIndices.mpr ⟨hlt, hlog.prepare_intended hpromote ?_ (.inr rfl)⟩
    rw [OutputPublicationManifest.transferIndices_eq]
    exact List.mem_map.mpr ⟨t, List.mem_range.mpr hlt, rfl⟩
  have hincomplete := (h.frozen plan hplan).2.2
  have hprepares := sorted_intendedIndices (r := r) (.prepare 0)
  have hpromotes := sorted_intendedIndices (r := r) (.promote 0)
  rw [← intendedIndices_eq] at hsubset hprepares hpromotes
  rw [← intendedIndices_eq] at hsubset
  have hok : ∃ scope, r.rollbackScope = .ok scope := by
    unfold rollbackScope
    rw [hplan]
    exact bind_ok_of (raiseIf_ok (not_not.mpr hincomplete)) (bind_ok_of (certify_ok hprepares)
      (bind_ok_of (certify_ok hpromotes) (bind_ok_of (certify_ok hsubset) ⟨_, rfl⟩)))
  obtain ⟨scope, hscope⟩ := hok
  exact ⟨scope, hscope, scopes_of_rollbackScope hscope⟩

def KeptDeath (r : JournalRecord) (death : WorkerDeathRecord) : Prop :=
  ∃ e reply, r.cleanupReplies.get? e = some reply ∧ reply.death? = some death

/-- One death record per dead child owner. -/
def OneDeath (r : JournalRecord) : Prop :=
  ∀ d d', r.KeptDeath d → r.KeptDeath d' → d.workerId = d'.workerId → d = d'

/-- What the adapter checks of a death before it acknowledges with it. -/
def ConfirmedDeaths (r : JournalRecord) : Prop := ∀ d, r.KeptDeath d → d.ConfirmedExit

def SettledBy (r : JournalRecord) (e : OutputPublicationEffect) (reply : CleanupReply) : Prop :=
  r.cleanupReplies.get? e = some reply ∧
    ∃ hold, r.manifest.hold? e.key = some hold ∧ Settles hold reply

variable {e : OutputPublicationEffect}

theorem SettledBy.release {reply : CleanupReply} {release : ReleaseContainedReferenceReply}
    (h : r.SettledBy e reply) (hrelease : reply.release? = some release) :
    r.manifest.hold? e.key = some release.key ∧ release.accepted = true := by
  obtain ⟨_, hold, hhold, hsettles⟩ := h
  cases hsettles with
  | released release' exact accepted =>
    cases hrelease
    exact ⟨exact ▸ hhold, accepted⟩
  | ownerDied => cases hrelease

theorem SettledBy.death {reply : CleanupReply} {death : WorkerDeathRecord} (h : r.SettledBy e reply)
    (hdeath : reply.death? = some death) :
    r.KeptDeath death ∧ death.OwnerDeath ∧
      ∃ hold, r.manifest.hold? e.key = some hold ∧ death.workerId = hold.2.1 := by
  obtain ⟨hget, hold, hhold, hsettles⟩ := h
  cases hsettles with
  | released => cases hdeath
  | ownerDied state death' recorded owner bounded =>
    cases recorded.symm.trans hdeath
    exact ⟨⟨e, _, hget, hdeath⟩, bounded, hold, hhold, owner⟩

theorem SettledBy.settles {reply : CleanupReply} {hold : HoldKey} (h : r.SettledBy e reply)
    (hhold : r.manifest.hold? e.key = some hold) :
    (∃ release, reply.release? = some release ∧ release.key = hold) ∨
      ∃ death, reply.death? = some death ∧ death.workerId = hold.2.1 := by
  obtain ⟨_, hold', hhold', hsettles⟩ := h
  cases hhold.symm.trans hhold'
  cases hsettles with
  | released release exact accepted => exact .inl ⟨release, rfl, exact⟩
  | ownerDied state death recorded owner => exact .inr ⟨death, recorded, owner⟩

theorem settled_replies (h : Sound r) (hkept : Kept r) (hplan : r.rollback = some plan)
    (hsettled : r.nextRollback plan = none) :
    ∃ replies, List.Forall₂ r.SettledBy (plan.effects.filter (·.stage.isRelease)) replies := by
  have hreply : ∀ e ∈ plan.effects.filter (·.stage.isRelease), ∃ reply, r.SettledBy e reply := by
    intro e he
    obtain ⟨hmem, hrelease⟩ := List.mem_filter.mp he
    obtain ⟨_, key, _, _, rfl⟩ := (h.mem_plan hplan).mp hmem
    have hacked := nextRollback_eq_none.mp hsettled _ hmem
    obtain ⟨hold, reply, hhold, hget, hsettles⟩ := hkept key hrelease hacked
    exact ⟨reply, hget, hold, hhold, hsettles⟩
  generalize plan.effects.filter (·.stage.isRelease) = effects at hreply
  induction effects with
  | nil => exact ⟨[], .nil⟩
  | cons e es ih =>
    obtain ⟨reply, he⟩ := hreply e (by simp)
    obtain ⟨replies, hes⟩ := ih fun e he => hreply e (by simp [he])
    exact ⟨reply :: replies, .cons he hes⟩

/-- The evidence accounts for every hold that may have been taken, and names nothing else. -/
structure Accounts (r : JournalRecord) (closed : ClosedContainedHolds) : Prop where
  reference : closed.reference = r.manifest.reference
  scope : ∃ scope, closed.rollbackScope = some scope ∧ Scopes r scope
  releases : ∀ reply ∈ closed.releases, ∃ key, r.manifest.hold? key = some reply.key
  deaths : ∀ death ∈ closed.childDeaths,
    ∃ key hold, r.manifest.hold? key = some hold ∧ death.workerId = hold.2.1
  settled : ∀ key k hold, key.inverse = some k → r.effect key ∈ r.intents →
    r.manifest.hold? k = some hold →
    (∃ reply ∈ closed.releases, reply.key = hold) ∨
      ∃ death ∈ closed.childDeaths, death.workerId = hold.2.1

variable {replies : List CleanupReply}

theorem accounts_of_replies (h : Sound r) (hplan : r.rollback = some plan)
    (hreplies : List.Forall₂ r.SettledBy (plan.effects.filter (·.stage.isRelease)) replies)
    {closed : ClosedContainedHolds} (hreference : closed.reference = r.manifest.reference)
    (hscope : ∃ scope, closed.rollbackScope = some scope ∧ Scopes r scope)
    (hreleases : closed.releases = replies.filterMap CleanupReply.release?)
    (hdeaths : closed.childDeaths = (replies.filterMap CleanupReply.death?).eraseDups) :
    Accounts r closed := by
  refine ⟨hreference, hscope, ?_, ?_, ?_⟩
  · intro release hmem
    rw [hreleases] at hmem
    obtain ⟨reply, hreply, hrelease⟩ := List.mem_filterMap.mp hmem
    obtain ⟨e, _, hsettled⟩ := exists_of_forall₂_right hreplies hreply
    exact ⟨e.key, (hsettled.release hrelease).1⟩
  · intro death hmem
    rw [hdeaths, List.mem_eraseDups] at hmem
    obtain ⟨reply, hreply, hdeath⟩ := List.mem_filterMap.mp hmem
    obtain ⟨e, _, hsettled⟩ := exists_of_forall₂_right hreplies hreply
    exact ⟨e.key, (hsettled.death hdeath).2.2⟩
  · intro key k hold hk hintended hhold
    have hmem : r.effect k ∈ plan.effects.filter (·.stage.isRelease) := by
      refine List.mem_filter.mpr ⟨(h.mem_plan hplan).mpr ⟨key, k, hk, hintended, rfl⟩, ?_⟩
      obtain ⟨t, _, _, ⟨rfl, _⟩ | ⟨rfl, _⟩⟩ :=
        OutputPublicationManifest.hold?_eq_some.mp hhold <;> rfl
    obtain ⟨reply, hreply, hsettled⟩ := exists_of_forall₂_left hreplies hmem
    rw [hreleases, hdeaths]
    rcases hsettled.settles hhold with ⟨release, hrelease, heq⟩ | ⟨death, hdeath, heq⟩
    · exact .inl ⟨release, List.mem_filterMap.mpr ⟨reply, hreply, hrelease⟩, heq⟩
    · refine .inr ⟨death, ?_, heq⟩
      rw [List.mem_eraseDups]
      exact List.mem_filterMap.mpr ⟨reply, hreply, hdeath⟩

theorem nodup_releases (hdistinct : r.manifest.DistinctHolds)
    {effects : List OutputPublicationEffect} (honce : effects.Nodup)
    (hown : ∀ e ∈ effects, e = r.effect e.key) (hreplies :
      List.Forall₂ r.SettledBy effects replies) :
    ((replies.filterMap CleanupReply.release?).map ReleaseContainedReferenceReply.key).Nodup := by
  have hsub : List.Sublist
      ((replies.filterMap CleanupReply.release?).map ReleaseContainedReferenceReply.key)
      ((effects.map OutputPublicationEffect.key).filterMap r.manifest.hold?) := by
    rw [List.filterMap_map]
    exact sublist_filterMap (fun e reply release hs hrelease => (hs.release hrelease).1) hreplies
  have hkeys : (effects.map OutputPublicationEffect.key).Nodup := by
    refine List.Nodup.map_on ?_ honce
    intro e he e' he' heq
    rw [hown e he, hown e' he', heq]
  refine List.Nodup.sublist hsub (List.Nodup.filterMap ?_ hkeys)
  intro key key' hold hkey hkey'
  exact hdistinct.hold?_injective hkey hkey'

theorem nodup_deaths (hone : r.OneDeath) {deaths : List WorkerDeathRecord} (hdeaths : deaths.Nodup)
    (hkept : ∀ d ∈ deaths, r.KeptDeath d) : (deaths.map WorkerDeathRecord.workerId).Nodup :=
  List.Nodup.map_on (fun d hd d' hd' heq => hone d d' (hkept d hd) (hkept d' hd') heq) hdeaths

theorem closedRollbackHolds_ok (h : Sound r) (hkept : Kept r) (hlog : Recorded log r)
    (hended : r.rollbackTombstone ≠ none) (hdistinct : r.manifest.DistinctHolds) (hone : r.OneDeath)
    (hconfirmed : r.ConfirmedDeaths) :
    ∃ closed, r.closedRollbackHolds = .ok closed ∧ Accounts r closed := by
  obtain ⟨plan, hplan, hsettled⟩ := h.terminal.mp hended
  obtain ⟨scope, hscope, hscopes⟩ := rollbackScope_ok hlog h hplan
  obtain ⟨replies, hreplies⟩ := settled_replies h hkept hplan hsettled
  have hmapped : (plan.effects.filter (·.stage.isRelease)).mapM (subscript r.cleanupReplies) =
      .ok replies := by
    refine mapM_eq_ok.mpr (hreplies.imp ?_)
    exact fun e reply hs => subscript_eq_ok.mpr hs.1
  have haccepted : ∀ release ∈ replies.filterMap CleanupReply.release?,
      release.accepted = true ∧ release.error = none := by
    intro release hmem
    obtain ⟨reply, hreply, hrelease⟩ := List.mem_filterMap.mp hmem
    obtain ⟨e, _, hs⟩ := exists_of_forall₂_right hreplies hreply
    exact ⟨(hs.release hrelease).2, release.accepted_error (hs.release hrelease).2⟩
  have hdeath : ∀ d ∈ (replies.filterMap CleanupReply.death?).eraseDups,
      r.KeptDeath d ∧ d.OwnerDeath := by
    intro d hmem
    rw [List.mem_eraseDups] at hmem
    obtain ⟨reply, hreply, hd⟩ := List.mem_filterMap.mp hmem
    obtain ⟨e, _, hs⟩ := exists_of_forall₂_right hreplies hreply
    exact ⟨(hs.death hd).1, (hs.death hd).2.1⟩
  have honce := nodup_releases hdistinct (plan.once.filter _) (by
    intro e he
    obtain ⟨_, key, _, _, rfl⟩ := (h.mem_plan hplan).mp (List.mem_filter.mp he).1
    rfl) hreplies
  have hworkers := nodup_deaths hone (nodup_eraseDups _) fun d hd => (hdeath d hd).1
  have hdeaths : ∀ d ∈ (replies.filterMap CleanupReply.death?).eraseDups,
      d.OwnerDeath ∧ d.ConfirmedExit :=
    fun d hd => ⟨(hdeath d hd).2, hconfirmed d (hdeath d hd).1⟩
  have hok : ∃ closed, r.closedRollbackHolds = .ok closed := by
    unfold closedRollbackHolds
    rw [hplan]
    exact bind_ok_of (raiseIf_ok hended) (bind_ok_of hscope (bind_ok_of hmapped
      (bind_ok_of (certify_ok haccepted) (bind_ok_of (certify_ok honce)
        (bind_ok_of (certify_ok hdeaths) (bind_ok_of (certify_ok hworkers)
          (bind_ok_of (certify_ok hscopes.reference) ⟨_, rfl⟩)))))))
  obtain ⟨closed, hclosed⟩ := hok
  refine ⟨closed, hclosed, ?_⟩
  unfold closedRollbackHolds at hclosed
  rw [hplan] at hclosed
  simp only [bind_eq_ok, hscope, hmapped, Except.ok.injEq, exists_eq_left', pure_eq_ok] at hclosed
  obtain ⟨_, _, ⟨_⟩, _, ⟨_⟩, _, ⟨_⟩, _, ⟨_⟩, _, ⟨_⟩, _, rfl⟩ := hclosed
  exact accounts_of_replies h hplan hreplies rfl ⟨scope, rfl, hscopes⟩ rfl rfl

end JournalRecord

namespace OutputPublicationJournal

open JournalRecord

theorem kept_run (ops : List Op) :
    ∀ p r, (run step empty ops).records.get? p = some r → r.Kept := by
  have hstep : ∀ (s : OutputPublicationJournal) op,
      (s.Sound ∧ ∀ p r, s.records.get? p = some r → r.Kept) →
      (s.step op).Sound ∧ ∀ p r, (s.step op).records.get? p = some r → r.Kept := by
    rintro s op ⟨hs, hkept⟩
    refine ⟨hs.step op, ?_⟩
    have hcall := callStep hs op
    generalize s.events op = evs at hcall
    generalize s.step op = s' at hcall
    intro p r hr
    cases hcall with
    | same => exact hkept p r hr
    | opened manifest new =>
      simp only [Dict.get?_set] at hr
      split at hr
      · cases hr
        exact kept_opened manifest
      · exact hkept p r hr
    | moved p' r₀ r' known _ moves =>
      simp only [Dict.get?_set] at hr
      split at hr
      · cases hr
        exact (hkept p' r₀ known).moves (hs p' r₀ known).2 moves
      · exact hkept p r hr
  exact (run_invariant hstep ⟨logged_empty.sound, by simp [empty]⟩ ops).2

end OutputPublicationJournal

end MiniRay
