import MiniRay.Placement.Charging
import Mathlib.Algebra.BigOperators.Group.List.Basic

/-! What a participant holds at its root over a whole run, and when it gives it back. -/

namespace MiniRay

open Checked Run

namespace BundleReservationLedger

variable {s s' : BundleReservationLedger} {h : List (ReservationKey × AllocationToken)}

/-! ## One step -/

/-- At most one transaction is given back by a step, whose child ledgers are all idle. -/
inductive Outcome (h : List (ReservationKey × AllocationToken)) (s : BundleReservationLedger)
    (op : Op) : Prop
  | kept (reserved : Reserved (h ++ s.charges op) (s.step op))
      (same : ∀ key token, (key, token) ∈ h →
        (s.step op).resources.records.get? token = s.resources.records.get? token)
  | dropped (key : ReservationKey) (reserved : Reserved (h ++ s.charges op) (s.step op))
      (same : ∀ k token, k ≠ key → (k, token) ∈ h →
        (s.step op).resources.records.get? token = s.resources.records.get? token)
      (idle : ∀ index ledger, s.children.get? (key, index) = some ledger →
        ledgerHasLiveAllocations ledger = false)

variable {op : Op}

theorem Outcome.unchanged (hs : Reserved h s) (hcharges : s.charges op = [])
    (hsame : s.step op = s) :
    Outcome h s op := by
  refine .kept ?_ ?_
  · rw [hcharges, hsame, List.append_nil]
    exact hs
  · intro key token _
    rw [hsame]

theorem Outcome.quiet (hs : Reserved h (s.step op)) (hcharges : s.charges op = [])
    (hroot : (s.step op).resources = s.resources) : Outcome h s op := by
  refine .kept ?_ ?_
  · rw [hcharges, List.append_nil]
    exact hs
  · intro key token _
    rw [hroot]

theorem charge_resources (s : BundleReservationLedger) (key : ReservationKey)
    (bundles : List Bundle) (random : AllocationToken) :
    (s.charge key bundles random).2.resources =
      s.resources.step (.tryAllocate (sumResources bundles) none random) := by
  unfold charge
  simp only [ResourceLedger.step, ResourceLedger.call]
  rcases s.resources.tryAllocate (sumResources bundles) none random with ⟨_ | token, root⟩
  · rfl
  · cases token <;> rfl

variable {items : List BundleItem} {random : AllocationToken}

theorem charges_of_same {key : ReservationKey} (hsame : (s.prepare key items random).2 = s) :
    s.charges (.prepare key items random) = [] := by
  rw [charges, hsame]
  cases s.transactions.get? key <;> rfl

theorem Reserved.prepare {key : ReservationKey} (hs : Reserved h s)
    (hfresh : s.resources.records.get? random = none) :
    Outcome h s (.prepare key items random) := by
  have hquiet : (s.prepare key items random).2 = s → Outcome h s (.prepare key items random) :=
    fun hsame => .unchanged hs (charges_of_same hsame) hsame
  by_cases hattempt : key.attempt < 0
  · exact hquiet (by simp [BundleReservationLedger.prepare, hattempt])
  cases hn : normalizeBundles items with
  | error raised => exact hquiet (by simp [BundleReservationLedger.prepare, hattempt, hn])
  | ok normalized =>
    cases ht : s.transactions.get? key with
    | some previous =>
      refine hquiet ?_
      simp only [BundleReservationLedger.prepare, hattempt, hn, ht, if_false]
      split <;> rfl
    | none =>
      have hprepare : s.prepare key items random = s.charge key normalized random := by
        simp [BundleReservationLedger.prepare, hattempt, hn, ht]
      have hsame : ∀ k token, (k, token) ∈ h →
          (s.charge key normalized random).2.resources.records.get? token =
            s.resources.records.get? token := by
        intro k token hmem
        have hne : random ≠ token := by
          intro heq
          have hsome := (hs.known k token hmem).2
          simp [← heq, hfresh] at hsome
        rw [charge_resources]
        exact ResourceLedger.step_frame hs.balanced _ hne
      rcases hs.charge ht hfresh normalized with ⟨hreserved, hnone⟩ | ⟨hreserved, hsome⟩
      · have hcharges : s.charges (.prepare key items random) = [] := by
          rw [charges, ht, hprepare]
          cases hg : (s.charge key normalized random).2.transactions.get? key with
          | none => rfl
          | some t => simp [hnone t hg]
        refine .kept ?_ ?_
        · rw [hcharges, List.append_nil]
          simpa only [step, hprepare] using hreserved
        · simpa only [step, hprepare] using hsame
      · have hcharges : s.charges (.prepare key items random) = [(key, random)] := by
          rw [charges, ht, hprepare, hsome]
          rfl
        refine .kept ?_ ?_
        · rw [hcharges]
          simpa only [step, hprepare] using hreserved
        · simpa only [step, hprepare] using hsame

theorem Reserved.commit (hs : Reserved h s) (key : ReservationKey) : Outcome h s (.commit key) := by
  cases ht : s.transactions.get? key with
  | none => exact .unchanged hs rfl (by simp [step, BundleReservationLedger.commit, ht])
  | some t =>
    cases hstate : t.state with
    | prepared =>
      have hstep : s.step (.commit key) =
          { s with children := attachLedgers key t.bundles s.children }.setTransaction key
            { t with childLedgers := t.bundles.map Bundle.index, state := .committed } := by
        simp [step, BundleReservationLedger.commit, ht, hstate]
      refine .quiet ?_ rfl (by rw [hstep]; rfl)
      rw [hstep]
      refine hs.advance ht (by simp [hstate]) ⟨rfl, rfl⟩ (by simp) ?_
      intro k index hchild
      by_cases hk : k = key
      · left
        rcases get?_attachLedgers hchild with ⟨_, hindex⟩ | hold
        · exact ⟨hk, by simp, hindex⟩
        · -- a prepared transaction has no ledgers yet
          rw [hk] at hold
          obtain ⟨t', ht', hprepared, _⟩ := hs.children key index hold
          rw [ht, Option.some.injEq] at ht'
          exact absurd hstate (ht' ▸ hprepared)
      · right
        rcases get?_attachLedgers hchild with ⟨hk', _⟩ | hold
        · exact absurd hk' hk
        · exact ⟨hk, hold⟩
    | _ => exact .unchanged hs rfl (by simp [step, BundleReservationLedger.commit, ht, hstate])

variable {t : Reservation}

theorem Reserved.remove {key : ReservationKey} (hs : Reserved h s)
    (ht : s.transactions.get? key = some t) (halive : t.state ≠ .aborted) :
    Reserved h (s.setTransaction key { t with state := .removing }) := by
  refine hs.advance ht halive ⟨rfl, rfl⟩ (by simp) ?_
  intro k index hchild
  by_cases hk : k = key
  · left
    rw [hk] at hchild
    obtain ⟨t', ht', _, hlisted⟩ := hs.children key index hchild
    rw [ht, Option.some.injEq] at ht'
    rw [← ht'] at hlisted
    exact ⟨hk, by simp, hlisted halive⟩
  · exact .inr ⟨hk, hchild⟩

theorem Reserved.idle {key : ReservationKey} (hs : Reserved h s)
    (ht : s.transactions.get? key = some t) (halive : t.state ≠ .aborted)
    (hquiet : t.state = .prepared ∨ s.hasLiveChildren key t = false) :
    ∀ index ledger, s.children.get? (key, index) = some ledger →
      ledgerHasLiveAllocations ledger = false := by
  intro index ledger hledger
  obtain ⟨t', ht', hprepared, hlisted⟩ := hs.children key index (by simp [hledger])
  rw [ht, Option.some.injEq] at ht'
  subst ht'
  have hlive := hquiet.resolve_left hprepared
  simp only [hasLiveChildren, List.any_eq_false] at hlive
  simpa [hledger] using hlive index (hlisted halive)

theorem Reserved.drop {key : ReservationKey} (hs : Reserved h s)
    (ht : s.transactions.get? key = some t) (halive : t.state ≠ .aborted)
    (hroot : s'.resources = s.resources) (hs' : Reserved h s') {t' : Reservation}
    (ht' : s'.transactions.get? key = some t') (halive' : t'.state ≠ .aborted)
    (hquiet : t.state = .prepared ∨ s.hasLiveChildren key t = false) (hcharges : s.charges op = [])
    (hstep : s.step op = (s'.releaseRoot key t').2) : Outcome h s op := by
  obtain ⟨root, token, hmem, hholds, hcredits, hresult, hreserved⟩ := hs'.releaseRoot ht' halive'
  refine .dropped key ?_ ?_ (hs.idle ht halive hquiet)
  · rw [hcharges, hstep, List.append_nil]
    exact hreserved
  · intro k token' hk hmem'
    have hne : token ≠ token' := by
      intro heq
      exact hk (hs.owner k key token' hmem' (heq ▸ hmem))
    rw [hstep, hresult]
    change root.records.get? token' = _
    rw [hcredits.get?, if_neg hne, hroot]

theorem Reserved.beginRemove (hs : Reserved h s) (key : ReservationKey) :
    Outcome h s (.beginRemove key) := by
  cases ht : s.transactions.get? key with
  | none =>
    have hstep : s.step (.beginRemove key) = s.setTransaction key (.tombstone []) := by
      simp [step, BundleReservationLedger.beginRemove, ht]
    exact .quiet (hstep ▸ hs.tombstone ht []) rfl (by rw [hstep]; rfl)
  | some t =>
    have hremoving : t.state ≠ .aborted →
        s.step (.beginRemove key) = s.setTransaction key { t with state := .removing } →
        Outcome h s (.beginRemove key) := by
      intro halive hstep
      exact .quiet (hstep ▸ hs.remove ht halive) rfl (by rw [hstep]; rfl)
    cases hstate : t.state with
    | prepared =>
      have halive : t.state ≠ .aborted := by simp [hstate]
      exact hs.drop ht halive rfl hs ht halive (.inl hstate) rfl
        (by simp [step, BundleReservationLedger.beginRemove, ht, hstate])
    | aborted =>
      exact .unchanged hs rfl (by simp [step, BundleReservationLedger.beginRemove, ht, hstate])
    | _ =>
      exact hremoving (by simp [hstate])
        (by simp [step, BundleReservationLedger.beginRemove, ht, hstate])

theorem Reserved.finalizeRemove (hs : Reserved h s) (key : ReservationKey) :
    Outcome h s (.finalizeRemove key) := by
  cases ht : s.transactions.get? key with
  | none => exact .unchanged hs rfl (by simp [step, BundleReservationLedger.finalizeRemove, ht])
  | some t =>
    cases hstate : t.state with
    | removing =>
      have halive : t.state ≠ .aborted := by simp [hstate]
      cases hlive : s.hasLiveChildren key t with
      | true =>
        exact .unchanged hs rfl
          (by simp [step, BundleReservationLedger.finalizeRemove, ht, hstate, hlive])
      | false =>
        exact hs.drop ht halive rfl hs ht halive (.inr hlive) rfl
          (by simp [step, BundleReservationLedger.finalizeRemove, ht, hstate, hlive])
    | _ =>
      exact .unchanged hs rfl
        (by simp [step, BundleReservationLedger.finalizeRemove, ht, hstate])

theorem Reserved.abort (hs : Reserved h s) (key : ReservationKey) : Outcome h s (.abort key) := by
  cases ht : s.transactions.get? key with
  | none =>
    have hstep : s.step (.abort key) = s.setTransaction key (.tombstone []) := by
      simp [step, BundleReservationLedger.abort, ht]
    exact .quiet (hstep ▸ hs.tombstone ht []) rfl (by rw [hstep]; rfl)
  | some t =>
    -- a committed transaction is fenced first, and dropped if it can be
    have hfenced : t.state ≠ .aborted →
        s.step (.abort key) = ((s.setTransaction key
          { t with state := .removing }).finalizeRemove key).2 → Outcome h s (.abort key) := by
      intro halive hstep
      have hremoved := hs.remove ht halive
      have hroot : (s.setTransaction key { t with state := .removing }).resources =
          s.resources := rfl
      have hfinal : (s.setTransaction key { t with state := .removing }).finalizeRemove key =
          if s.hasLiveChildren key t then
            (.ok false, s.setTransaction key { t with state := .removing })
          else (s.setTransaction key { t with state := .removing }).releaseRoot key
            { t with state := .removing } := by
        simp only [BundleReservationLedger.finalizeRemove, setTransaction, Dict.get?_set_self]
        rfl
      cases hlive : s.hasLiveChildren key t with
      | true =>
        rw [hfinal, hlive, if_pos rfl] at hstep
        exact .quiet (hstep ▸ hremoved) rfl (by rw [hstep]; rfl)
      | false =>
        rw [hfinal, hlive, if_neg (by simp)] at hstep
        exact hs.drop ht halive hroot hremoved (by simp [setTransaction]) (by simp)
          (.inr hlive) rfl hstep
    cases hstate : t.state with
    | prepared =>
      have halive : t.state ≠ .aborted := by simp [hstate]
      exact hs.drop ht halive rfl hs ht halive (.inl hstate) rfl
        (by simp [step, BundleReservationLedger.abort, ht, hstate])
    | aborted =>
      exact .unchanged hs rfl (by simp [step, BundleReservationLedger.abort, ht, hstate])
    | _ =>
      exact hfenced (by simp [hstate])
        (by simp [step, BundleReservationLedger.abort, ht, hstate])

theorem Reserved.step (hs : Reserved h s) (hexclusive : s.Exclusive op) : Outcome h s op := by
  cases op with
  | prepare key items random => exact hs.prepare hexclusive
  | commit key => exact hs.commit key
  | beginRemove key => exact hs.beginRemove key
  | finalizeRemove key => exact hs.finalizeRemove key
  | abort key => exact hs.abort key
  | root op =>
    refine .kept ?_ ?_
    · change Reserved (h ++ []) _
      rw [List.append_nil]
      exact hs.root hexclusive
    · intro key token hmem
      obtain ⟨t, ht⟩ := Option.isSome_iff_exists.mp (hs.known key token hmem).1
      by_cases haborted : t.state = .aborted
      · obtain ⟨r, hr, hreleased⟩ := (hs.dropped key t ht haborted).2 token hmem
        rw [hr]
        exact ResourceLedger.step_released hs.balanced op hr hreleased
      · obtain ⟨token', hmem', hholds⟩ := hs.held key t ht haborted
        have hother := hexclusive key t ht
        have hne : op.subject ≠ token' := by simpa [hholds.allocations] using hother
        rw [hs.once key token token' hmem hmem']
        exact ResourceLedger.step_frame hs.balanced op hne
  | child key index op =>
    refine .quiet (hs.child key index op) rfl ?_
    simp only [BundleReservationLedger.step, stepChild]
    split <;> rfl

/-! ## Giving back -/

def isReleased (root : ResourceLedger) (token : AllocationToken) : Bool :=
  (root.records.get? token).any fun record => record.state = .released

variable {root : ResourceLedger} {token : AllocationToken}

theorem isReleased_iff :
    isReleased root token = true ↔
      ∃ r, root.records.get? token = some r ∧ r.state = .released := by
  cases hr : root.records.get? token <;> simp [isReleased, hr]

/-- The allocations the root gets back in this step. -/
def credits (s : BundleReservationLedger) (op : Op) : List AllocationToken :=
  (s.step op).resources.records.keys.filter fun token =>
    !isReleased s.resources token && isReleased (s.step op).resources token

theorem count_credits (s : BundleReservationLedger) (op : Op) (token : AllocationToken) :
    (s.credits op).count token =
      if !isReleased s.resources token && isReleased (s.step op).resources token then 1 else 0 := by
  have hnodup : (s.credits op).Nodup := List.Nodup.filter _ (s.step op).resources.records.nodup
  rw [hnodup.count]
  refine if_congr ?_ rfl rfl
  rw [credits, List.mem_filter, and_iff_right_iff_imp]
  intro hmoved
  rw [Bool.and_eq_true] at hmoved
  obtain ⟨r, hr, _⟩ := isReleased_iff.mp hmoved.2
  exact Dict.mem_keys_iff.mpr ⟨r, hr⟩

theorem releaseAll_run (root : ResourceLedger) (allocations : List BundleAllocation) :
    ∃ ops, (releaseAll root allocations).2 = run ResourceLedger.step root ops := by
  induction allocations generalizing root with
  | nil => exact ⟨[], rfl⟩
  | cons allocation rest ih =>
    cases hr : root.release allocation.token with
    | mk result after =>
      have hstep : after = root.step (.release allocation.token) := by
        simp [ResourceLedger.step, ResourceLedger.call, hr]
      cases result with
      | error raised =>
        exact ⟨[.release allocation.token], by simp [releaseAll, hr, hstep]⟩
      | ok _ =>
        obtain ⟨ops, hops⟩ := ih after
        exact ⟨.release allocation.token :: ops, by simp [releaseAll, hr, hops, ← hstep]⟩

theorem releaseRoot_run (s : BundleReservationLedger) (key : ReservationKey) (t : Reservation) :
    ∃ ops, (s.releaseRoot key t).2.resources = run ResourceLedger.step s.resources ops := by
  obtain ⟨ops, hops⟩ := releaseAll_run s.resources t.allocations.reverse
  refine ⟨ops, ?_⟩
  rw [← hops, releaseRoot]
  rcases releaseAll s.resources t.allocations.reverse with ⟨_ | _, root⟩ <;> rfl

theorem finalizeRemove_run (s : BundleReservationLedger) (key : ReservationKey) :
    ∃ ops, (s.finalizeRemove key).2.resources = run ResourceLedger.step s.resources ops := by
  unfold finalizeRemove
  split
  · exact ⟨[], rfl⟩
  · split
    · exact ⟨[], rfl⟩
    · split
      · exact ⟨[], rfl⟩
      · exact s.releaseRoot_run key _
    · exact ⟨[], rfl⟩

theorem step_run (s : BundleReservationLedger) (op : Op) :
    ∃ ops, (s.step op).resources = run ResourceLedger.step s.resources ops := by
  cases op with
  | prepare key items random =>
    simp only [step, prepare]
    split
    · exact ⟨[], rfl⟩
    · split
      · exact ⟨[], rfl⟩
      · split
        · split <;> exact ⟨[], rfl⟩
        · exact ⟨[_], charge_resources s key _ random⟩
  | commit key =>
    simp only [step, commit]
    split
    · exact ⟨[], rfl⟩
    · split <;> exact ⟨[], rfl⟩
  | beginRemove key =>
    simp only [step, beginRemove]
    split
    · exact ⟨[], rfl⟩
    · split
      · exact ⟨[], rfl⟩
      · exact s.releaseRoot_run key _
      · exact ⟨[], rfl⟩
  | finalizeRemove key => exact s.finalizeRemove_run key
  | abort key =>
    simp only [step, abort]
    split
    · exact ⟨[], rfl⟩
    · split
      · exact ⟨[], rfl⟩
      · exact s.releaseRoot_run key _
      · exact finalizeRemove_run _ key
  | root op => exact ⟨[op], rfl⟩
  | child key index op =>
    refine ⟨[], ?_⟩
    simp only [step, stepChild]
    split <;> rfl

theorem isReleased_run (hroot : root.Balanced) (h : isReleased root token = true)
    (ops : List ResourceLedger.Op) :
    isReleased (run ResourceLedger.step root ops) token = true := by
  obtain ⟨r, hr, hreleased⟩ := isReleased_iff.mp h
  exact isReleased_iff.mpr ⟨r, ResourceLedger.run_released hroot ops hr hreleased, hreleased⟩

/-- The tokens given back so far are the released ones, each of them once. -/
structure Credited (c : List AllocationToken) (s : BundleReservationLedger) : Prop where
  balanced : s.resources.Balanced
  count : ∀ token, c.count token = if isReleased s.resources token then 1 else 0

theorem credited_new (total : ResourceVector) : Credited [] (new (.new total)) :=
  ⟨ResourceLedger.balanced_new total, fun _ => rfl⟩

theorem Credited.step {c : List AllocationToken} (hc : Credited c s) (op : Op) :
    Credited (c ++ s.credits op) (s.step op) := by
  obtain ⟨rops, hrops⟩ := s.step_run op
  refine ⟨hrops ▸ ResourceLedger.balanced_run hc.balanced rops, ?_⟩
  intro token
  rw [List.count_append, hc.count, count_credits, hrops]
  cases hbefore : isReleased s.resources token with
  | true => simp [isReleased_run hc.balanced hbefore rops]
  | false => simp

theorem credited_run (total : ResourceVector) (ops : List Op) :
    Credited (outputs step credits (new (.new total)) ops) (run step (new (.new total)) ops) :=
  outputs_invariant (fun _ _ op hc => hc.step op) (credited_new total) ops

/-! ## Tombstones -/

variable {k : ReservationKey}

theorem setTransaction_frame {key : ReservationKey} (hne : key ≠ k) (t : Reservation) :
    (s.setTransaction key t).transactions.get? k = s.transactions.get? k :=
  Dict.get?_set_of_ne _ _ hne

theorem charge_frame {key : ReservationKey} (hne : key ≠ k) (bundles : List Bundle)
    (random : AllocationToken) :
    (s.charge key bundles random).2.transactions.get? k = s.transactions.get? k := by
  simp only [charge]
  split <;> simp [setTransaction_frame hne]

theorem releaseRoot_frame {key : ReservationKey} (hne : key ≠ k) (t : Reservation) :
    (s.releaseRoot key t).2.transactions.get? k = s.transactions.get? k := by
  unfold releaseRoot
  split <;> simp [setTransaction_frame hne]

theorem finalizeRemove_frame {key : ReservationKey} (hne : key ≠ k) :
    (s.finalizeRemove key).2.transactions.get? k = s.transactions.get? k := by
  unfold finalizeRemove
  split
  · rfl
  · split
    · rfl
    · split
      · rfl
      · exact releaseRoot_frame hne _
    · rfl

theorem step_aborted {key : ReservationKey} (ht : s.transactions.get? key = some t)
    (haborted : t.state = .aborted) (op : Op) : (s.step op).transactions.get? key = some t := by
  cases op with
  | prepare k items random =>
    simp only [step, prepare]
    split
    · exact ht
    · split
      · exact ht
      · split
        · split <;> exact ht
        · next hnone =>
          have hk : k ≠ key := by
            intro hk
            simp [hk, ht] at hnone
          rw [charge_frame hk, ht]
  | commit k =>
    by_cases hk : k = key
    · simp [step, commit, hk, ht, haborted]
    · simp only [step, commit]
      split
      · exact ht
      · split
        · exact ht
        · exact ht
        · exact ht
        · rw [setTransaction_frame hk]
          exact ht
  | beginRemove k =>
    by_cases hk : k = key
    · simp [step, beginRemove, hk, ht, haborted]
    · simp only [step, beginRemove]
      split
      · rw [setTransaction_frame hk, ht]
      · split
        · exact ht
        · rw [releaseRoot_frame hk, ht]
        · rw [setTransaction_frame hk, ht]
  | finalizeRemove k =>
    by_cases hk : k = key
    · simp [step, finalizeRemove, hk, ht, haborted]
    · exact (finalizeRemove_frame hk).trans ht
  | abort k =>
    by_cases hk : k = key
    · simp [step, abort, hk, ht, haborted]
    · simp only [step, abort]
      split
      · rw [setTransaction_frame hk, ht]
      · split
        · exact ht
        · rw [releaseRoot_frame hk, ht]
        · rw [finalizeRemove_frame hk, setTransaction_frame hk, ht]
  | root op => exact ht
  | child k index op =>
    simp only [step, stepChild]
    split <;> exact ht

theorem run_aborted {key : ReservationKey} (ht : s.transactions.get? key = some t)
    (haborted : t.state = .aborted) (ops : List Op) :
    (run step s ops).transactions.get? key = some t :=
  run_invariant (p := fun s : BundleReservationLedger => s.transactions.get? key = some t)
    (fun _ op hs => step_aborted hs haborted op) ht ops

/-! ## What the root holds for a transaction -/

/-- What the root holds under the tokens a transaction was charged with. -/
def heldFor (root : ResourceLedger) (charged : List (ReservationKey × AllocationToken))
    (key : ReservationKey) (name : String) : Int :=
  ((charged.filter fun charge => charge.1 = key).map fun charge =>
    root.heldBy charge.2 name).sum

theorem filter_key {charged : List (ReservationKey × AllocationToken)}
    (hnodup : (charged.map Prod.fst).Nodup) {key : ReservationKey} (hmem : (key, token) ∈ charged) :
    charged.filter (fun charge => charge.1 = key) = [(key, token)] := by
  induction charged with
  | nil => cases hmem
  | cons charge rest ih =>
    rw [List.map_cons, List.nodup_cons] at hnodup
    rcases List.mem_cons.mp hmem with rfl | hrest
    · have hnone : rest.filter (fun charge => charge.1 = key) = [] := by
        rw [List.filter_eq_nil_iff]
        intro charge hcharge heq
        have hkey : charge.1 = key := decide_eq_true_eq.mp heq
        exact hnodup.1 (List.mem_map.mpr ⟨charge, hcharge, hkey⟩)
      simp [hnone]
    · have hne : charge.1 ≠ key := by
        intro heq
        exact hnodup.1 (heq ▸ List.mem_map_of_mem hrest)
      simp [hne, ih hnodup.2 hrest]

theorem Reserved.heldFor_live {key : ReservationKey} (hs : Reserved h s)
    (ht : s.transactions.get? key = some t) (halive : t.state ≠ .aborted) (name : String) :
    heldFor s.resources h key name =
      ((t.bundles.map fun bundle => bundle.resources.units name).sum : Nat) := by
  obtain ⟨token, hmem, hholds⟩ := hs.held key t ht halive
  simp [heldFor, filter_key hs.nodup hmem, ResourceLedger.heldBy, hholds.charged,
    units_sumResources]

theorem Reserved.heldFor_aborted {key : ReservationKey} (hs : Reserved h s)
    (ht : s.transactions.get? key = some t) (haborted : t.state = .aborted) (name : String) :
    heldFor s.resources h key name = 0 := by
  refine List.sum_eq_zero ?_
  intro units hunits
  obtain ⟨⟨k, token⟩, hmem, rfl⟩ := List.mem_map.mp hunits
  rw [List.mem_filter, decide_eq_true_eq] at hmem
  obtain ⟨hmem, rfl⟩ := hmem
  obtain ⟨r, hr, hreleased⟩ := (hs.dropped k t ht haborted).2 token hmem
  simp [ResourceLedger.heldBy, hr, AllocationRecord.heldResources, hreleased]

theorem Reserved.isReleased {key : ReservationKey} (hs : Reserved h s) (hmem : (key, token) ∈ h) :
    ∃ t, s.transactions.get? key = some t ∧
      (isReleased s.resources token = true ↔ t.state = .aborted) := by
  obtain ⟨t, ht⟩ := Option.isSome_iff_exists.mp (hs.known key token hmem).1
  refine ⟨t, ht, ?_⟩
  rw [isReleased_iff]
  constructor
  · rintro ⟨r, hr, hreleased⟩
    by_contra halive
    obtain ⟨token', hmem', hholds⟩ := hs.held key t ht halive
    have hsame := hs.once key token token' hmem hmem'
    rw [hsame, hholds.charged, Option.some.injEq] at hr
    simp [← hr] at hreleased
  · intro haborted
    exact (hs.dropped key t ht haborted).2 token hmem

theorem Reserved.credited {key : ReservationKey} (hs : Reserved h s) (hexclusive : s.Exclusive op)
    (hmem : (key, token) ∈ h) (hcredited : token ∈ s.credits op) (index : Nat)
    (ledger : ResourceLedger) (hledger : s.children.get? (key, index) = some ledger) :
    ledgerHasLiveAllocations ledger = false := by
  have hmoved : (s.step op).resources.records.get? token ≠ s.resources.records.get? token := by
    intro hsame
    simp [credits, BundleReservationLedger.isReleased, hsame] at hcredited
  cases hs.step hexclusive with
  | kept _ same => exact absurd (same key token hmem) hmoved
  | dropped k _ same idle =>
    by_cases hk : key = k
    · exact idle index ledger (hk ▸ hledger)
    · exact absurd (same key token hk hmem) hmoved

theorem reserved_run (hroot : root.Balanced) {ops : List Op}
    (hexclusive : Admissible step Exclusive (new root) ops) :
    Reserved (outputs step charges (new root) ops) (run step (new root) ops) := by
  refine hexclusive.outputs_invariant ?_ (reserved_new hroot)
  intro h s op hok hs
  cases hs.step hok with
  | kept reserved => exact reserved
  | dropped _ reserved => exact reserved

/-- Along every run of a participant whose tokens nobody else uses: the root holds for a
transaction the sum of its bundles until it is aborted and nothing from then on, each of
its allocations is given back once, when all its child ledgers are idle, and an aborted
transaction is final. -/
theorem capacity_reserved (total : ResourceVector) (ops : List Op)
    (hexclusive : Admissible step Exclusive (new (.new total)) ops) :
    let s := run step (new (.new total)) ops
    let charged := outputs step charges (new (.new total)) ops
    let credited := outputs step credits (new (.new total)) ops
    (∀ key t name, s.transactions.get? key = some t →
      heldFor s.resources charged key name =
        if t.state = .aborted then 0
        else ((t.bundles.map fun bundle => bundle.resources.units name).sum : Nat)) ∧
      (∀ key token, (key, token) ∈ charged → ∃ t, s.transactions.get? key = some t ∧
        credited.count token = if t.state = .aborted then 1 else 0) ∧
      (∀ before op after, ops = before ++ op :: after → ∀ key token,
        (key, token) ∈ outputs step charges (new (.new total)) before →
        token ∈ (run step (new (.new total)) before).credits op → ∀ index ledger,
        (run step (new (.new total)) before).children.get? (key, index) = some ledger →
        ∀ record ∈ ledger.records.values, record.state = .released) ∧
      ∀ key t, s.transactions.get? key = some t → t.state = .aborted → ∀ later,
        (run step s later).transactions.get? key = some t := by
  intro s charged credited
  have hroot := ResourceLedger.balanced_new total
  have hs : Reserved charged s := reserved_run hroot hexclusive
  refine ⟨?_, ?_, ?_, ?_⟩
  · intro key t name ht
    by_cases haborted : t.state = .aborted
    · rw [if_pos haborted, hs.heldFor_aborted ht haborted]
      rfl
    · rw [if_neg haborted, hs.heldFor_live ht haborted]
  · intro key token hmem
    obtain ⟨t, ht, hreleased⟩ := hs.isReleased hmem
    refine ⟨t, ht, ?_⟩
    rw [(credited_run total ops).count token]
    exact if_congr hreleased rfl rfl
  · intro before op after hops key token hmem hcredited index ledger hledger record hrecord
    rw [hops, admissible_append] at hexclusive
    have hidle := (reserved_run hroot hexclusive.1).credited hexclusive.2.1 hmem hcredited index
      ledger hledger
    simp only [ledgerHasLiveAllocations, List.any_eq_false, decide_eq_true_eq, not_not] at hidle
    exact hidle record hrecord
  · intro key t ht haborted later
    exact run_aborted ht haborted later

namespace Sample

def cpu : ResourceVector := .oneCpu

def key : ReservationKey := ⟨⟨1⟩, 0⟩

def rootToken : AllocationToken := ⟨"root", by decide⟩

def childToken : AllocationToken := ⟨"part", by decide⟩

/-- One bundle is reserved and used; its removal waits for the user. -/
def reserving : List Op :=
  [.prepare key [.resources cpu] rootToken, .commit key,
    .child key 0 (.allocate cpu (some childToken) childToken), .beginRemove key,
    .finalizeRemove key, .child key 0 (.release childToken), .finalizeRemove key]

theorem exclusive_reserving : Admissible step Exclusive (new (.new cpu)) reserving :=
  ⟨rfl, trivial, trivial, trivial, trivial, trivial, trivial, trivial⟩

end Sample

open Sample in
/-- The reservation of the sample run is given back once, in its last step. -/
theorem capacity_reserved_once :
    (outputs step credits (new (.new cpu)) reserving).count rootToken = 1 ∧
      (run step (new (.new cpu)) reserving.dropLast).credits (.finalizeRemove key) =
        [rootToken] := by
  obtain ⟨_, hcount, _⟩ := capacity_reserved cpu reserving exclusive_reserving
  have hcharged : outputs step charges (new (.new cpu)) reserving = [(key, rootToken)] := by rfl
  have hstate : ((run step (new (.new cpu)) reserving).transactions.get? key).map
      Reservation.state = some .aborted := by rfl
  have hmem : (key, rootToken) ∈ outputs step charges (new (.new cpu)) reserving := by
    rw [hcharged]
    exact List.mem_singleton_self _
  obtain ⟨t, ht, hcredited⟩ := hcount key rootToken hmem
  rw [ht, Option.map_some, Option.some.injEq] at hstate
  refine ⟨?_, by rfl⟩
  rw [hcredited, if_pos hstate]

end BundleReservationLedger

end MiniRay
