import MiniRay.Placement.Reservation

/-! Every reservation is charged to the root once, and credited once, when it is dropped. -/

namespace MiniRay

open Checked Run

theorem units_sumResources (bundles : List Bundle) (name : String) :
    (sumResources bundles).units name =
      (bundles.map fun bundle => bundle.resources.units name).sum := by
  have hfold : ∀ total : ResourceVector,
      (bundles.foldl (fun total bundle => total.add bundle.resources) total).units name =
        total.units name + (bundles.map fun bundle => bundle.resources.units name).sum := by
    induction bundles with
    | nil => simp
    | cons bundle rest ih =>
      intro total
      rw [List.foldl_cons, ih, ResourceVector.units_add, List.map_cons, List.sum_cons]
      omega
  simpa [sumResources] using hfold .empty

namespace BundleReservationLedger

variable {s s' : BundleReservationLedger}

/-- The allocation a transaction was charged with in this step. -/
def charges (s : BundleReservationLedger) : Op → List (ReservationKey × AllocationToken)
  | .prepare key items random =>
    match s.transactions.get? key, (s.prepare key items random).2.transactions.get? key with
    | none, some transaction =>
      transaction.allocations.map fun allocation => (key, allocation.token)
    | _, _ => []
  | _ => []

/-- Random tokens are new to the root; other users leave the reservations' tokens alone. -/
def Exclusive (s : BundleReservationLedger) : Op → Prop
  | .prepare _ _ random => s.resources.records.get? random = none
  | .root op => ∀ key transaction, s.transactions.get? key = some transaction →
      op.subject ∉ transaction.allocations.map BundleAllocation.token
  | _ => True

/-! ## The invariant -/

structure Holds (root : ResourceLedger) (t : Reservation) (token : AllocationToken) : Prop where
  allocations : t.allocations = [⟨t.bundles.map Bundle.index, sumResources t.bundles, token⟩]
  charged : root.records.get? token = some ⟨token, sumResources t.bundles, .active⟩

/-- Transactions agree with the root, with their charges and with their bundles' ledgers. -/
structure Reserved (h : List (ReservationKey × AllocationToken))
    (s : BundleReservationLedger) : Prop where
  balanced : s.resources.Balanced
  held : ∀ key t, s.transactions.get? key = some t → t.state ≠ .aborted →
    ∃ token, (key, token) ∈ h ∧ Holds s.resources t token
  dropped : ∀ key t, s.transactions.get? key = some t → t.state = .aborted →
    t.allocations = [] ∧ ∀ token, (key, token) ∈ h →
      ∃ r, s.resources.records.get? token = some r ∧ r.state = .released
  known : ∀ key token, (key, token) ∈ h →
    (s.transactions.get? key).isSome ∧ (s.resources.records.get? token).isSome
  owner : ∀ key key' token, (key, token) ∈ h → (key', token) ∈ h → key = key'
  nodup : (h.map Prod.fst).Nodup
  children : ∀ key index, (s.children.get? (key, index)).isSome →
    ∃ t, s.transactions.get? key = some t ∧ t.state ≠ .prepared ∧
      (t.state ≠ .aborted → index ∈ t.childLedgers)

variable {h : List (ReservationKey × AllocationToken)}

theorem Reserved.once (hs : Reserved h s) (key : ReservationKey) (token token' : AllocationToken)
    (hmem : (key, token) ∈ h) (hmem' : (key, token') ∈ h) : token = token' :=
  (Prod.mk.inj (List.inj_on_of_nodup_map hs.nodup hmem hmem' rfl)).2

theorem reserved_new {root : ResourceLedger} (hroot : root.Balanced) :
    Reserved [] (new root) :=
  ⟨hroot, by simp [new], by simp [new], by simp, by simp, by simp, by simp [new]⟩

variable {key : ReservationKey}

theorem Reserved.update {h' : List (ReservationKey × AllocationToken)} {t' : Reservation}
    (hs : Reserved h s) (hbalanced : s'.resources.Balanced)
    (htransactions : s'.transactions = s.transactions.set key t')
    (hadded : ∀ k token, (k, token) ∈ h' ↔ (k, token) ∈ h ∨ k = key ∧ (key, token) ∈ h')
    (hkept : ∀ k token r, k ≠ key → (k, token) ∈ h → s.resources.records.get? token = some r →
      s'.resources.records.get? token = some r)
    (hmine : ∀ token, (key, token) ∈ h' → (s'.resources.records.get? token).isSome)
    (hheld : t'.state ≠ .aborted → ∃ token, (key, token) ∈ h' ∧ Holds s'.resources t' token)
    (hdropped : t'.state = .aborted → t'.allocations = [] ∧ ∀ token, (key, token) ∈ h' →
      ∃ r, s'.resources.records.get? token = some r ∧ r.state = .released)
    (howner : ∀ k token, (key, token) ∈ h' → (k, token) ∈ h → k = key)
    (hnodup : (h'.map Prod.fst).Nodup)
    (hchildren : ∀ k index, (s'.children.get? (k, index)).isSome → k = key ∧ t'.state ≠ .prepared ∧
      (t'.state ≠ .aborted → index ∈ t'.childLedgers) ∨ k ≠ key ∧
      (s.children.get? (k, index)).isSome) :
    Reserved h' s' := by
  have hget : ∀ k t, s'.transactions.get? k = some t →
      k = key ∧ t = t' ∨ k ≠ key ∧ s.transactions.get? k = some t := by
    intro k t ht
    rw [htransactions] at ht
    rcases Dict.of_get?_set_ne ht with ⟨hk, ht⟩ | ⟨hk, ht⟩
    · exact .inl ⟨hk.symm, ht.symm⟩
    · exact .inr ⟨Ne.symm hk, ht⟩
  have hold : ∀ k token, k ≠ key → (k, token) ∈ h' → (k, token) ∈ h := by
    intro k token hk hmem
    rcases (hadded k token).mp hmem with hmem | ⟨rfl, _⟩
    · exact hmem
    · exact absurd rfl hk
  refine ⟨hbalanced, ?_, ?_, ?_, ?_, hnodup, ?_⟩
  · intro k t ht halive
    rcases hget k t ht with ⟨rfl, rfl⟩ | ⟨hk, ht⟩
    · exact hheld halive
    · obtain ⟨token, hmem, hholds⟩ := hs.held k t ht halive
      exact ⟨token, (hadded k token).mpr (.inl hmem), hholds.allocations,
        hkept k token _ hk hmem hholds.charged⟩
  · intro k t ht haborted
    rcases hget k t ht with ⟨rfl, rfl⟩ | ⟨hk, ht⟩
    · exact hdropped haborted
    · obtain ⟨hnone, hreleased⟩ := hs.dropped k t ht haborted
      refine ⟨hnone, ?_⟩
      intro token hmem
      obtain ⟨r, hr, hstate⟩ := hreleased token (hold k token hk hmem)
      exact ⟨r, hkept k token r hk (hold k token hk hmem) hr, hstate⟩
  · intro k token hmem
    by_cases hk : k = key
    · subst hk
      exact ⟨by simp [htransactions], hmine token hmem⟩
    · have hknown := hs.known k token (hold k token hk hmem)
      obtain ⟨r, hr⟩ := Option.isSome_iff_exists.mp hknown.2
      have hr' := hkept k token r hk (hold k token hk hmem) hr
      rw [htransactions, Dict.get?_set_of_ne _ _ (Ne.symm hk)]
      exact ⟨hknown.1, by simp [hr']⟩
  · intro k k' token hmem hmem'
    by_cases hk : k = key
    · subst hk
      by_cases hk' : k' = k
      · exact hk'.symm
      · exact (howner k' token hmem (hold k' token hk' hmem')).symm
    · by_cases hk' : k' = key
      · subst hk'
        exact howner k token hmem' (hold k token hk hmem)
      · exact hs.owner k k' token (hold k token hk hmem) (hold k' token hk' hmem')
  · intro k index hchild
    rcases hchildren k index hchild with ⟨rfl, hstate⟩ | ⟨hk, hchild⟩
    · exact ⟨t', by simp [htransactions], hstate⟩
    · obtain ⟨t, ht, hstate⟩ := hs.children k index hchild
      refine ⟨t, ?_, hstate⟩
      rw [htransactions, Dict.get?_set_of_ne _ _ (Ne.symm hk)]
      exact ht

/-! ## The operations -/

theorem Reserved.unknown (hs : Reserved h s) (hnew : s.transactions.get? key = none)
    (token : AllocationToken) : (key, token) ∉ h := by
  intro hmem
  have hsome := (hs.known key token hmem).1
  simp [hnew] at hsome

theorem Reserved.childless (hs : Reserved h s) (hnew : s.transactions.get? key = none)
    (index : Nat) :
    s.children.get? (key, index) = none := by
  by_contra hsome
  obtain ⟨t, ht, _⟩ := hs.children key index (Option.isSome_iff_ne_none.mpr hsome)
  simp [hnew] at ht

theorem Reserved.tombstone (hs : Reserved h s) (hnew : s.transactions.get? key = none)
    (bundles : List Bundle) : Reserved h (s.setTransaction key (.tombstone bundles)) := by
  have hunknown := hs.unknown hnew
  refine hs.update hs.balanced rfl ?_ (fun _ _ _ _ _ hr => hr) ?_ ?_ ?_ ?_ ?_ ?_
  · intro k token
    exact ⟨.inl, fun hmem => hmem.elim id fun hmem => absurd hmem.2 (hunknown token)⟩
  · intro token hmem
    exact absurd hmem (hunknown token)
  · intro halive
    exact absurd rfl halive
  · intro _
    exact ⟨rfl, fun token hmem => absurd hmem (hunknown token)⟩
  · intro k token hmem
    exact absurd hmem (hunknown token)
  · exact hs.nodup
  · intro k index hchild
    by_cases hk : k = key
    · subst hk
      simp [setTransaction, hs.childless hnew] at hchild
    · exact .inr ⟨hk, hchild⟩

variable {children : Dict (ReservationKey × Nat) ResourceLedger}

theorem Reserved.advance {t t' : Reservation} (hs : Reserved h s)
    (ht : s.transactions.get? key = some t) (halive : t.state ≠ .aborted)
    (hsame : t'.bundles = t.bundles ∧ t'.allocations = t.allocations)
    (halive' : t'.state ≠ .aborted)
    (hchildren : ∀ k index, (children.get? (k, index)).isSome → k = key ∧ t'.state ≠ .prepared ∧
      index ∈ t'.childLedgers ∨ k ≠ key ∧ (s.children.get? (k, index)).isSome) :
    Reserved h ({ s with children := children }.setTransaction key t') := by
  obtain ⟨token, hmem, hholds⟩ := hs.held key t ht halive
  refine hs.update hs.balanced rfl ?_ (fun _ _ _ _ _ hr => hr) ?_ ?_ ?_ ?_ ?_ ?_
  · intro k token'
    exact ⟨.inl, fun hm => hm.elim id fun hm => hm.1 ▸ hm.2⟩
  · intro token' hmem'
    exact (hs.known key token' hmem').2
  · intro _
    refine ⟨token, hmem, ?_, ?_⟩
    · rw [hsame.1, hsame.2]
      exact hholds.allocations
    · rw [hsame.1]
      exact hholds.charged
  · intro haborted
    exact absurd haborted halive'
  · intro k token' hmem' hk
    exact hs.owner k key token' hk hmem'
  · exact hs.nodup
  · intro k index hchild
    rcases hchildren k index hchild with ⟨hk, hstate, hindex⟩ | hother
    · exact .inl ⟨hk, hstate, fun _ => hindex⟩
    · exact .inr hother

theorem Reserved.releaseRoot {t : Reservation} (hs : Reserved h s)
    (ht : s.transactions.get? key = some t) (halive : t.state ≠ .aborted) :
    ∃ root token, (key, token) ∈ h ∧ Holds s.resources t token ∧
      s.resources.Recharges root ⟨token, sumResources t.bundles, .released⟩ ∧
      s.releaseRoot key t = (.ok true, { s with resources := root }.setTransaction key
        { t with allocations := [], childLedgers := [], state := .aborted }) ∧
      Reserved h (s.releaseRoot key t).2 := by
  obtain ⟨token, hmem, hholds⟩ := hs.held key t ht halive
  obtain ⟨root, hrelease, hcredits⟩ := ResourceLedger.release_live hs.balanced hholds.charged
    (by simp)
  have hresult : s.releaseRoot key t = (.ok true, { s with resources := root }.setTransaction key
      { t with allocations := [], childLedgers := [], state := .aborted }) := by
    simp [BundleReservationLedger.releaseRoot, hholds.allocations, releaseAll, hrelease]
  refine ⟨root, token, hmem, hholds, hcredits, hresult, ?_⟩
  rw [hresult]
  have hget := hcredits.get?
  have hreleased : root.records.get? token =
      some ⟨token, sumResources t.bundles, .released⟩ := by rw [hget, if_pos rfl]
  refine hs.update (hcredits.balanced hs.balanced) rfl ?_ ?_ ?_ ?_ ?_ ?_ ?_ ?_
  · intro k token'
    exact ⟨.inl, fun hm => hm.elim id fun hm => hm.1 ▸ hm.2⟩
  · intro k token' r hk hmem' hr
    have hne : token ≠ token' := by
      intro heq
      exact hk (hs.owner k key token' hmem' (heq ▸ hmem))
    change root.records.get? token' = some r
    rw [hget, if_neg hne]
    exact hr
  · intro token' hmem'
    have heq := hs.once key token token' hmem hmem'
    subst heq
    simp [setTransaction, hreleased]
  · intro halive'
    exact absurd rfl halive'
  · intro _
    refine ⟨rfl, ?_⟩
    intro token' hmem'
    have heq := hs.once key token token' hmem hmem'
    subst heq
    exact ⟨_, hreleased, rfl⟩
  · intro k token' hmem' hk
    exact hs.owner k key token' hk hmem'
  · exact hs.nodup
  · intro k index hchild
    by_cases hk : k = key
    · exact .inl ⟨hk, by simp, by simp⟩
    · exact .inr ⟨hk, hchild⟩

theorem Reserved.charge {random : AllocationToken} (hs : Reserved h s)
    (hnew : s.transactions.get? key = none) (hfresh : s.resources.records.get? random = none)
    (bundles : List Bundle) :
    Reserved h (s.charge key bundles random).2 ∧
        (∀ t, (s.charge key bundles random).2.transactions.get? key = some t →
          t.allocations = []) ∨
      Reserved (h ++ [(key, random)]) (s.charge key bundles random).2 ∧
        (s.charge key bundles random).2.transactions.get? key = some ⟨bundles,
          [⟨bundles.map Bundle.index, sumResources bundles, random⟩], .prepared, []⟩ := by
  have hunknown := hs.unknown hnew
  rcases ResourceLedger.allocate_spec hs.balanced (sumResources bundles) none random with
    ⟨e, hraised, hquiet⟩ | ⟨_, hknown⟩ | ⟨root, hcharged, _, hcharges⟩
  · left
    by_cases he : ∃ requested available, e = .insufficientResources requested available
    · obtain ⟨requested, available, rfl⟩ := he
      have hresult : s.charge key bundles random =
          (.ok false, s.setTransaction key (.tombstone bundles)) := by
        simp [BundleReservationLedger.charge, ResourceLedger.tryAllocate, hraised, setTransaction]
      rw [hresult]
      refine ⟨hs.tombstone hnew bundles, ?_⟩
      intro t ht
      simp only [setTransaction, Dict.get?_set_self, Option.some.injEq] at ht
      rw [← ht]
      rfl
    · have hresult : (s.charge key bundles random).2 = s := by
        cases e with
        | insufficientResources requested available => exact absurd ⟨_, _, rfl⟩ he
        | _ => simp [BundleReservationLedger.charge, ResourceLedger.tryAllocate, hraised]
      rw [hresult]
      exact ⟨hs, fun t ht => by simp [hnew] at ht⟩
  · simp [hfresh] at hknown
  · right
    rw [Option.getD_none] at hcharged hcharges
    have hresult : s.charge key bundles random = (.ok true,
        { s with resources := root }.setTransaction key
          ⟨bundles, [⟨bundles.map Bundle.index, sumResources bundles, random⟩], .prepared,
            []⟩) := by
      simp [BundleReservationLedger.charge, ResourceLedger.tryAllocate, hcharged]
    rw [hresult]
    have hget := hcharges.get?
    have hnow : root.records.get? random =
        some ⟨random, sumResources bundles, .active⟩ := by rw [hget, if_pos rfl]
    have hold : ∀ k token, (k, token) ∈ h → random ≠ token := by
      intro k token hmem heq
      have hsome := (hs.known k token hmem).2
      simp [← heq, hfresh] at hsome
    have hmine : ∀ token, (key, token) ∈ h ++ [(key, random)] → token = random := by
      intro token hmem
      rw [List.mem_append, List.mem_singleton, Prod.mk.injEq] at hmem
      exact hmem.elim (fun hmem => absurd hmem (hunknown token)) And.right
    refine ⟨hs.update (hcharges.balanced hs.balanced) rfl ?_ ?_ ?_ ?_ ?_ ?_ ?_ ?_,
      by simp [setTransaction]⟩
    · intro k token
      simp only [List.mem_append, List.mem_singleton, Prod.mk.injEq]
      tauto
    · intro k token r _ hmem hr
      change root.records.get? token = some r
      rw [hget, if_neg (hold k token hmem)]
      exact hr
    · intro token hmem
      rw [hmine token hmem]
      simp [setTransaction, hnow]
    · intro _
      exact ⟨random, by simp, rfl, hnow⟩
    · intro haborted
      cases haborted
    · intro k token hmem hk
      exact absurd (hmine token hmem).symm (hold k token hk)
    · rw [List.map_append, List.map_singleton, List.nodup_append]
      refine ⟨hs.nodup, List.nodup_singleton key, ?_⟩
      intro k hk k' hk' heq
      obtain ⟨⟨k, token⟩, hmem, rfl⟩ := List.mem_map.mp hk
      have hkey : k = key := heq.trans (List.mem_singleton.mp hk')
      exact hunknown token (hkey ▸ hmem)
    · intro k index hchild
      by_cases hk : k = key
      · subst hk
        have hnone := hs.childless hnew index
        simp [setTransaction, hnone] at hchild
      · exact .inr ⟨hk, hchild⟩

theorem get?_attachLedgers {k : ReservationKey} {index : Nat} {bundles : List Bundle}
    (h : ((attachLedgers key bundles children).get? (k, index)).isSome) :
    k = key ∧ index ∈ bundles.map Bundle.index ∨ (children.get? (k, index)).isSome := by
  induction bundles generalizing children with
  | nil => exact .inr h
  | cons bundle rest ih =>
    rcases ih h with
      ⟨hk, hindex⟩ | hchild
    · exact .inl ⟨hk, List.mem_cons_of_mem _ hindex⟩
    · rw [Dict.get?_set] at hchild
      by_cases hsame : (key, bundle.index) = (k, index)
      · rw [Prod.mk.injEq] at hsame
        exact .inl ⟨hsame.1.symm, by simp [hsame.2]⟩
      · rw [if_neg hsame] at hchild
        exact .inr hchild

theorem Reserved.root {op : ResourceLedger.Op} (hs : Reserved h s)
    (hother : ∀ key t, s.transactions.get? key = some t →
      op.subject ∉ t.allocations.map BundleAllocation.token) :
    Reserved h { s with resources := s.resources.step op } := by
  have hsome : ∀ token, (s.resources.records.get? token).isSome →
      ((s.resources.step op).records.get? token).isSome := by
    intro token hr
    cases ResourceLedger.call_spec hs.balanced op with
    | unchanged same => rw [same]; exact hr
    | recharged r' _ token recharges =>
      rw [recharges.get?]
      split
      · rfl
      · exact hr
  refine ⟨hs.balanced.step op, ?_, ?_, ?_, hs.owner, hs.nodup, hs.children⟩
  · intro key t ht halive
    obtain ⟨token, hmem, hholds⟩ := hs.held key t ht halive
    have hne : op.subject ≠ token := by
      have hnot := hother key t ht
      simpa [hholds.allocations] using hnot
    have hcharged := (ResourceLedger.step_frame hs.balanced op hne).trans hholds.charged
    exact ⟨token, hmem, hholds.allocations, hcharged⟩
  · intro key t ht haborted
    obtain ⟨hnone, hdropped⟩ := hs.dropped key t ht haborted
    refine ⟨hnone, ?_⟩
    intro token hmem
    obtain ⟨r, hr, hstate⟩ := hdropped token hmem
    exact ⟨r, ResourceLedger.step_released hs.balanced op hr hstate, hstate⟩
  · intro key token hmem
    exact ⟨(hs.known key token hmem).1, hsome token (hs.known key token hmem).2⟩

theorem Reserved.child (hs : Reserved h s) (key : ReservationKey) (index : Nat)
    (op : ResourceLedger.Op) : Reserved h (s.stepChild key index op) := by
  unfold stepChild
  cases hc : s.children.get? (key, index) with
  | none => exact hs
  | some ledger =>
    refine ⟨hs.balanced, hs.held, hs.dropped, hs.known, hs.owner, hs.nodup, ?_⟩
    intro k i hchild
    refine hs.children k i ?_
    simp only [Dict.get?_set] at hchild
    by_cases hk : (key, index) = (k, i)
    · rw [← hk, hc]
      rfl
    · rwa [if_neg hk] at hchild

end BundleReservationLedger

end MiniRay
