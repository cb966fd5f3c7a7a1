import MiniRay.Resources.Conservation

/-! Whoever holds an allocation gives it back once. A tenancy is any table of holders whose
allocations the ledger charges under tokens of their own. -/

namespace MiniRay

namespace ResourceLedger

variable {κ : Type*} [DecidableEq κ] {held held' : κ → Option AllocationRecord}
  {l l' : ResourceLedger} {token : AllocationToken}

structure Tenancy (held : κ → Option AllocationRecord) (l : ResourceLedger) : Prop where
  balanced : l.Balanced
  charged : ∀ k r, held k = some r → l.records.get? r.token = some r ∧ r.state ≠ .released
  own : ∀ k k' r r', held k = some r → held k' = some r' → r.token = r'.token → k = k'

/-- The allocation was given back, and nobody holds it. -/
structure Spent (held : κ → Option AllocationRecord) (l : ResourceLedger)
    (token : AllocationToken) : Prop where
  released : ∃ r, l.records.get? token = some r ∧ r.state = .released
  unheld : ∀ k r, held k = some r → r.token ≠ token

/-- How holders and ledger change together. -/
inductive Tenancy.Step (held : κ → Option AllocationRecord) (l : ResourceLedger) :
    (κ → Option AllocationRecord) → ResourceLedger → Prop
  | used {held' : κ → Option AllocationRecord} (op : Op) (same : ∀ k, held' k = held k)
      (other : ∀ k r, held k = some r → op.subject ≠ r.token) :
      Tenancy.Step held l held' (l.step op)
  | same {held' : κ → Option AllocationRecord} (same : ∀ k, held' k = held k) :
      Tenancy.Step held l held' l
  | gained {held' : κ → Option AllocationRecord} {l' : ResourceLedger} {k : κ}
      {r : AllocationRecord} (vacant : held k = none) (fresh : l.records.get? r.token = none)
      (recharges : l.Recharges l' r)
      (changed : ∀ k', held' k' = if k' = k then some r else held k') :
      Tenancy.Step held l held' l'
  | moved {held' : κ → Option AllocationRecord} {l' : ResourceLedger} {k : κ}
      {r r' : AllocationRecord} (holds : held k = some r) (token : r'.token = r.token)
      (live : r'.state ≠ .released) (recharges : l.Recharges l' r')
      (changed : ∀ k', held' k' = if k' = k then some r' else held k') :
      Tenancy.Step held l held' l'
  | dropped {held' : κ → Option AllocationRecord} {l' : ResourceLedger} {k : κ}
      {r : AllocationRecord} (holds : held k = some r)
      (recharges : l.Recharges l' ⟨r.token, r.resources, .released⟩)
      (changed : ∀ k', held' k' = if k' = k then none else held k') :
      Tenancy.Step held l held' l'

omit [DecidableEq κ] in
theorem Tenancy.congr (h : Tenancy held l) (hsame : ∀ k, held' k = held k) :
    Tenancy held' l := by
  have heq : held' = held := funext hsame
  rw [heq]
  exact h

variable {r : AllocationRecord}

theorem Tenancy.recharged (h : Tenancy held l) {k : κ} (hlive : r.state ≠ .released)
    (hothers : ∀ k' r', held k' = some r' → r'.token = r.token → k' = k)
    (hrecharges : l.Recharges l' r) (hchanged : ∀ k', held' k' = if k' =
      k then some r else held k') :
    Tenancy held' l' := by
  refine ⟨hrecharges.balanced h.balanced, fun k' r' hk' => ?_, fun k₁ k₂ r₁ r₂ h₁ h₂ htoken => ?_⟩
  · rw [hchanged] at hk'
    rw [hrecharges.get?]
    split at hk'
    · obtain rfl := Option.some.inj hk'
      exact ⟨if_pos rfl, hlive⟩
    · next hne =>
      have hapart : r.token ≠ r'.token := fun heq => hne (hothers k' r' hk' heq.symm)
      rw [if_neg hapart]
      exact h.charged k' r' hk'
  · rw [hchanged] at h₁ h₂
    split at h₁ <;> split at h₂
    · next hk₁ hk₂ => exact hk₁.trans hk₂.symm
    · next hk₁ hk₂ =>
      obtain rfl := Option.some.inj h₁
      exact absurd (hothers k₂ r₂ h₂ htoken.symm) hk₂
    · next hk₁ hk₂ =>
      obtain rfl := Option.some.inj h₂
      exact absurd (hothers k₁ r₁ h₁ htoken) hk₁
    · exact h.own k₁ k₂ r₁ r₂ h₁ h₂ htoken

theorem Tenancy.Step.tenancy (hstep : Tenancy.Step held l held' l') (h : Tenancy held l) :
    Tenancy held' l' := by
  cases hstep with
  | same same => exact h.congr same
  | used op same other =>
    refine Tenancy.congr ⟨h.balanced.step op, fun k r hk => ?_, h.own⟩ same
    obtain ⟨hcharged, hlive⟩ := h.charged k r hk
    exact ⟨(step_frame h.balanced op (other k r hk)).trans hcharged, hlive⟩
  | gained vacant fresh recharges changed =>
    refine h.recharged ?_ (fun k' r' hk' htoken => ?_) recharges changed
    · rw [recharges.fresh fresh]
      decide
    · have hcharged := (h.charged k' r' hk').1
      rw [htoken, fresh] at hcharged
      cases hcharged
  | moved holds token live recharges changed =>
    refine h.recharged live (fun k' r' hk' htoken => ?_) recharges changed
    exact h.own _ _ _ _ hk' holds (htoken.trans token)
  | @dropped _ k r holds recharges changed =>
    refine ⟨recharges.balanced h.balanced, fun k' r' hk' => ?_,
      fun k₁ k₂ r₁ r₂ h₁ h₂ htoken => ?_⟩
    · rw [changed] at hk'
      split at hk'
      · cases hk'
      · next hne =>
        have hapart : r.token ≠ r'.token := fun heq => hne (h.own _ _ _ _ hk' holds heq.symm)
        rw [recharges.get?, if_neg hapart]
        exact h.charged k' r' hk'
    · rw [changed] at h₁ h₂
      split at h₁
      · cases h₁
      · split at h₂
        · cases h₂
        · exact h.own k₁ k₂ r₁ r₂ h₁ h₂ htoken

theorem Tenancy.Step.spent (hstep : Tenancy.Step held l held' l') (h : Tenancy held l)
    (hspent : Spent held l token) : Spent held' l' token := by
  obtain ⟨r₀, hreleased, hstate⟩ := hspent.released
  cases hstep with
  | same same => exact ⟨hspent.released, fun k r hk => hspent.unheld k r ((same k).symm.trans hk)⟩
  | used op same other =>
    exact ⟨⟨r₀, step_released h.balanced op hreleased hstate, hstate⟩,
      fun k r hk => hspent.unheld k r ((same k).symm.trans hk)⟩
  | @gained _ k r vacant fresh recharges changed =>
    have hapart : r.token ≠ token := fun heq => by
      rw [heq, hreleased] at fresh
      cases fresh
    refine ⟨⟨r₀, by rwa [recharges.get?, if_neg hapart], hstate⟩, fun k' r' hk' => ?_⟩
    rw [changed] at hk'
    split at hk'
    · obtain rfl := Option.some.inj hk'
      exact hapart
    · exact hspent.unheld k' r' hk'
  | @moved _ k r r' holds htoken live recharges changed =>
    have hapart : r'.token ≠ token := fun heq => hspent.unheld k r holds (htoken.symm.trans heq)
    refine ⟨⟨r₀, by rwa [recharges.get?, if_neg hapart], hstate⟩, fun k' x hk' => ?_⟩
    rw [changed] at hk'
    split at hk'
    · obtain rfl := Option.some.inj hk'
      exact hapart
    · exact hspent.unheld k' x hk'
  | @dropped _ k r holds recharges changed =>
    have hapart : r.token ≠ token := hspent.unheld k r holds
    refine ⟨⟨r₀, by rwa [recharges.get?, if_neg hapart], hstate⟩, fun k' r' hk' => ?_⟩
    rw [changed] at hk'
    split at hk'
    · cases hk'
    · exact hspent.unheld k' r' hk'

theorem Tenancy.Step.keeps (hstep : Tenancy.Step held l held' l') (h : Tenancy held l) {k : κ}
    (hr : held k = some r) :
    (∃ r', held' k = some r' ∧ r'.token = r.token) ∨ Spent held' l' r.token := by
  cases hstep with
  | same same => exact .inl ⟨r, (same k).trans hr, rfl⟩
  | used op same other => exact .inl ⟨r, (same k).trans hr, rfl⟩
  | @gained _ k₀ r₀ vacant fresh recharges changed =>
    have hne : k ≠ k₀ := fun heq => by
      rw [heq, vacant] at hr
      cases hr
    exact .inl ⟨r, by rwa [changed, if_neg hne], rfl⟩
  | @moved _ k₀ r₀ r' holds token live recharges changed =>
    by_cases hk : k = k₀
    · subst hk
      obtain rfl := Option.some.inj (hr.symm.trans holds)
      exact .inl ⟨r', by rw [changed, if_pos rfl], token⟩
    · exact .inl ⟨r, by rwa [changed, if_neg hk], rfl⟩
  | @dropped _ k₀ r₀ holds recharges changed =>
    by_cases hk : k = k₀
    · subst hk
      obtain rfl := Option.some.inj (hr.symm.trans holds)
      refine .inr ⟨⟨⟨r.token, r.resources, .released⟩, ?_, rfl⟩, fun k' r' hk' htoken => ?_⟩
      · rw [recharges.get?]
        exact if_pos rfl
      · rw [changed] at hk'
        split at hk'
        · cases hk'
        · next hne => exact hne (h.own _ _ _ _ hk' holds htoken)
    · exact .inl ⟨r, by rwa [changed, if_neg hk], rfl⟩

end ResourceLedger

end MiniRay
