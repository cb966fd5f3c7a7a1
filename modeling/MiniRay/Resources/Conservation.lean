import MiniRay.Resources.Ledger
import Mathlib.Algebra.BigOperators.Group.List.Basic

/-! Whatever is not available is held by some allocation, and nothing else is. -/

namespace MiniRay

open Checked Run

/-! ## What an allocation holds -/

namespace AllocationRecord

@[simp] theorem held_released (token : AllocationToken) (resources : ResourceVector)
    (name : String) :
    (AllocationRecord.mk token resources .released).heldResources.units name = 0 := rfl

@[simp] theorem held_active (token : AllocationToken) (resources : ResourceVector)
    (name : String) :
    (AllocationRecord.mk token resources .active).heldResources.units name =
      resources.units name := rfl

@[simp] theorem held_cpuYielded (token : AllocationToken) (resources : ResourceVector)
    (name : String) : (AllocationRecord.mk token resources .cpuYielded).heldResources.units name =
      if name = cpuName then 0 else resources.units name := by
  simp only [heldResources, ResourceVector.units_fromUnits]
  rw [Dict.get?_filter_key _ fun name => decide (name ≠ cpuName)]
  by_cases h : name = cpuName <;> simp [h, ResourceVector.units]

end AllocationRecord

namespace ResourceLedger

variable {l l' : ResourceLedger}

/-- What all allocations together hold of a resource. -/
def heldUnits (l : ResourceLedger) (name : String) : Int :=
  l.records.sumBy fun record => record.heldResources.units name

def heldBy (l : ResourceLedger) (token : AllocationToken) (name : String) : Int :=
  ((l.records.get? token).map fun record => (record.heldResources.units name : Int)).getD 0

theorem foldl_changeUnits {items : List (String × Nat)} (hnodup : (items.map Prod.fst).Nodup)
    (sign : Int) (available : Dict String Int) (name : String) :
    ((items.foldl (changeUnits sign) available).get? name).getD 0 =
      (available.get? name).getD 0 + sign * ((Dict.lookup name items).getD 0 : Nat) := by
  induction items generalizing available with
  | nil => simp [Dict.lookup]
  | cons item rest ih =>
    obtain ⟨k, u⟩ := item
    rw [List.map_cons, List.nodup_cons] at hnodup
    rw [List.foldl_cons, ih hnodup.2, changeUnits, Dict.get?_set]
    by_cases hk : k = name
    · subst hk
      have hrest : Dict.lookup k rest = none := Dict.lookup_eq_none.mpr hnodup.1
      simp [Dict.lookup, hrest]
    · simp [Dict.lookup, hk]

theorem signedAvailable_changeAvailable (l : ResourceLedger) (v : ResourceVector) (sign : Int)
    (name : String) : (l.changeAvailable v sign).signedAvailable name =
      l.signedAvailable name + sign * v.units name :=
  foldl_changeUnits v.nodup sign l.availableUnits name

theorem signedAvailable_addCpu (l : ResourceLedger) (units : Int) (name : String) :
    (l.addCpu units).signedAvailable name =
      l.signedAvailable name + if name = cpuName then units else 0 := by
  simp only [signedAvailable, addCpu, Dict.get?_set]
  by_cases h : cpuName = name
  · simp [h]
  · simp [h, Ne.symm h]

theorem canAllocate_iff {request : ResourceVector} :
    l.canAllocate request = true ↔ ∀ name, name ∈ request.items.map Prod.fst →
      (request.units name : Int) ≤ l.signedAvailable name := by
  simp only [canAllocate, List.all_eq_true, decide_eq_true_eq]
  constructor
  · intro h name hname
    obtain ⟨item, hi, rfl⟩ := List.mem_map.mp hname
    rw [ResourceVector.units_of_mem hi]
    exact h item hi
  · intro h item hi
    rw [← ResourceVector.units_of_mem hi]
    exact h item.1 (List.mem_map_of_mem hi)

/-! ## The invariant -/

/-- Everything is accounted for, only CPU is owed, and only allocations with CPU yield it. -/
structure Balanced (l : ResourceLedger) : Prop where
  conserved : ∀ name, l.signedAvailable name + l.heldUnits name = l.total.units name
  solvent : ∀ name, name ≠ cpuName → 0 ≤ l.signedAvailable name
  keyed : ∀ token r, l.records.get? token = some r → r.token = token
  yielded : ∀ token r, l.records.get? token = some r → r.state = .cpuYielded →
    r.resources.units cpuName ≠ 0

theorem balanced_new (total : ResourceVector) : (new total).Balanced := by
  have havailable : ∀ name, (new total).signedAvailable name = total.units name := by
    intro name
    simp only [signedAvailable, new, Dict.get?_mapValues, ResourceVector.units]
    cases total.toDict.get? name <;> simp
  refine ⟨?_, ?_, by simp [new], by simp [new]⟩
  · intro name
    rw [havailable]
    simp [heldUnits, new]
  · intro name _
    rw [havailable]
    omega

theorem heldUnits_nonneg (l : ResourceLedger) (name : String) : 0 ≤ l.heldUnits name :=
  Dict.sumBy_nonneg _ fun record => by omega

theorem Balanced.le_total (h : l.Balanced) (name : String) :
    l.signedAvailable name ≤ l.total.units name := by
  have hconserved := h.conserved name
  have hheld := l.heldUnits_nonneg name
  omega

theorem Balanced.assertInvariants (h : l.Balanced) : l.assertInvariants = .ok () := by
  rw [ResourceLedger.assertInvariants, checkAll_eq_ok]
  intro name _
  have htotal := h.le_total name
  have hsolvent := h.solvent name
  rw [bind_eq_ok]
  refine ⟨(), raiseIf_ok (by omega), raiseIf_ok ?_⟩
  intro hn
  have hpos := hsolvent hn.1
  omega

/-! ## One call -/

/-- One allocation's record is replaced, and the difference of what it holds is moved. -/
structure Recharges (l l' : ResourceLedger) (r : AllocationRecord) : Prop where
  total : l'.total = l.total
  records : l'.records = l.records.set r.token r
  moved : ∀ name, l'.signedAvailable name + r.heldResources.units name =
    l.signedAvailable name + l.heldBy r.token name
  solvent : ∀ name, name ≠ cpuName → 0 ≤ l.signedAvailable name → 0 ≤ l'.signedAvailable name
  yielded : r.state = .cpuYielded → r.resources.units cpuName ≠ 0
  live : ∀ old, l.records.get? r.token = some old →
    old.state ≠ .released ∧ r.resources = old.resources
  fresh : l.records.get? r.token = none → r.state = .active

variable {r : AllocationRecord}

theorem Recharges.get? (h : l.Recharges l' r) (token : AllocationToken) :
    l'.records.get? token = if r.token = token then some r else l.records.get? token := by
  rw [h.records, Dict.get?_set]

theorem Recharges.balanced (h : l.Recharges l' r) (hl : l.Balanced) : l'.Balanced := by
  have hget : ∀ token x, l'.records.get? token = some x →
      r.token = token ∧ x = r ∨ l.records.get? token = some x := by
    intro token x hx
    rw [h.records] at hx
    rcases Dict.of_get?_set hx with ⟨ht, hx⟩ | hx
    · exact .inl ⟨ht, hx.symm⟩
    · exact .inr hx
  refine ⟨?_, fun name hn => h.solvent name hn (hl.solvent name hn), ?_, ?_⟩
  · intro name
    have hmoved := h.moved name
    have hconserved := hl.conserved name
    have hsum := l.records.sumBy_set r.token r fun record => (record.heldResources.units name : Int)
    rw [heldUnits, h.records, h.total]
    simp only [heldUnits, heldBy] at hconserved hmoved
    omega
  · intro token x hx
    rcases hget token x hx with ⟨ht, rfl⟩ | hx
    · exact ht
    · exact hl.keyed token x hx
  · intro token x hx
    rcases hget token x hx with ⟨ht, rfl⟩ | hx
    · exact h.yielded
    · exact hl.yielded token x hx

/-- The call changes nothing: it raises, says so, or repeats a known allocation. -/
def NoOp (l : ResourceLedger) (op : Op) : Prop :=
  match (l.call op).1 with
  | .error _ => True
  | .ok (.changed changed) => changed = false
  | .ok (.token token) => token = none ∨ (l.records.get? op.subject).isSome

inductive Outcome (l : ResourceLedger) (op : Op) : Prop
  | unchanged (same : l.step op = l)
      (quiet : ∀ message, (l.call op).1 ≠ .error (.assertionError message))
  | recharged (r : AllocationRecord) (effect : ¬ l.NoOp op) (token : r.token = op.subject)
      (recharges : l.Recharges (l.step op) r)

theorem allocate_spec (hl : l.Balanced) (request : ResourceVector)
    (token : Option AllocationToken) (random : AllocationToken) :
    (∃ e, l.allocate request token random = (.error e, l) ∧ ∀ m, e ≠ .assertionError m) ∨
    (l.allocate request token random = (.ok (token.getD random), l) ∧
      (l.records.get? (token.getD random)).isSome) ∨
    ∃ l' : ResourceLedger, l.allocate request token random = (.ok (token.getD random), l') ∧
      l.records.get? (token.getD random) = none ∧
      l.Recharges l' ⟨token.getD random, request, .active⟩ := by
  cases hr : l.records.get? (token.getD random) with
  | some existing =>
    simp only [allocate, hr]
    split
    · exact .inl ⟨_, rfl, nofun⟩
    · split
      · exact .inl ⟨_, rfl, nofun⟩
      · exact .inr (.inl ⟨rfl, rfl⟩)
  | none =>
    by_cases hc : l.canAllocate request = true
    · have hcharges : l.Recharges ((l.changeAvailable request (-1)).setRecord
          ⟨token.getD random, request, .active⟩) ⟨token.getD random, request, .active⟩ := by
        have havailable := l.signedAvailable_changeAvailable request (-1)
        refine ⟨rfl, rfl, ?_, ?_, nofun, by simp [hr], fun _ => rfl⟩
        · intro name
          have hname := havailable name
          simp only [heldBy, hr, AllocationRecord.held_active, Option.map_none, Option.getD_none]
          change (l.changeAvailable request (-1)).signedAvailable name + _ = _
          omega
        · intro name _ hpos
          have hname := havailable name
          change 0 ≤ (l.changeAvailable request (-1)).signedAvailable name
          by_cases hm : name ∈ request.items.map Prod.fst
          · have hfits := canAllocate_iff.mp hc name hm
            omega
          · have hzero := ResourceVector.units_eq_zero hm
            omega
      refine .inr (.inr ⟨_, ?_, rfl, hcharges⟩)
      simp [allocate, hr, hc, (hcharges.balanced hl).assertInvariants, Except.map]
    · refine .inl ⟨.insufficientResources request l.publicAvailable, ?_, nofun⟩
      simp [allocate, hr, hc]

/-- How a call about one known allocation ends. -/
inductive Changes (l : ResourceLedger) (token : AllocationToken) :
    Except ResourceError Bool × ResourceLedger → Prop
  | refused (e : ResourceError) (quiet : ∀ message, e ≠ .assertionError message) :
      Changes l token (.error e, l)
  | idle : Changes l token (.ok false, l)
  | changed (l' : ResourceLedger) (r : AllocationRecord) (subject : r.token = token)
      (recharges : l.Recharges l' r) : Changes l token (.ok true, l')

variable {token : AllocationToken} {existing : AllocationRecord}

theorem release_live (hl : l.Balanced) (hr : l.records.get? token = some existing)
    (hs : existing.state ≠ .released) :
    ∃ l' : ResourceLedger, l.release token = (.ok true, l') ∧
      l.Recharges l' ⟨token, existing.resources, .released⟩ := by
  have hcredits : l.Recharges ((l.changeAvailable existing.heldResources 1).setRecord
      ⟨token, existing.resources, .released⟩) ⟨token, existing.resources, .released⟩ := by
    have havailable := l.signedAvailable_changeAvailable existing.heldResources 1
    refine ⟨rfl, rfl, ?_, ?_, nofun, ?_, by simp [hr]⟩
    · intro name
      have hname := havailable name
      simp only [heldBy, hr, AllocationRecord.held_released, Option.map_some, Option.getD_some]
      change (l.changeAvailable existing.heldResources 1).signedAvailable name + _ = _
      omega
    · intro name _ hpos
      have hname := havailable name
      change 0 ≤ (l.changeAvailable existing.heldResources 1).signedAvailable name
      omega
    · intro old hold
      rw [show l.records.get? token = some old from hold] at hr
      cases hr
      exact ⟨hs, rfl⟩
  refine ⟨_, ?_, hcredits⟩
  simp [release, hr, hs, (hcredits.balanced hl).assertInvariants, Except.map]

theorem release_changes (hl : l.Balanced) (token : AllocationToken) :
    Changes l token (l.release token) := by
  cases hr : l.records.get? token with
  | none =>
    simp only [release, hr]
    exact .refused _ nofun
  | some existing =>
    by_cases hs : existing.state = .released
    · simp only [release, hr, hs, ite_true]
      exact .idle
    · obtain ⟨l', hresult, hcredits⟩ := release_live hl hr hs
      rw [hresult]
      exact .changed _ _ rfl hcredits

theorem addCpu_recharges {u : Int} {s : AllocationState} (hr : l.records.get? token = some existing)
    (hlive : existing.state ≠ .released) (hcpu : existing.resources.units cpuName ≠ 0)
    (hmoved : ∀ name, (if name = cpuName then u else 0) +
      (AllocationRecord.mk token existing.resources s).heldResources.units name =
      existing.heldResources.units name) :
    l.Recharges ((l.addCpu u).setRecord ⟨token, existing.resources, s⟩)
      ⟨token, existing.resources, s⟩ := by
  have havailable := l.signedAvailable_addCpu u
  refine ⟨rfl, rfl, ?_, ?_, fun _ => hcpu, ?_, by simp [hr]⟩
  · intro name
    have hname := havailable name
    have hmove := hmoved name
    simp only [heldBy, hr, Option.map_some, Option.getD_some]
    change (l.addCpu u).signedAvailable name + _ = _
    omega
  · intro name hn hpos
    have hname := havailable name
    rw [if_neg hn] at hname
    change 0 ≤ (l.addCpu u).signedAvailable name
    omega
  · intro old hold
    rw [show l.records.get? token = some old from hold] at hr
    cases hr
    exact ⟨hlive, rfl⟩

theorem yieldCpu_active (hl : l.Balanced) (hr : l.records.get? token = some existing)
    (hs : existing.state = .active) (hcpu : existing.resources.units cpuName ≠ 0) :
    ∃ l' : ResourceLedger, l.yieldCpu token = (.ok true, l') ∧
      l.Recharges l' ⟨token, existing.resources, .cpuYielded⟩ := by
  have hheld : ∀ name, existing.heldResources.units name = existing.resources.units name := by
    intro name
    simp [AllocationRecord.heldResources, hs]
  have hmoves := addCpu_recharges (u := existing.resources.units cpuName)
    (s := .cpuYielded) hr (by simp [hs]) hcpu (by
      intro name
      rw [hheld]
      by_cases hn : name = cpuName <;> simp [hn])
  refine ⟨_, ?_, hmoves⟩
  simp [yieldCpu, hr, hs, hcpu, (hmoves.balanced hl).assertInvariants, Except.map]

theorem yieldCpu_changes (hl : l.Balanced) (token : AllocationToken) :
    Changes l token (l.yieldCpu token) := by
  cases hr : l.records.get? token with
  | none =>
    simp only [yieldCpu, hr]
    exact .refused _ nofun
  | some existing =>
    by_cases hs : existing.state = .active
    · by_cases hcpu : existing.resources.units cpuName = 0
      · simp only [yieldCpu, hr, hs, hcpu, ne_eq, not_true_eq_false, ite_true, ite_false]
        exact .idle
      · obtain ⟨l', hresult, hmoves⟩ := yieldCpu_active hl hr hs hcpu
        rw [hresult]
        exact .changed _ _ rfl hmoves
    · simp only [yieldCpu, hr, ne_eq, hs, not_false_eq_true, ite_true]
      exact .idle

theorem reacquireCpu_yielded (hl : l.Balanced) (hr : l.records.get? token = some existing)
    (hs : existing.state = .cpuYielded) :
    ∃ l' : ResourceLedger, l.reacquireCpu token = (.ok true, l') ∧
      l.Recharges l' ⟨token, existing.resources, .active⟩ := by
  have hcpu := hl.yielded token existing hr hs
  have hheld : ∀ name, existing.heldResources.units name =
      if name = cpuName then 0 else existing.resources.units name := by
    intro name
    have hyielded := AllocationRecord.held_cpuYielded existing.token existing.resources name
    rw [← hs] at hyielded
    exact hyielded
  have hmoves := addCpu_recharges (u := -existing.resources.units cpuName) (s := .active) hr
    (by simp [hs]) hcpu (by
      intro name
      rw [hheld]
      by_cases hn : name = cpuName <;> simp [hn])
  refine ⟨_, ?_, hmoves⟩
  simp [reacquireCpu, hr, hs, hcpu, (hmoves.balanced hl).assertInvariants, Except.map]

theorem reacquireCpu_changes (hl : l.Balanced) (token : AllocationToken) :
    Changes l token (l.reacquireCpu token) := by
  cases hr : l.records.get? token with
  | none =>
    simp only [reacquireCpu, hr]
    exact .refused _ nofun
  | some existing =>
    by_cases hs : existing.state = .cpuYielded
    · obtain ⟨l', hresult, hmoves⟩ := reacquireCpu_yielded hl hr hs
      rw [hresult]
      exact .changed _ _ rfl hmoves
    · simp only [reacquireCpu, hr, ne_eq, hs, not_false_eq_true, ite_true]
      exact .idle

theorem Changes.outcome {op : Op} {x : Except ResourceError Bool × ResourceLedger}
    (h : Changes l op.subject x) (hcall : l.call op = (x.1.map .changed, x.2)) :
    l.Outcome op := by
  have hstep : l.step op = x.2 := congrArg Prod.snd hcall
  have hreply : (l.call op).1 = x.1.map .changed := congrArg Prod.fst hcall
  cases h with
  | refused e quiet =>
    refine .unchanged hstep ?_
    intro message hraised
    rw [hreply] at hraised
    exact quiet message (by simpa [Except.map] using hraised)
  | idle =>
    refine .unchanged hstep ?_
    intro message hraised
    simp [hreply, Except.map] at hraised
  | changed l' r subject recharges =>
    refine .recharged r ?_ subject (hstep ▸ recharges)
    simp [NoOp, hreply, Except.map]

/-- Every call changes nothing or recharges its own allocation. -/
theorem call_spec (hl : l.Balanced) (op : Op) : l.Outcome op := by
  cases op with
  | allocate request token random =>
    rcases allocate_spec hl request token random with
      ⟨e, hraised, hquiet⟩ | ⟨hreplay, hknown⟩ | ⟨l', hnew, hfresh, hcharges⟩
    · refine .unchanged (by simp [step, call, hraised]) ?_
      intro message
      simpa [call, hraised, Except.map] using hquiet message
    · refine .unchanged (by simp [step, call, hreplay]) ?_
      intro message
      simp [call, hreplay, Except.map]
    · refine .recharged _ ?_ rfl (by simpa [step, call, hnew] using hcharges)
      simp [NoOp, call, hnew, Except.map, Op.subject, hfresh]
  | tryAllocate request token random =>
    rcases allocate_spec hl request token random with
      ⟨e, hraised, hquiet⟩ | ⟨hreplay, hknown⟩ | ⟨l', hnew, hfresh, hcharges⟩
    · cases e with
      | insufficientResources requested available =>
        refine .unchanged (by simp [step, call, tryAllocate, hraised]) ?_
        intro message
        simp [call, tryAllocate, hraised, Except.map]
      | allocationToken text =>
        refine .unchanged (by simp [step, call, tryAllocate, hraised]) ?_
        intro message
        simp [call, tryAllocate, hraised, Except.map]
      | allocationAlreadyReleased text =>
        refine .unchanged (by simp [step, call, tryAllocate, hraised]) ?_
        intro message
        simp [call, tryAllocate, hraised, Except.map]
      | assertionError text => exact absurd rfl (hquiet text)
    · refine .unchanged (by simp [step, call, tryAllocate, hreplay]) ?_
      intro message
      simp [call, tryAllocate, hreplay, Except.map]
    · refine .recharged _ ?_ rfl (by simpa [step, call, tryAllocate, hnew] using hcharges)
      simp [NoOp, call, tryAllocate, hnew, Except.map, Op.subject, hfresh]
  | release token => exact (release_changes hl token).outcome rfl
  | yieldCpu token => exact (yieldCpu_changes hl token).outcome rfl
  | reacquireCpu token => exact (reacquireCpu_changes hl token).outcome rfl

/-! ## Runs -/

theorem Balanced.step (hl : l.Balanced) (op : Op) : (l.step op).Balanced := by
  cases call_spec hl op with
  | unchanged same => rw [same]; exact hl
  | recharged r _ _ recharges => exact recharges.balanced hl

theorem balanced_run (hl : l.Balanced) (ops : List Op) :
    (run ResourceLedger.step l ops).Balanced :=
  run_invariant (fun _ op h => h.step op) hl ops

theorem step_total (hl : l.Balanced) (op : Op) : (l.step op).total = l.total := by
  cases call_spec hl op with
  | unchanged same => rw [same]
  | recharged r _ _ recharges => exact recharges.total

theorem step_released (hl : l.Balanced) (op : Op) (hr : l.records.get? token = some r)
    (hs : r.state = .released) : (l.step op).records.get? token = some r := by
  cases call_spec hl op with
  | unchanged same => rw [same]; exact hr
  | recharged r' _ _ recharges =>
    rw [recharges.records, Dict.get?_set]
    by_cases ht : r'.token = token
    · subst ht
      exact absurd hs (recharges.live r hr).1
    · rw [if_neg ht]
      exact hr

theorem step_frame (hl : l.Balanced) (op : Op) (hne : op.subject ≠ token) :
    (l.step op).records.get? token = l.records.get? token := by
  cases call_spec hl op with
  | unchanged same => rw [same]
  | recharged r _ subject recharges => rw [recharges.get?, subject, if_neg hne]

theorem run_released (hl : l.Balanced) (ops : List Op) (hr : l.records.get? token = some r)
    (hs : r.state = .released) : (run ResourceLedger.step l ops).records.get? token = some r := by
  have hboth := run_invariant
    (p := fun l : ResourceLedger => l.Balanced ∧ l.records.get? token = some r)
    (fun _ op h => ⟨h.1.step op, step_released h.1 op h.2 hs⟩) ⟨hl, hr⟩ ops
  exact hboth.2

theorem run_total (hl : l.Balanced) (ops : List Op) :
    (run ResourceLedger.step l ops).total = l.total := by
  have hboth := run_invariant
    (p := fun l' : ResourceLedger => l'.Balanced ∧ l'.total = l.total)
    (fun _ op h => ⟨h.1.step op, (step_total h.1 op).trans h.2⟩) ⟨hl, rfl⟩ ops
  exact hboth.2

theorem release_released (hl : l.Balanced)
    (hr : (l.step (.release token)).records.get? token = some r) : r.state = .released := by
  change (l.release token).2.records.get? token = some r at hr
  cases hknown : l.records.get? token with
  | none =>
    simp [release, hknown] at hr
  | some existing =>
    by_cases hs : existing.state = .released
    · simp only [release, hknown, hs, if_true, Option.some.injEq] at hr
      rwa [← hr]
    · obtain ⟨l', hresult, hcredits⟩ := release_live hl hknown hs
      rw [hresult, hcredits.get?, if_pos rfl] at hr
      rw [← Option.some.inj hr]

theorem releases_released (hl : l.Balanced) (tokens : List AllocationToken)
    (hall : ∀ token r, l.records.get? token = some r → token ∈ tokens ∨ r.state = .released)
    (hr : (run step l (tokens.map .release)).records.get? token = some r) :
    r.state = .released := by
  induction tokens generalizing l with
  | nil => exact (hall token r hr).resolve_left List.not_mem_nil
  | cons t tokens ih =>
    refine ih (hl.step _) (fun token r hr => ?_) hr
    by_cases ht : t = token
    · subst ht
      exact .inr (release_released hl hr)
    · rw [step_frame hl (.release t) ht] at hr
      exact (hall token r hr).imp_left fun hmem => (List.mem_cons.mp hmem).resolve_left (Ne.symm ht)

/-- However its allocations were yielded, owed or interleaved, a ledger whose tokens are all
released, in any order, has its total back. -/
theorem released_restores (total : ResourceVector) (ops : List Op) (tokens : List AllocationToken)
    (hall : ∀ token ∈ (run step (new total) ops).records.keys, token ∈ tokens) :
    let l := run step (new total) (ops ++ tokens.map .release)
    ∀ name, l.signedAvailable name = total.units name := by
  intro l name
  have hbefore := balanced_run (balanced_new total) ops
  have hl : l.Balanced := balanced_run (balanced_new total) _
  have htotal : l.total = total := run_total (balanced_new total) _
  have hreleased : ∀ r ∈ l.records.values, r.state = .released := by
    intro r hr
    obtain ⟨token, hr⟩ := Dict.mem_values_iff.mp hr
    simp only [l, run_append] at hr
    refine releases_released hbefore tokens (fun t r hr => .inl (hall t ?_)) hr
    by_contra hnew
    rw [Dict.get?_eq_none_iff.mpr hnew] at hr
    cases hr
  have hheld : l.heldUnits name = 0 := by
    refine List.sum_eq_zero fun units hunits => ?_
    obtain ⟨r, hr, rfl⟩ := List.mem_map.mp hunits
    simp [AllocationRecord.heldResources, hreleased r hr]
  rw [← htotal, ← hl.conserved, hheld, add_zero]

def leaseToken : AllocationToken := ⟨"lease", by decide⟩

theorem released_restores_yielded :
    let l := run step (new .oneCpu) [.allocate .oneCpu (some leaseToken) leaseToken,
      .yieldCpu leaseToken, .release leaseToken]
    ∀ name, l.signedAvailable name = ResourceVector.oneCpu.units name :=
  released_restores .oneCpu [.allocate .oneCpu (some leaseToken) leaseToken,
    .yieldCpu leaseToken] [leaseToken] (by decide)

end ResourceLedger

end MiniRay
