import MiniRay.Blocking.Lease
import MiniRay.Resources.Conservation

/-! The CPU of a lease is yielded exactly while an episode is open, and a closed episode is never
opened again. -/

namespace MiniRay

open ResourceLedger

namespace BlockingLease

variable {s s' : BlockingLease} {request : BlockingNotification}

/-- What the ledger has to say about the allocation. -/
def allocationState (s : BlockingLease) : AllocationState :=
  if ¬ s.state.Live then .released
  else if s.blockingOpen = true ∧ s.resources.units cpuName ≠ 0 then .cpuYielded
  else .active

structure Inv (s : BlockingLease) : Prop where
  balanced : s.ledger.Balanced
  held : s.ledger.records.get? s.allocationToken =
    some ⟨s.allocationToken, s.resources, s.allocationState⟩
  running : s.blockingOpen = true → s.state = .running
  flag : s.cpuYielded = true ↔ s.blockingOpen = true ∧ s.resources.units cpuName ≠ 0

/-- The episode was closed, or skipped over by a later one. -/
def Closed (s : BlockingLease) (sequence : Int) : Prop :=
  sequence < s.blockingSequence ∨ sequence = s.blockingSequence ∧ s.blockingOpen = false

/-! ## One notification -/

inductive Notified (s : BlockingLease) (request : BlockingNotification) :
    Except ResourceError BlockingReply × BlockingLease → Prop
  | rejected {reply : BlockingReply} (about : reply.request = request)
      (refused : reply.accepted = false) (told : reply.state = s.state) :
      Notified s request (.ok reply, s)
  | replayed {reply : BlockingReply} (about : reply.request = request)
      (told : reply.state = s.state)
      (same : (request.sequence : Int) = s.blockingSequence)
      (kind : s.blockingOpen = true ↔ request.kind = .blocked) : Notified s request (.ok reply, s)
  | opened {reply : BlockingReply} {ledger : ResourceLedger} {yielded : Bool}
      (about : reply.request = request) (told : reply.state = s.state)
      (blocked : request.kind = .blocked) (running : s.state = .running)
      (next : (request.sequence : Int) = s.blockingSequence + 1) (closed : s.blockingOpen = false)
      (result : s.ledger.yieldCpu s.allocationToken = (.ok yielded, ledger))
      (expected : yielded = true ↔ s.resources.units cpuName ≠ 0) :
      Notified s request (.ok reply, { s with
        ledger := ledger
        blockingSequence := request.sequence
        blockingOpen := true
        cpuYielded := yielded })
  | closed {reply : BlockingReply} {ledger : ResourceLedger} (about : reply.request = request)
      (told : reply.state = s.state) (unblocked : request.kind = .unblocked)
      (running : s.state = .running) (same : (request.sequence : Int) = s.blockingSequence)
      (isOpen : s.blockingOpen = true)
      (result : (s.resources.units cpuName = 0 ∧ ledger = s.ledger) ∨
        s.resources.units cpuName ≠ 0 ∧
          s.ledger.reacquireCpu s.allocationToken = (.ok true, ledger)) :
      Notified s request (.ok reply, { s with
        ledger := ledger, blockingOpen := false, cpuYielded := false })
  | entombed {reply : BlockingReply} (about : reply.request = request)
      (told : reply.state = s.state)
      (unblocked : request.kind = .unblocked) (running : s.state = .running)
      (next : (request.sequence : Int) = s.blockingSequence + 1) (closed : s.blockingOpen = false) :
      Notified s request (.ok reply, { s with
        blockingSequence := request.sequence, blockingOpen := false, cpuYielded := false })

theorem Inv.yieldCpu (h : s.Inv) (hrunning : s.state = .running)
    (hclosed : s.blockingOpen = false) :
    ∃ yielded ledger, s.ledger.yieldCpu s.allocationToken = (.ok yielded, ledger) ∧
      (yielded = true ↔ s.resources.units cpuName ≠ 0) := by
  have hheld := h.held
  have hactive : s.allocationState = .active := by
    simp [allocationState, hrunning, LeaseExecutionState.Live, hclosed]
  rw [hactive] at hheld
  by_cases hcpu : s.resources.units cpuName = 0
  · refine ⟨false, s.ledger, ?_, by simp [hcpu]⟩
    simp [ResourceLedger.yieldCpu, hheld, hcpu]
  · obtain ⟨ledger, hresult, _⟩ := yieldCpu_active h.balanced hheld rfl hcpu
    exact ⟨true, ledger, hresult, by simp [hcpu]⟩

theorem Inv.reacquireCpu (h : s.Inv) (hopen : s.blockingOpen = true)
    (hcpu : s.resources.units cpuName ≠ 0) :
    ∃ ledger, s.ledger.reacquireCpu s.allocationToken = (.ok true, ledger) := by
  have hheld := h.held
  have hyielded : s.allocationState = .cpuYielded := by
    simp [allocationState, h.running hopen, LeaseExecutionState.Live, hopen, hcpu]
  rw [hyielded] at hheld
  obtain ⟨ledger, hresult, _⟩ := reacquireCpu_yielded h.balanced hheld rfl
  exact ⟨ledger, hresult⟩

theorem rejection_spec (s : BlockingLease) (request : BlockingNotification) :
    (∃ reply, s.rejection request = some reply ∧ Notified s request (.ok reply, s)) ∨
      (s.rejection request = none ∧ request.identity = s.identity ∧ s.state = .running) := by
  unfold rejection
  split
  · exact .inl ⟨_, rfl, .rejected rfl rfl rfl⟩
  · next hidentity =>
    split
    · exact .inl ⟨_, rfl, .rejected rfl rfl rfl⟩
    · next hrunning => exact .inr ⟨rfl, not_not.mp hidentity, not_not.mp hrunning⟩

theorem notifyBlocked_spec (h : s.Inv) (hkind : request.kind = .blocked) :
    Notified s request (s.notifyBlocked request) := by
  unfold notifyBlocked
  rcases s.rejection_spec request with ⟨reply, hrejected, hspec⟩ | ⟨hnone, _, hrunning⟩
  · rw [hrejected]
    exact hspec
  · rw [hnone]
    dsimp only
    split_ifs with hstale hsame hopen hskipped hopen
    · exact .rejected rfl rfl rfl
    · exact .replayed rfl rfl hsame (by simp [hopen, hkind])
    · exact .rejected rfl rfl rfl
    · exact .rejected rfl rfl rfl
    · exact .rejected rfl rfl rfl
    · rw [Bool.not_eq_true] at hopen
      obtain ⟨yielded, ledger, hresult, hexpected⟩ := h.yieldCpu hrunning hopen
      unfold openEpisode
      have hagrees : yielded = decide (0 < s.resources.units cpuName) := by
        rw [Bool.eq_iff_iff, hexpected, decide_eq_true_eq, Nat.pos_iff_ne_zero]
      simp only [hresult, ← hagrees, ne_eq, not_true_eq_false, if_false]
      exact .opened rfl rfl hkind hrunning (not_not.mp hskipped) hopen hresult hexpected

theorem notifyUnblocked_spec (h : s.Inv) (hkind : request.kind = .unblocked) :
    Notified s request (s.notifyUnblocked request) := by
  unfold notifyUnblocked
  rcases s.rejection_spec request with ⟨reply, hrejected, hspec⟩ | ⟨hnone, _, hrunning⟩
  · rw [hrejected]
    exact hspec
  · rw [hnone]
    dsimp only
    split_ifs with hstale hsame hopen hskipped hopen
    · exact .rejected rfl rfl rfl
    · unfold closeEpisode
      by_cases hcpu : s.resources.units cpuName = 0
      · have hflag : s.cpuYielded = false := by
          have hiff := h.flag
          simpa [hcpu] using hiff
        simp only [hflag, if_true]
        exact .closed rfl rfl hkind hrunning hsame hopen (.inl ⟨hcpu, rfl⟩)
      · have hflag : s.cpuYielded = true := h.flag.mpr ⟨hopen, hcpu⟩
        obtain ⟨ledger, hresult⟩ := h.reacquireCpu hopen hcpu
        simp only [hflag, Bool.true_eq_false, if_false, hresult]
        exact .closed rfl rfl hkind hrunning hsame hopen (.inr ⟨hcpu, hresult⟩)
    · exact .replayed rfl rfl hsame (by simp [hopen, hkind])
    · exact .rejected rfl rfl rfl
    · exact .rejected rfl rfl rfl
    · rw [Bool.not_eq_true] at hopen
      exact .entombed rfl rfl hkind hrunning (not_not.mp hskipped) hopen

theorem notify_spec (h : s.Inv) (request : BlockingNotification) :
    Notified s request (s.notify request) := by
  unfold notify
  cases hkind : request.kind with
  | blocked => exact notifyBlocked_spec h hkind
  | unblocked => exact notifyUnblocked_spec h hkind

/-! ## The invariant -/

theorem Inv.recharged (h : s.Inv) {ledger : ResourceLedger} {state : AllocationState}
    (hrecharges : s.ledger.Recharges ledger ⟨s.allocationToken, s.resources, state⟩) :
    ledger.Balanced ∧ ledger.records.get? s.allocationToken =
      some ⟨s.allocationToken, s.resources, state⟩ :=
  ⟨hrecharges.balanced h.balanced, by rw [hrecharges.get?, if_pos rfl]⟩

variable {result : Except ResourceError BlockingReply × BlockingLease}

theorem Notified.inv (hnotified : Notified s request result) (h : s.Inv) : result.2.Inv := by
  cases hnotified with
  | rejected => exact h
  | replayed => exact h
  | @opened _ ledger yielded _ _ _ running _ closed hresult expected =>
    have hheld := h.held
    have hactive : s.allocationState = .active := by
      simp [allocationState, running, LeaseExecutionState.Live, closed]
    rw [hactive] at hheld
    by_cases hcpu : s.resources.units cpuName = 0
    · have hsame : ledger = s.ledger := by
        simp [ResourceLedger.yieldCpu, hheld, hcpu] at hresult
        exact hresult.2.symm
      subst hsame
      refine ⟨h.balanced, ?_, fun _ => running, by simp [expected, hcpu]⟩
      simpa [allocationState, running, LeaseExecutionState.Live, hcpu] using hheld
    · obtain ⟨ledger', hyields, hrecharges⟩ := yieldCpu_active h.balanced hheld rfl hcpu
      rw [hyields, Prod.mk.injEq] at hresult
      obtain ⟨_, rfl⟩ := hresult
      obtain ⟨hbalanced, hrecord⟩ := h.recharged hrecharges
      refine ⟨hbalanced, ?_, fun _ => running, by simp [expected, hcpu]⟩
      simpa [allocationState, running, LeaseExecutionState.Live, hcpu] using hrecord
  | closed _ _ _ running _ isOpen hresult =>
    have hheld := h.held
    rcases hresult with ⟨hcpu, rfl⟩ | ⟨hcpu, hresult⟩
    · refine ⟨h.balanced, ?_, by simp, by simp⟩
      simpa [allocationState, running, LeaseExecutionState.Live, hcpu] using hheld
    · have hyielded : s.allocationState = .cpuYielded := by
        simp [allocationState, running, LeaseExecutionState.Live, isOpen, hcpu]
      rw [hyielded] at hheld
      obtain ⟨ledger', hreacquires, hrecharges⟩ := reacquireCpu_yielded h.balanced hheld rfl
      rw [hreacquires, Prod.mk.injEq] at hresult
      obtain ⟨_, rfl⟩ := hresult
      obtain ⟨hbalanced, hrecord⟩ := h.recharged hrecharges
      refine ⟨hbalanced, ?_, by simp, by simp⟩
      simpa [allocationState, running, LeaseExecutionState.Live] using hrecord
  | entombed _ _ _ running _ closed =>
    refine ⟨h.balanced, ?_, by simp, by simp⟩
    have hheld := h.held
    simpa [allocationState, running, LeaseExecutionState.Live, closed] using hheld

theorem Inv.start (h : s.Inv) : s.start.Inv := by
  unfold BlockingLease.start
  split
  · next hgranted =>
    have hclosed : s.blockingOpen = false := by
      by_contra hopen
      rw [Bool.not_eq_false] at hopen
      rw [h.running hopen] at hgranted
      cases hgranted
    refine ⟨h.balanced, ?_, by simp [hclosed], h.flag⟩
    have hheld := h.held
    simpa [allocationState, hgranted, LeaseExecutionState.Live, hclosed] using hheld
  · exact h

theorem Inv.finish (h : s.Inv) (state : LeaseExecutionState) : (s.finish state).Inv := by
  unfold BlockingLease.finish
  split
  · next hends =>
    obtain ⟨hlive, hterminal⟩ := hends
    have hheld := h.held
    have hunreleased : s.allocationState ≠ .released := by
      unfold allocationState
      simp only [hlive, not_true_eq_false, if_false]
      split <;> decide
    obtain ⟨ledger, hresult, hrecharges⟩ := release_live h.balanced hheld hunreleased
    obtain ⟨hbalanced, hrecord⟩ := h.recharged hrecharges
    unfold releaseRecord
    rw [hresult]
    refine ⟨hbalanced, ?_, by simp, by simp⟩
    simpa [allocationState, hterminal] using hrecord
  · exact h

theorem Inv.completeLate (h : s.Inv) : s.completeLate.Inv := by
  unfold BlockingLease.completeLate
  split
  · next hlate =>
    have hterminal : ¬ s.state.Live := by
      rcases hlate with hlost | habandoned
      · simp [hlost, LeaseExecutionState.Live]
      · simp [habandoned, LeaseExecutionState.Live]
    refine ⟨h.balanced, ?_, fun hopen => ?_, h.flag⟩
    · have hreleased : s.allocationState = .released := if_pos hterminal
      have hheld := h.held
      rw [hreleased] at hheld
      exact hheld
    · rw [h.running hopen] at hterminal
      exact absurd trivial hterminal
  · exact h

theorem Inv.useLedger (h : s.Inv) (op : ResourceLedger.Op) : (s.useLedger op).Inv := by
  unfold BlockingLease.useLedger
  split
  · exact h
  · next hother =>
    exact ⟨h.balanced.step op, (step_frame h.balanced op hother).trans h.held, h.running, h.flag⟩

/-! ## What stays -/

/-- Episodes advance one by one; closed episodes and ended leases stay so. -/
structure Later (s s' : BlockingLease) : Prop where
  identity : s'.identity = s.identity
  allocation : s'.allocationToken = s.allocationToken ∧ s'.resources = s.resources
  sequence : s.blockingSequence ≤ s'.blockingSequence
  closed : ∀ k, s.Closed k → s'.Closed k
  ended : ¬ s.state.Live → ¬ s'.state.Live

theorem Later.rfl : Later s s := ⟨Eq.refl _, ⟨Eq.refl _, Eq.refl _⟩, le_refl _, fun _ h => h, id⟩

theorem Later.trans {s'' : BlockingLease} (h : Later s s') (h' : Later s' s'') : Later s s'' :=
  ⟨h'.identity.trans h.identity,
    ⟨h'.allocation.1.trans h.allocation.1, h'.allocation.2.trans h.allocation.2⟩,
    h.sequence.trans h'.sequence, fun k hk => h'.closed k (h.closed k hk),
    fun hended => h'.ended (h.ended hended)⟩

theorem Notified.later (hnotified : Notified s request result) : Later s result.2 := by
  cases hnotified with
  | rejected => exact .rfl
  | replayed => exact .rfl
  | opened _ _ _ _ next =>
    refine ⟨rfl, ⟨rfl, rfl⟩, by simp only [next]; omega, fun k hk => ?_, id⟩
    rcases hk with hless | ⟨hequal, _⟩ <;>
    · left
      simp only [next]
      omega
  | closed _ _ _ _ _ isOpen =>
    refine ⟨rfl, ⟨rfl, rfl⟩, le_refl _, fun k hk => ?_, id⟩
    rcases hk with hless | ⟨_, hclosed⟩
    · exact .inl hless
    · rw [isOpen] at hclosed
      cases hclosed
  | entombed _ _ _ _ next =>
    refine ⟨rfl, ⟨rfl, rfl⟩, by simp only [next]; omega, fun k hk => ?_, id⟩
    rcases hk with hless | ⟨hequal, _⟩ <;>
    · left
      simp only [next]
      omega

theorem later_start : Later s s.start := by
  unfold BlockingLease.start
  split
  · next hgranted =>
    refine ⟨rfl, ⟨rfl, rfl⟩, le_refl _, fun _ h => h, fun hended => ?_⟩
    rw [hgranted] at hended
    exact absurd trivial hended
  · exact .rfl

theorem later_finish (state : LeaseExecutionState) : Later s (s.finish state) := by
  unfold BlockingLease.finish
  split
  · next hends =>
    refine ⟨rfl, ⟨rfl, rfl⟩, le_refl _, fun k hk => ?_, fun _ => hends.2⟩
    exact hk.imp id fun hequal => ⟨hequal.1, rfl⟩
  · exact .rfl

theorem later_completeLate : Later s s.completeLate := by
  unfold BlockingLease.completeLate
  split
  · exact ⟨rfl, ⟨rfl, rfl⟩, le_refl _, fun _ h => h, fun _ => id⟩
  · exact .rfl

theorem later_useLedger (op : ResourceLedger.Op) : Later s (s.useLedger op) := by
  unfold BlockingLease.useLedger
  split
  · exact .rfl
  · exact ⟨rfl, ⟨rfl, rfl⟩, le_refl _, fun _ h => h, id⟩

theorem Notified.sequence (hnotified : Notified s request result) :
    result.2.blockingSequence = s.blockingSequence ∨
      result.2.blockingSequence = s.blockingSequence + 1 := by
  cases hnotified with
  | rejected => exact .inl rfl
  | replayed => exact .inl rfl
  | opened _ _ _ _ next => exact .inr next
  | closed => exact .inl rfl
  | entombed _ _ _ _ next => exact .inr next

theorem Notified.closed_refuses (hnotified : Notified s request result)
    (hblocked : request.kind = .blocked) (hclosed : s.Closed request.sequence) : result.2 = s := by
  cases hnotified with
  | rejected => rfl
  | replayed => rfl
  | opened _ _ _ _ next =>
    rcases hclosed with hless | ⟨hequal, _⟩ <;> omega
  | closed _ _ unblocked =>
    rw [hblocked] at unblocked
    cases unblocked
  | entombed _ _ unblocked =>
    rw [hblocked] at unblocked
    cases unblocked

theorem Notified.closes {reply : BlockingReply} {next : BlockingLease}
    (hnotified : Notified s request (.ok reply, next)) (hkind : request.kind = .unblocked)
    (haccepted : reply.accepted = true) : next.Closed request.sequence := by
  cases hnotified with
  | rejected _ refused => exact absurd (refused.symm.trans haccepted) (by decide)
  | replayed _ _ same kind =>
    refine .inr ⟨same, ?_⟩
    by_contra hopen
    rw [Bool.not_eq_false] at hopen
    rw [kind.mp hopen] at hkind
    cases hkind
  | opened _ _ blocked =>
    rw [hkind] at blocked
    cases blocked
  | closed _ _ _ _ same => exact .inr ⟨same, rfl⟩
  | entombed => exact .inr ⟨rfl, rfl⟩

theorem Notified.ended (hnotified : Notified s request result) (hended : ¬ s.state.Live) :
    result.2 = s := by
  cases hnotified with
  | rejected => rfl
  | replayed => rfl
  | opened _ _ _ running => exact absurd (running ▸ trivial) hended
  | closed _ _ _ running => exact absurd (running ▸ trivial) hended
  | entombed _ _ _ running => exact absurd (running ▸ trivial) hended

theorem Notified.replies (hnotified : Notified s request result) :
    ∃ reply, result.1 = .ok reply ∧ reply.request = request ∧ reply.state = s.state := by
  cases hnotified with
  | rejected about _ told => exact ⟨_, rfl, about, told⟩
  | replayed about told => exact ⟨_, rfl, about, told⟩
  | opened about told => exact ⟨_, rfl, about, told⟩
  | closed about told => exact ⟨_, rfl, about, told⟩
  | entombed about told => exact ⟨_, rfl, about, told⟩

end BlockingLease

end MiniRay
