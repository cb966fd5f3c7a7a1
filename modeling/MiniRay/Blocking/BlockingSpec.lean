import MiniRay.Blocking.Episodes

/-! The Worker's notifier, the messages in flight, the Node's record and the ledger of the lease
agree after every run, whatever is lost, repeated or reordered. -/

namespace MiniRay

open Run

namespace BlockingNotifier

variable {n : BlockingNotifier} {tid : Nat}

theorem exit_sequence (n : BlockingNotifier) (tid : Nat) :
    (n.exit tid).sequence = n.sequence ∧ (n.exit tid).identity = n.identity := by
  unfold exit
  split_ifs <;> exact ⟨rfl, rfl⟩

theorem exit_idle (h : (n.exit tid).phase = .idle) :
    n.phase = .idle ∧ (n.exit tid).converged = n.converged := by
  unfold exit at h ⊢
  split_ifs at h ⊢
  · exact ⟨h, rfl⟩
  · exact ⟨h, rfl⟩

theorem enter_identity (n : BlockingNotifier) (tid : Nat) :
    (n.enter tid).identity = n.identity := by
  unfold enter
  split_ifs <;> rfl

/-- A section opens an episode of its own, or leaves the notifier's state alone. -/
theorem enter_spec (n : BlockingNotifier) (tid : Nat) :
    ((n.enter tid).sequence = n.sequence ∧ (n.enter tid).phase = n.phase ∧
      (n.enter tid).converged = n.converged) ∨
    ((n.enter tid).sequence = n.sequence + 1 ∧ (n.enter tid).phase = .blocking 0) := by
  unfold enter
  split_ifs
  · exact .inl ⟨rfl, rfl, rfl⟩
  · exact .inl ⟨rfl, rfl, rfl⟩
  · exact .inl ⟨rfl, rfl, rfl⟩
  · exact .inr ⟨rfl, rfl⟩

/-- An attempt moves the section on; it converges only on an acknowledged Unblocked. -/
theorem attempt_spec (n : BlockingNotifier) (outcome : BlockingOutcome) :
    ((n.attempt outcome).sequence = n.sequence ∧ (n.attempt outcome).identity = n.identity) ∧
    ((n.attempt outcome).phase ≠ .idle → n.phase ≠ .idle) ∧
    ((n.attempt outcome).phase = .idle → (n.attempt outcome).converged = true →
      (n.phase = .idle ∧ n.converged = true) ∨
      (n.phase ≠ .idle ∧ ∃ reply, outcome = .reply reply ∧
        reply.request = ⟨.unblocked, n.identity, n.sequence.toNat⟩ ∧
        (reply.accepted = true ∨ ¬ reply.state.Live))) := by
  unfold attempt
  cases hphase : n.phase with
  | idle =>
    refine ⟨by cases outcome <;> exact ⟨rfl, rfl⟩, fun h => ?_, fun _ h => ?_⟩
    · cases outcome <;> exact absurd hphase h
    · cases outcome <;> exact .inl ⟨rfl, h⟩
  | inside =>
    refine ⟨by cases outcome <;> exact ⟨rfl, rfl⟩, fun _ => by decide, fun h => ?_⟩
    cases outcome <;> exact absurd (hphase.symm.trans h) (by decide)
  | blocking attempt =>
    refine ⟨?_, fun _ => by simp, fun h => ?_⟩
    · cases outcome <;> dsimp only <;> (try split_ifs) <;> exact ⟨rfl, rfl⟩
    · cases outcome <;> dsimp only at h <;> (try split_ifs at h) <;> cases h
  | unblocking attempt =>
    refine ⟨?_, fun _ => by simp, fun h hconverged => ?_⟩
    · cases outcome <;> dsimp only <;> (try split_ifs) <;> exact ⟨rfl, rfl⟩
    · cases outcome with
      | reply reply =>
        have hacknowledged := of_decide_eq_true hconverged
        simp only [current, hphase, Option.some.injEq] at hacknowledged
        exact .inr ⟨by simp, reply, rfl, hacknowledged⟩
      | transportError stopping =>
        dsimp only at h hconverged
        split_ifs at h hconverged with hagain
        exact absurd hconverged (by simp [leave])
      | invalid => cases hconverged
      | interrupted => cases hconverged

theorem current_spec {m : BlockingNotification} (h : n.current = some m) :
    n.phase ≠ .idle ∧ m.identity = n.identity ∧ m.sequence = n.sequence.toNat := by
  unfold current at h
  cases hphase : n.phase with
  | idle => simp [hphase] at h
  | inside => simp [hphase] at h
  | blocking attempt =>
    simp only [hphase, Option.some.injEq] at h
    subst h
    exact ⟨by simp, rfl, rfl⟩
  | unblocking attempt =>
    simp only [hphase, Option.some.injEq] at h
    subst h
    exact ⟨by simp, rfl, rfl⟩

end BlockingNotifier

namespace BlockingLease

variable {s s' : BlockingLease} {request : BlockingNotification}

theorem notify_foreign (h : request.identity ≠ s.identity) : (s.notify request).2 = s := by
  have hrejected : ∃ reply, s.rejection request = some reply := by
    unfold rejection
    rw [if_pos h]
    exact ⟨_, rfl⟩
  obtain ⟨reply, hreply⟩ := hrejected
  unfold notify notifyBlocked notifyUnblocked
  cases request.kind <;> simp [hreply]

theorem Notified.observed {result : Except ResourceError BlockingReply × BlockingLease}
    (hnotified : Notified s request result) :
    result.2.blockingSequence = s.blockingSequence ∨
      result.2.blockingSequence = request.sequence := by
  cases hnotified with
  | rejected => exact .inl rfl
  | replayed => exact .inl rfl
  | opened => exact .inr rfl
  | closed => exact .inl rfl
  | entombed => exact .inr rfl

/-- The last episode that was begun is closed exactly when none is open. -/
theorem Closed.not_open {k : Int} (h : s.Closed k) (hcounted : s.blockingSequence ≤ k) :
    s.blockingOpen = false := by
  rcases h with hless | ⟨_, hclosed⟩
  · omega
  · exact hclosed

theorem charged_of_closed (hlive : s.state.Live) (hclosed : s.blockingOpen = false) :
    s.allocationState = .active := by
  simp [allocationState, hlive, hclosed]

theorem Inv.yielded_iff (h : s.Inv) :
    s.ledger.records.get? s.allocationToken =
        some ⟨s.allocationToken, s.resources, .cpuYielded⟩ ↔
      s.blockingOpen = true ∧ s.resources.units cpuName ≠ 0 := by
  rw [h.held, Option.some.injEq, AllocationRecord.mk.injEq]
  simp only [true_and]
  unfold allocationState
  constructor
  · intro hstate
    split_ifs at hstate with _ hopen
    exact hopen
  · intro hopen
    have hlive : s.state.Live := by
      rw [h.running hopen.1]
      trivial
    rw [if_neg (not_not.mpr hlive), if_pos hopen]

end BlockingLease

namespace BlockingSystem

variable {s : BlockingSystem}

structure Inv (s : BlockingSystem) : Prop where
  lease : s.lease.Inv
  identity : s.lease.identity = s.notifier.identity
  /-- The Node has seen no episode that was not begun. -/
  counted : s.lease.blockingSequence ≤ s.notifier.sequence
  sent : ∀ m ∈ s.sent, (m.sequence : Int) ≤ s.notifier.sequence
  closes : ∀ r ∈ s.replies, r.request.kind = .unblocked → r.accepted = true →
    s.lease.Closed r.request.sequence
  ended : ∀ r ∈ s.replies, ¬ r.state.Live → ¬ s.lease.state.Live
  numbered : -1 ≤ s.notifier.sequence
  begun : s.notifier.phase ≠ .idle → 0 ≤ s.notifier.sequence
  settled : s.notifier.phase = .idle → s.notifier.converged = true →
    ¬ s.lease.state.Live ∨ s.lease.Closed s.notifier.sequence

section

variable (h : s.Inv)
include h

theorem Inv.onLease {lease : BlockingLease} (hinv : lease.Inv)
    (hlater : BlockingLease.Later s.lease lease)
    (hsequence : lease.blockingSequence = s.lease.blockingSequence) :
    Inv { s with lease := lease } where
  lease := hinv
  identity := hlater.identity.trans h.identity
  counted := hsequence.le.trans h.counted
  sent := h.sent
  closes r hr hkind haccepted := hlater.closed _ (h.closes r hr hkind haccepted)
  ended r hr hended := hlater.ended (h.ended r hr hended)
  numbered := h.numbered
  begun := h.begun
  settled hidle hconverged :=
    (h.settled hidle hconverged).imp hlater.ended (hlater.closed _)

theorem Inv.enter (tid : Nat) : Inv { s with notifier := s.notifier.enter tid } := by
  have hidentity : (s.notifier.enter tid).identity = s.notifier.identity :=
    s.notifier.enter_identity tid
  rcases s.notifier.enter_spec tid with ⟨hsequence, hphase, hconverged⟩ | ⟨hsequence, hphase⟩
  · refine ⟨h.lease, h.identity.trans hidentity.symm, hsequence ▸ h.counted,
      hsequence ▸ h.sent, h.closes, h.ended, hsequence ▸ h.numbered, ?_, ?_⟩
    · rw [hsequence, hphase]
      exact h.begun
    · rw [hsequence, hphase, hconverged]
      exact h.settled
  · have hnumbered := h.numbered
    have hcounted := h.counted
    refine ⟨h.lease, h.identity.trans hidentity.symm, ?_, fun m hm => ?_, h.closes, h.ended,
      ?_, fun _ => ?_, fun hidle => ?_⟩
    · change s.lease.blockingSequence ≤ (s.notifier.enter tid).sequence
      rw [hsequence]
      omega
    · have hsent := h.sent m hm
      rw [hsequence]
      omega
    · rw [hsequence]
      omega
    · rw [hsequence]
      omega
    · exact absurd (hphase.symm.trans hidle) (by simp)

theorem Inv.exit (tid : Nat) : Inv { s with notifier := s.notifier.exit tid } := by
  obtain ⟨hsequence, hidentity⟩ := s.notifier.exit_sequence tid
  refine ⟨h.lease, h.identity.trans hidentity.symm, hsequence ▸ h.counted, hsequence ▸ h.sent,
    h.closes, h.ended, hsequence ▸ h.numbered, ?_, ?_⟩
  · rw [hsequence]
    by_cases hinside : s.notifier.phase = .idle
    · unfold BlockingNotifier.exit
      have houtside : ¬ s.notifier.Inside tid := fun hthread =>
        absurd (hinside.symm.trans hthread.2) (by simp)
      rw [if_pos houtside]
      exact h.begun
    · exact fun _ => h.begun hinside
  · rw [hsequence]
    intro hidle hconverged
    obtain ⟨hbefore, hsame⟩ := BlockingNotifier.exit_idle hidle
    exact h.settled hbefore (hsame.symm.trans hconverged)

theorem Inv.send : Inv { s with sent := s.notifier.current.toList ++ s.sent } := by
  refine { h with sent := fun m hm => ?_ }
  rw [List.mem_append, Option.mem_toList] at hm
  rcases hm with hcurrent | hold
  · obtain ⟨hphase, _, hsequence⟩ := BlockingNotifier.current_spec hcurrent
    have hbegun : 0 ≤ s.notifier.sequence := h.begun hphase
    rw [hsequence]
    exact (Int.toNat_of_nonneg hbegun).le
  · exact h.sent m hold

theorem Inv.attempt {outcome : BlockingOutcome} (hpossible : s.Possible outcome) :
    Inv { s with notifier := s.notifier.attempt outcome } := by
  obtain ⟨⟨hsequence, hidentity⟩, hphase, hidle⟩ := s.notifier.attempt_spec outcome
  refine ⟨h.lease, h.identity.trans hidentity.symm, hsequence ▸ h.counted, hsequence ▸ h.sent,
    h.closes, h.ended, hsequence ▸ h.numbered, ?_, ?_⟩
  · rw [hsequence]
    exact fun hbusy => h.begun (hphase hbusy)
  · rw [hsequence]
    intro hleft hconverged
    rcases hidle hleft hconverged with ⟨hbefore, hsame⟩ | ⟨hbusy, reply, rfl, hrequest, htold⟩
    · exact h.settled hbefore hsame
    · rcases htold with haccepted | hended
      · right
        have hclosed := h.closes reply hpossible (by rw [hrequest]) haccepted
        have hexact : ((s.notifier.sequence.toNat : Nat) : Int) = s.notifier.sequence :=
          Int.toNat_of_nonneg (h.begun hbusy)
        rw [hrequest, hexact] at hclosed
        exact hclosed
      · exact .inl (h.ended reply hpossible hended)

theorem Inv.deliver {request : BlockingNotification} (harrives : s.Arrives request) :
    (s.step (.deliver request)).Inv := by
  simp only [step, if_pos harrives]
  have hnotified := BlockingLease.notify_spec h.lease request
  have hinv : (s.lease.notify request).2.Inv := hnotified.inv h.lease
  have hlater := hnotified.later
  have hcounted : (s.lease.notify request).2.blockingSequence ≤ s.notifier.sequence := by
    rcases harrives with hsent | hforeign
    · rcases hnotified.observed with hsame | hnamed
      · exact hsame.le.trans h.counted
      · exact hnamed.le.trans (h.sent request hsent)
    · rw [← h.identity] at hforeign
      rw [BlockingLease.notify_foreign hforeign]
      exact h.counted
  obtain ⟨reply, hreply, habout, htold⟩ := hnotified.replies
  simp only [hreply]
  refine ⟨hinv, hlater.identity.trans h.identity, hcounted, h.sent, fun r hr hkind haccepted => ?_,
    fun r hr hended => ?_, h.numbered, h.begun,
    fun hidle hconverged => (h.settled hidle hconverged).imp hlater.ended (hlater.closed _)⟩
  · rcases List.mem_cons.mp hr with rfl | hold
    · have hresult : s.lease.notify request = (.ok r, (s.lease.notify request).2) :=
        Prod.ext hreply rfl
      rw [hresult] at hnotified
      rw [habout] at hkind ⊢
      exact hnotified.closes hkind haccepted
    · exact hlater.closed _ (h.closes r hold hkind haccepted)
  · rcases List.mem_cons.mp hr with rfl | hold
    · rw [htold] at hended
      exact hlater.ended hended
    · exact hlater.ended (h.ended r hold hended)

theorem Inv.step (action : BlockingAction) : (s.step action).Inv := by
  cases action with
  | enter tid => exact h.enter tid
  | exit tid => exact h.exit tid
  | send => exact h.send
  | attempt outcome =>
    simp only [BlockingSystem.step]
    split
    · next hpossible => exact h.attempt hpossible
    · exact h
  | deliver request =>
    by_cases harrives : s.Arrives request
    · exact h.deliver harrives
    · simp only [BlockingSystem.step, if_neg harrives]
      exact h
  | start =>
    refine h.onLease h.lease.start BlockingLease.later_start ?_
    unfold BlockingLease.start
    split <;> rfl
  | finish state =>
    refine h.onLease (h.lease.finish state) (BlockingLease.later_finish state) ?_
    unfold BlockingLease.finish
    split <;> rfl
  | completeLate =>
    refine h.onLease h.lease.completeLate BlockingLease.later_completeLate ?_
    unfold BlockingLease.completeLate
    split <;> rfl
  | useLedger op =>
    refine h.onLease (h.lease.useLedger op) (BlockingLease.later_useLedger op) ?_
    unfold BlockingLease.useLedger
    split <;> rfl

theorem run_inv (actions : List BlockingAction) : (run step s actions).Inv :=
  run_invariant (p := Inv) (fun _ action hs => hs.step action) h actions

/-! ## Later states -/

theorem step_later (action : BlockingAction) :
    BlockingLease.Later s.lease (s.step action).lease := by
  cases action with
  | enter tid => exact .rfl
  | exit tid => exact .rfl
  | send => exact .rfl
  | attempt outcome =>
    simp only [step]
    split <;> exact .rfl
  | deliver request =>
    simp only [step]
    split
    · exact (BlockingLease.notify_spec h.lease request).later
    · exact .rfl
  | start => exact BlockingLease.later_start
  | finish state => exact BlockingLease.later_finish state
  | completeLate => exact BlockingLease.later_completeLate
  | useLedger op => exact BlockingLease.later_useLedger op

theorem run_later (actions : List BlockingAction) :
    BlockingLease.Later s.lease (run step s actions).lease := by
  induction actions generalizing s with
  | nil => exact .rfl
  | cons action actions ih => exact (step_later h action).trans (ih (h.step action))

theorem step_sequence (action : BlockingAction) :
    (s.step action).lease.blockingSequence = s.lease.blockingSequence ∨
      (s.step action).lease.blockingSequence = s.lease.blockingSequence + 1 := by
  cases action with
  | attempt outcome =>
    left
    simp only [step]
    split <;> rfl
  | deliver request =>
    simp only [step]
    split
    · exact (BlockingLease.notify_spec h.lease request).sequence
    · exact .inl rfl
  | start =>
    left
    simp only [step, BlockingLease.start]
    split <;> rfl
  | finish state =>
    left
    simp only [step, BlockingLease.finish]
    split <;> rfl
  | completeLate =>
    left
    simp only [step, BlockingLease.completeLate]
    split <;> rfl
  | useLedger op =>
    left
    simp only [step, BlockingLease.useLedger]
    split <;> rfl
  | _ => exact .inl rfl

end

end BlockingSystem

/-! ## A granted lease -/

/-- A lease whose resources a ledger just allocated under a fresh token. -/
structure LeaseGrant where
  identity : BlockingIdentity
  resources : ResourceVector
  total : ResourceVector
  before : List ResourceLedger.Op
  allocationToken : AllocationToken
  fresh : (run ResourceLedger.step (.new total) before).records.get? allocationToken = none
  allocated : ((run ResourceLedger.step (.new total) before).tryAllocate resources
    (some allocationToken) allocationToken).1 = .ok (some allocationToken)

namespace LeaseGrant

variable (self : LeaseGrant)

def ledger : ResourceLedger := run ResourceLedger.step (.new self.total) self.before

/-- The lease is granted; its Worker has not blocked yet. -/
def system : BlockingSystem where
  lease :=
    { identity := self.identity
      resources := self.resources
      allocationToken := self.allocationToken
      ledger := (self.ledger.tryAllocate self.resources (some self.allocationToken)
        self.allocationToken).2 }
  notifier := { identity := self.identity }

theorem balanced : self.ledger.Balanced :=
  ResourceLedger.balanced_run (ResourceLedger.balanced_new self.total) self.before

theorem system_inv : self.system.Inv := by
  have hlease : self.system.lease.Inv := by
    have hallocated := self.allocated
    have hfresh : self.ledger.records.get? self.allocationToken = none := self.fresh
    obtain ⟨e, hresult, _⟩ | ⟨hresult, hknown⟩ | ⟨ledger, hresult, _, hrecharges⟩ :=
      ResourceLedger.allocate_spec self.balanced self.resources (some self.allocationToken)
        self.allocationToken
    · change (self.ledger.tryAllocate self.resources (some self.allocationToken)
        self.allocationToken).1 = _ at hallocated
      rw [ResourceLedger.tryAllocate, hresult] at hallocated
      cases e <;> cases hallocated
    · rw [Option.getD_some, hfresh] at hknown
      cases hknown
    · have hcharged : self.system.lease.ledger = ledger := by
        change (self.ledger.tryAllocate self.resources (some self.allocationToken)
          self.allocationToken).2 = _
        rw [ResourceLedger.tryAllocate, hresult]
      refine ⟨?_, ?_, by rintro ⟨⟩, ?_⟩
      · rw [hcharged]
        exact hrecharges.balanced self.balanced
      · rw [hcharged, hrecharges.get?]
        exact if_pos rfl
      · exact ⟨by rintro ⟨⟩, fun hopen => by cases hopen.1⟩
  exact ⟨hlease, rfl, le_refl _, List.forall_mem_nil _, List.forall_mem_nil _,
    List.forall_mem_nil _, le_refl _,
    fun h => absurd rfl h, fun _ _ => .inr (.inr ⟨rfl, rfl⟩)⟩

theorem run_inv (actions : List BlockingAction) :
    (run BlockingSystem.step self.system actions).Inv :=
  BlockingSystem.run_inv self.system_inv actions

end LeaseGrant

/-! ## What blocking guarantees -/

/-- The blocking protocol of a granted lease, over all runs. -/
structure BlockingSpec (grant : LeaseGrant) : Prop where
  /-- The CPU is yielded in the ledger exactly while an episode is open. -/
  yielded : ∀ actions, let s := run BlockingSystem.step grant.system actions
    s.lease.ledger.records.get? grant.allocationToken =
        some ⟨grant.allocationToken, grant.resources, .cpuYielded⟩ ↔
      s.lease.blockingOpen = true ∧ grant.resources.units cpuName ≠ 0
  /-- A Blocked that arrives after its Unblocked was accepted does nothing. -/
  overtaken : ∀ actions, ∀ reply ∈ (run BlockingSystem.step grant.system actions).replies,
    reply.request.kind = .unblocked → reply.accepted = true →
    ∀ more (request : BlockingNotification), request.kind = .blocked →
      request.sequence = reply.request.sequence →
      let s := run BlockingSystem.step grant.system (actions ++ more)
      (s.step (.deliver request)).lease = s.lease
  /-- The Node's episode numbers advance one by one. -/
  numbered : ∀ actions action, let s := run BlockingSystem.step grant.system actions
    (s.step action).lease.blockingSequence = s.lease.blockingSequence ∨
      (s.step action).lease.blockingSequence = s.lease.blockingSequence + 1
  /-- After the lease ended no notification changes the lease or its ledger. -/
  ended : ∀ actions, ¬ (run BlockingSystem.step grant.system actions).lease.state.Live →
    ∀ more request, let s := run BlockingSystem.step grant.system (actions ++ more)
      (s.step (.deliver request)).lease = s.lease
  /-- Every notification is answered: neither assertion about the ledger fails. -/
  answered : ∀ actions request, ∃ reply,
    ((run BlockingSystem.step grant.system actions).lease.notify request).1 = .ok reply ∧
      reply.request = request
  /-- Once a section was left with its close acknowledged, the lease has its CPU. -/
  charged : ∀ actions, let s := run BlockingSystem.step grant.system actions
    s.notifier.phase = .idle → s.notifier.converged = true →
      s.lease.ledger.records.get? grant.allocationToken = some ⟨grant.allocationToken,
        grant.resources, if s.lease.state.Live then .active else .released⟩

namespace LeaseGrant

variable (grant : LeaseGrant)

theorem run_allocation (actions : List BlockingAction) :
    let s := run BlockingSystem.step grant.system actions
    s.lease.allocationToken = grant.allocationToken ∧ s.lease.resources = grant.resources :=
  (BlockingSystem.run_later grant.system_inv actions).allocation

theorem deliver_lease {s : BlockingSystem} {request : BlockingNotification}
    (h : (s.lease.notify request).2 = s.lease) : (s.step (.deliver request)).lease = s.lease := by
  simp only [BlockingSystem.step]
  split
  · exact h
  · rfl

theorem blockingSpec : BlockingSpec grant where
  yielded actions := by
    have hiff := (grant.run_inv actions).lease.yielded_iff
    obtain ⟨htoken, hresources⟩ := grant.run_allocation actions
    rwa [htoken, hresources] at hiff
  overtaken actions reply hreply hkind haccepted more request hblocked hsame := by
    have hinv := grant.run_inv actions
    have hclosed := hinv.closes reply hreply hkind haccepted
    have hstill := (BlockingSystem.run_later hinv more).closed _ hclosed
    rw [← run_append, ← hsame] at hstill
    have hnotified := BlockingLease.notify_spec (grant.run_inv (actions ++ more)).lease request
    exact deliver_lease (hnotified.closed_refuses hblocked hstill)
  numbered actions action := BlockingSystem.step_sequence (grant.run_inv actions) action
  ended actions hended more request := by
    have hstill := (BlockingSystem.run_later (grant.run_inv actions) more).ended hended
    rw [← run_append] at hstill
    have hnotified := BlockingLease.notify_spec (grant.run_inv (actions ++ more)).lease request
    exact deliver_lease (hnotified.ended hstill)
  answered actions request := by
    have hnotified := BlockingLease.notify_spec (grant.run_inv actions).lease request
    obtain ⟨reply, hreply, habout, _⟩ := hnotified.replies
    exact ⟨reply, hreply, habout⟩
  charged actions := by
    intro s hidle hconverged
    have hinv : s.Inv := grant.run_inv actions
    obtain ⟨htoken, hresources⟩ := grant.run_allocation actions
    have hheld := hinv.lease.held
    by_cases hlive : s.lease.state.Live
    · rcases hinv.settled hidle hconverged with hended | hclosed
      · exact absurd hlive hended
      · have hshut := hclosed.not_open hinv.counted
        rw [BlockingLease.charged_of_closed hlive hshut] at hheld
        rw [if_pos hlive, ← htoken, ← hresources]
        exact hheld
    · have hreleased : s.lease.allocationState = .released := if_pos hlive
      rw [hreleased] at hheld
      rw [if_neg hlive, ← htoken, ← hresources]
      exact hheld

end LeaseGrant

end MiniRay
