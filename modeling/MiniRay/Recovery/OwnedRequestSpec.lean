import MiniRay.Recovery.OwnedRequests

/-! What a requester may conclude from a reply, over all runs of the reducer and its authorities. -/

namespace MiniRay

open Checked Run

namespace ReconstructionRun

open ReconstructionCoordinator RecoveryManager

variable {ε : Type} {args : TaskArguments} {s : ReconstructionRun ε}

/-! ## Steps of the authorities -/

/-- Nothing leaves the queue, and nothing that was started is forgotten. -/
structure Grows (s s' : ReconstructionRun ε) : Prop where
  queue : ∀ a ∈ s.coordinator.queue, a ∈ s'.coordinator.queue
  started : ∀ a ∈ s.started, a ∈ s'.started

theorem grows_refl (s : ReconstructionRun ε) : Grows s s := ⟨fun _ h => h, fun _ h => h⟩

variable {prepared : PreparedReconstruction}

theorem grows_commit (h : Inv s) (hmem : prepared ∈ s.prepared) :
    Grows s (s.afterCommit (s.coordinator.commitPrepared prepared)) := by
  have hcommits : Commits s.coordinator prepared _ _ :=
    commitPrepared_commits (h.shaped prepared hmem).1
  generalize hcall : s.coordinator.commitPrepared prepared = call at hcommits ⊢
  obtain ⟨result, coordinator⟩ := call
  cases hcommits with
  | raised e => exact grows_refl s
  | joined outcome hjoin hfresh => exact ⟨fun _ ha => ha, fun _ ha => List.mem_append_left _ ha⟩
  | failed hfailed recovery hrecovery =>
    exact ⟨fun _ ha => ha, fun _ ha => List.mem_append_left _ ha⟩
  | started => exact ⟨fun _ ha => ha, fun _ ha => List.mem_append_left _ ha⟩

theorem grows_step [BEq ε] (h : Inv s) (a : Action ε) : Grows s (s.step args a) := by
  cases a with
  | prepare o preflightOwner =>
    simp only [step]
    cases s.coordinator.prepare args o preflightOwner with
    | error e => exact grows_refl s
    | ok prepared => exact ⟨fun _ ha => ha, fun _ ha => ha⟩
  | commit prepared =>
    change Grows s (if prepared ∈ s.prepared then _ else s)
    by_cases hmem : prepared ∈ s.prepared
    · rw [if_pos hmem]
      exact grows_commit h hmem
    · rw [if_neg hmem]
      exact grows_refl s
  | handoff outcome accepts =>
    change Grows s (if outcome ∈ s.outcomes then _ else s)
    by_cases hmem : outcome ∈ s.outcomes
    swap
    · rw [if_neg hmem]
      exact grows_refl s
    rw [if_pos hmem]
    have hhands : Hands s.coordinator outcome _ _ := handoff_hands accepts
    generalize hcall : s.coordinator.handoff outcome accepts = call at hhands ⊢
    obtain ⟨result, coordinator⟩ := call
    cases hhands with
    | raised e => exact grows_refl s
    | known => exact ⟨fun _ ha => ha, fun _ ha => ha⟩
    | queued => exact ⟨fun _ ha => List.mem_append_left _ ha, fun _ ha => ha⟩
  | handoffRetry taskId previous attempt accepts =>
    have hretries : Retries s.coordinator previous attempt _ _ :=
      handoffRetry_retries taskId accepts
    change Grows s { s with
      coordinator := (s.coordinator.handoffRetry taskId previous attempt accepts).2 }
    generalize hcall : s.coordinator.handoffRetry taskId previous attempt accepts = call
      at hretries ⊢
    obtain ⟨result, coordinator⟩ := call
    cases hretries with
    | raised e => exact grows_refl s
    | known => exact grows_refl s
    | queued => exact ⟨fun _ ha => List.mem_append_left _ ha, fun _ ha => ha⟩
  | complete taskId attempt =>
    have hcompletes : Completes s.coordinator taskId attempt _ _ := complete_completes
    change Grows s { s with coordinator := (s.coordinator.complete taskId attempt).2 }
    generalize hcall : s.coordinator.complete taskId attempt = call at hcompletes ⊢
    obtain ⟨result, coordinator⟩ := call
    cases hcompletes with
    | raised e => exact grows_refl s
    | «open» => exact grows_refl s
    | closed => exact ⟨fun _ ha => ha, fun _ ha => ha⟩
  | owner op => exact ⟨fun _ ha => ha, fun _ ha => ha⟩
  | recovery op => exact ⟨fun _ ha => ha, fun _ ha => ha⟩

/-- A START leaves an idle task and the owner's attempt, or finds the owner moved already. -/
theorem started_from {o : ObjectID} {a : AttemptID} {entry : ObjectOwnerEntry ε} (h : Inv s)
    (hmem : prepared ∈ s.prepared)
    (hrequested : prepared.outcome.plan.map (·.requestedObjectId) = some o)
    (hentry : s.coordinator.owner.entries.get? o = some entry)
    (ha : a ∈
      (s.afterCommit (s.coordinator.commitPrepared prepared)).started.drop s.started.length) :
    s.coordinator.recovery.activeRecoveries.get? o.taskId = none ∧
      (entry.currentAttempt = some a ∨
        ∃ previous, entry.currentAttempt = some previous ∧ previous.next = a) := by
  have hshaped := (h.shaped prepared hmem).1
  have hcommits : Commits s.coordinator prepared _ _ := commitPrepared_commits hshaped
  generalize hcall : s.coordinator.commitPrepared prepared = call at hcommits ha
  obtain ⟨result, coordinator⟩ := call
  cases hcommits with
  | raised e =>
    simp only [afterCommit, List.drop_length] at ha
    exact absurd ha List.not_mem_nil
  | joined outcome hjoin hfresh =>
    have hne : outcome.disposition ≠ .start := by
      rw [hjoin]
      decide
    simp only [afterCommit, startedBy_of_ne hne, List.append_nil, List.drop_length] at ha
    exact absurd ha List.not_mem_nil
  | failed hfailed recovery hrecovery =>
    have hne : prepared.outcome.disposition ≠ .start := by
      rw [hfailed]
      decide
    simp only [afterCommit, startedBy_of_ne hne, List.append_nil, List.drop_length] at ha
    exact absurd ha List.not_mem_nil
  | started hstart plan recoveryPlan ownerPlan hplan hrecoveryPlan hownerPlan hsession hvalid
      owner howner recovery hcommit =>
      obtain ⟨plan', recoveryPlan', hspec⟩ := hshaped.start hstart
      cases hspec.planned.symm.trans hplan
      cases hspec.recovery.symm.trans hrecoveryPlan
      have hdisposition : prepared.outcome.committed.disposition = .start := hstart
      simp only [afterCommit, startedBy_committed hspec hstart, List.drop_left,
        List.mem_singleton] at ha
      subst ha
      have hdecision := hshaped.decided recoveryPlan hrecoveryPlan
      obtain ⟨t, r, r', htask, -, hidle, -, -, -⟩ := started_of_validated hvalid
        (hdecision ▸ hspec.action) (hdecision ▸ hspec.attempt) hcommit
      rw [hdecision, hspec.task] at htask
      cases htask
      obtain ⟨hadvance, hnext, houtputs, hobject⟩ := hspec.advance ownerPlan hownerPlan
      rw [hplan, Option.map_some, Option.some.injEq] at hrequested
      subst hrequested
      have hexpected := ownerPlan.expected.attempt_task
      obtain ⟨e, hadmits, hanswer⟩ :=
        ObjectOwnerTable.commitAdvanceTaskOutputs_cases howner
      rw [hobject] at hentry ⊢
      cases hadmits.entry.symm.trans hentry
      have htask : ownerPlan.expected.output.taskId = plan.taskId := by
        rw [← hspec.attempt_task, ← hadvance]
        exact ownerPlan.next_taskId.symm
      refine ⟨htask ▸ hidle, ?_⟩
      cases hanswer with
      | replayed hallowed hreplay hsame => exact .inl (hadvance ▸ hreplay)
      | rewritten hallowed e' hrestarts hset =>
        obtain hnow | hnow := hallowed
        · exact .inl (hadvance ▸ hnow)
        · exact .inr ⟨_, hnow, hnext⟩

end ReconstructionRun

/-- The reply names an attempt. -/
def RequestOwnedObjectReconstructionReply.Accepted
    (reply : RequestOwnedObjectReconstructionReply) : Prop :=
  reply.disposition ≠ .failed

namespace OwnedObjectReconstructionReducer

variable {ε : Type} {args : TaskArguments} {s s' : OwnedObjectReconstructionReducer ε}
  {request : RequestOwnedObjectReconstruction}

/-! ## One call -/

inductive Receives (s : OwnedObjectReconstructionReducer ε)
    (request : RequestOwnedObjectReconstruction) : OwnedObjectReconstructionReducer ε → Prop
  | replayed (reply : RequestOwnedObjectReconstructionReply)
      (hreply : s.replies.get? request = some reply) : Receives s request (s.answer reply)
  | refused (refusal : ReconstructionRefusal) :
      Receives s request (s.answer (refusal.reply request))
  | conflicted (hnew : s.replies.get? request = none)
      (claimed : RequestOwnedObjectReconstruction)
      (hclaimed : s.claims.get? request.transactionKey = some claimed) (hne : claimed ≠ request) :
      Receives s request (s.conflict request)
  | claimed (hnew : s.replies.get? request = none)
      (hfree : ∀ claimed, s.claims.get? request.transactionKey = some claimed → claimed = request)
      (owner : ObjectOwnerEntry ε) (recovery : ReconstructionSnapshot)
      (howner : s.authorities.coordinator.owner.entry request.objectId = .ok owner)
      (hcredential : validateCredential request owner = none) :
      Receives s request (s.claim request owner recovery)

theorem inspect_receives (hnew : s.replies.get? request = none)
    (hfree : ∀ claimed, s.claims.get? request.transactionKey = some claimed →
      claimed = request) : Receives s request (s.inspect request) := by
  unfold inspect
  cases howner : s.authorities.coordinator.owner.entry request.objectId with
  | error e => exact .refused _
  | ok owner =>
    cases hrecovery :
        s.authorities.coordinator.recovery.reconstructionSnapshot request.objectId with
    | error e => exact .refused _
    | ok recovery =>
      simp only []
      cases hcredential : validateCredential request owner with
      | some refusal => exact .refused refusal
      | none => exact .claimed hnew hfree owner recovery howner hcredential

theorem receive_receives : Receives s request (s.receive request) := by
  unfold receive
  cases hreply : s.replies.get? request with
  | some reply => exact .replayed reply hreply
  | none =>
    simp only []
    by_cases howner : request.ownerWorkerId ≠ s.ownerWorkerId
    · rw [if_pos howner]
      exact .refused _
    rw [if_neg howner]
    by_cases hdead : (s.authorities.coordinator.owner.deadWorkerCleanups.get?
        s.ownerWorkerId).isSome
    · rw [if_pos hdead]
      exact .refused _
    rw [if_neg hdead]
    cases hclaimed : s.claims.get? request.transactionKey with
    | none => exact inspect_receives hreply fun claimed hsome => nomatch hclaimed.symm.trans hsome
    | some claimed =>
      simp only []
      by_cases hne : claimed ≠ request
      · rw [if_pos hne]
        exact .conflicted hreply claimed hclaimed hne
      · rw [if_neg hne]
        refine inspect_receives hreply fun other hsome => ?_
        cases hclaimed.symm.trans hsome
        exact not_not.mp hne

/-- What the end of a call does, once the lock is released. -/
inductive Finishes (s : OwnedObjectReconstructionReducer ε) (handling : Handling)
    (result : AdmissionResult) : OwnedObjectReconstructionReducer ε → Prop
  | raised : Finishes s handling result s
  | refused (refusal : ReconstructionRefusal) :
      Finishes s handling result (s.answer (refusal.reply handling.request))
  | accepted (outcome : ReconstructionOutcome) (attempt : AttemptID)
      (hresult : result = .outcome outcome) (hdisposition : outcome.disposition ≠ .failed)
      (hattempt : outcome.decision.attemptId = some attempt)
      (hfits : Fits handling.request outcome.decision attempt)
      (hreceipt : outcome.admission = some outcome.identity) :
      Finishes s handling result (s.accept handling outcome attempt)

variable {handling : Handling} {result : AdmissionResult}

theorem finish_finishes :
    Finishes { s with handling := none } handling result (s.finish handling result) := by
  cases result with
  | deferred text => exact .refused _
  | raised text => exact .refused _
  | outcome outcome =>
    change Finishes _ _ _ (replyFromOutcome { s with handling := none } handling outcome)
    unfold replyFromOutcome
    by_cases hfailed : outcome.disposition = .failed
    · simp only [if_pos hfailed]
      cases failureFromDecision { s with handling := none } handling.request
          outcome.decision.action with
      | error e => exact .raised
      | ok failure => exact .refused _
    · simp only [if_neg hfailed]
      cases hattempt : outcome.decision.attemptId with
      | none => exact .refused _
      | some attempt =>
        simp only []
        by_cases hfits : Fits handling.request outcome.decision attempt
        · rw [if_neg (not_not_intro hfits)]
          by_cases hreceipt : outcome.admission ≠ some outcome.identity
          · rw [if_pos hreceipt]
            exact .refused _
          · rw [if_neg hreceipt]
            exact .accepted outcome attempt rfl hfailed hattempt hfits (not_not.mp hreceipt)
        · rw [if_pos hfits]
          exact .refused _

/-! ## The invariant -/

structure Named (authorities : ReconstructionRun ε)
    (reply : RequestOwnedObjectReconstructionReply) (attempt : AttemptID) : Prop where
  queued : attempt ∈ authorities.coordinator.queue
  larger : reply.request.expectedOwnerAttempt.attemptNumber < attempt.attemptNumber
  task : attempt.taskId = reply.request.expectedOwnerAttempt.taskId
  started : reply.disposition = .started → attempt ∈ authorities.started

/-- A remembered reply: it was accepted under its key, or it is a conflict. -/
structure Remembered (s : OwnedObjectReconstructionReducer ε)
    (reply : RequestOwnedObjectReconstructionReply) : Prop where
  named : reply.Accepted → ∃ attempt, reply.reconstructionAttempt = some attempt ∧
    Named s.authorities reply attempt
  claimed : reply.Accepted → s.claims.get? reply.request.transactionKey = some reply.request
  conflict : ¬ reply.Accepted → reply.failure = some .requestConflict

/-- A request that waits for the admission. -/
structure Waits (s : OwnedObjectReconstructionReducer ε) (handling : Handling) : Prop where
  claimed : s.claims.get? handling.request.transactionKey = some handling.request
  fresh : s.replies.get? handling.request = none
  seen : handling.seenActive = none →
    handling.seenAttempt = some handling.request.expectedOwnerAttempt
  direct : ∀ attempt ∈ handling.direct,
    handling.request.expectedOwnerAttempt.attemptNumber < attempt.attemptNumber →
      attempt = handling.request.expectedOwnerAttempt.next

structure Inv (s : OwnedObjectReconstructionReducer ε) : Prop where
  authorities : s.authorities.Inv
  replies : ∀ request reply, s.replies.get? request = some reply →
    reply.request = request ∧ Remembered s reply
  waits : ∀ handling ∈ s.handling, Waits s handling
  sent : ∀ reply ∈ s.sent, reply.Accepted → s.replies.get? reply.request = some reply
  direct : ∀ request attempt, (request, attempt) ∈ s.direct →
    attempt = request.expectedOwnerAttempt.next

theorem inv_init (ownerWorkerId : WorkerID) :
    Inv (init ownerWorkerId : OwnedObjectReconstructionReducer ε) where
  authorities := ReconstructionRun.inv_empty
  replies _ _ h := nomatch h
  waits _ h := nomatch h
  sent _ h := absurd h List.not_mem_nil
  direct _ _ h := absurd h List.not_mem_nil

theorem refusal_not_accepted (refusal : ReconstructionRefusal) :
    ¬ (refusal.reply request).Accepted :=
  fun h => h rfl

variable {reply : RequestOwnedObjectReconstructionReply}

theorem Inv.answer (h : Inv s) (hknown : reply.Accepted →
    s.replies.get? reply.request = some reply) :
    Inv (s.answer reply) where
  authorities := h.authorities
  replies request old hold := by
    obtain ⟨hrequest, hremembered⟩ := h.replies request old hold
    exact ⟨hrequest, hremembered.named, hremembered.claimed, hremembered.conflict⟩
  waits handling hhandling := by
    obtain ⟨hclaimed, hfresh, hseen, hdirect⟩ := h.waits handling hhandling
    exact ⟨hclaimed, hfresh, hseen, hdirect⟩
  sent old hold haccepted := by
    rcases List.mem_append.mp hold with hold | hold
    · exact h.sent old hold haccepted
    · rw [List.mem_singleton] at hold
      subst hold
      exact hknown haccepted
  direct := h.direct

theorem get?_replies_set {old : RequestOwnedObjectReconstructionReply}
    {other : RequestOwnedObjectReconstruction} (hnew : s.replies.get? request = none)
    (hold : s.replies.get? other = some old) :
    (s.replies.set request reply).get? other = some old := by
  rw [Dict.get?_set]
  by_cases hsame : request = other
  · subst hsame
    rw [hnew] at hold
    cases hold
  · rw [if_neg hsame]
    exact hold

theorem Inv.conflict (h : Inv s) (hidle : s.handling = none)
    (hnew : s.replies.get? request = none) : Inv (s.conflict request) := by
  refine Inv.answer ?_ fun haccepted => absurd haccepted (refusal_not_accepted _)
  exact {
    authorities := h.authorities
    replies := by
      intro other reply hreply
      rcases Dict.of_get?_set hreply with ⟨hsame, rfl⟩ | hreply
      · exact ⟨hsame, fun haccepted => absurd haccepted (refusal_not_accepted _),
          fun haccepted => absurd haccepted (refusal_not_accepted _), fun _ => rfl⟩
      · obtain ⟨hrequest, hremembered⟩ := h.replies other reply hreply
        exact ⟨hrequest, hremembered.named, hremembered.claimed, hremembered.conflict⟩
    waits := by
      intro handling hhandling
      rw [hidle] at hhandling
      cases hhandling
    sent := fun reply hreply haccepted => get?_replies_set hnew (h.sent reply hreply haccepted)
    direct := h.direct }

theorem Inv.claimed (h : Inv s) (hidle : s.handling = none)
    (hfree : ∀ claimed, s.claims.get? request.transactionKey = some claimed →
      claimed = request) :
    Inv { s with claims := s.claims.set request.transactionKey request } where
  authorities := h.authorities
  replies other reply hreply := by
    obtain ⟨hrequest, hremembered⟩ := h.replies other reply hreply
    refine ⟨hrequest, hremembered.named, ?_, hremembered.conflict⟩
    intro haccepted
    have hclaimed := hremembered.claimed haccepted
    rw [Dict.get?_set]
    by_cases hkey : request.transactionKey = reply.request.transactionKey
    · rw [if_pos hkey]
      rw [← hkey] at hclaimed
      rw [hfree _ hclaimed]
    · rw [if_neg hkey]
      exact hclaimed
  waits handling hhandling := by
    rw [hidle] at hhandling
    cases hhandling
  sent := h.sent
  direct := h.direct

variable {owner : ObjectOwnerEntry ε} {recovery : ReconstructionSnapshot}

theorem seen_of_validated (h : validateSnapshots request owner recovery = none)
    (hidle : recovery.activeRecovery = none) :
    owner.currentAttempt = some request.expectedOwnerAttempt := by
  by_contra hne
  have hjoining : isJoinOfActiveReconstruction request owner recovery = false := by
    rw [isJoinOfActiveReconstruction, hidle]
  simp only [validateSnapshots, hjoining, Bool.false_eq_true, not_false_eq_true, and_true,
    ne_eq, hne, if_true] at h
  cases h

theorem Inv.claim (h : Inv s) (hidle : s.handling = none) (hnew : s.replies.get? request = none)
    (hfree : ∀ claimed, s.claims.get? request.transactionKey = some claimed → claimed = request) :
    Inv (s.claim request owner recovery) := by
  have hclaimed := h.claimed hidle hfree
  unfold OwnedObjectReconstructionReducer.claim
  cases hvalidate : validateSnapshots request owner recovery with
  | some refusal =>
    exact hclaimed.answer fun haccepted => absurd haccepted (refusal_not_accepted refusal)
  | none =>
    exact {
      authorities := h.authorities
      replies := by
        intro other reply hreply
        obtain ⟨hrequest, hremembered⟩ := hclaimed.replies other reply hreply
        exact ⟨hrequest, hremembered.named, hremembered.claimed, hremembered.conflict⟩
      waits := by
        intro handling hhandling
        cases hhandling
        exact {
          claimed := Dict.get?_set_self _ _ _
          fresh := hnew
          seen := seen_of_validated hvalidate
          direct := fun _ hmem => absurd hmem List.not_mem_nil }
      sent := h.sent
      direct := h.direct }

theorem Inv.receive (h : Inv s) (hidle : s.handling = none) : Inv (s.receive request) := by
  have hreceives : Receives s request _ := receive_receives
  generalize s.receive request = s' at hreceives ⊢
  cases hreceives with
  | replayed reply hreply =>
    refine h.answer fun _ => ?_
    rw [(h.replies request reply hreply).1]
    exact hreply
  | refused refusal =>
    exact h.answer fun haccepted => absurd haccepted (refusal_not_accepted refusal)
  | conflicted hnew => exact h.conflict hidle hnew
  | claimed hnew hfree owner recovery => exact h.claim hidle hnew hfree

theorem Inv.release (h : Inv s) : Inv { s with handling := none } where
  authorities := h.authorities
  replies request reply hreply := by
    obtain ⟨hrequest, hremembered⟩ := h.replies request reply hreply
    exact ⟨hrequest, hremembered.named, hremembered.claimed, hremembered.conflict⟩
  waits _ hhandling := nomatch hhandling
  sent := h.sent
  direct := h.direct

theorem Inv.accept {outcome : ReconstructionOutcome} {attempt : AttemptID} (h : Inv s)
    (hidle : s.handling = none) (hwaits : Waits s handling)
    (hgenuine : Genuine s.authorities (.outcome outcome))
    (hattempt : outcome.decision.attemptId = some attempt)
    (hfits : Fits handling.request outcome.decision attempt)
    (hreceipt : outcome.admission = some outcome.identity) :
    Inv (s.accept handling outcome attempt) := by
  obtain ⟨issued, hissued, hsame⟩ := hgenuine outcome.identity hreceipt
  obtain ⟨⟨a, hqueue, hqueued⟩, hbegun⟩ := h.authorities.receipted issued hissued _ hsame
  have ha : a = attempt := Option.some.inj (hqueued.symm.trans hattempt)
  subst ha
  have hexpected := handling.request.expected_task
  refine Inv.answer ?_ fun _ => Dict.get?_set_self _ _ _
  exact {
    authorities := h.authorities
    replies := by
      intro other reply hreply
      rcases Dict.of_get?_set hreply with ⟨hrequest, rfl⟩ | hreply
      · refine ⟨hrequest, fun _ => ⟨a, rfl, hqueue, hfits.2.2.2, ?_, ?_⟩,
          fun _ => hwaits.claimed, fun hrefused => ?_⟩
        · exact hfits.2.2.1.trans hexpected.symm
        · intro hstarted
          have hstart : outcome.disposition = .start := by
            cases hdisposition : outcome.disposition with
            | start => rfl
            | join =>
              rw [hdisposition] at hstarted
              cases hstarted
            | failed =>
              rw [hdisposition] at hstarted
              cases hstarted
          obtain ⟨b, hb, hnamed⟩ := hbegun hstart
          cases hnamed.symm.trans hattempt
          exact hb
        · refine absurd ?_ hrefused
          cases hdisposition : outcome.disposition <;> exact nofun
      · obtain ⟨hother, hremembered⟩ := h.replies other reply hreply
        exact ⟨hother, hremembered.named, hremembered.claimed, hremembered.conflict⟩
    waits := by
      intro other hother
      rw [hidle] at hother
      cases hother
    sent := fun reply hreply haccepted =>
      get?_replies_set hwaits.fresh (h.sent reply hreply haccepted)
    direct := by
      intro request b hmem
      by_cases hdirect : a ∈ handling.direct
      · rw [if_pos hdirect] at hmem
        rcases List.mem_cons.mp hmem with hsame | hmem
        · cases hsame
          exact hwaits.direct a hdirect hfits.2.2.2
        · exact h.direct request b hmem
      · rw [if_neg hdirect] at hmem
        exact h.direct request b hmem }

theorem Inv.finish (h : Inv s) (hhandling : handling ∈ s.handling)
    (hgenuine : Genuine s.authorities result) : Inv (s.finish handling result) := by
  obtain ⟨hclaimed, hfresh, hseen, hdirect⟩ := h.waits handling hhandling
  have hreleased := h.release
  have hfinishes : Finishes { s with handling := none } handling result _ := finish_finishes
  generalize s.finish handling result = s' at hfinishes ⊢
  cases hfinishes with
  | raised => exact hreleased
  | refused refusal =>
    exact hreleased.answer fun haccepted => absurd haccepted (refusal_not_accepted refusal)
  | accepted outcome attempt hresult hdisposition hattempt hfits hreceipt =>
    subst hresult
    exact hreleased.accept rfl ⟨hclaimed, hfresh, hseen, hdirect⟩ hgenuine hattempt hfits
      hreceipt

/-! ## Steps of the authorities -/

theorem Waits.observe [BEq ε] (args : TaskArguments) (action : ReconstructionRun.Action ε)
    (h : Waits s handling) (hs : s.authorities.Inv) :
    ∀ attempt ∈ (OwnedObjectReconstructionReducer.observe s.authorities
        (s.authorities.step args action) action handling).direct,
      handling.request.expectedOwnerAttempt.attemptNumber < attempt.attemptNumber →
        attempt = handling.request.expectedOwnerAttempt.next := by
  intro attempt hmem hlarger
  unfold OwnedObjectReconstructionReducer.observe at hmem
  by_cases hunmoved : Handling.Unmoved handling s.authorities
  swap
  · rw [if_neg hunmoved] at hmem
    exact h.direct attempt hmem hlarger
  rw [if_pos hunmoved] at hmem
  rcases List.mem_append.mp hmem with hmem | hmem
  · exact h.direct attempt hmem hlarger
  obtain ⟨hactive, entry, hentry, hseen⟩ := hunmoved
  cases action with
  | commit prepared =>
    simp only [startedFor] at hmem
    by_cases hrequested : prepared.outcome.plan.map (·.requestedObjectId) =
        some handling.request.objectId
    swap
    · rw [if_neg hrequested] at hmem
      exact absurd hmem List.not_mem_nil
    rw [if_pos hrequested] at hmem
    by_cases hprepared : prepared ∈ s.authorities.prepared
    · have hafter : s.authorities.step args (.commit prepared) =
          s.authorities.afterCommit (s.authorities.coordinator.commitPrepared prepared) :=
        if_pos hprepared
      rw [hafter] at hmem
      obtain ⟨hidle, hfrom⟩ :=
        ReconstructionRun.started_from hs hprepared hrequested hentry hmem
      have hexpected := h.seen (hactive.symm.trans hidle)
      rw [hseen, hexpected] at hfrom
      obtain hsame | ⟨previous, hprevious, hnext⟩ := hfrom
      · cases hsame
        exact absurd hlarger (lt_irrefl _)
      · cases hprevious
        exact hnext.symm
    · have hafter : s.authorities.step args (.commit prepared) = s.authorities :=
        if_neg hprepared
      rw [hafter, List.drop_length] at hmem
      exact absurd hmem List.not_mem_nil
  | prepare | handoff | handoffRetry | complete | owner | recovery =>
    exact absurd hmem List.not_mem_nil

theorem observe_request (before after : ReconstructionRun ε)
    (action : ReconstructionRun.Action ε) (handling : Handling) :
    (observe before after action handling).request = handling.request ∧
      (observe before after action handling).seenAttempt = handling.seenAttempt ∧
      (observe before after action handling).seenActive = handling.seenActive := by
  unfold observe
  by_cases hunmoved : Handling.Unmoved handling before
  · rw [if_pos hunmoved]
    exact ⟨rfl, rfl, rfl⟩
  · rw [if_neg hunmoved]
    exact ⟨rfl, rfl, rfl⟩

theorem Inv.authority [BEq ε] {action : ReconstructionRun.Action ε} (h : Inv s)
    (hregular : s.authorities.Regular action) : Inv (s.step args (.authority action)) where
  authorities := h.authorities.step action hregular
  replies request reply hreply := by
    obtain ⟨hrequest, hremembered⟩ := h.replies request reply hreply
    refine ⟨hrequest, ?_, hremembered.claimed, hremembered.conflict⟩
    intro haccepted
    obtain ⟨attempt, hattempt, hnamed⟩ := hremembered.named haccepted
    have hgrows : s.authorities.Grows (s.authorities.step args action) :=
      ReconstructionRun.grows_step h.authorities action
    exact ⟨attempt, hattempt, hgrows.queue _ hnamed.queued, hnamed.larger, hnamed.task,
      fun hstarted => hgrows.started _ (hnamed.started hstarted)⟩
  waits handling hhandling := by
    obtain ⟨old, hold, rfl⟩ := Option.mem_map.mp hhandling
    have hwaits := h.waits old hold
    obtain ⟨hrequest, hattempt, hactive⟩ :=
      observe_request s.authorities (s.authorities.step args action) action old
    have hdirect := hwaits.observe args action h.authorities
    exact {
      claimed := by
        rw [hrequest]
        exact hwaits.claimed
      fresh := by
        rw [hrequest]
        exact hwaits.fresh
      seen := by
        rw [hrequest, hattempt, hactive]
        exact hwaits.seen
      direct := by
        rw [hrequest]
        exact hdirect }
  sent := h.sent
  direct := h.direct

theorem Inv.step [BEq ε] (h : Inv s) (a : Action ε) (hregular : s.Regular a) :
    Inv (s.step args a) := by
  cases a with
  | deliver request =>
    simp only [OwnedObjectReconstructionReducer.step]
    cases hidle : s.handling with
    | some handling => exact h
    | none => exact h.receive hidle
  | authority action => exact h.authority hregular
  | admitted result =>
    simp only [OwnedObjectReconstructionReducer.step]
    cases hhandling : s.handling with
    | none => exact h
    | some handling => exact h.finish hhandling hregular

variable {actions : List (Action ε)}

theorem Inv.run [BEq ε] (h : Inv s)
    (hregular : Admissible (OwnedObjectReconstructionReducer.step args) Regular s actions) :
    Inv (Run.run (OwnedObjectReconstructionReducer.step args) s actions) :=
  hregular.invariant (p := Inv) (fun _ a hregular hs => hs.step a hregular) h

/-! ## What lasts -/

/-- What one step keeps for ever: bound keys and remembered replies. -/
structure Lasts (s s' : OwnedObjectReconstructionReducer ε) : Prop where
  claims : ∀ key request, s.claims.get? key = some request → s'.claims.get? key = some request
  replies : ∀ request reply, s.replies.get? request = some reply →
    s'.replies.get? request = some reply

theorem Lasts.refl (s : OwnedObjectReconstructionReducer ε) : Lasts s s :=
  ⟨fun _ _ h => h, fun _ _ h => h⟩

theorem Lasts.trans {s'' : OwnedObjectReconstructionReducer ε} (h : Lasts s s')
    (h' : Lasts s' s'') : Lasts s s'' :=
  ⟨fun key request hclaim => h'.claims key request (h.claims key request hclaim),
    fun request reply hreply => h'.replies request reply (h.replies request reply hreply)⟩

theorem lasts_claim
    (hfree : ∀ claimed, s.claims.get? request.transactionKey = some claimed → claimed = request) :
    Lasts s (s.claim request owner recovery) := by
  have hclaims : ∀ key other, s.claims.get? key = some other →
      (s.claims.set request.transactionKey request).get? key = some other := by
    intro key other hclaim
    rw [Dict.get?_set]
    by_cases hkey : request.transactionKey = key
    · rw [if_pos hkey]
      subst hkey
      rw [hfree other hclaim]
    · rw [if_neg hkey]
      exact hclaim
  unfold claim
  cases validateSnapshots request owner recovery with
  | some refusal => exact ⟨hclaims, fun _ _ hreply => hreply⟩
  | none => exact ⟨hclaims, fun _ _ hreply => hreply⟩

theorem lasts_receive : Lasts s (s.receive request) := by
  have hreceives : Receives s request _ := receive_receives
  generalize s.receive request = s' at hreceives ⊢
  cases hreceives with
  | replayed => exact ⟨fun _ _ h => h, fun _ _ h => h⟩
  | refused => exact ⟨fun _ _ h => h, fun _ _ h => h⟩
  | conflicted hnew => exact ⟨fun _ _ h => h, fun _ _ h => get?_replies_set hnew h⟩
  | claimed hnew hfree => exact lasts_claim hfree

theorem lasts_finish (hfresh : s.replies.get? handling.request = none) :
    Lasts s (s.finish handling result) := by
  have hfinishes : Finishes { s with handling := none } handling result _ := finish_finishes
  generalize s.finish handling result = s' at hfinishes ⊢
  cases hfinishes with
  | raised => exact ⟨fun _ _ h => h, fun _ _ h => h⟩
  | refused => exact ⟨fun _ _ h => h, fun _ _ h => h⟩
  | accepted => exact ⟨fun _ _ h => h, fun _ _ h => get?_replies_set hfresh h⟩

theorem Inv.lasts [BEq ε] (h : Inv s) (a : Action ε) : Lasts s (s.step args a) := by
  cases a with
  | deliver request =>
    simp only [OwnedObjectReconstructionReducer.step]
    cases s.handling with
    | some handling => exact .refl s
    | none => exact lasts_receive
  | authority action => exact ⟨fun _ _ h => h, fun _ _ h => h⟩
  | admitted result =>
    simp only [OwnedObjectReconstructionReducer.step]
    cases hhandling : s.handling with
    | none => exact .refl s
    | some handling => exact lasts_finish (h.waits handling hhandling).fresh

theorem Inv.lasts_run [BEq ε] (h : Inv s)
    (hregular : Admissible (OwnedObjectReconstructionReducer.step args) Regular s actions) :
    Lasts s (Run.run (OwnedObjectReconstructionReducer.step args) s actions) := by
  induction actions generalizing s with
  | nil => exact .refl s
  | cons a actions ih => exact (h.lasts a).trans (ih (h.step a hregular.1) hregular.2)

theorem receive_of_bad_credential {refusal : ReconstructionRefusal}
    (howner : s.authorities.coordinator.owner.entry request.objectId = .ok owner)
    (hcredential : validateCredential request owner = some refusal) :
    (s.receive request).authorities = s.authorities ∧
      (s.receive request).handling = s.handling ∧ (s.receive request).claims = s.claims := by
  have hreceives : Receives s request _ := receive_receives
  generalize s.receive request = s' at hreceives ⊢
  cases hreceives with
  | replayed => exact ⟨rfl, rfl, rfl⟩
  | refused => exact ⟨rfl, rfl, rfl⟩
  | conflicted => exact ⟨rfl, rfl, rfl⟩
  | claimed hnew hfree owner' recovery howner' hvalid =>
    cases howner.symm.trans howner'
    rw [hcredential] at hvalid
    cases hvalid

/-! ## What the replies say -/

/-- The state of the reducer after a regular run. -/
def Reaches [BEq ε] (args : TaskArguments) (ownerWorkerId : WorkerID)
    (s : OwnedObjectReconstructionReducer ε) : Prop :=
  ∃ actions, Admissible (OwnedObjectReconstructionReducer.step args) Regular
      (init ownerWorkerId) actions ∧
    s = Run.run (OwnedObjectReconstructionReducer.step args) (init ownerWorkerId) actions

theorem Reaches.inv [BEq ε] {ownerWorkerId : WorkerID} (h : Reaches args ownerWorkerId s) :
    Inv s := by
  obtain ⟨actions, hregular, rfl⟩ := h
  exact (inv_init ownerWorkerId).run hregular

/-- Over every run of the reducer and its authorities. -/
structure RequestSpec (ε : Type) [BEq ε] (args : TaskArguments) (ownerWorkerId : WorkerID) :
    Prop where
  /-- Accepted replies name a larger attempt that was queued; STARTED ones, one that was
  started, and every attempt is started once. -/
  named : ∀ s : OwnedObjectReconstructionReducer ε, Reaches args ownerWorkerId s →
    s.authorities.started.Nodup ∧ ∀ reply ∈ s.sent, reply.Accepted →
      ∃ attempt, reply.reconstructionAttempt = some attempt ∧ Named s.authorities reply attempt
  /-- As long as the authorities stand as the snapshots showed them, one expected attempt has
  one new attempt started. -/
  once : ∀ s : OwnedObjectReconstructionReducer ε, Reaches args ownerWorkerId s →
    ∀ request attempt request' attempt', (request, attempt) ∈ s.direct →
      (request', attempt') ∈ s.direct →
        request.expectedOwnerAttempt = request'.expectedOwnerAttempt → attempt = attempt'
  /-- An accepted reply is what every later delivery of its request gets, and nothing else
  happens. -/
  frozen : ∀ s : OwnedObjectReconstructionReducer ε, Reaches args ownerWorkerId s →
    ∀ reply ∈ s.sent, reply.Accepted → ∀ actions,
      Admissible (OwnedObjectReconstructionReducer.step args) Regular s actions →
        let later := Run.run (OwnedObjectReconstructionReducer.step args) s actions
        later.receive reply.request = later.answer reply
  /-- A key is bound to one request for ever, and only that request is accepted under it. -/
  bound : ∀ s : OwnedObjectReconstructionReducer ε, Reaches args ownerWorkerId s →
    (∀ key request, s.claims.get? key = some request → ∀ actions,
      Admissible (OwnedObjectReconstructionReducer.step args) Regular s actions →
        (Run.run (OwnedObjectReconstructionReducer.step args) s actions).claims.get? key =
          some request) ∧
      ∀ reply ∈ s.sent, reply.Accepted → ∀ reply' ∈ s.sent, reply'.Accepted →
        reply.request.transactionKey = reply'.request.transactionKey →
          reply.request = reply'.request
  /-- A bad credential starts nothing and consumes nothing. -/
  credential : ∀ (s : OwnedObjectReconstructionReducer ε) request owner refusal,
    s.authorities.coordinator.owner.entry request.objectId = .ok owner →
      validateCredential request owner = some refusal →
        (s.receive request).authorities = s.authorities ∧
          (s.receive request).handling = s.handling ∧ (s.receive request).claims = s.claims
  /-- Only accepted replies and conflicts are remembered. -/
  uncached : ∀ s : OwnedObjectReconstructionReducer ε, Reaches args ownerWorkerId s →
    ∀ request reply, s.replies.get? request = some reply →
      reply.Accepted ∨ reply.failure = some .requestConflict

theorem Inv.one_request {reply' : RequestOwnedObjectReconstructionReply} (h : Inv s)
    (hsent : reply ∈ s.sent) (haccepted : reply.Accepted) (hsent' : reply' ∈ s.sent)
    (haccepted' : reply'.Accepted)
    (hkey : reply.request.transactionKey = reply'.request.transactionKey) :
    reply.request = reply'.request := by
  have hclaimed := (h.replies _ _ (h.sent reply hsent haccepted)).2.claimed haccepted
  have hclaimed' := (h.replies _ _ (h.sent reply' hsent' haccepted')).2.claimed haccepted'
  rw [hkey] at hclaimed
  exact Option.some.inj (hclaimed.symm.trans hclaimed')

theorem receive_of_remembered (h : s.replies.get? request = some reply) :
    s.receive request = s.answer reply := by
  unfold receive
  rw [h]

theorem requests_answered [BEq ε] (ownerWorkerId : WorkerID) :
    RequestSpec ε args ownerWorkerId where
  named s hs := by
    have hinv := hs.inv
    refine ⟨hinv.authorities.started_nodup, fun reply hreply haccepted => ?_⟩
    exact (hinv.replies _ _ (hinv.sent reply hreply haccepted)).2.named haccepted
  once s hs request attempt request' attempt' hmem hmem' hsame := by
    rw [hs.inv.direct request attempt hmem, hs.inv.direct request' attempt' hmem', hsame]
  frozen s hs reply hreply haccepted actions hregular := by
    have hremembered := hs.inv.sent reply hreply haccepted
    exact receive_of_remembered ((hs.inv.lasts_run hregular).replies _ _ hremembered)
  bound s hs := by
    refine ⟨fun key request hclaim actions hregular => ?_, ?_⟩
    · exact (hs.inv.lasts_run hregular).claims key request hclaim
    · intro reply hreply haccepted reply' hreply' haccepted' hkey
      exact hs.inv.one_request hreply haccepted hreply' haccepted' hkey
  credential s request owner refusal howner hcredential :=
    receive_of_bad_credential howner hcredential
  uncached s hs request reply hreply := by
    by_cases haccepted : reply.Accepted
    · exact .inl haccepted
    · exact .inr ((hs.inv.replies request reply hreply).2.conflict haccepted)

namespace Sample

def spec : TaskSpec := ⟨⟨9⟩, ⟨7⟩, ⟨⟨7⟩, 0⟩, ⟨8⟩, "", rfl⟩

def output : ObjectID := .forTask ⟨7⟩ 0

def attempt (n : Nat) : AttemptID := ⟨⟨7⟩, n⟩

def arguments : TaskArguments := ⟨fun _ => [], fun spec _ => spec⟩

def hold (requester : WorkerID) : TaskReferenceHold :=
  ⟨.retained, requester, ⟨30⟩, ⟨⟨30⟩, 0⟩, rfl⟩

/-- Each requester asks under its own retained hold, having seen the first attempt. -/
def requestOf (requester : WorkerID) : RequestOwnedObjectReconstruction where
  objectId := output
  ownerWorkerId := ⟨8⟩
  requesterWorkerId := requester
  credential := .retained (hold requester)
  expectedOwnerAttempt := attempt 0
  retained_hold := by
    intro h hsame
    cases hsame
    exact ⟨rfl, rfl⟩
  expected_task := rfl

def retains (requester : WorkerID) : List (Action Unit) :=
  [.authority (.owner (.addBorrowedReference output (.worker requester "t"))),
    .authority (.owner (.retainBorrowedReferenceForTask output (.worker requester "t")
      (hold requester)))]

/-- An attempt succeeds, and its only replica is lost. -/
def loses (n : Nat) : List (Action Unit) :=
  [.authority (.owner (.publishStored output (some (attempt n)) ⟨5⟩ none)),
    .authority (.recovery (.report ⟨7⟩ (attempt n) .success)),
    .authority (.owner (.markLost output (some (attempt n)))),
    .authority (.complete ⟨7⟩ (attempt n))]

def setup : List (Action Unit) :=
  [.authority (.owner (.register output (some (attempt 0)) (some spec) none)),
    .authority (.recovery (.registerTask spec none 3))] ++
    retains ⟨1⟩ ++ retains ⟨2⟩ ++ loses 0 ++ [.deliver (requestOf ⟨1⟩)]

/-- The admission starts the next attempt and returns its receipt. -/
def starts (s : OwnedObjectReconstructionReducer Unit) : List (Action Unit) :=
  match s.authorities.coordinator.prepare arguments output true with
  | .error _ => []
  | .ok prepared =>
    [.authority (.prepare output true), .authority (.commit prepared),
      .authority (.handoff prepared.outcome.committed true),
      .admitted (.outcome (ReconstructionCoordinator.receipted prepared.outcome.committed))]

def after (actions : List (Action Unit)) : OwnedObjectReconstructionReducer Unit :=
  run (step arguments) (init ⟨8⟩) actions

/-- The first reconstruction is active for the second request, and lost at its admission. -/
def once : List (Action Unit) :=
  setup ++ starts (after setup) ++ [.deliver (requestOf ⟨2⟩)] ++ loses 1

def twice : List (Action Unit) := once ++ starts (after once)

theorem twice_regular : Admissible (step arguments) Regular (init ⟨8⟩) twice := by
  decide +kernel

theorem twice_sent : (after twice).sent.map (fun reply =>
      (reply.disposition, reply.request.expectedOwnerAttempt, reply.reconstructionAttempt)) =
    [(.started, attempt 0, some (attempt 1)), (.started, attempt 0, some (attempt 2))] := by
  decide +kernel

end Sample

/-- A first reconstruction may end between the snapshot and the second admission. -/
theorem reconstruction_starts_again :
    ¬ ∀ actions : List (Action Unit),
      Admissible (step Sample.arguments) Regular (init ⟨8⟩) actions →
        ∀ reply ∈ (run (step Sample.arguments) (init ⟨8⟩) actions).sent,
          ∀ reply' ∈ (run (step Sample.arguments) (init ⟨8⟩) actions).sent,
            reply.disposition = .started → reply'.disposition = .started →
              reply.request.expectedOwnerAttempt = reply'.request.expectedOwnerAttempt →
                reply.reconstructionAttempt = reply'.reconstructionAttempt := by
  intro h
  have hrun := h Sample.twice Sample.twice_regular
  have hsent := Sample.twice_sent
  unfold Sample.after at hsent
  generalize (run (step Sample.arguments) (init ⟨8⟩) Sample.twice).sent = sent at hrun hsent
  have hfirst := hsent ▸ List.mem_cons_self
  have hsecond := hsent ▸ List.mem_cons_of_mem _ List.mem_cons_self
  obtain ⟨first, hmem, hfirst⟩ := List.mem_map.mp hfirst
  obtain ⟨second, hmem', hsecond⟩ := List.mem_map.mp hsecond
  rw [Prod.mk.injEq, Prod.mk.injEq] at hfirst hsecond
  have hsame := hrun first hmem second hmem' hfirst.1 hsecond.1
    (hfirst.2.1.trans hsecond.2.1.symm)
  rw [hfirst.2.2, hsecond.2.2] at hsame
  exact absurd hsame (by decide)

end OwnedObjectReconstructionReducer

end MiniRay
