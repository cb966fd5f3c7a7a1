import MiniRay.Transfer.Network
import MiniRay.Transfer.Obligations
import MiniRay.Transfer.Sessions

/-! # What the transfer pin protocol guarantees -/

namespace MiniRay

open Checked Run

namespace TransferNetwork

variable {s s' : TransferNetwork} {tid : TransferID} {action : TransferAction}

/-- The transfer has a permanent close fence at the source. -/
def Fenced (s : TransferNetwork) (tid : TransferID) : Prop :=
  ∃ c, s.source.closedTransferPins.get? tid = some c

def SourceDead (s : TransferNetwork) (r : TransferPinObligation) : Prop :=
  (s.transferNodeDeaths.get? r.pin.descriptor.nodeId).isSome = true

structure Inv (s : TransferNetwork) : Prop where
  source : s.source.Inv
  outbox : s.outbox.Inv
  own : ∀ tid r, s.outbox.pending.get? tid = some r → r.pin.requesterNodeId = s.requester
  mourned : ∀ tid r, s.outbox.pending.get? tid = some r → r.sourceDeath ≠ none → s.SourceDead r
  answered : ∀ reply ∈ s.replies, reply.nodeId = s.source.nodeId ∧
    (reply.accepted = true → s.Fenced reply.transferId)
  addressed : ∀ target request, (target, .release request) ∈ s.sent →
    request.requesterNodeId = s.requester
  /-- A close under way has no reader left. -/
  closing : ∀ request, (s.source.nodeId, .release request) ∈ s.sent →
    s.Fenced request.transferId ∨ (s.transferNodeDeaths.get? s.source.nodeId).isSome = true ∨
      ∃ r, s.outbox.pending.get? request.transferId = some r ∧ r.active = false ∧
        r.pin.descriptor.nodeId = s.source.nodeId
  reading : ∀ request, (s.source.nodeId, .release request) ∈ s.sent →
    ∀ r, s.outbox.pending.get? request.transferId = some r → r.active = true →
      r.pin.descriptor.nodeId = s.source.nodeId → s.Fenced request.transferId

theorem inv_new (requester nodeId : NodeID) (capacityBytes : Nat) :
    (new requester nodeId capacityBytes).Inv where
  source :=
    { stored := ⟨fun _ => [], ObjectStore.inv_empty capacityBytes⟩
      distinct := ObjectStore.distinctPins_empty capacityBytes
      token := fun _ _ h => by simp [new] at h
      pinned := fun o tid => by simp [new, ObjectStore.Pinned]
      closed := fun _ _ h => by simp [new] at h
      fenced := fun _ _ h => by simp [new] at h }
  outbox := ⟨fun _ _ h => by simp [new] at h, fun _ _ h => by simp [new] at h⟩
  own _ _ h := by simp [new] at h
  mourned _ _ h := by simp [new] at h
  answered _ h := by simp [new] at h
  addressed _ _ h := by simp [new] at h
  closing _ h := by simp [new] at h
  reading _ h := by simp [new] at h

/-! ## Source steps -/

/-- What a section of the source does to the network. -/
structure SourceStep (s s' : TransferNetwork) : Prop where
  requester : s'.requester = s.requester
  outbox : s'.outbox = s.outbox
  deaths : s'.transferNodeDeaths = s.transferNodeDeaths
  sent : s'.sent = s.sent
  inv : s'.source.Inv
  later : TransferSource.Later s.source s'.source
  replies : ∀ reply ∈ s'.replies, reply ∈ s.replies ∨ (reply.nodeId = s.source.nodeId ∧
    (reply.accepted = true → s'.Fenced reply.transferId))

theorem SourceStep.fenced (h : SourceStep s s') (hfenced : s.Fenced tid) : s'.Fenced tid := by
  obtain ⟨c, hc⟩ := hfenced
  exact ⟨c, h.later.closed tid c hc⟩

theorem SourceStep.network (hstep : SourceStep s s') (h : s.Inv) : s'.Inv where
  source := hstep.inv
  outbox := hstep.outbox ▸ h.outbox
  own tid r hr := by
    rw [hstep.outbox] at hr
    rw [hstep.requester]
    exact h.own tid r hr
  mourned tid r hr hdeath := by
    rw [hstep.outbox] at hr
    rw [SourceDead, hstep.deaths]
    exact h.mourned tid r hr hdeath
  answered reply hreply := by
    rw [hstep.later.nodeId]
    rcases hstep.replies reply hreply with hold | hnew
    · obtain ⟨hnode, hfenced⟩ := h.answered reply hold
      exact ⟨hnode, fun haccepted => hstep.fenced (hfenced haccepted)⟩
    · exact hnew
  addressed target request hsent := by
    rw [hstep.sent] at hsent
    rw [hstep.requester]
    exact h.addressed target request hsent
  closing request hsent := by
    rw [hstep.sent, hstep.later.nodeId] at hsent
    rw [hstep.outbox, hstep.deaths, hstep.later.nodeId]
    rcases h.closing request hsent with hfenced | hrest
    · exact .inl (hstep.fenced hfenced)
    · exact .inr hrest
  reading request hsent r hr hactive hnode := by
    rw [hstep.sent, hstep.later.nodeId] at hsent
    rw [hstep.outbox] at hr
    rw [hstep.later.nodeId] at hnode
    exact hstep.fenced (h.reading request hsent r hr hactive hnode)

theorem handle_sourceStep (h : s.Inv) (message : TransferMessage) :
    SourceStep s (s.handle message) := by
  cases message with
  | pin request =>
    have hsteps := TransferSource.pinObject_steps (s := s.source) request
    exact ⟨rfl, rfl, rfl, rfl, TransferSource.Steps.inv hsteps h.source,
      TransferSource.Steps.later hsteps, fun _ hreply => .inl hreply⟩
  | chunk request => exact ⟨rfl, rfl, rfl, rfl, h.source, .rfl, fun _ hreply => .inl hreply⟩
  | release request =>
    have hspec := TransferSource.releaseObjectPin_spec h.source request
    refine ⟨rfl, rfl, rfl, rfl, hspec.step.inv h.source, hspec.step.later, fun reply hreply => ?_⟩
    rcases List.mem_cons.mp hreply with rfl | hold
    · obtain ⟨htransfer, hnode⟩ := s.source.releaseObjectPin_reply request
      refine .inr ⟨hnode, fun haccepted => ⟨⟨request, true⟩, ?_⟩⟩
      rw [htransfer]
      exact hspec.fence haccepted
    · exact .inl hold

theorem elsewhere_spec (h : s.source.Inv) (action : TransferAction) :
    (elsewhere s.source action).Inv ∧ TransferSource.Later s.source (elsewhere s.source action) ∧
      (elsewhere s.source action).closedTransferPins = s.source.closedTransferPins := by
  cases action with
  | useStore op =>
    simp only [elsewhere]
    split
    · next hordinary =>
      obtain ⟨writes, hstored⟩ := h.stored
      have hkept : ∀ o t, (s.source.objectStore.step op).Pinned o (.transfer t) ↔
          s.source.objectStore.Pinned o (.transfer t) := by
        intro o t
        refine ObjectStore.pinned_step_other hstored ?_ ?_ <;>
        · rintro rfl
          exact hordinary
      refine ⟨⟨⟨_, ObjectStore.inv_step hstored op⟩, h.distinct.step hstored op, h.token,
        fun o t => (hkept o t).trans (h.pinned o t), h.closed, h.fenced⟩, ?_, rfl⟩
      exact ⟨rfl, fun _ session hsession => ⟨session, hsession, rfl, rfl⟩, fun _ _ hc => hc,
        fun _ _ _ => rfl⟩
    · exact ⟨h, .rfl, rfl⟩
  | _ =>
    refine ⟨⟨h.stored, h.distinct, h.token, h.pinned, h.closed, h.fenced⟩, ?_, rfl⟩
    exact ⟨rfl, fun _ session hsession => ⟨session, hsession, rfl, rfl⟩, fun _ _ hc => hc,
      fun _ _ _ => rfl⟩

/-! ## Requester steps -/

/-- The close of the obligation is settled with an exact acknowledgement. -/
def Settles (s : TransferNetwork) (action : TransferAction) (r : TransferPinObligation) : Prop :=
  ∃ ticket reply now, action = .settle r.pin.transferId ticket (some reply) now ∧
    s.Receivable reply ∧ r.Acknowledges reply

/-- What a section of the requester does to the network. -/
structure RequesterStep (action : TransferAction) (s s' : TransferNetwork) : Prop where
  requester : s'.requester = s.requester
  source : s'.source = s.source
  replies : s'.replies = s.replies
  deaths : ∀ n d, s.transferNodeDeaths.get? n = some d → s'.transferNodeDeaths.get? n = some d
  moves : ∃ request death, TransferPinOutbox.Moves request death
    (fun r => s.Settles action r ∨ s'.SourceDead r) s.outbox s'.outbox ∧
      (∀ pin, request = some pin → pin.requesterNodeId = s.requester ∧
        s.transferNodeDeaths.get? pin.descriptor.nodeId = none) ∧
      ∀ d, death = some d → (s'.transferNodeDeaths.get? d.nodeId).isSome = true
  sent : ∀ target request, (target, .release request) ∈ s'.sent →
    (target, .release request) ∈ s.sent ∨ ∃ r, s.outbox.pending.get? request.transferId = some r ∧
      s'.outbox.pending.get? request.transferId = some r ∧ r.inFlight = true ∧
      target = r.pin.descriptor.nodeId ∧ request = r.release

variable {r : TransferPinObligation}

theorem Inv.settled (h : s.Inv) (hsettles : s.Settles action r)
    (hnode : r.pin.descriptor.nodeId = s.source.nodeId) : s.Fenced r.pin.transferId := by
  obtain ⟨_, reply, _, _, hreceivable, haccepted, htransfer, _, hfrom⟩ := hsettles
  rcases hreceivable with hreply | hother
  · have hfenced := (h.answered reply hreply).2 haccepted
    rw [htransfer] at hfenced
    exact hfenced
  · exact absurd (hfrom.trans hnode) hother

theorem RequesterStep.network (hstep : RequesterStep action s s') (h : s.Inv) : s'.Inv := by
  obtain ⟨request, death, hmoves, hrequest, hdeath⟩ := hstep.moves
  have hfenced : ∀ {x}, s.Fenced x → s'.Fenced x := by
    intro x hx
    rwa [Fenced, hstep.source]
  have hdead : ∀ {n}, (s.transferNodeDeaths.get? n).isSome = true →
      (s'.transferNodeDeaths.get? n).isSome = true := by
    intro n hn
    obtain ⟨d, hd⟩ := Option.isSome_iff_exists.mp hn
    simp [hstep.deaths n d hd]
  have hkey : ∀ {x r}, s.outbox.pending.get? x = some r → r.pin.transferId = x :=
    fun hr => h.outbox.keyed _ _ hr
  refine ⟨hstep.source ▸ h.source, hmoves.inv h.outbox, fun x r' hr' => ?_,
    fun x r' hr' hknown => ?_, fun reply hreply => ?_, fun target release hsent => ?_,
    fun release hsent => ?_, fun release hsent r' hr' hactive hnode => ?_⟩
  · rw [hstep.requester]
    rcases hmoves.kept x r' hr' with ⟨r, hr, hevolves⟩ | ⟨_, _, hbegun⟩
    · rw [hevolves.pin]
      exact h.own x r hr
    · exact (hrequest _ hbegun.pin).1
  · rcases hmoves.kept x r' hr' with ⟨r, hr, hevolves⟩ | ⟨_, _, hbegun⟩
    · rw [SourceDead, hevolves.pin]
      rcases hevolves.sourceDeath with hsame | ⟨d, hd, _, hnode⟩
      · exact hdead (h.mourned x r hr (hsame ▸ hknown))
      · rw [hnode]
        exact hdeath d hd
    · exact absurd hbegun.unknown hknown
  · rw [hstep.replies] at hreply
    rw [hstep.source]
    obtain ⟨hnode, hfence⟩ := h.answered reply hreply
    exact ⟨hnode, fun haccepted => hfenced (hfence haccepted)⟩
  · rw [hstep.requester]
    rcases hstep.sent target release hsent with hold | ⟨r, hr, _, _, _, rfl⟩
    · exact h.addressed target release hold
    · exact h.own _ r hr
  · rw [hstep.source] at hsent ⊢
    rcases hstep.sent _ release hsent with hold | ⟨r, hr, hr', hflight, htarget, _⟩
    · rcases h.closing release hold with hfence | hmourned | ⟨r, hr, hleft, hnode⟩
      · exact .inl (hfenced hfence)
      · exact .inr (.inl (hdead hmourned))
      · cases hr' : s'.outbox.pending.get? release.transferId with
        | none =>
          rcases hmoves.gone _ r hr hr' with hsettles | hmourned
          · have hfence := h.settled hsettles hnode
            rw [hkey hr] at hfence
            exact .inl (hfenced hfence)
          · exact .inr (.inl (hnode ▸ hmourned))
        | some r' =>
          rcases hmoves.kept _ r' hr' with ⟨old, hold, hevolves⟩ | ⟨hnone, _⟩
          · rw [hr, Option.some.injEq] at hold
            subst hold
            refine .inr (.inr ⟨r', rfl, ?_, ?_⟩)
            · by_contra hactive
              rw [Bool.not_eq_false] at hactive
              rw [hevolves.active hactive] at hleft
              cases hleft
            · rw [hevolves.pin]
              exact hnode
          · rw [hr] at hnone
            cases hnone
    · exact .inr (.inr ⟨r, hr', h.outbox.left _ r hr hflight, htarget.symm⟩)
  · rw [hstep.source] at hsent hnode
    rcases hstep.sent _ release hsent with hold | ⟨r, hr, hr₁, hflight, _, _⟩
    · rcases hmoves.kept _ r' hr' with ⟨r, hr, hevolves⟩ | ⟨hnone, _, hbegun⟩
      · exact hfenced (h.reading release hold r hr (hevolves.active hactive) (hevolves.pin ▸ hnode))
      · rcases h.closing release hold with hfence | hmourned | ⟨r, hr, _⟩
        · exact hfenced hfence
        · have hunknown := (hrequest _ hbegun.pin).2
          rw [hnode] at hunknown
          simp [hunknown] at hmourned
        · rw [hnone] at hr
          cases hr
    · rw [hr₁, Option.some.injEq] at hr'
      subst hr'
      rw [h.outbox.left _ r hr hflight] at hactive
      cases hactive

theorem requesterStep_rfl : RequesterStep action s s :=
  ⟨rfl, rfl, rfl, fun _ _ h => h,
    ⟨none, none, .rfl, (fun _ h => by cases h), (fun _ h => by cases h)⟩, fun _ _ h => .inl h⟩

theorem requesterStep_outbox {outbox : TransferPinOutbox}
    (hmoves : TransferPinOutbox.Moves none none
      (fun r => s.Settles action r ∨ s.SourceDead r) s.outbox outbox) :
    RequesterStep action s (s.withOutbox outbox) :=
  ⟨rfl, rfl, rfl, fun _ _ h => h, ⟨none, none, hmoves, (fun _ h => by cases h),
    (fun _ h => by cases h)⟩, fun _ _ h => .inl h⟩

variable {ready : TransferPinObligation → Bool} {message : TransferPinObligation → TransferMessage}

theorem requesterStep_send
    (hrelease : ∀ r request, s.outbox.pending.get? tid = some r → ready r = true →
      message r = .release request → r.inFlight = true ∧ request = r.release ∧
      request.transferId = tid) :
    RequesterStep action s (s.onObligation tid ready message) := by
  unfold onObligation
  cases hr : s.outbox.pending.get? tid with
  | none => exact requesterStep_rfl
  | some r =>
    dsimp only
    split
    · next hready =>
      refine ⟨rfl, rfl, rfl, fun _ _ h => h, ⟨none, none, .rfl, (fun _ h => by cases h),
        (fun _ h => by cases h)⟩, fun target request hsent => ?_⟩
      rcases List.mem_cons.mp hsent with hnew | hold
      · rw [Prod.mk.injEq] at hnew
        obtain ⟨hflight, hrequest, htransfer⟩ := hrelease r request hr hready hnew.2.symm
        rw [htransfer]
        exact .inr ⟨r, hr, hr, hflight, hnew.1, hrequest⟩
      · exact .inl hold
    · exact requesterStep_rfl

theorem settle_dropped (h : s.Inv) {ticket : Nat} {reply : Option ReleaseObjectPinReply} {now : ℚ}
    (hr : s.outbox.pending.get? tid = some r)
    (hdone : s.releaseAttempt tid reply = true ∨ r.sourceDeath ≠ none) :
    s.Settles (.settle tid ticket reply now) r ∨ s.SourceDead r := by
  rcases hdone with hacknowledged | hdeath
  · simp only [releaseAttempt, hr, Option.any_some, decide_eq_true_eq,
      Option.any_eq_true] at hacknowledged
    rcases hacknowledged with hdeath | ⟨reply, hreply, hexact⟩
    · exact .inr (h.mourned tid r hr hdeath)
    · left
      rw [h.outbox.keyed tid r hr |>.symm, hreply]
      exact ⟨ticket, reply, now, rfl, hexact⟩
  · exact .inr (h.mourned tid r hr hdeath)

theorem learnDeath_step (h : s.Inv) (death : NodeDeathRecord) :
    RequesterStep action s (s.learnDeath death) := by
  unfold learnDeath
  split
  · exact requesterStep_rfl
  · next hprior =>
    have hknown : (s.transferNodeDeaths.setDefault death.nodeId death).get? death.nodeId =
        some ((s.transferNodeDeaths.get? death.nodeId).getD death) :=
      Dict.get?_setDefault_self _ _ _
    have hmoves := TransferPinOutbox.markSourceDead_moves h.outbox death
    refine ⟨rfl, rfl, rfl, fun n d hn => ?_, ⟨none, some death, ?_, (fun _ h => by cases h), ?_⟩,
      fun _ _ h => .inl h⟩
    · by_cases heq : death.nodeId = n
      · subst heq
        simp [hknown, hn]
      · exact (Dict.get?_setDefault_of_ne _ _ heq).trans hn
    · refine hmoves.mono fun x r _ hnode => .inr ?_
      simp [SourceDead, hnode, hknown]
    · rintro d hd
      cases hd
      simp [hknown]

theorem request_step (h : s.Inv) (action : TransferAction) :
    RequesterStep action s (s.request action) := by
  cases action with
  | begin_ sourceAddress pin =>
    simp only [request]
    split
    · exact requesterStep_rfl
    · next hallowed =>
      cases hbegin : s.outbox.begin_ sourceAddress pin with
      | error _ => exact requesterStep_rfl
      | ok result =>
        obtain ⟨r, outbox⟩ := result
        rw [not_or, not_not, Bool.not_eq_true, Option.isSome_eq_false_iff,
          Option.isNone_iff_eq_none] at hallowed
        refine ⟨rfl, rfl, rfl, fun _ _ h => h, ⟨some pin, none,
          TransferPinOutbox.begin_moves hbegin, fun p hp => ?_, (fun _ h => by cases h)⟩,
          fun _ _ h => .inl h⟩
        cases hp
        exact hallowed
  | sendPin transferId =>
    exact requesterStep_send fun _ _ _ _ hmessage => by cases hmessage
  | sendChunk transferId offset sizeBytes size_pos =>
    exact requesterStep_send fun _ _ _ _ hmessage => by cases hmessage
  | finishRead transferId now =>
    simp only [request]
    cases hcall : s.outbox.closeAndAcquire transferId now with
    | error _ => exact requesterStep_rfl
    | ok result =>
      exact requesterStep_outbox (TransferPinOutbox.closeAndAcquire_moves h.outbox hcall)
  | acquire now transferId force =>
    exact requesterStep_outbox (TransferPinOutbox.acquire_moves h.outbox now transferId force)
  | sendRelease transferId =>
    refine requesterStep_send fun r request hr hready hmessage => ?_
    rw [Bool.and_eq_true] at hready
    cases hmessage
    exact ⟨hready.1, rfl, h.outbox.keyed transferId r hr⟩
  | settle transferId ticket reply now =>
    simp only [request]
    cases hcall : s.outbox.settle transferId ticket (s.releaseAttempt transferId reply) now with
    | error _ => exact requesterStep_rfl
    | ok result =>
      obtain ⟨r, hr, _, hmoves⟩ := TransferPinOutbox.settle_moves hcall
      refine requesterStep_outbox (hmoves.mono fun x r' _ hdropped => ?_)
      obtain ⟨rfl, hdone⟩ := hdropped
      exact settle_dropped h hr hdone
  | learnSourceDeath death => exact learnDeath_step h death
  | _ => exact requesterStep_rfl

/-! ## Every step -/

theorem step_cases (s : TransferNetwork) (action : TransferAction) :
    (∃ message, s.handled action = some message ∧ s.step action = s.handle message) ∨
      (s.handled action = none ∧
        s.step action = { s.request action with source := elsewhere s.source action }) := by
  unfold step
  cases s.handled action with
  | none => exact .inr ⟨rfl, rfl⟩
  | some message => exact .inl ⟨message, rfl, rfl⟩

theorem elsewhere_step (h : s.Inv) (action : TransferAction) :
    SourceStep s { s with source := elsewhere s.source action } := by
  obtain ⟨hinv, hlater, _⟩ := elsewhere_spec h.source action
  exact ⟨rfl, rfl, rfl, rfl, hinv, hlater, fun _ hreply => .inl hreply⟩

theorem elsewhere_request (h : s.Inv) (action : TransferAction) :
    SourceStep (s.request action)
      { s.request action with source := elsewhere s.source action } := by
  have hsource := (request_step h action).source
  rw [← hsource]
  exact elsewhere_step ((request_step h action).network h) action

theorem step_inv (h : s.Inv) (action : TransferAction) : (s.step action).Inv := by
  rcases step_cases s action with ⟨message, _, hstep⟩ | ⟨_, hstep⟩
  · rw [hstep]
    exact (handle_sourceStep h message).network h
  · rw [hstep]
    exact (elsewhere_request h action).network ((request_step h action).network h)

theorem step_later (h : s.Inv) (action : TransferAction) :
    TransferSource.Later s.source (s.step action).source := by
  rcases step_cases s action with ⟨message, _, hstep⟩ | ⟨_, hstep⟩
  · rw [hstep]
    exact (handle_sourceStep h message).later
  · rw [hstep]
    exact (elsewhere_spec h.source action).2.1

variable {requester nodeId : NodeID} {capacityBytes : Nat}

theorem run_inv (actions : List TransferAction) :
    (run step (new requester nodeId capacityBytes) actions).Inv :=
  run_invariant (p := Inv) (fun _ action h => step_inv h action)
    (inv_new requester nodeId capacityBytes) actions

theorem run_later (h : s.Inv) (actions : List TransferAction) :
    TransferSource.Later s.source (run step s actions).source := by
  induction actions generalizing s with
  | nil => exact .rfl
  | cons action actions ih => exact (step_later h action).trans (ih (step_inv h action))

theorem step_requester (s : TransferNetwork) (h : s.Inv) (action : TransferAction) :
    (s.step action).requester = s.requester := by
  rcases step_cases s action with ⟨message, _, hstep⟩ | ⟨_, hstep⟩
  · rw [hstep]
    exact (handle_sourceStep h message).requester
  · rw [hstep]
    exact (request_step h action).requester

theorem run_requester (requester nodeId : NodeID) (capacityBytes : Nat)
    (actions : List TransferAction) :
    (run step (new requester nodeId capacityBytes) actions).requester = requester := by
  have hboth := run_invariant (p := fun s => s.Inv ∧ s.requester = requester)
    (fun s action h => ⟨step_inv h.1 action, (step_requester s h.1 action).trans h.2⟩)
    ⟨inv_new requester nodeId capacityBytes, rfl⟩ actions
  exact hboth.2

/-! ## Unpins -/

/-- A step unpins exactly the transfers it says, and none of them was unpinned before. -/
theorem step_unpinned (h : s.Inv) (action : TransferAction) :
    (∀ x ∈ s.unpins action, ¬ s.source.Unpinned x) ∧ (s.unpins action).Nodup ∧
      ∀ x, (s.step action).source.Unpinned x ↔ s.source.Unpinned x ∨ x ∈ s.unpins action := by
  have hquiet : s.unpins action = [] → (s.step action).source.closedTransferPins =
      s.source.closedTransferPins → (∀ x ∈ s.unpins action, ¬ s.source.Unpinned x) ∧
        (s.unpins action).Nodup ∧ ∀ x, (s.step action).source.Unpinned x ↔
          s.source.Unpinned x ∨ x ∈ s.unpins action := by
    intro hnone hclosed
    rw [hnone]
    refine ⟨by simp, List.nodup_nil, fun x => ?_⟩
    rw [TransferSource.unpinned_iff h.source (step_inv h action).source (step_later h action)
      (by rw [hclosed])]
    simp
  rcases step_cases s action with ⟨message, hhandled, hstep⟩ | ⟨hhandled, hstep⟩
  · cases message with
    | pin request =>
      refine hquiet (by simp [unpins, hhandled]) ?_
      rw [hstep]
      exact s.source.pinObject_closed request
    | chunk request => exact hquiet (by simp [unpins, hhandled]) (by rw [hstep]; rfl)
    | release request =>
      have hspec := TransferSource.releaseObjectPin_spec h.source request
      obtain ⟨hfresh, hafter⟩ := hspec.unpinned h.source
      have hunpins : s.unpins action =
          if (s.source.releaseObjectPin request).1.released then [request.transferId]
          else [] := by
        simp [unpins, hhandled]
      have hmem : ∀ x, x ∈ s.unpins action ↔
          x = request.transferId ∧ (s.source.releaseObjectPin request).1.released = true := by
        intro x
        rw [hunpins]
        split <;> simp_all
      refine ⟨fun x hx => ?_, ?_, fun x => ?_⟩
      · obtain ⟨rfl, hreleased⟩ := (hmem x).mp hx
        exact hfresh hreleased
      · rw [hunpins]
        split <;> simp
      · rw [hstep, hmem]
        exact hafter x
  · refine hquiet (by simp [unpins, hhandled]) ?_
    rw [hstep]
    exact (elsewhere_spec h.source action).2.2

/-- Every opened and released session was unpinned once, no other ever. -/
theorem run_unpinned (actions : List TransferAction) :
    (outputs step unpins (new requester nodeId capacityBytes) actions).Nodup ∧
      ∀ x, (run step (new requester nodeId capacityBytes) actions).source.Unpinned x ↔
        x ∈ outputs step unpins (new requester nodeId capacityBytes) actions := by
  have hinvariant := outputs_invariant
    (p := fun unpinned (s : TransferNetwork) => s.Inv ∧ unpinned.Nodup ∧
      ∀ x, s.source.Unpinned x ↔ x ∈ unpinned)
    (fun unpinned s action (h : s.Inv ∧ unpinned.Nodup ∧ ∀ x, s.source.Unpinned x ↔ x ∈ unpinned) =>
      by
        obtain ⟨hinv, hnodup, hunpinned⟩ := h
        obtain ⟨hfresh, hnew, hafter⟩ := step_unpinned hinv action
        refine ⟨step_inv hinv action, ?_, fun x => ?_⟩
        · rw [List.nodup_append]
          refine ⟨hnodup, hnew, fun x hx y hy => ?_⟩
          rintro rfl
          exact hfresh x hy ((hunpinned x).mpr hx)
        · rw [hafter, hunpinned, List.mem_append])
    ⟨inv_new requester nodeId capacityBytes, List.nodup_nil,
      fun x => by simp [TransferSource.Unpinned, new]⟩ actions
  exact hinvariant.2

/-! ## Readers -/

theorem unpins_reading (h : s.Inv) {session : PinnedTransfer}
    (hr : s.outbox.pending.get? tid = some r) (hactive : r.active = true)
    (hnode : r.pin.descriptor.nodeId = s.source.nodeId)
    (hsession : s.source.pinnedTransfers.get? tid = some session)
    (hrequester : session.requesterNodeId = s.requester) (hunpins : tid ∈ s.unpins action) :
    (s.source.transferNodeDeaths.get? s.requester).isSome = true ∨
      s.source.shutdownRequestId ≠ none ∨ s.source.stopping = true := by
  have hopen : s.source.closedTransferPins.get? tid = none := by
    obtain ⟨hfresh, _, hafter⟩ := step_unpinned h action
    by_contra hclosed
    obtain ⟨c, hc⟩ := Option.ne_none_iff_exists'.mp hclosed
    have hfrozen := (step_later h action).frozen tid c hc
    have hunpinned := (hafter tid).mpr (.inr hunpins)
    apply hfresh tid hunpins
    unfold TransferSource.Unpinned at hunpinned ⊢
    rwa [hfrozen] at hunpinned
  cases hhandled : s.handled action with
  | none => simp [unpins, hhandled] at hunpins
  | some message =>
    cases message with
    | pin request => simp [unpins, hhandled] at hunpins
    | chunk request => simp [unpins, hhandled] at hunpins
    | release request =>
      have hreleased : (s.source.releaseObjectPin request).1.released = true ∧
          tid = request.transferId := by
        simp only [unpins, hhandled] at hunpins
        split at hunpins
        · next hreleased => exact ⟨hreleased, by simpa using hunpins⟩
        · cases hunpins
      obtain ⟨hreleased, rfl⟩ := hreleased
      have hown : request.requesterNodeId = s.requester := by
        have hspec := TransferSource.releaseObjectPin_spec h.source request
        generalize hresult : s.source.releaseObjectPin request = result at hspec hreleased
        cases hspec with
        | refused _ idle => exact absurd (idle.symm.trans hreleased) (by decide)
        | replayed _ idle => exact absurd (idle.symm.trans hreleased) (by decide)
        | fenced _ _ idle => exact absurd (idle.symm.trans hreleased) (by decide)
        | closed current _ _ same _ _ =>
          rw [hsession, Option.some.injEq] at current
          rw [← same, ← current, hrequester]
      cases action with
      | deliver message =>
        simp only [handled] at hhandled
        split at hhandled
        · next hsent =>
          cases hhandled
          obtain ⟨c, hc⟩ := h.reading request hsent r hr hactive hnode
          rw [hopen] at hc
          cases hc
        · cases hhandled
      | foreign message =>
        simp only [handled] at hhandled
        split at hhandled
        · next hother =>
          cases hhandled
          exact absurd hown hother
        · cases hhandled
      | retryClosing =>
        simp only [handled, Option.map_eq_some_iff] at hhandled
        obtain ⟨c, hc, _⟩ := hhandled
        obtain ⟨x, hx⟩ := Dict.mem_values_iff.mp (List.mem_of_find?_eq_some hc)
        have hdone := h.source.closed x c hx
        have hpending := List.find?_some hc
        simp [hdone] at hpending
      | releaseDead transferId =>
        simp only [handled, ownClose, Option.bind_eq_some_iff] at hhandled
        obtain ⟨x, hx, hclose⟩ := hhandled
        split at hclose
        · next hallowed =>
          cases hclose
          exact .inl (hown ▸ hallowed.2)
        · cases hclose
      | releaseStopping transferId =>
        simp only [handled, ownClose, Option.bind_eq_some_iff] at hhandled
        obtain ⟨x, hx, hclose⟩ := hhandled
        split at hclose
        · next hallowed => exact .inr (by simpa using hallowed.2)
        · cases hclose
      | _ => cases hhandled

/-! ## The specification -/

/-- The obligation is there before the step and gone after it. -/
def Drops (s : TransferNetwork) (action : TransferAction) (tid : TransferID)
    (r : TransferPinObligation) : Prop :=
  s.outbox.pending.get? tid = some r ∧ (s.step action).outbox.pending.get? tid = none

structure TransferSpec (requester nodeId : NodeID) (capacityBytes : Nat) : Prop where
  /-- The transfer pins in the store are the acquired and unreleased sessions. -/
  pins : ∀ actions o tid,
    (run step (new requester nodeId capacityBytes) actions).source.objectStore.Pinned o
      (.transfer tid) ↔ ∃ session,
        (run step (new requester nodeId capacityBytes) actions).source.pinnedTransfers.get? tid =
          some session ∧ session.descriptor.objectId = o ∧ session.acquired = true ∧
          session.released = false
  /-- Every session that was acquired and released was unpinned once, no other ever. -/
  once : ∀ actions,
    (outputs step unpins (new requester nodeId capacityBytes) actions).Nodup ∧ ∀ tid,
      tid ∈ outputs step unpins (new requester nodeId capacityBytes) actions ↔ ∃ session,
        (run step (new requester nodeId capacityBytes) actions).source.pinnedTransfers.get? tid =
          some session ∧ session.acquired = true ∧ session.released = true
  /-- A chunk read never fails, never unpins, and serves only what its own session pins. -/
  chunks : ∀ actions action request,
    (run step (new requester nodeId capacityBytes) actions).handled action =
      some (.chunk request) →
    (run step (new requester nodeId capacityBytes) actions).unpins action = [] ∧ ∃ reply,
      (run step (new requester nodeId capacityBytes) actions).source.getObjectChunk request =
        .ok reply ∧ (reply.ok = true →
          (run step (new requester nodeId capacityBytes) actions).source.objectStore.Pinned
            request.objectId (.transfer request.transferId))
  /-- While its reader is there, a session is unpinned only by the committed death of the
  requester or by the shutdown of the source. -/
  reading : ∀ actions action tid r session,
    (run step (new requester nodeId capacityBytes) actions).outbox.pending.get? tid = some r →
    r.active = true → r.pin.descriptor.nodeId = nodeId →
    (run step (new requester nodeId capacityBytes) actions).source.pinnedTransfers.get? tid =
      some session → session.requesterNodeId = requester →
    tid ∈ (run step (new requester nodeId capacityBytes) actions).unpins action →
      ((run step (new requester nodeId capacityBytes) actions).source.transferNodeDeaths.get?
        requester).isSome = true ∨
      (run step (new requester nodeId capacityBytes) actions).source.shutdownRequestId ≠ none ∨
      (run step (new requester nodeId capacityBytes) actions).source.stopping = true
  /-- A transfer identity is bound to one descriptor and one requester for ever. -/
  bound : ∀ actions more tid session,
    (run step (new requester nodeId capacityBytes) actions).source.pinnedTransfers.get? tid =
      some session → ∃ session',
        (run step (new requester nodeId capacityBytes)
          (actions ++ more)).source.pinnedTransfers.get? tid = some session' ∧
          session'.descriptor = session.descriptor ∧
          session'.requesterNodeId = session.requesterNodeId
  /-- Only an exact acknowledgement or the source's death drops an obligation. -/
  dropped : ∀ actions action tid r,
    (run step (new requester nodeId capacityBytes) actions).Drops action tid r →
      (run step (new requester nodeId capacityBytes) actions).Settles action r ∨
        ∃ death, death.nodeId = r.pin.descriptor.nodeId ∧
          .learnSourceDeath death ∈ actions ++ [action]
  /-- Behind an acknowledged close the source never pins for its transfer again. -/
  settled : ∀ actions action tid r,
    (run step (new requester nodeId capacityBytes) actions).Drops action tid r →
    r.pin.descriptor.nodeId = nodeId →
    (run step (new requester nodeId capacityBytes) actions).Settles action r → ∀ more o,
      ¬ (run step (new requester nodeId capacityBytes)
        (actions ++ action :: more)).source.objectStore.Pinned o (.transfer tid)

/-! ## Deaths and drops -/

variable {d : NodeDeathRecord} {n : NodeID}

theorem learnDeath_deaths {death : NodeDeathRecord}
    (h : (s.learnDeath death).transferNodeDeaths.get? n = some d) :
    s.transferNodeDeaths.get? n = some d ∨ (d = death ∧ d.nodeId = n) := by
  unfold learnDeath at h
  split at h
  · exact .inl h
  · by_cases heq : death.nodeId = n
    · subst heq
      rw [Dict.get?_setDefault_self, Option.some.injEq] at h
      cases hprior : s.transferNodeDeaths.get? death.nodeId with
      | none =>
        rw [hprior, Option.getD_none] at h
        exact .inr ⟨h.symm, by rw [h]⟩
      | some prior =>
        rw [hprior, Option.getD_some] at h
        exact .inl (by rw [h])
    · exact .inl ((Dict.get?_setDefault_of_ne _ _ heq).symm.trans h)

theorem onObligation_deaths :
    (s.onObligation tid ready message).transferNodeDeaths = s.transferNodeDeaths := by
  unfold onObligation
  split
  · rfl
  · split <;> rfl

theorem step_deaths (h : (s.step action).transferNodeDeaths.get? n = some d) :
    s.transferNodeDeaths.get? n = some d ∨ (action = .learnSourceDeath d ∧ d.nodeId = n) := by
  rcases step_cases s action with ⟨message, _, hstep⟩ | ⟨_, hstep⟩
  · left
    rw [hstep] at h
    cases message <;> exact h
  · rw [hstep] at h
    cases action with
    | learnSourceDeath death =>
      rcases learnDeath_deaths h with hold | ⟨rfl, hnode⟩
      · exact .inl hold
      · exact .inr ⟨rfl, hnode⟩
    | begin_ | finishRead | settle =>
      left
      simp only [request] at h
      split at h
      · exact h
      · first
          | exact h
          | (split at h <;> exact h)
    | sendPin | sendChunk | sendRelease =>
      left
      simpa only [request, onObligation_deaths] using h
    | _ => exact .inl h

theorem run_deaths (actions : List TransferAction)
    (h : (run step (new requester nodeId capacityBytes) actions).transferNodeDeaths.get? n =
      some d) :
    d.nodeId = n ∧ .learnSourceDeath d ∈ actions := by
  induction actions using List.reverseRecOn with
  | nil => simp [new] at h
  | append_singleton actions action ih =>
    rw [run_concat] at h
    rcases step_deaths h with hold | ⟨rfl, hnode⟩
    · obtain ⟨hnode, hmem⟩ := ih hold
      exact ⟨hnode, List.mem_append_left _ hmem⟩
    · exact ⟨hnode, by simp⟩

theorem drops_cases (h : s.Inv) (hdrops : s.Drops action tid r) :
    s.Settles action r ∨ (s.step action).SourceDead r := by
  obtain ⟨hr, hnone⟩ := hdrops
  rcases step_cases s action with ⟨message, _, hstep⟩ | ⟨_, hstep⟩
  · rw [hstep, (handle_sourceStep h message).outbox, hr] at hnone
    cases hnone
  · obtain ⟨_, _, hmoves, _⟩ := (request_step h action).moves
    rw [hstep] at hnone ⊢
    exact hmoves.gone tid r hr hnone

theorem transferSpec (requester nodeId : NodeID) (capacityBytes : Nat) :
    TransferSpec requester nodeId capacityBytes where
  pins actions o tid := (run_inv actions).source.pinned o tid
  once actions := by
    obtain ⟨hnodup, hunpinned⟩ := run_unpinned actions
    exact ⟨hnodup, fun tid => (hunpinned tid).symm⟩
  chunks actions action request hhandled := by
    obtain ⟨reply, hreply, hpinned⟩ :=
      TransferSource.getObjectChunk_spec (run_inv actions).source request
    exact ⟨by simp [unpins, hhandled], reply, hreply, fun hok => (hpinned hok).1⟩
  reading actions action tid r session hr hactive hnode hsession hrequester hunpins := by
    have hlater := run_later (inv_new requester nodeId capacityBytes) actions
    have hsame : (run step (new requester nodeId capacityBytes) actions).source.nodeId = nodeId :=
      hlater.nodeId
    have hown := run_requester requester nodeId capacityBytes actions
    have hreason := unpins_reading (run_inv actions) hr hactive (hnode.trans hsame.symm) hsession
      (hrequester.trans hown.symm) hunpins
    rwa [hown] at hreason
  bound actions more tid session hsession := by
    rw [run_append]
    exact (run_later (run_inv actions) more).session tid session hsession
  dropped actions action tid r hdrops := by
    rcases drops_cases (run_inv actions) hdrops with hsettles | hdead
    · exact .inl hsettles
    · right
      obtain ⟨death, hdeath⟩ := Option.isSome_iff_exists.mp hdead
      rw [← run_concat step] at hdeath
      obtain ⟨hnode, hmem⟩ := run_deaths _ hdeath
      exact ⟨death, hnode, hmem⟩
  settled actions action tid r hdrops hnode hsettles more o := by
    have hinv : (run step (new requester nodeId capacityBytes) actions).Inv := run_inv actions
    have hsame : (run step (new requester nodeId capacityBytes) actions).source.nodeId = nodeId :=
      (run_later (inv_new requester nodeId capacityBytes) actions).nodeId
    obtain ⟨c, hc⟩ := hinv.settled hsettles (hnode.trans hsame.symm)
    rw [hinv.outbox.keyed tid r hdrops.1] at hc
    have hlater := (run_later hinv (action :: more)).closed tid c hc
    rw [run_append]
    exact (run_invariant (p := Inv) (fun _ action h => step_inv h action) hinv
      (action :: more)).source.closed_unpinned hlater

end TransferNetwork

end MiniRay
