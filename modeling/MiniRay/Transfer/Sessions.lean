import MiniRay.Store.Pins
import MiniRay.Transfer.Source

/-! The transfer pins in the store are the open sessions, and a closed transfer stays closed. -/

namespace MiniRay

open Checked

namespace TransferSource

variable {s s' : TransferSource} {tid x : TransferID} {o : ObjectID}

/-- The session holds a pin in the store. -/
def Open (session : PinnedTransfer) : Prop := session.acquired = true ∧ session.released = false

structure Inv (s : TransferSource) : Prop where
  stored : ∃ h, ObjectStore.Inv h s.objectStore
  distinct : s.objectStore.DistinctPins
  token : ∀ tid session, s.pinnedTransfers.get? tid = some session →
    session.pinToken = .transfer tid
  pinned : ∀ o tid, s.objectStore.Pinned o (.transfer tid) ↔ ∃ session,
    s.pinnedTransfers.get? tid = some session ∧ session.descriptor.objectId = o ∧ Open session
  closed : ∀ tid c, s.closedTransferPins.get? tid = some c → c.closed = true
  fenced : ∀ tid session, s.pinnedTransfers.get? tid = some session →
    (session.released = true ↔ (s.closedTransferPins.get? tid).isSome = true)

/-- What a handler can do to the sessions and to the store. -/
inductive Step (s : TransferSource) : TransferSource → Prop
  | same : Step s s
  | begun {tid : TransferID} {session : PinnedTransfer}
      (absent : s.pinnedTransfers.get? tid = none) (unfenced : s.closedTransferPins.get? tid = none)
      (token : session.pinToken = .transfer tid) (idle : session.acquired = false)
      (unreleased : session.released = false) : Step s (s.setSession tid session)
  | pinned {tid : TransferID} {session : PinnedTransfer} {store : ObjectStore PinToken}
      (current : s.pinnedTransfers.get? tid = some session)
      (unfenced : s.closedTransferPins.get? tid = none)
      (stored : s.objectStore.pin session.descriptor.objectId (.transfer tid) = .ok store) :
      Step s ({ s with objectStore := store }.setSession tid
        { session with pinToken := .transfer tid, acquired := true })
  | fenced {request : ReleaseObjectPin}
      (absent : s.pinnedTransfers.get? request.transferId = none)
      (unfenced : s.closedTransferPins.get? request.transferId = none) :
      Step s (s.setClosed request.transferId ⟨request, true⟩)
  | released {request : ReleaseObjectPin} {session : PinnedTransfer} {existed : Bool}
      {store : ObjectStore PinToken}
      (current : s.pinnedTransfers.get? request.transferId = some session)
      (unreleased : session.released = false)
      (unfenced : s.closedTransferPins.get? request.transferId = none)
      (stored : s.unpinSession session.descriptor.objectId session = .ok (existed, store)) :
      Step s (({ s with objectStore := store }.setSession request.transferId
        { session with closing := true, released := true }).setClosed request.transferId
          ⟨request, true⟩)

/-! ## Lookups -/

variable {session : PinnedTransfer}

theorem setSession_get? :
    (s.setSession tid session).pinnedTransfers.get? x =
      if tid = x then some session else s.pinnedTransfers.get? x := Dict.get?_set _ _ _ _

variable {closed : ClosedTransferPin}

theorem setClosed_get? :
    (s.setClosed tid closed).closedTransferPins.get? x =
      if tid = x then some closed else s.closedTransferPins.get? x := Dict.get?_set _ _ _ _

/-! ## The invariant -/

theorem Inv.absent_unpinned (h : s.Inv) (habsent : s.pinnedTransfers.get? tid = none) :
    ¬ s.objectStore.Pinned o (.transfer tid) := by
  rw [h.pinned]
  rintro ⟨other, hother, _⟩
  rw [habsent] at hother
  cases hother

theorem unpinSession_total (objectId : ObjectID) (session : PinnedTransfer) :
    ∃ existed store, s.unpinSession objectId session = .ok (existed, store) := by
  unfold unpinSession
  split
  · next hcontains =>
    unfold ObjectStore.contains at hcontains
    cases he : s.objectStore.entries.get? objectId with
    | none => simp [he] at hcontains
    | some e => simp [ObjectStore.unpin, ObjectStore.entry_eq_ok.mpr he]
  · exact ⟨_, _, rfl⟩

variable {store : ObjectStore PinToken}

/-- Unpinning takes exactly the session's token, and tells whether it was there. -/
theorem unpinSession_spec (h : s.Inv) {objectId : ObjectID} {existed : Bool}
    (hcall : s.unpinSession objectId session = .ok (existed, store)) :
    (∃ h, ObjectStore.Inv h store) ∧ store.DistinctPins ∧
      (existed = true ↔ s.objectStore.Pinned objectId session.pinToken) ∧
      ∀ o t, store.Pinned o t ↔
        s.objectStore.Pinned o t ∧ ¬ (objectId = o ∧ session.pinToken = t) := by
  obtain ⟨writes, hstored⟩ := h.stored
  unfold unpinSession at hcall
  split at hcall
  · have hdistinct : store.DistinctPins := by
      intro o
      rw [ObjectStore.tokens_unpin hcall]
      split
      · exact (h.distinct o).erase _
      · exact h.distinct o
    refine ⟨⟨writes, hstored.unpin hcall⟩, hdistinct, ?_,
      fun o t => ObjectStore.pinned_unpin h.distinct hcall⟩
    simp only [ObjectStore.unpin, bind_eq_ok, pure_eq_ok, ObjectStore.entry_eq_ok,
      Prod.mk.injEq] at hcall
    obtain ⟨e, he, hexisted, _⟩ := hcall
    rw [← hexisted, ObjectStore.Pinned, ObjectStore.tokens_of_get? he, decide_eq_true_eq]
  · next hcontains =>
    cases hcall
    have hnone : s.objectStore.tokens objectId = [] := by
      apply ObjectStore.tokens_of_none
      unfold ObjectStore.contains at hcontains
      cases he : s.objectStore.entries.get? objectId with
      | none => rfl
      | some e => simp [he] at hcontains
    have hunpinned : ∀ t, ¬ s.objectStore.Pinned objectId t := by
      intro t
      simp [ObjectStore.Pinned, hnone]
    refine ⟨⟨writes, hstored⟩, h.distinct, by simp [hunpinned], fun o t => ?_⟩
    constructor
    · intro hpinned
      exact ⟨hpinned, fun hsame => hunpinned t (hsame.1 ▸ hpinned)⟩
    · exact fun hpinned => hpinned.1

theorem Inv.begun (h : s.Inv) (absent : s.pinnedTransfers.get? tid = none)
    (unfenced : s.closedTransferPins.get? tid = none) (token : session.pinToken = .transfer tid)
    (idle : session.acquired = false) (unreleased : session.released = false) :
    (s.setSession tid session).Inv where
  stored := h.stored
  distinct := h.distinct
  token x other hother := by
    rw [setSession_get?] at hother
    split at hother
    · next heq =>
      cases hother
      rw [token, heq]
    · exact h.token x other hother
  pinned o x := by
    rw [setSession_get?]
    split
    · next heq =>
      subst heq
      have hunpinned := h.absent_unpinned (o := o) absent
      exact ⟨fun hpinned => absurd hpinned hunpinned, by simp [Open, idle]⟩
    · exact h.pinned o x
  closed := h.closed
  fenced x other hother := by
    rw [setSession_get?] at hother
    split at hother
    · next heq =>
      cases hother
      subst heq
      change session.released = true ↔ (s.closedTransferPins.get? tid).isSome = true
      simp [unreleased, unfenced]
    · exact h.fenced x other hother

theorem Inv.pin (h : s.Inv) (current : s.pinnedTransfers.get? tid = some session)
    (unfenced : s.closedTransferPins.get? tid = none)
    (stored : s.objectStore.pin session.descriptor.objectId (.transfer tid) = .ok store) :
    ({ s with objectStore := store }.setSession tid
      { session with pinToken := .transfer tid, acquired := true }).Inv := by
  have hunreleased : session.released = false := by
    have hfenced := h.fenced tid session current
    simpa [unfenced] using hfenced
  refine ⟨?_, fun o => ?_, fun x other hother => ?_, fun o x => ?_, h.closed,
    fun x other hother => ?_⟩
  · obtain ⟨writes, hstored⟩ := h.stored
    exact ⟨writes, hstored.pin stored⟩
  · change (store.tokens o).Nodup
    rw [ObjectStore.tokens_pin stored]
    split
    · exact (h.distinct o).insert
    · exact h.distinct o
  · rw [setSession_get?] at hother
    split at hother
    · next heq =>
      cases hother
      rw [heq]
    · exact h.token x other hother
  · change store.Pinned o (.transfer x) ↔ _
    rw [ObjectStore.pinned_pin stored, setSession_get?, PinToken.transfer.injEq]
    split
    · next heq =>
      subst heq
      have hbefore : s.objectStore.Pinned o (.transfer tid) → session.descriptor.objectId = o := by
        rw [h.pinned]
        rintro ⟨other, hother, hobject, _⟩
        rw [current, Option.some.injEq] at hother
        exact hother ▸ hobject
      simp only [Option.some.injEq, exists_eq_left', Open, hunreleased, and_true]
      exact ⟨fun hpinned => hpinned.elim id hbefore, Or.inl⟩
    · next hne => simp only [hne, and_false, false_or, h.pinned]
  · rw [setSession_get?] at hother
    split at hother
    · next heq =>
      cases hother
      subst heq
      change session.released = true ↔ (s.closedTransferPins.get? tid).isSome = true
      simp [hunreleased, unfenced]
    · exact h.fenced x other hother

variable {request : ReleaseObjectPin}

theorem Inv.fence (h : s.Inv) (absent : s.pinnedTransfers.get? request.transferId = none) :
    (s.setClosed request.transferId ⟨request, true⟩).Inv where
  stored := h.stored
  distinct := h.distinct
  token := h.token
  pinned := h.pinned
  closed x c hc := by
    rw [setClosed_get?] at hc
    split at hc
    · cases hc
      rfl
    · exact h.closed x c hc
  fenced x session hsession := by
    have hne : request.transferId ≠ x := by
      rintro rfl
      rw [show (s.setClosed request.transferId ⟨request, true⟩).pinnedTransfers =
        s.pinnedTransfers from rfl, absent] at hsession
      cases hsession
    rw [setClosed_get?, if_neg hne]
    exact h.fenced x session hsession

theorem Inv.release (h : s.Inv) {existed : Bool}
    (current : s.pinnedTransfers.get? request.transferId = some session)
    (stored : s.unpinSession session.descriptor.objectId session = .ok (existed, store)) :
    (({ s with objectStore := store }.setSession request.transferId
      { session with closing := true, released := true }).setClosed request.transferId
        ⟨request, true⟩).Inv := by
  obtain ⟨hwrites, hdistinct, _, hpinned⟩ := unpinSession_spec h stored
  have htoken := h.token _ _ current
  have hsessions : ∀ x, (({ s with objectStore := store }.setSession request.transferId
      { session with closing := true, released := true }).setClosed request.transferId
        ⟨request, true⟩).pinnedTransfers.get? x = if request.transferId = x then
          some { session with closing := true, released := true }
        else s.pinnedTransfers.get? x := fun x => Dict.get?_set _ _ _ _
  refine ⟨hwrites, hdistinct, fun x other hother => ?_, fun o x => ?_, fun x c hc => ?_,
    fun x other hother => ?_⟩
  · rw [hsessions] at hother
    split at hother
    · next heq =>
      cases hother
      rw [← heq]
      exact htoken
    · exact h.token x other hother
  · change store.Pinned o (.transfer x) ↔ _
    rw [hpinned, hsessions, htoken, PinToken.transfer.injEq]
    split
    · next heq =>
      subst heq
      simp only [Option.some.injEq, exists_eq_left', Open, Bool.true_eq_false, and_false,
        iff_false, and_true, not_and, not_not]
      rw [h.pinned]
      rintro ⟨other, hother, hobject, _⟩
      rw [current, Option.some.injEq] at hother
      exact hother ▸ hobject
    · next hne => simp only [hne, and_false, not_false_eq_true, and_true, h.pinned]
  · rw [setClosed_get?] at hc
    split at hc
    · cases hc
      rfl
    · exact h.closed x c hc
  · rw [hsessions] at hother
    rw [setClosed_get?]
    split at hother
    · next heq =>
      cases hother
      simp [heq]
    · next hne =>
      rw [if_neg hne]
      exact h.fenced x other hother

theorem Step.inv (hstep : Step s s') (h : s.Inv) : s'.Inv := by
  cases hstep with
  | same => exact h
  | begun absent unfenced token idle unreleased =>
    exact h.begun absent unfenced token idle unreleased
  | pinned current unfenced stored => exact h.pin current unfenced stored
  | fenced absent _ => exact h.fence absent
  | released current _ _ stored => exact h.release current stored

/-! ## What stays -/

/-- Sessions keep their identity, released sessions and close fences stay. -/
structure Later (s s' : TransferSource) : Prop where
  nodeId : s'.nodeId = s.nodeId
  session : ∀ tid session, s.pinnedTransfers.get? tid = some session →
    ∃ session', s'.pinnedTransfers.get? tid = some session' ∧
      session'.descriptor = session.descriptor ∧
      session'.requesterNodeId = session.requesterNodeId
  closed : ∀ tid c, s.closedTransferPins.get? tid = some c →
    s'.closedTransferPins.get? tid = some c
  frozen : ∀ tid c, s.closedTransferPins.get? tid = some c →
    s'.pinnedTransfers.get? tid = s.pinnedTransfers.get? tid

theorem Later.rfl : Later s s := ⟨Eq.refl _, fun _ session h => ⟨session, h, Eq.refl _, Eq.refl _⟩,
  fun _ _ h => h, fun _ _ _ => Eq.refl _⟩

theorem Later.trans {s'' : TransferSource} (h : Later s s') (h' : Later s' s'') : Later s s'' where
  nodeId := h'.nodeId.trans h.nodeId
  session tid session hsession := by
    obtain ⟨next, hnext, hdescriptor, hrequester⟩ := h.session tid session hsession
    obtain ⟨last, hlast, hdescriptor', hrequester'⟩ := h'.session tid next hnext
    exact ⟨last, hlast, hdescriptor'.trans hdescriptor, hrequester'.trans hrequester⟩
  closed tid c hc := h'.closed tid c (h.closed tid c hc)
  frozen tid c hc := (h'.frozen tid c (h.closed tid c hc)).trans (h.frozen tid c hc)

theorem later_session (hnodeId : s'.nodeId = s.nodeId)
    (hsessions : ∀ x, s'.pinnedTransfers.get? x = if tid =
      x then some session else s.pinnedTransfers.get? x)
    (hsame : ∀ old, s.pinnedTransfers.get? tid = some old → session.descriptor = old.descriptor ∧
      session.requesterNodeId = old.requesterNodeId)
    (hunfenced : s.closedTransferPins.get? tid = none)
    (hclosed : ∀ x c, s.closedTransferPins.get? x = some c →
      s'.closedTransferPins.get? x = some c) :
    Later s s' := by
  refine ⟨hnodeId, fun x old hold => ?_, hclosed, fun x c hc => ?_⟩
  · by_cases heq : tid = x
    · subst heq
      have hnew := hsessions tid
      rw [if_pos (Eq.refl _)] at hnew
      exact ⟨session, hnew, hsame old hold⟩
    · have hkept := hsessions x
      rw [if_neg heq] at hkept
      exact ⟨old, hkept.trans hold, Eq.refl _, Eq.refl _⟩
  · rw [hsessions, if_neg]
    rintro heq
    rw [← heq, hunfenced] at hc
    cases hc

variable {c : ClosedTransferPin}

theorem setClosed_keeps (hunfenced : s.closedTransferPins.get? tid = none)
    (hc : s.closedTransferPins.get? x = some c) :
    (s.setClosed tid closed).closedTransferPins.get? x = some c := by
  rw [setClosed_get?, if_neg]
  · exact hc
  · intro heq
    rw [← heq, hunfenced] at hc
    cases hc

theorem Step.later (hstep : Step s s') : Later s s' := by
  cases hstep with
  | same => exact .rfl
  | begun absent unfenced =>
    refine later_session (Eq.refl _) (fun x => setSession_get?) (fun old hold => ?_) unfenced
      fun _ _ h => h
    rw [absent] at hold
    cases hold
  | pinned current unfenced =>
    refine later_session (Eq.refl _) (fun x => setSession_get?) (fun old hold => ?_) unfenced
      fun _ _ h => h
    rw [current, Option.some.injEq] at hold
    subst hold
    exact ⟨Eq.refl _, Eq.refl _⟩
  | fenced _ unfenced =>
    exact ⟨Eq.refl _, fun x session h => ⟨session, h, Eq.refl _, Eq.refl _⟩,
      fun x c hc => setClosed_keeps unfenced hc, fun _ _ _ => Eq.refl _⟩
  | released current _ unfenced _ =>
    refine later_session (Eq.refl _) (fun x => Dict.get?_set _ _ _ _) (fun old hold => ?_)
      unfenced fun x c hc => setClosed_keeps unfenced hc
    rw [current, Option.some.injEq] at hold
    subst hold
    exact ⟨Eq.refl _, Eq.refl _⟩

theorem Steps.inv (hsteps : Relation.ReflTransGen Step s s') (h : s.Inv) : s'.Inv := by
  induction hsteps with
  | refl => exact h
  | tail _ hstep ih => exact hstep.inv ih

theorem Steps.later (hsteps : Relation.ReflTransGen Step s s') : Later s s' := by
  induction hsteps with
  | refl => exact .rfl
  | tail _ hstep ih => exact ih.trans hstep.later

theorem Inv.closed_unpinned (h : s.Inv) (hc : s.closedTransferPins.get? tid = some c) :
    ¬ s.objectStore.Pinned o (.transfer tid) := by
  rw [h.pinned]
  rintro ⟨session, hsession, _, _, hunreleased⟩
  have hreleased : session.released = true := (h.fenced tid session hsession).mpr (by simp [hc])
  rw [hunreleased] at hreleased
  cases hreleased

/-! ## The handlers -/

theorem acquirePin_steps {request : PinObjectForTransfer}
    (hunfenced : s.closedTransferPins.get? request.transferId = none)
    (hreplay : (s.pinnedTransfers.get? request.transferId).bind (replay request) = none) :
    Relation.ReflTransGen Step s
      (s.acquirePin request (s.pinnedTransfers.get? request.transferId)).2 := by
  unfold acquirePin
  cases hprevious : s.pinnedTransfers.get? request.transferId with
  | none =>
    have hbegun : Step s (s.setSession request.transferId ⟨request.descriptor,
        request.requesterNodeId, .transfer request.transferId, false, false, false⟩) :=
      .begun hprevious hunfenced rfl rfl rfl
    cases hpin : s.objectStore.pin request.descriptor.objectId
      (.transfer request.transferId) with
    | error e => exact .single hbegun
    | ok store =>
      refine .tail (.single hbegun) ?_
      exact Step.pinned (Dict.get?_set_self _ _ _) hunfenced hpin
  | some session =>
    rw [hprevious, Option.bind_some, replay] at hreplay
    split at hreplay
    · cases hreplay
    · next hsame =>
      rw [not_or, not_not, not_not] at hsame
      cases hpin : s.objectStore.pin request.descriptor.objectId
        (.transfer request.transferId) with
      | error e => exact .refl
      | ok store => exact .single (.pinned hprevious hunfenced (hsame.1 ▸ hpin))

theorem pinObject_steps (request : PinObjectForTransfer) :
    Relation.ReflTransGen Step s (s.pinObject request).2 := by
  unfold pinObject
  split
  · exact .refl
  · next hclosed =>
    split
    · exact .refl
    · split
      · exact .refl
      · next hreplay =>
        split
        · exact .refl
        · exact acquirePin_steps (by simpa using hclosed) hreplay

/-- What a release does, and what its reply tells. -/
inductive Released (s : TransferSource) (request : ReleaseObjectPin) :
    ReleaseObjectPinReply × TransferSource → Prop
  | refused {reply : ReleaseObjectPinReply} (rejected : reply.accepted = false)
      (idle : reply.released = false) : Released s request (reply, s)
  | replayed {reply : ReleaseObjectPinReply}
      (closed : s.closedTransferPins.get? request.transferId = some ⟨request, true⟩)
      (idle : reply.released = false) : Released s request (reply, s)
  | fenced {reply : ReleaseObjectPinReply}
      (absent : s.pinnedTransfers.get? request.transferId = none)
      (unfenced : s.closedTransferPins.get? request.transferId = none)
      (idle : reply.released = false) :
      Released s request (reply, s.setClosed request.transferId ⟨request, true⟩)
  | closed {reply : ReleaseObjectPinReply} {session : PinnedTransfer} {existed : Bool}
      {store : ObjectStore PinToken}
      (current : s.pinnedTransfers.get? request.transferId = some session)
      (unreleased : session.released = false)
      (unfenced : s.closedTransferPins.get? request.transferId = none)
      (requester : session.requesterNodeId = request.requesterNodeId)
      (stored : s.unpinSession session.descriptor.objectId session = .ok (existed, store))
      (told : reply.released = existed) :
      Released s request (reply, ({ s with objectStore := store }.setSession request.transferId
        { session with closing := true, released := true }).setClosed request.transferId
          ⟨request, true⟩)

theorem closeSession_spec (s : TransferSource)
    (current : s.pinnedTransfers.get? request.transferId = some session)
    (unreleased : session.released = false)
    (unfenced : s.closedTransferPins.get? request.transferId = none)
    (object : session.descriptor.objectId = request.objectId)
    (requester : session.requesterNodeId = request.requesterNodeId) :
    Released s request
      ((s.setClosed request.transferId ⟨request, false⟩).closeSession request session) := by
  obtain ⟨existed, store, hstored⟩ := s.unpinSession_total session.descriptor.objectId session
  have hfenced : (s.setClosed request.transferId ⟨request, false⟩).unpinSession request.objectId
      session = .ok (existed, store) := object ▸ hstored
  unfold closeSession
  rw [hfenced]
  have hclosed : Released s request (⟨request.transferId, request.objectId, s.nodeId, true,
      existed, none⟩, _) := .closed current unreleased unfenced requester hstored rfl
  simpa only [setSession, setClosed, Dict.set_set] using hclosed

theorem releaseObjectPin_spec (h : s.Inv) (request : ReleaseObjectPin) :
    Released s request (s.releaseObjectPin request) := by
  unfold releaseObjectPin
  cases hclosed : s.closedTransferPins.get? request.transferId with
  | some c =>
    have hdone := h.closed _ _ hclosed
    by_cases hsame : c.request = request
    · have hc : c = ⟨request, true⟩ := by
        cases c
        cases hsame
        cases hdone
        rfl
      subst hc
      simpa using Released.replayed hclosed rfl
    · simpa [hsame] using Released.refused rfl rfl
  | none =>
    cases hsession : s.pinnedTransfers.get? request.transferId with
    | none => simpa using Released.fenced hsession hclosed rfl
    | some session =>
      have hunreleased : session.released = false := by
        have hfenced := h.fenced _ session hsession
        simpa [hclosed] using hfenced
      by_cases hsame : session.descriptor.objectId = request.objectId ∧
        session.requesterNodeId = request.requesterNodeId
      · obtain ⟨hobject, hrequester⟩ := hsame
        have hclose := s.closeSession_spec hsession hunreleased hclosed hobject hrequester
        simpa [hobject, hrequester, hunreleased] using hclose
      · rw [not_and_or] at hsame
        simpa [hsame] using Released.refused rfl rfl

theorem closeSession_reply (s : TransferSource) (request : ReleaseObjectPin)
    (session : PinnedTransfer) :
    (s.closeSession request session).1.transferId = request.transferId ∧
      (s.closeSession request session).1.nodeId = s.nodeId := by
  unfold closeSession
  cases s.unpinSession request.objectId session <;> exact ⟨rfl, rfl⟩

theorem releaseObjectPin_reply (s : TransferSource) (request : ReleaseObjectPin) :
    (s.releaseObjectPin request).1.transferId = request.transferId ∧
      (s.releaseObjectPin request).1.nodeId = s.nodeId := by
  simp only [releaseObjectPin]
  split_ifs
  · exact ⟨rfl, rfl⟩
  · exact ⟨rfl, rfl⟩
  · cases s.pinnedTransfers.get? request.transferId with
    | none => exact ⟨rfl, rfl⟩
    | some session =>
      dsimp only
      split_ifs
      · exact ⟨rfl, rfl⟩
      · exact ⟨rfl, rfl⟩
      · exact closeSession_reply _ request session

variable {result : ReleaseObjectPinReply × TransferSource}

theorem Released.step (h : Released s request result) : Step s result.2 := by
  cases h with
  | refused => exact .same
  | replayed => exact .same
  | fenced absent unfenced => exact .fenced absent unfenced
  | closed current unreleased unfenced _ stored =>
    exact .released current unreleased unfenced stored

theorem Released.fence (h : Released s request result) (haccepted : result.1.accepted = true) :
    result.2.closedTransferPins.get? request.transferId = some ⟨request, true⟩ := by
  cases h with
  | refused rejected => exact absurd (rejected.symm.trans haccepted) (by decide)
  | replayed closed => exact closed
  | fenced => exact Dict.get?_set_self _ _ _
  | closed => exact Dict.get?_set_self _ _ _

theorem getObjectChunk_spec (h : s.Inv) (request : GetObjectChunk) :
    ∃ reply, s.getObjectChunk request = .ok reply ∧ (reply.ok = true →
      s.objectStore.Pinned request.objectId (.transfer request.transferId) ∧
        ∃ payload, s.objectStore.get request.objectId = .ok payload) := by
  simp only [getObjectChunk]
  split_ifs
  · exact ⟨_, rfl, by simp [refuseChunk]⟩
  · cases hsession : s.pinnedTransfers.get? request.transferId with
    | none => exact ⟨_, rfl, by simp [refuseChunk]⟩
    | some session =>
      by_cases hreadable : Readable request session
      · obtain ⟨hunreleased, _, hacquired, hobject, _⟩ := id hreadable
        have hpinned : s.objectStore.Pinned request.objectId (.transfer request.transferId) :=
          (h.pinned _ _).mpr ⟨session, hsession, hobject, hacquired, hunreleased⟩
        obtain ⟨writes, hstored⟩ := h.stored
        obtain ⟨payload, hpayload⟩ := hpinned.sealed hstored
        simp only [hreadable, not_true_eq_false, if_false, hpayload]
        split_ifs
        · exact ⟨_, rfl, by simp [refuseChunk]⟩
        · exact ⟨_, rfl, fun _ => ⟨hpinned, payload, rfl⟩⟩
      · simp only [hreadable, not_false_eq_true, if_true]
        exact ⟨_, rfl, by simp [refuseChunk]⟩

/-! ## Counting the unpins -/

/-- The session was opened and its pin was released. -/
def Unpinned (s : TransferSource) (tid : TransferID) : Prop :=
  ∃ session, s.pinnedTransfers.get? tid = some session ∧ session.acquired = true ∧
    session.released = true

theorem Inv.unpinned_fenced (h : s.Inv) (hunpinned : s.Unpinned tid) :
    ∃ c, s.closedTransferPins.get? tid = some c := by
  obtain ⟨session, hsession, _, hreleased⟩ := hunpinned
  exact Option.isSome_iff_exists.mp ((h.fenced tid session hsession).mp hreleased)

theorem unpinned_iff (h : s.Inv) (h' : s'.Inv) (hlater : Later s s')
    (hclosed : s'.closedTransferPins.get? tid = s.closedTransferPins.get? tid) :
    s'.Unpinned tid ↔ s.Unpinned tid := by
  have hsame : ∀ c, s.closedTransferPins.get? tid = some c →
      (s'.Unpinned tid ↔ s.Unpinned tid) := by
    intro c hc
    unfold Unpinned
    rw [hlater.frozen tid c hc]
  constructor
  · intro hunpinned
    obtain ⟨c, hc⟩ := h'.unpinned_fenced hunpinned
    exact (hsame c (hclosed ▸ hc)).mp hunpinned
  · intro hunpinned
    obtain ⟨c, hc⟩ := h.unpinned_fenced hunpinned
    exact (hsame c hc).mpr hunpinned

theorem pinObject_closed (s : TransferSource) (request : PinObjectForTransfer) :
    (s.pinObject request).2.closedTransferPins = s.closedTransferPins := by
  unfold pinObject
  split
  · rfl
  · split
    · rfl
    · split
      · rfl
      · split
        · rfl
        · unfold acquirePin
          cases s.pinnedTransfers.get? request.transferId <;>
            cases s.objectStore.pin request.descriptor.objectId (.transfer request.transferId) <;>
              rfl

/-- A release tells exactly whether it unpinned: once for every session that was opened. -/
theorem Released.unpinned (hresult : Released s request result) (h : s.Inv) :
    (result.1.released = true → ¬ s.Unpinned request.transferId) ∧
      ∀ tid, result.2.Unpinned tid ↔ s.Unpinned tid ∨
        (tid = request.transferId ∧ result.1.released = true) := by
  have hinv := hresult.step.inv h
  have hlater := hresult.step.later
  cases hresult with
  | refused _ idle => simp [idle]
  | replayed _ idle => simp [idle]
  | fenced absent _ idle =>
    refine ⟨by simp [idle], fun tid => ?_⟩
    simp only [idle, Bool.false_eq_true, and_false, or_false]
    rfl
  | @closed reply session existed store current unreleased unfenced _ stored told =>
    obtain ⟨_, _, hexisted, _⟩ := unpinSession_spec h stored
    have hfresh : ¬ s.Unpinned request.transferId := by
      rintro ⟨other, hother, _, hreleased⟩
      rw [current, Option.some.injEq] at hother
      rw [← hother, unreleased] at hreleased
      cases hreleased
    have hacquired : existed = true ↔ session.acquired = true := by
      rw [hexisted, h.token _ _ current, h.pinned]
      simp [current, Open, unreleased]
    refine ⟨fun _ => hfresh, fun tid => ?_⟩
    by_cases heq : tid = request.transferId
    · subst heq
      have hsession : ((({ s with objectStore := store }.setSession request.transferId
          { session with closing := true, released := true }).setClosed request.transferId
            ⟨request, true⟩).pinnedTransfers.get? request.transferId) =
              some { session with closing := true, released := true } := Dict.get?_set_self _ _ _
      simp only [hfresh, false_or, true_and, told, hacquired]
      unfold Unpinned
      rw [hsession]
      simp
    · have hother : ((({ s with objectStore := store }.setSession request.transferId
          { session with closing := true, released := true }).setClosed request.transferId
            ⟨request, true⟩).pinnedTransfers.get? tid) = s.pinnedTransfers.get? tid :=
        Dict.get?_set_of_ne _ _ (Ne.symm heq)
      unfold Unpinned
      rw [hother]
      simp [heq]

end TransferSource

end MiniRay
