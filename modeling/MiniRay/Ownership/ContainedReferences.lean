import MiniRay.Ownership.References

/-! An incoming pin is keyed by its complete container identity. A prepared transfer exchanges the
executor's provisional pin for the final one exactly once. -/

namespace MiniRay

open Checked

namespace ObjectOwnerTable

variable {ε : Type} {self s' : ObjectOwnerTable ε} {keeps : ObjectID → ReferenceToken → Prop}
  {c : CallerConditions}

/-! ## Contained pins -/

/-- Install one incoming container pin by its complete identity. -/
def addContainedReference (self : ObjectOwnerTable ε) (objectId : ObjectID)
    (hold : ContainedReferenceHold) : Except Raised (Bool × ObjectOwnerTable ε) := do
  requireHold hold
  self.requireLiveWorker hold.containerOwnerWorkerId
  raiseIf ((objectId, hold) ∈ self.releasedContainedHolds)
    ⟨.releasedBorrowerToken, "contained hold was already released for " ++ objectId.repr⟩
  let e ← self.entry objectId
  requireNotCollecting e (collectionIsPending objectId)
  return (decide (hold ∉ e.containedHolds),
    self.setEntry { e with containedHolds := insert hold e.containedHolds })

variable {o : ObjectID} {hold : ContainedReferenceHold}

theorem contained_added {h : ReferenceHistory} {idle : Prop} {f : ReferenceFields}
    (hd : ¬ h.Dead hold.containerOwnerWorkerId) (hr : (o, hold) ∉ h.releasedContainedHolds)
    (hidle : idle) :
    ReferenceMove h h o idle f { f with containedHolds := insert hold f.containedHolds } := by
  refine .added (.contained hold) ?_ ?_ hr (fun w hw => by cases hw; exact hd) hidle
  · rintro (t | t | t | t | t | t) <;> simp [ReferenceFields.Holds, or_comm]
  · rintro (t | t | t | t | t | t) <;> exact .rfl

variable {b : Bool}

theorem addContainedReference_changes (h : self.addContainedReference o hold = .ok (b, s')) :
    Uncontained self s' := by
  simp only [addContainedReference, bind_eq_ok, raiseIf_eq_ok, entry_eq_ok,
    requireLiveWorker_eq_ok, requireNotCollecting_eq_ok, pure_eq_ok, Prod.mk.injEq] at h
  obtain ⟨_, _, _, hd, _, hr, e, he, _, hidle, _, rfl⟩ := h
  exact ⟨.entry he rfl rfl (fun x _ => .refl _ x) (contained_added hd hr (.inl hidle)), rfl⟩

/-- Release or pre-tombstone one exact incoming pin. -/
def releaseContainedReference (self : ObjectOwnerTable ε) (objectId : ObjectID)
    (hold : ContainedReferenceHold) : Except Raised (Bool × ObjectOwnerTable ε) := do
  requireHold hold
  let released := insert (objectId, hold) self.releasedContainedHolds
  match self.entries.get? objectId with
  | none => do
      if (objectId, hold) ∈ self.releasedContainedHolds then return (false, self)
      raiseIf (¬ self.IsCollected objectId)
        ⟨.unknownObject, "owner does not know object " ++ objectId.repr⟩
      return (false, { self with releasedContainedHolds := released })
  | some e =>
    return (decide (hold ∈ e.containedHolds),
      { self.setEntry { e with containedHolds := e.containedHolds.erase hold } with
        releasedContainedHolds := released })

theorem releaseContainedReference_changes (h : self.releaseContainedReference o hold =
    .ok (b, s')) :
    Changes self s' := by
  simp only [releaseContainedReference, bind_eq_ok] at h
  obtain ⟨_, _, h⟩ := h
  cases he : self.entries.get? o with
  | none =>
    simp only [he, bind_eq_ok, ite_eq_ok, pure_eq_ok, Prod.mk.injEq] at h
    rcases h with ⟨_, _, rfl⟩ | ⟨_, _, _, _, rfl⟩
    · exact .same
    · refine .absent he rfl rfl (fun x hx => ?_) fun ref hg => ?_
      · exact ⟨fun _ => .rfl, fun _ => .rfl, by simp [hx], fun _ => .rfl⟩
      · cases ref <;> simp_all [Gone, IsCollected]
  | some e =>
    simp only [he, pure_eq_ok, Prod.mk.injEq] at h
    obtain ⟨_, rfl⟩ := h
    refine .entry he rfl rfl (fun x hx => ?_) (.released (· = .contained hold) ?_ ?_)
    · exact ⟨fun _ => .rfl, fun _ => .rfl, by simp [hx], fun _ => .rfl⟩
    · rintro (t | t | t | t | t | t) <;> simp [ReferenceFields.Holds, and_comm]
    · rintro (t | t | t | t | t | t) <;>
        simp [ReferenceFields.Gone, Reference.IsLocal, or_comm]

/-! ## Prepared transfers -/

/-- The source of a transfer must still be the child's owner or a live bound borrower. -/
def validateTransferSource (e : ObjectOwnerEntry ε) (authorityWorkerId : WorkerID) :
    ContainedPublicationSource → Except Raised Unit
  | .owned ownerWorkerId =>
    raiseIf (ownerWorkerId ≠ authorityWorkerId)
      ⟨.valueError, "owned source authority must equal the child owner"⟩
  | .borrowed source =>
    raiseIf (source.ownerTableToken ∉ e.borrowedTokens ∨
        e.borrowedSources.get? source.ownerTableToken ≠ some source.originalSource)
      ⟨.conflictingBorrowerToken,
        "borrowed source does not match its complete live binding"⟩

/-- Validate a source capability and install its provisional pin. -/
def prepareStoredContainedReference (self : ObjectOwnerTable ε)
    (transfer : PreparedContainedTransfer) (authorityWorkerId : WorkerID) :
    Except Raised (StoredContainedReferenceDisposition × ObjectOwnerTable ε) := do
  raiseIf (authorityWorkerId ≠ transfer.containedOwnerWorkerId)
    ⟨.valueError, "authority_worker_id must be the child owner"⟩
  let objectId := transfer.containedObjectId
  let key := (objectId, transfer.provisionalHold)
  match self.storedContainedPreparations.get? key with
  | some previous => do
      raiseIf (previous ≠ transfer)
        ⟨.invalidObjectTransition, "stored contained preparation conflicts with replay"⟩
      return (.alreadyPrepared, self)
  | none => do
      let e ← self.entry objectId
      requireNotCollecting e (collectionIsPending objectId)
      self.requireLiveWorker transfer.provisionalHold.containerOwnerWorkerId
      raiseIf (key ∈ self.releasedContainedHolds)
        ⟨.releasedBorrowerToken, "contained hold was already released for " ++ objectId.repr⟩
      validateTransferSource e authorityWorkerId transfer.source
      return (.prepared, { self.setEntry { e with
          containedHolds := insert transfer.provisionalHold e.containedHolds } with
        storedContainedPreparations := self.storedContainedPreparations.set key transfer })

variable {t : PreparedContainedTransfer} {d : StoredContainedReferenceDisposition}

theorem prepareStoredContainedReference_changes {w : WorkerID}
    (h : self.prepareStoredContainedReference t w = .ok (d, s')) : Changes self s' := by
  simp only [prepareStoredContainedReference, bind_eq_ok] at h
  obtain ⟨_, _, h⟩ := h
  cases hp : self.storedContainedPreparations.get? (t.containedObjectId, t.provisionalHold) with
  | some previous =>
    simp only [hp, bind_eq_ok, pure_eq_ok, Prod.mk.injEq] at h
    obtain ⟨_, _, _, rfl⟩ := h
    exact .same
  | none =>
    simp only [hp, bind_eq_ok, raiseIf_eq_ok, entry_eq_ok, requireNotCollecting_eq_ok,
      requireLiveWorker_eq_ok, pure_eq_ok, Prod.mk.injEq] at h
    obtain ⟨e, he, _, hidle, _, hd, _, hr, _, _, _, rfl⟩ := h
    refine .entry he rfl rfl (fun x _ => ⟨fun _ => .rfl, fun _ => .rfl, fun _ => .rfl,
      fun _ => .rfl⟩) (.of_iff (fun _ => False) (· = .contained t.provisionalHold) ?_ ?_ ?_)
    · rintro (t | t | t | t | t | t) <;> simp [ReferenceFields.Holds, or_comm]
    · rintro (t | t | t | t | t | t) <;> simp [ReferenceFields.Gone]
    · rintro _ rfl
      exact ⟨id, hr, fun w hw => by cases hw; exact hd, .inl hidle⟩

/-- Exchange a prepared executor pin for its final pin. -/
def promoteStoredContainedReference (self : ObjectOwnerTable ε)
    (transfer : PreparedContainedTransfer) (authorityWorkerId : WorkerID) :
    Except Raised (StoredContainedReferenceDisposition × ObjectOwnerTable ε) := do
  raiseIf (authorityWorkerId ≠ transfer.containedOwnerWorkerId)
    ⟨.valueError, "authority_worker_id must be the child owner"⟩
  let objectId := transfer.containedObjectId
  let prepareKey := (objectId, transfer.provisionalHold)
  let promotionKey := (objectId, transfer.finalHold)
  match self.storedContainedPromotions.get? promotionKey with
  | some previous => do
      raiseIf (previous ≠ transfer)
        ⟨.invalidObjectTransition, "stored contained promotion conflicts with replay"⟩
      return (.alreadyPromoted, self)
  | none => do
      raiseIf (self.storedContainedPreparations.get? prepareKey ≠ some transfer)
        ⟨.invalidObjectTransition, "stored contained reference was not exactly prepared"⟩
      let e ← self.entry objectId
      raiseIf (transfer.provisionalHold ∉ e.containedHolds)
        ⟨.invalidObjectTransition, "provisional contained hold is no longer active"⟩
      self.requireLiveWorker transfer.finalHold.containerOwnerWorkerId
      raiseIf (promotionKey ∈ self.releasedContainedHolds)
        ⟨.releasedBorrowerToken, "contained hold was already released for " ++ objectId.repr⟩
      raiseIf (transfer.finalHold ∈ e.containedHolds ∧
          transfer.finalHold ≠ transfer.provisionalHold)
        ⟨.invalidObjectTransition, "final contained hold already has another lifecycle"⟩
      return (.promoted, { self.setEntry { e with
          containedHolds :=
            insert transfer.finalHold (e.containedHolds.erase transfer.provisionalHold) } with
        releasedContainedHolds := insert prepareKey self.releasedContainedHolds
        storedContainedPromotions := self.storedContainedPromotions.set promotionKey transfer })

/-- A promotion ignores collection claims: its provisional pin keeps the object in use. -/
theorem promoteStoredContainedReference_changes {w : WorkerID}
    (h : self.promoteStoredContainedReference t w = .ok (d, s')) : Changes self s' := by
  simp only [promoteStoredContainedReference, bind_eq_ok] at h
  obtain ⟨_, _, h⟩ := h
  cases hp : self.storedContainedPromotions.get? (t.containedObjectId, t.finalHold) with
  | some previous =>
    simp only [hp, bind_eq_ok, pure_eq_ok, Prod.mk.injEq] at h
    obtain ⟨_, _, _, rfl⟩ := h
    exact .same
  | none =>
    simp only [hp, bind_eq_ok, raiseIf_eq_ok, entry_eq_ok, requireLiveWorker_eq_ok, pure_eq_ok,
      Prod.mk.injEq, not_not] at h
    obtain ⟨_, _, e, he, _, hheld, _, hd, _, hr, _, _, _, rfl⟩ := h
    have hused : ¬ e.Unused := by
      rw [ReferenceFields.unused_iff]
      exact fun hn => hn (.contained t.provisionalHold) hheld
    refine .entry he rfl rfl (fun x hx => ?_) (.of_iff (· = .contained t.provisionalHold)
      (· = .contained t.finalHold) ?_ ?_ ?_)
    · exact ⟨fun _ => .rfl, fun _ => .rfl, by simp [hx], fun _ => .rfl⟩
    · rintro (t | t | t | t | t | t) <;> simp [ReferenceFields.Holds, and_comm, or_comm]
    · rintro (t | t | t | t | t | t) <;>
        simp [ReferenceFields.Gone, Reference.IsLocal, or_comm]
    · rintro _ rfl
      exact ⟨by simp [t.custody_change.symm], hr, fun w hw => by cases hw; exact hd,
        .inr hused⟩

/-! ## Lineage references -/

/-- Retain dependency metadata for one producer's replayable lineage. -/
def addLineageReference (self : ObjectOwnerTable ε) (objectId : ObjectID)
    (token : ReferenceToken) : Except Raised (Bool × ObjectOwnerTable ε) := do
  raiseIf ((objectId, token) ∈ self.releasedLineageTokens)
    ⟨.releasedTaskReferenceHold, "lineage token was already released for " ++ objectId.repr⟩
  let e ← self.entry objectId
  requireNotCollecting e (collectionIsPending objectId)
  return (decide (token ∉ e.lineageTokens),
    self.setEntry { e with lineageTokens := insert token e.lineageTokens })

variable {token : ReferenceToken}

theorem addLineageReference_changes (h : self.addLineageReference o token = .ok (b, s')) :
    Uncontained self s' := by
  simp only [addLineageReference, bind_eq_ok, raiseIf_eq_ok, entry_eq_ok,
    requireNotCollecting_eq_ok, pure_eq_ok, Prod.mk.injEq] at h
  obtain ⟨_, hr, e, he, _, hidle, _, rfl⟩ := h
  refine ⟨.entry he rfl rfl (fun x _ => .refl _ x)
    (.added (.lineage token) ?_ ?_ hr (by simp [Reference.workerId]) (.inl hidle)), rfl⟩
  · rintro (t | t | t | t | t | t) <;> simp [ReferenceFields.Holds, or_comm]
  · rintro (t | t | t | t | t | t) <;> exact .rfl

/-- Release and tombstone a lineage hold, also before it is added. -/
def releaseLineageReference (self : ObjectOwnerTable ε) (objectId : ObjectID)
    (token : ReferenceToken) : Bool × ObjectOwnerTable ε :=
  let released := insert (objectId, token) self.releasedLineageTokens
  match self.entries.get? objectId with
  | none => (false, { self with releasedLineageTokens := released })
  | some e =>
    (decide (token ∈ e.lineageTokens), { self.setEntry { e with
        lineageTokens := e.lineageTokens.erase token
        releasedLineageTokens := insert token e.releasedLineageTokens } with
      releasedLineageTokens := released })

theorem releaseLineageReference_changes (self : ObjectOwnerTable ε) (o : ObjectID)
    (token : ReferenceToken) : Uncontained self (self.releaseLineageReference o token).2 := by
  unfold releaseLineageReference
  cases he : self.entries.get? o with
  | none =>
    refine ⟨.absent he rfl rfl (fun x hx => ?_) fun ref hg => ?_, rfl⟩
    · exact ⟨fun _ => .rfl, fun _ => .rfl, fun _ => .rfl, by simp [hx]⟩
    · cases ref <;> simp_all [Gone, IsCollected]
  | some e =>
    refine ⟨.entry he rfl rfl (fun x hx => ?_) (.released (· = .lineage token) ?_ ?_), rfl⟩
    · exact ⟨fun _ => .rfl, fun _ => .rfl, fun _ => .rfl, by simp [hx]⟩
    · rintro (t | t | t | t | t | t) <;> simp [ReferenceFields.Holds, and_comm]
    · rintro (t | t | t | t | t | t) <;>
        simp [ReferenceFields.Gone, Reference.IsLocal, or_comm]

/-! ## Untyped references -/

/-- Task holds and contained pins need their typed credential. -/
def requireUntyped : ReferenceKind → Except Raised Unit
  | .submitted | .retained =>
    .error ⟨.ownership, "task references require typed TaskReferenceHold protocol"⟩
  | .contained => .error ⟨.typeError, "contained hold must be a ContainedReferenceHold"⟩
  | _ => .ok ()

def addReference (self : ObjectOwnerTable ε) (objectId : ObjectID) (kind : ReferenceKind)
    (token : ReferenceToken) : Except Raised (Bool × ObjectOwnerTable ε) := do
  requireUntyped kind
  match kind with
  | .lineage => self.addLineageReference objectId token
  | .borrowed => self.addBorrowedReference objectId token
  | _ => do
      let e ← self.entry objectId
      requireNotCollecting e (collectionIsPending objectId)
      return (decide (token ∉ e.localTokens), self.addLocalToken e token)

variable {kind : ReferenceKind}

theorem addReference_changes (h : self.addReference o kind token = .ok (b, s')) :
    Uncontained self s' := by
  simp only [addReference, bind_eq_ok] at h
  obtain ⟨_, hk, h⟩ := h
  cases kind with
  | submitted => cases hk
  | retained => cases hk
  | contained => cases hk
  | lineage => exact addLineageReference_changes h
  | borrowed => exact addBorrowedReference_changes h
  | localRef =>
    simp only [bind_eq_ok, entry_eq_ok, requireNotCollecting_eq_ok, pure_eq_ok,
      Prod.mk.injEq] at h
    obtain ⟨e, he, _, hidle, _, rfl⟩ := h
    exact ⟨.entry he rfl rfl (fun x _ => .refl _ x) (local_added (.inl hidle)), rfl⟩

/-- Release a token. A borrower's release is only remembered by the entry. -/
def releaseReference (self : ObjectOwnerTable ε) (objectId : ObjectID) (kind : ReferenceKind)
    (token : ReferenceToken) : Except Raised (Bool × ObjectOwnerTable ε) := do
  requireUntyped kind
  match kind with
  | .lineage => return self.releaseLineageReference objectId token
  | .borrowed => do
      let e ← self.entry objectId
      return (decide (token ∈ e.borrowedTokens), self.setEntry { e with
        borrowedTokens := e.borrowedTokens.erase token
        releasedBorrowedTokens := insert token e.releasedBorrowedTokens })
  | _ => do
      let e ← self.entry objectId
      return (decide (token ∈ e.localTokens),
        self.setEntry { e with localTokens := e.localTokens.erase token })

theorem releaseReference_changes (h : self.releaseReference o kind token = .ok (b, s')) :
    Uncontained self s' := by
  simp only [releaseReference, bind_eq_ok] at h
  obtain ⟨_, hk, h⟩ := h
  cases kind with
  | submitted => cases hk
  | retained => cases hk
  | contained => cases hk
  | lineage =>
    simp only [pure_eq_ok] at h
    have hs := releaseLineageReference_changes self o token
    rwa [h] at hs
  | borrowed =>
    simp only [bind_eq_ok, entry_eq_ok, pure_eq_ok, Prod.mk.injEq] at h
    obtain ⟨e, he, _, rfl⟩ := h
    exact ⟨.entry he rfl rfl (fun x _ => .refl _ x) (borrower_released (.refl _ o)), rfl⟩
  | localRef =>
    simp only [bind_eq_ok, entry_eq_ok, pure_eq_ok, Prod.mk.injEq] at h
    obtain ⟨e, he, _, rfl⟩ := h
    refine ⟨.entry he rfl rfl (fun x _ => .refl _ x) (.released (· = .localRef token) ?_ ?_), rfl⟩
    · rintro (t | t | t | t | t | t) <;> simp [ReferenceFields.Holds, and_comm]
    · rintro (t | t | t | t | t | t) <;>
        simp [ReferenceFields.Gone, Reference.IsLocal]

end ObjectOwnerTable

end MiniRay
