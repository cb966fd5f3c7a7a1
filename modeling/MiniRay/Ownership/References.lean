import MiniRay.Ownership.Registration

/-! Adds are idempotent; a release leaves a tombstone, also when it arrives first. A borrower is
bound to the exact source that authorized it. -/

namespace MiniRay

open Checked

/-- The table-wide records of contained pins. -/
def ReferenceHistory.containedRecords (h : ReferenceHistory) :
    Finset (ObjectID × ContainedReferenceHold) ×
      Dict (ObjectID × ContainedReferenceHold) PreparedContainedTransfer ×
        Dict (ObjectID × ContainedReferenceHold) PreparedContainedTransfer :=
  (h.releasedContainedHolds, h.storedContainedPreparations, h.storedContainedPromotions)

namespace ObjectOwnerTable

variable {ε : Type} {self s' : ObjectOwnerTable ε} {keeps : ObjectID → ReferenceToken → Prop}
  {c : CallerConditions}

/-! ## Calls that change references -/

/-- The entry whose references a call changed, before and after. -/
structure ChangesEntry (table s' : ObjectOwnerTable ε) (e e' : ObjectOwnerEntry ε) : Prop where
  entry : table.entries.get? e.objectId = some e
  entries : s'.entries = (table.setEntry e').entries
  objectId : e'.objectId = e.objectId
  result : e'.toResultFields = e.toResultFields
  collection : e'.toCollectionFields = e.toCollectionFields
  others : ∀ o, o ≠ e.objectId →
    SameTombstones table.toReferenceHistory s'.toReferenceHistory o
  move : ReferenceMove table.toReferenceHistory s'.toReferenceHistory e.objectId
    (e.collectionPending = false ∨ ¬ e.Unused) e.toReferenceFields e'.toReferenceFields

/-- The tombstones a call left for an object it does not know. -/
structure BuriesAbsent (table s' : ObjectOwnerTable ε) (o : ObjectID) : Prop where
  absent : table.entries.get? o = none
  entries : s'.entries = table.entries
  others : ∀ x, x ≠ o → SameTombstones table.toReferenceHistory s'.toReferenceHistory x
  grown : ∀ ref, table.Gone o ref → s'.Gone o ref

/-- A call that changes references of at most one object. -/
structure Changes (table s' : ObjectOwnerTable ε) : Prop where
  dead : s'.deadWorkerCleanups = table.deadWorkerCleanups
  publications : s'.toPublicationHistory = table.toPublicationHistory
  collections : s'.toCollectionHistory = table.toCollectionHistory
  effect : s' = table ∨ (∃ o, BuriesAbsent table s' o) ∨ ∃ e e', ChangesEntry table s' e e'

/-- A change of references that leaves the records of contained pins alone. -/
structure Uncontained (table s' : ObjectOwnerTable ε) : Prop extends Changes table s' where
  contained : s'.containedRecords = table.containedRecords

theorem Changes.same : Changes self self := ⟨rfl, rfl, rfl, .inl rfl⟩

theorem Changes.toReferenceSpec (h : Changes self s') : ReferenceSpec keeps self s' := by
  have hcollected : s'.collected = self.collected := by rw [h.collections]
  rcases h.effect with rfl | ⟨o, ha⟩ | ⟨e, e', he⟩
  · exact .refl _
  · exact .of_absent ha.absent ha.entries hcollected h.dead ha.others ha.grown
  · exact .of_entry he.entry he.entries he.objectId hcollected h.dead he.others he.move

theorem Changes.toResultSpec (h : Changes self s') : ResultSpec c self s' := by
  rcases h.effect with rfl | ⟨o, ha⟩ | ⟨e, e', he⟩
  · exact .refl _
  · exact .of_kept (fun x => by rw [ha.entries])
      (by rw [h.publications]) h.collections
  · exact .of_references he.entry he.entries he.objectId he.result he.collection h.publications
      h.collections

variable {o : ObjectID} {f : ReferenceFields} {h : ReferenceHistory}

theorem Changes.entry {e : ObjectOwnerEntry ε} (he : self.entries.get? o = some e)
    (hs : s' = { self.setEntry { e with toReferenceFields := f } with toReferenceHistory := h })
    (hdead : h.deadWorkerCleanups = self.deadWorkerCleanups)
    (hothers : ∀ x, x ≠ o → SameTombstones self.toReferenceHistory h x)
    (hmove : ReferenceMove self.toReferenceHistory h o (e.collectionPending = false ∨
      ¬ e.Unused) e.toReferenceFields f) :
    Changes self s' := by
  subst hs
  obtain rfl := self.keyed o e he
  exact ⟨hdead, rfl, rfl, .inr (.inr ⟨e, _, he, rfl, rfl, rfl, rfl, hothers, hmove⟩)⟩

theorem Changes.absent (ho : self.entries.get? o = none)
    (hs : s' = { self with toReferenceHistory := h })
    (hdead : h.deadWorkerCleanups = self.deadWorkerCleanups)
    (hothers : ∀ x, x ≠ o → SameTombstones self.toReferenceHistory h x)
    (hgrown : ∀ ref, self.Gone o ref → s'.Gone o ref) : Changes self s' := by
  subst hs
  exact ⟨hdead, rfl, rfl, .inr (.inl ⟨o, ho, rfl, hothers, hgrown⟩)⟩

/-! ## Borrowers -/

variable {token : ReferenceToken}

theorem borrower_alive (hd : ¬ h.BorrowerIsDead token) (w : WorkerID)
    (hw : borrowerWorkerId token = some w) : ¬ h.Dead w := fun hdead => hd ⟨w, hw, hdead⟩

variable {sources : Dict ReferenceToken BorrowSource}

theorem borrower_added {idle : Prop} (hd : ¬ h.BorrowerIsDead token)
    (hr : token ∉ f.releasedBorrowedTokens) (hidle : idle) :
    ReferenceMove h h o idle f
      { f with borrowedTokens := insert token f.borrowedTokens, borrowedSources := sources } := by
  refine .added (.borrowed token) ?_ ?_ hr (borrower_alive hd) hidle
  · rintro (t | t | t | t | t | t) <;> simp [ReferenceFields.Holds, or_comm]
  · rintro (t | t | t | t | t | t) <;> exact .rfl

theorem borrower_released {h' : ReferenceHistory} {idle : Prop} (hs : SameTombstones h h' o) :
    ReferenceMove h h' o idle f
      { f with
        borrowedTokens := f.borrowedTokens.erase token
        releasedBorrowedTokens := insert token f.releasedBorrowedTokens
        borrowedSources := sources } := by
  refine .released (· = .borrowed token) ?_ ?_
  · rintro (t | t | t | t | t | t) <;> simp [ReferenceFields.Holds, and_comm]
  · rintro (t | t | t | t | t | t) <;>
      simp [ReferenceFields.Gone, Reference.IsLocal, or_comm, hs.submitted, hs.retained,
        hs.contained, hs.lineage]

def addBorrowedReference (self : ObjectOwnerTable ε) (objectId : ObjectID)
    (token : ReferenceToken) : Except Raised (Bool × ObjectOwnerTable ε) := do
  raiseIf (self.BorrowerIsDead token)
    ⟨.deadWorkerReference, "dead Worker cannot add a borrowed reference"⟩
  let e ← self.entry objectId
  requireNotCollecting e (collectionIsPending objectId)
  raiseIf (token ∈ e.releasedBorrowedTokens)
    ⟨.releasedBorrowerToken, "borrower token was already released for " ++ objectId.repr⟩
  return (decide (token ∉ e.borrowedTokens),
    self.setEntry { e with borrowedTokens := insert token e.borrowedTokens })

variable {b : Bool}

theorem addBorrowedReference_changes (h : self.addBorrowedReference o token = .ok (b, s')) :
    Uncontained self s' := by
  simp only [addBorrowedReference, bind_eq_ok, raiseIf_eq_ok, entry_eq_ok,
    requireNotCollecting_eq_ok, pure_eq_ok, Prod.mk.injEq] at h
  obtain ⟨_, hd, e, he, _, hidle, _, hr, _, rfl⟩ := h
  exact ⟨.entry he rfl rfl (fun x _ => .refl _ x) (borrower_added hd hr (.inl hidle)), rfl⟩

def releaseBorrowedReference (self : ObjectOwnerTable ε) (objectId : ObjectID)
    (token : ReferenceToken) : Except Raised (Bool × ObjectOwnerTable ε) :=
  let released := insert (objectId, token) self.releasedBorrowedTokens
  match self.entries.get? objectId with
  | none => do
      raiseIf (¬ self.IsCollected objectId)
        ⟨.unknownObject, "owner does not know object " ++ objectId.repr⟩
      return (false, { self with releasedBorrowedTokens := released })
  | some e =>
    -- A dead Worker's source binding stays as evidence of what it named.
    let sources := if self.BorrowerIsDead token then e.borrowedSources
      else e.borrowedSources.erase token
    .ok (decide (token ∈ e.borrowedTokens), { self.setEntry { e with
        borrowedTokens := e.borrowedTokens.erase token
        releasedBorrowedTokens := insert token e.releasedBorrowedTokens
        borrowedSources := sources } with
      releasedBorrowedTokens := released })

theorem releaseBorrowedReference_changes (h : self.releaseBorrowedReference o token = .ok (b, s')) :
    Uncontained self s' := by
  unfold releaseBorrowedReference at h
  cases he : self.entries.get? o with
  | none =>
    simp only [he, bind_eq_ok, pure_eq_ok, Prod.mk.injEq] at h
    obtain ⟨_, _, _, rfl⟩ := h
    refine ⟨.absent he rfl rfl (fun x _ => ⟨fun _ => .rfl, fun _ => .rfl, fun _ => .rfl,
      fun _ => .rfl⟩) fun ref hg => ?_, rfl⟩
    cases ref <;> simp_all [Gone, IsCollected]
  | some e =>
    simp only [he, Except.ok.injEq, Prod.mk.injEq] at h
    obtain ⟨_, rfl⟩ := h
    have hsame : ∀ x, SameTombstones self.toReferenceHistory { self.toReferenceHistory with
        releasedBorrowedTokens := insert (o, token) self.releasedBorrowedTokens } x :=
      fun x => ⟨fun _ => .rfl, fun _ => .rfl, fun _ => .rfl, fun _ => .rfl⟩
    exact ⟨.entry he rfl rfl (fun x _ => hsame x) (borrower_released (hsame o)), rfl⟩

/-! ## Acquisition from a source -/

/-- A source must be an installed contained pin or an active task hold. -/
def validateBorrowSource (self : ObjectOwnerTable ε) (objectId : ObjectID)
    (e : ObjectOwnerEntry ε) : BorrowSource → Except Raised Unit
  | .contained hold =>
    raiseIf (hold ∉ e.containedHolds)
      ⟨.unknownTransferToken,
        "owner did not export " ++ objectId.repr ++ " with this contained hold"⟩
  | .taskHold hold => do
      let released := if hold.kind = .submitted then self.releasedSubmittedTokens
        else self.releasedRetainedTokens
      raiseIf ((objectId, hold) ∈ released)
        ⟨.releasedTaskReferenceHold,
          "task reference hold was already released for " ++ objectId.repr⟩
      let active := if hold.kind = .submitted then e.submittedTokens else e.retainedTokens
      raiseIf (hold ∉ active)
        ⟨.inactiveTaskReferenceHold, "task reference hold is not active for " ++ objectId.repr⟩

/-- `_hold`: a contained hold inside the wire range. -/
def requireHold (hold : ContainedReferenceHold) : Except Raised Unit :=
  raiseIf (¬ Uint64 hold.containerObjectId.returnIndex)
    ⟨.valueError, "return_index must be a non-negative uint64"⟩

def requireBorrowSource : BorrowSource → Except Raised Unit
  | .contained hold => requireHold hold
  | .taskHold _ => .ok ()

/-- Acquire one borrower from a contained pin or an active task hold. -/
def acquireExportedReference (self : ObjectOwnerTable ε) (objectId : ObjectID)
    (source : BorrowSource) (borrowerToken : ReferenceToken) :
    Except Raised (Bool × ObjectOwnerTable ε) := do
  requireBorrowSource source
  raiseIf (self.BorrowerIsDead borrowerToken)
    ⟨.deadWorkerReference, "dead Worker cannot acquire a borrowed reference"⟩
  raiseIf ((objectId, borrowerToken) ∈ self.releasedBorrowedTokens)
    ⟨.releasedBorrowerToken, "borrower token was already released for " ++ objectId.repr⟩
  let e ← self.entry objectId
  requireNotCollecting e (collectionIsPending objectId)
  raiseIf (borrowerToken ∈ e.releasedBorrowedTokens)
    ⟨.releasedBorrowerToken, "borrower token was already released for " ++ objectId.repr⟩
  match e.borrowedSources.get? borrowerToken with
  | some previousSource => do
      raiseIf (previousSource ≠ source)
        ⟨.conflictingBorrowerToken, "borrower token names another source for " ++ objectId.repr⟩
      raiseIf (borrowerToken ∉ e.borrowedTokens)
        ⟨.releasedBorrowerToken, "borrower token is no longer active for " ++ objectId.repr⟩
      return (false, self)
  | none => do
      self.validateBorrowSource objectId e source
      raiseIf (borrowerToken ∈ e.borrowedTokens)
        ⟨.conflictingBorrowerToken, "borrower token lacks an export binding for " ++ objectId.repr⟩
      return (true, self.setEntry { e with
        borrowedTokens := insert borrowerToken e.borrowedTokens
        borrowedSources := e.borrowedSources.set borrowerToken source })

theorem acquireExportedReference_changes {source : BorrowSource}
    (h : self.acquireExportedReference o source token = .ok (b, s')) : Uncontained self s' := by
  simp only [acquireExportedReference, bind_eq_ok, raiseIf_eq_ok, entry_eq_ok,
    requireNotCollecting_eq_ok] at h
  obtain ⟨_, _, _, hd, _, _, e, he, _, hidle, _, hr, h⟩ := h
  cases hp : e.borrowedSources.get? token with
  | some previous =>
    simp only [hp, bind_eq_ok, pure_eq_ok, Prod.mk.injEq] at h
    obtain ⟨_, _, _, _, _, rfl⟩ := h
    exact ⟨.same, rfl⟩
  | none =>
    simp only [hp, bind_eq_ok, pure_eq_ok, Prod.mk.injEq] at h
    obtain ⟨_, _, _, _, _, rfl⟩ := h
    exact ⟨.entry he rfl rfl (fun x _ => .refl _ x) (borrower_added hd hr (.inl hidle)), rfl⟩

/-! ## Task holds -/

/-- The kind of a hold is part of its credential. -/
def requireTaskReferenceHold (hold : TaskReferenceHold) (expectedKind : TaskReferenceHoldKind) :
    Except Raised Unit :=
  raiseIf (hold.kind ≠ expectedKind)
    ⟨.valueError, "task reference hold kind must be " ++ expectedKind.value⟩

def heldBorrowers (f : ReferenceFields) (hold : TaskReferenceHold) : Finset ReferenceToken :=
  ((f.borrowedSources.items.filter fun item => item.2 = .taskHold hold).map Prod.fst).toFinset

def retireBorrowers (f : ReferenceFields) (hold : TaskReferenceHold) (cascade : Bool) :
    ReferenceFields :=
  if cascade then
    { f with
      borrowedTokens := f.borrowedTokens \ heldBorrowers f hold
      releasedBorrowedTokens := f.releasedBorrowedTokens ∪ heldBorrowers f hold
      borrowedSources := f.borrowedSources.filter fun _ source => source ≠ .taskHold hold }
  else f

def retiredBorrowers (f : ReferenceFields) (hold : TaskReferenceHold) (cascade : Bool) :
    Finset ReferenceToken :=
  if cascade then heldBorrowers f hold else ∅

theorem retireBorrowers_holds (f : ReferenceFields) (hold : TaskReferenceHold) (cascade : Bool)
    (ref : Reference) : (retireBorrowers f hold cascade).Holds ref ↔
      f.Holds ref ∧ ¬ ∃ t ∈ retiredBorrowers f hold cascade, ref = .borrowed t := by
  cases cascade <;> cases ref <;>
    simp [retireBorrowers, retiredBorrowers, ReferenceFields.Holds]

theorem retireBorrowers_gone (f : ReferenceFields) (hold : TaskReferenceHold) (cascade : Bool)
    (h : ReferenceHistory) (o : ObjectID) (ref : Reference) :
    (retireBorrowers f hold cascade).Gone h o ref ↔
      f.Gone h o ref ∨ ∃ t ∈ retiredBorrowers f hold cascade, ref = .borrowed t := by
  cases cascade <;> cases ref <;>
    simp [retireBorrowers, retiredBorrowers, ReferenceFields.Gone]

def addSubmittedReference (self : ObjectOwnerTable ε) (objectId : ObjectID)
    (hold : TaskReferenceHold) : Except Raised (Bool × ObjectOwnerTable ε) := do
  requireTaskReferenceHold hold .submitted
  self.requireLiveWorker hold.submittingWorkerId
  raiseIf ((objectId, hold) ∈ self.releasedSubmittedTokens)
    ⟨.releasedTaskReferenceHold,
      "submitted task hold was already released for " ++ objectId.repr⟩
  let e ← self.entry objectId
  requireNotCollecting e (collectionIsPending objectId)
  return (decide (hold ∉ e.submittedTokens),
    self.setEntry { e with submittedTokens := insert hold e.submittedTokens })

variable {hold : TaskReferenceHold}

theorem addSubmittedReference_changes (h : self.addSubmittedReference o hold = .ok (b, s')) :
    Uncontained self s' := by
  simp only [addSubmittedReference, bind_eq_ok, raiseIf_eq_ok, entry_eq_ok,
    requireLiveWorker_eq_ok, requireNotCollecting_eq_ok, pure_eq_ok, Prod.mk.injEq] at h
  obtain ⟨_, _, _, hd, _, hr, e, he, _, hidle, _, rfl⟩ := h
  refine ⟨.entry he rfl rfl (fun x _ => .refl _ x)
    (.added (.submitted hold) ?_ ?_ hr (fun w hw => by cases hw; exact hd) (.inl hidle)), rfl⟩
  · rintro (t | t | t | t | t | t) <;> simp [ReferenceFields.Holds, or_comm]
  · rintro (t | t | t | t | t | t) <;> exact .rfl

/-- Release a local task hold and retire every borrower derived from it. -/
def releaseSubmittedReference (self : ObjectOwnerTable ε) (objectId : ObjectID)
    (hold : TaskReferenceHold) : Except Raised (Bool × ObjectOwnerTable ε) := do
  requireTaskReferenceHold hold .submitted
  let e ← self.entry objectId
  -- Only an active release cascades: death keeps the borrowers of live executors.
  let existed := decide (hold ∈ e.submittedTokens)
  let f := { e.toReferenceFields with submittedTokens := e.submittedTokens.erase hold }
  return (existed,
    { self.setEntry { e with toReferenceFields := retireBorrowers f hold existed } with
      releasedSubmittedTokens := insert (objectId, hold) self.releasedSubmittedTokens
      releasedBorrowedTokens := self.releasedBorrowedTokens ∪
        (retiredBorrowers f hold existed).image fun t => (objectId, t) })

theorem releaseSubmittedReference_changes (h : self.releaseSubmittedReference o hold =
    .ok (b, s')) :
    Uncontained self s' := by
  simp only [releaseSubmittedReference, bind_eq_ok, entry_eq_ok, pure_eq_ok, Prod.mk.injEq] at h
  obtain ⟨_, _, e, he, _, rfl⟩ := h
  refine ⟨.entry he rfl rfl (fun x hx => ?_) (.released (fun ref => ref = .submitted hold ∨
    ∃ t ∈ retiredBorrowers { e.toReferenceFields with
        submittedTokens := e.submittedTokens.erase hold } hold
      (decide (hold ∈ e.submittedTokens)), ref = .borrowed t) ?_ ?_), rfl⟩
  · exact ⟨by simp [hx], fun _ => .rfl, fun _ => .rfl, fun _ => .rfl⟩
  · intro ref
    rw [retireBorrowers_holds]
    cases ref <;> simp [ReferenceFields.Holds, and_comm]
  · intro ref
    rw [retireBorrowers_gone]
    cases ref <;> simp [ReferenceFields.Gone, Reference.IsLocal, or_comm]

/-- Create an independent task hold from one active borrower. -/
def retainBorrowedReferenceForTask (self : ObjectOwnerTable ε) (objectId : ObjectID)
    (borrowerToken : ReferenceToken) (hold : TaskReferenceHold) :
    Except Raised (Bool × ObjectOwnerTable ε) := do
  requireTaskReferenceHold hold .retained
  self.requireLiveWorker hold.submittingWorkerId
  raiseIf (self.BorrowerIsDead borrowerToken)
    ⟨.deadWorkerReference, "dead Worker cannot retain a borrowed reference"⟩
  raiseIf ((objectId, hold) ∈ self.releasedRetainedTokens)
    ⟨.releasedRetainedToken, "retained task hold was already released for " ++ objectId.repr⟩
  let e ← self.entry objectId
  raiseIf (hold ∈ e.releasedRetainedTokens)
    ⟨.releasedRetainedToken, "retained task hold was already released for " ++ objectId.repr⟩
  match e.retainedBorrowerTokens.get? hold with
  | some previous => do
      raiseIf (previous ≠ borrowerToken)
        ⟨.conflictingRetainedToken,
          "retained task hold names another borrower for " ++ objectId.repr⟩
      return (false, self)
  | none => do
      requireNotCollecting e (collectionIsPending objectId)
      raiseIf (borrowerToken ∉ e.borrowedTokens)
        ⟨.inactiveBorrowerToken, "parent borrower token is not active for " ++ objectId.repr⟩
      return (true, self.setEntry { e with
        retainedBorrowerTokens := e.retainedBorrowerTokens.set hold borrowerToken
        retainedTokens := insert hold e.retainedTokens })

theorem retainBorrowedReferenceForTask_changes
    (h : self.retainBorrowedReferenceForTask o token hold = .ok (b, s')) : Uncontained self s' := by
  simp only [retainBorrowedReferenceForTask, bind_eq_ok, raiseIf_eq_ok, entry_eq_ok,
    requireLiveWorker_eq_ok] at h
  obtain ⟨_, _, _, hd, _, _, _, hr, e, he, _, _, h⟩ := h
  cases hp : e.retainedBorrowerTokens.get? hold with
  | some previous =>
    simp only [hp, bind_eq_ok, pure_eq_ok, Prod.mk.injEq] at h
    obtain ⟨_, _, _, rfl⟩ := h
    exact ⟨.same, rfl⟩
  | none =>
    simp only [hp, bind_eq_ok, requireNotCollecting_eq_ok, pure_eq_ok, Prod.mk.injEq] at h
    obtain ⟨_, hidle, _, _, _, rfl⟩ := h
    refine ⟨.entry he rfl rfl (fun x _ => .refl _ x)
      (.added (.retained hold) ?_ ?_ hr (fun w hw => by cases hw; exact hd) (.inl hidle)), rfl⟩
    · rintro (t | t | t | t | t | t) <;> simp [ReferenceFields.Holds, or_comm]
    · rintro (t | t | t | t | t | t) <;> exact .rfl

/-- Release and tombstone a task hold, also before it is retained. -/
def releaseRetainedReferenceForTask (self : ObjectOwnerTable ε) (objectId : ObjectID)
    (hold : TaskReferenceHold) : Except Raised (Bool × ObjectOwnerTable ε) := do
  requireTaskReferenceHold hold .retained
  let released := insert (objectId, hold) self.releasedRetainedTokens
  match self.entries.get? objectId with
  | none => return (false, { self with releasedRetainedTokens := released })
  | some e =>
    let existed := decide (hold ∈ e.retainedTokens)
    let f := { e.toReferenceFields with
      retainedTokens := e.retainedTokens.erase hold
      releasedRetainedTokens := insert hold e.releasedRetainedTokens }
    return (existed,
      { self.setEntry { e with toReferenceFields := retireBorrowers f hold existed } with
        releasedRetainedTokens := released
        releasedBorrowedTokens := self.releasedBorrowedTokens ∪
          (retiredBorrowers f hold existed).image fun t => (objectId, t) })

theorem releaseRetainedReferenceForTask_changes
    (h : self.releaseRetainedReferenceForTask o hold = .ok (b, s')) : Uncontained self s' := by
  simp only [releaseRetainedReferenceForTask, bind_eq_ok] at h
  obtain ⟨_, _, h⟩ := h
  cases he : self.entries.get? o with
  | none =>
    simp only [he, pure_eq_ok, Prod.mk.injEq] at h
    obtain ⟨_, rfl⟩ := h
    refine ⟨.absent he rfl rfl (fun x hx => ?_) fun ref hg => ?_, rfl⟩
    · exact ⟨fun _ => .rfl, by simp [hx], fun _ => .rfl, fun _ => .rfl⟩
    · cases ref <;> simp_all [Gone, IsCollected]
  | some e =>
    simp only [he, pure_eq_ok, Prod.mk.injEq] at h
    obtain ⟨_, rfl⟩ := h
    refine ⟨.entry he rfl rfl (fun x hx => ?_) (.released (fun ref => ref = .retained hold ∨
      ∃ t ∈ retiredBorrowers { e.toReferenceFields with
          retainedTokens := e.retainedTokens.erase hold
          releasedRetainedTokens := insert hold e.releasedRetainedTokens } hold
        (decide (hold ∈ e.retainedTokens)), ref = .borrowed t) ?_ ?_), rfl⟩
    · exact ⟨fun _ => .rfl, by simp [hx], fun _ => .rfl, fun _ => .rfl⟩
    · intro ref
      rw [retireBorrowers_holds]
      cases ref <;> simp [ReferenceFields.Holds, and_comm]
    · intro ref
      rw [retireBorrowers_gone]
      cases ref <;> simp [ReferenceFields.Gone, Reference.IsLocal, or_comm]

/-- Move one retained lifetime credential forward. -/
def replaceRetainedReferenceForTask (self : ObjectOwnerTable ε) (objectId : ObjectID)
    (expectedHold replacementHold : TaskReferenceHold) :
    Except Raised (RetainedHoldReplacementDisposition × ObjectOwnerTable ε) := do
  requireTaskReferenceHold expectedHold .retained
  requireTaskReferenceHold replacementHold .retained
  raiseIf (expectedHold.submittingWorkerId ≠ replacementHold.submittingWorkerId ∨
      expectedHold.taskId ≠ replacementHold.taskId)
    ⟨.valueError, "retained replacement holds must share submitter and task"⟩
  raiseIf (replacementHold.originAttemptId.attemptNumber ≤
      expectedHold.originAttemptId.attemptNumber)
    ⟨.valueError, "retained replacement origin attempt must increase"⟩
  match self.retainedHoldReplacements.get? (objectId, expectedHold) with
  | some previous => do
      raiseIf (previous ≠ replacementHold)
        ⟨.retainedHoldReplacementConflict,
          "retained hold was already replaced by another identity"⟩
      return (.alreadyReplaced, self)
  | none => do
      self.requireLiveWorker replacementHold.submittingWorkerId
      raiseIf ((objectId, replacementHold) ∈ self.releasedRetainedTokens)
        ⟨.releasedRetainedToken, "replacement retained hold was already released"⟩
      raiseIf ((objectId, expectedHold) ∈ self.releasedRetainedTokens)
        ⟨.releasedRetainedToken, "expected retained hold was already released"⟩
      let e ← self.entry objectId
      requireNotCollecting e (collectionIsPending objectId)
      raiseIf (expectedHold ∉ e.retainedTokens)
        ⟨.inactiveTaskReferenceHold, "expected retained hold is not active"⟩
      raiseIf (replacementHold ∈ e.retainedTokens ∨
          (e.retainedBorrowerTokens.get? replacementHold).isSome = true)
        ⟨.retainedHoldReplacementConflict,
          "replacement retained hold already has another identity"⟩
      raiseIf (∃ item ∈ e.borrowedSources.items, item.2 = .taskHold expectedHold ∧
          item.1 ∈ e.borrowedTokens)
        ⟨.retainedHoldReplacementBusy, "old retained hold still has active attempt borrowers"⟩
      match e.retainedBorrowerTokens.get? expectedHold with
      | none => throw ⟨.inactiveTaskReferenceHold,
          "expected retained hold has no parent borrower binding"⟩
      | some parent =>
        return (.replaced, { self.setEntry { e with
            retainedTokens := insert replacementHold (e.retainedTokens.erase expectedHold)
            retainedBorrowerTokens :=
              (e.retainedBorrowerTokens.erase expectedHold).set replacementHold parent
            releasedRetainedTokens := insert expectedHold e.releasedRetainedTokens } with
          releasedRetainedTokens :=
            insert (objectId, expectedHold) self.releasedRetainedTokens
          retainedHoldReplacements :=
            self.retainedHoldReplacements.set (objectId, expectedHold) replacementHold })

theorem replaceRetainedReferenceForTask_changes {old new : TaskReferenceHold}
    {d : RetainedHoldReplacementDisposition}
    (h : self.replaceRetainedReferenceForTask o old new = .ok (d, s')) : Uncontained self s' := by
  simp only [replaceRetainedReferenceForTask, bind_eq_ok, raiseIf_eq_ok] at h
  obtain ⟨_, _, _, _, _, _, _, hincrease, h⟩ := h
  cases hp : self.retainedHoldReplacements.get? (o, old) with
  | some previous =>
    simp only [hp, bind_eq_ok, pure_eq_ok, Prod.mk.injEq] at h
    obtain ⟨_, _, _, rfl⟩ := h
    exact ⟨.same, rfl⟩
  | none =>
    simp only [hp, bind_eq_ok, raiseIf_eq_ok, requireLiveWorker_eq_ok, entry_eq_ok,
      requireNotCollecting_eq_ok] at h
    obtain ⟨_, hd, _, hr, _, _, e, he, _, hidle, _, _, _, _, _, _, h⟩ := h
    cases hparent : e.retainedBorrowerTokens.get? old with
    | none => simp [hparent] at h
    | some parent =>
      simp only [hparent, pure_eq_ok, Prod.mk.injEq] at h
      obtain ⟨_, rfl⟩ := h
      have hne : new ≠ old := by
        rintro rfl
        exact hincrease (le_refl _)
      refine ⟨.entry he rfl rfl (fun x hx => ?_)
        (.of_iff (· = .retained old) (· = .retained new) ?_ ?_ ?_), rfl⟩
      · exact ⟨fun _ => .rfl, by simp [hx], fun _ => .rfl, fun _ => .rfl⟩
      · rintro (t | t | t | t | t | t) <;>
          simp [ReferenceFields.Holds, and_comm, or_comm]
      · rintro (t | t | t | t | t | t) <;>
          simp [ReferenceFields.Gone, Reference.IsLocal, or_comm]
      · rintro _ rfl
        exact ⟨by simp [hne], hr, fun w hw => by cases hw; exact hd, .inl hidle⟩

end ObjectOwnerTable

end MiniRay
