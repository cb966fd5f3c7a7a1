import MiniRay.Ownership.Registration

/-! Publications, replica reports and losses carry the attempt they speak for; a superseded attempt
is answered `false` and changes nothing. -/

namespace MiniRay

open Checked

namespace ObjectOwnerTable

variable {ε : Type} {self s' : ObjectOwnerTable ε} {keeps : ObjectID → ReferenceToken → Prop}
  {c : CallerConditions}

/-! ## Calls that move one result -/

/-- The entry whose result a call moved, before and after. -/
structure MovesEntry (c : CallerConditions) (table s' : ObjectOwnerTable ε)
    (e e' : ObjectOwnerEntry ε) : Prop where
  entry : table.entries.get? e.objectId = some e
  entries : s'.entries = (table.setEntry e').entries
  objectId : e'.objectId = e.objectId
  references : e'.toReferenceFields = e.toReferenceFields
  collection : e'.toCollectionFields = e.toCollectionFields
  idle : c.validated → e.collectionPending = false
  move : ResultMove c table.toPublicationHistory s'.toPublicationHistory e.objectId
    e.toResultFields e'.toResultFields
  retired : table.retiredOutputAttempts ⊆ s'.retiredOutputAttempts
  referenceHistory : s'.toReferenceHistory = table.toReferenceHistory
  collectionHistory : s'.toCollectionHistory = table.toCollectionHistory

def Moves (c : CallerConditions) (self s' : ObjectOwnerTable ε) : Prop :=
  s' = self ∨ ∃ e e', MovesEntry c self s' e e'

theorem Moves.same : Moves c self self := .inl rfl

variable {o : ObjectID} {e : ObjectOwnerEntry ε}

variable {e' : ObjectOwnerEntry ε}

theorem Moves.set (he : self.entries.get? o = some e) (hs : s' = self.setEntry e')
    (hid : e'.objectId = e.objectId) (hrefs : e'.toReferenceFields = e.toReferenceFields)
    (hkept : e'.toCollectionFields = e.toCollectionFields)
    (hidle : c.validated → e.collectionPending = false)
    (hmove : ResultMove c self.toPublicationHistory self.toPublicationHistory e.objectId
      e.toResultFields e'.toResultFields) :
    Moves c self s' := by
  subst hs
  exact .inr ⟨e, e', get?_objectId he, rfl, hid, hrefs, hkept, hidle, hmove,
    Finset.Subset.refl _, rfl, rfl⟩

theorem Moves.toReferenceSpec (h : Moves c self s') : ReferenceSpec keeps self s' := by
  rcases h with rfl | ⟨e, e', h⟩
  · exact .refl _
  · exact .of_result h.entry h.entries h.objectId h.references h.referenceHistory
      (by rw [h.collectionHistory])

theorem Moves.toResultSpec (h : Moves c self s') : ResultSpec c self s' := by
  rcases h with rfl | ⟨e, e', h⟩
  · exact .refl _
  · exact .of_move h.entry h.entries h.objectId h.collection h.idle h.move h.retired
      h.collectionHistory

theorem unretired_of_not (h : ¬ self.CurrentAttemptRetired e) :
    e.toResultFields.Unretired self.toPublicationHistory e.objectId :=
  fun a ha hr => h ⟨a, ha, hr⟩

/-! ## Answers -/

/-- An entry that neither a retirement nor a collection keeps closed. -/
structure Admits (table : ObjectOwnerTable ε) (o : ObjectID) (e : ObjectOwnerEntry ε) : Prop where
  entry : table.entries.get? o = some e
  unmarked : e.outputRetirementId = none
  idle : e.collectionPending = false

/-- An entry rewritten in its result alone. -/
structure Rewrites (e e' : ObjectOwnerEntry ε) : Prop where
  objectId : e'.objectId = e.objectId
  references : e'.toReferenceFields = e.toReferenceFields
  collection : e'.toCollectionFields = e.toCollectionFields

/-- A report is refused for another attempt, true for a replay, or rewrites the entry. -/
inductive Answer (table s' : ObjectOwnerTable ε) (current replayed : Prop)
    (rewrites : ObjectOwnerEntry ε → Prop) : Bool → Prop
  | stale (superseded : ¬ current) (same : s' = table) :
      Answer table s' current replayed rewrites false
  | replayed (now : current) (known : replayed) (same : s' = table) :
      Answer table s' current replayed rewrites true
  | rewritten (now : current) (e' : ObjectOwnerEntry ε) (effect : rewrites e')
      (set : s' = table.setEntry e') : Answer table s' current replayed rewrites true

variable {b : Bool}

theorem Answer.moves {current replayed : Prop} {rewrites : ObjectOwnerEntry ε → Prop}
    (he : Admits self o e) (h : Answer self s' current replayed rewrites b)
    (hmove : ∀ e', rewrites e' → Rewrites e e' ∧
      ResultMove c self.toPublicationHistory self.toPublicationHistory e.objectId
        e.toResultFields e'.toResultFields) :
    Moves c self s' := by
  cases h with
  | stale _ same => exact same ▸ .same
  | replayed _ _ same => exact same ▸ .same
  | rewritten _ e' effect set =>
    obtain ⟨hframe, hresult⟩ := hmove e' effect
    exact .set he.entry set hframe.objectId hframe.references hframe.collection
      (fun _ => he.idle) hresult

/-! ## Attempts -/

/-- CAS the publishing attempt and reset the entry to pending. -/
def advanceAttempt (self : ObjectOwnerTable ε) (objectId : ObjectID)
    (expectedAttempt : Option AttemptID) (nextAttempt : AttemptID) :
    Except Raised (Bool × ObjectOwnerTable ε) := do
  let e ← self.entry objectId
  requireNoOutputRetirement e
  requireNotCollecting e (collectionIsPending objectId)
  requireAttempt objectId expectedAttempt
  if h : nextAttempt.taskId = e.objectId.taskId then
    if e.currentAttempt = some nextAttempt then return (true, self)
    if e.currentAttempt ≠ expectedAttempt then return (false, self)
    requireOutputMembershipsRetired e
    raiseIf (∃ a ∈ e.currentAttempt, nextAttempt.attemptNumber ≤ a.attemptNumber)
      ⟨.invalidObjectTransition, "attempt number must increase for " ++ objectId.repr ++
        ": current=" ++ toString ((e.currentAttempt.map AttemptID.attemptNumber).getD 0) ++
        ", next=" ++ toString nextAttempt.attemptNumber⟩
    raiseIf (¬ (e.state = .pending ∨ e.state = .lost))
      ⟨.invalidObjectTransition,
        "cannot advance " ++ objectId.repr ++ " from state " ++ e.state.value⟩
    raiseIf (e.locationAttempts.items ≠ [])
      ⟨.invalidObjectTransition, "cannot advance " ++ objectId.repr ++ " while replicas remain"⟩
    return (true, self.setEntry { e with
      currentAttempt := some nextAttempt
      state := .pending
      inlineData := none
      error := none
      canonicalStoredResult := none
      attempt_task := fun a ha => by cases ha; exact h })
  else throw ⟨.valueError, "attempt_id must belong to object_id.task_id"⟩

structure Restarts (e e' : ObjectOwnerEntry ε) (next : AttemptID) : Prop where
  frame : Rewrites e e'
  free : e.outputPublication = none
  renewed : e.currentAttempt ≠ some next
  later : ∀ a, e.currentAttempt = some a → a.attemptNumber < next.attemptNumber
  unsettled : e.state = .pending ∨ e.state = .lost
  vacant : e.locationAttempts.items = []
  result : e'.toResultFields = { e.toResultFields with
    currentAttempt := some next, state := .pending, inlineData := none, error := none,
    canonicalStoredResult := none }

variable {next : AttemptID}

theorem Restarts.move (h : Restarts e e' next) {history : PublicationHistory}
    (hc : c.advances o next) :
    ResultMove c history history o e.toResultFields e'.toResultFields := by
  rw [h.result]
  refine .advanced next h.free (fun _ => h.vacant) (fun _ _ => h.renewed) (fun _ => ?_) hc
  exact ⟨h.unsettled, h.vacant, fun a ha => .inl (h.later a ha)⟩

variable {expected : Option AttemptID}

theorem advanceAttempt_cases (h : self.advanceAttempt o expected next = .ok (b, s')) :
    ∃ e, Admits self o e ∧
      Answer self s' (e.currentAttempt = some next ∨ e.currentAttempt = expected)
        (e.currentAttempt = some next) (Restarts e · next) b := by
  simp only [advanceAttempt, bind_eq_ok, entry_eq_ok, requireNoOutputRetirement_eq_ok,
    requireNotCollecting_eq_ok, requireAttempt_eq_ok] at h
  obtain ⟨e, he, _, hopen, _, hidle, _, _, h⟩ := h
  refine ⟨e, ⟨he, hopen, hidle⟩, ?_⟩
  split at h
  · simp only [ite_eq_ok, bind_eq_ok, requireOutputMembershipsRetired_eq_ok, raiseIf_eq_ok,
      pure_eq_ok, Prod.mk.injEq, not_not] at h
    rcases h with ⟨hreplay, rfl, rfl⟩ | ⟨hnext, ⟨hstale, rfl, rfl⟩ | ⟨hnow, _, hfree, _, hlater,
      _, hstate, _, hloc, rfl, rfl⟩⟩
    · exact .replayed (.inl hreplay) hreplay rfl
    · exact .stale (not_or.mpr ⟨hnext, hstale⟩) rfl
    · refine .rewritten (.inr hnow) _ ?_ rfl
      refine ⟨⟨rfl, rfl, rfl⟩, hfree, hnext, ?_, hstate, hloc, rfl⟩
      intro a ha
      by_contra hle
      exact hlater ⟨a, ha, Nat.le_of_not_lt hle⟩
  · simp at h

theorem advanceAttempt_moves (h : self.advanceAttempt o expected next = .ok (b, s'))
    (hc : c.advances o next) : Moves c self s' := by
  obtain ⟨e, he, hanswer⟩ := advanceAttempt_cases h
  have hid := self.keyed o e he.entry
  exact hanswer.moves he fun e' hr => ⟨hr.frame, hr.move (hid ▸ hc)⟩

/-! ## Inline values and errors -/

/-- Publish a small inline result if the attempt is current. -/
def publishInline (self : ObjectOwnerTable ε) (objectId : ObjectID)
    (attemptId : Option AttemptID) (data : List UInt8) :
    Except Raised (Bool × ObjectOwnerTable ε) := do
  let e ← self.entry objectId
  requireNoOutputRetirement e
  requireNotCollecting e (collectionIsPending objectId)
  requireAttempt objectId attemptId
  if e.currentAttempt ≠ attemptId then return (false, self)
  if e.state = .readyInline then
    raiseIf (e.inlineData ≠ some data)
      ⟨.conflictingObjectResult,
        "attempt published conflicting inline data for " ++ objectId.repr⟩
    return (true, self)
  self.requirePublishable e false
  return (true, self.setEntry { e with
    state := .readyInline
    inlineData := some data
    error := none
    canonicalStoredResult := none })

variable {attempt : Option AttemptID}

theorem publishInline_cases {data : List UInt8}
    (h : self.publishInline o attempt data = .ok (b, s')) :
    ∃ e, Admits self o e ∧ Answer self s' (e.currentAttempt = attempt)
      (e.state = .readyInline ∧ e.inlineData = some data)
      (fun e' => self.requirePublishable e false = .ok () ∧ e' = { e with
        state := .readyInline, inlineData := some data, error := none,
        canonicalStoredResult := none }) b := by
  simp only [publishInline, bind_eq_ok, entry_eq_ok, requireNoOutputRetirement_eq_ok,
    requireNotCollecting_eq_ok, raiseIf_eq_ok, ite_eq_ok, pure_eq_ok, Prod.mk.injEq, ne_eq,
    not_not] at h
  obtain ⟨e, he, _, hopen, _, hidle, _, _, h⟩ := h
  refine ⟨e, ⟨he, hopen, hidle⟩, ?_⟩
  rcases h with ⟨hstale, rfl, rfl⟩ | ⟨hnow, ⟨hstate, _, hdata, rfl, rfl⟩ |
    ⟨_, _, hpublish, rfl, rfl⟩⟩
  · exact .stale hstale rfl
  · exact .replayed hnow ⟨hstate, hdata⟩ rfl
  · exact .rewritten hnow _ ⟨hpublish, rfl⟩ rfl

theorem publishInline_moves {data : List UInt8}
    (h : self.publishInline o attempt data = .ok (b, s')) : Moves c self s' := by
  obtain ⟨e, he, hanswer⟩ := publishInline_cases h
  refine hanswer.moves he ?_
  rintro _ ⟨hpublish, rfl⟩
  obtain ⟨hr, hstate, hloc⟩ := requirePublishable_eq_ok.mp hpublish
  exact ⟨⟨rfl, rfl, rfl⟩, .publishedInline data _ _ (by simpa using hstate) hloc
    (unretired_of_not hr) (.inl rfl)⟩

/-- Publish a terminal logical error for the current attempt. -/
def publishError [BEq ε] (self : ObjectOwnerTable ε) (objectId : ObjectID)
    (attemptId : Option AttemptID) (error : Option ε) :
    Except Raised (Bool × ObjectOwnerTable ε) := do
  let e ← self.entry objectId
  requireNoOutputRetirement e
  requireNotCollecting e (collectionIsPending objectId)
  requireAttempt objectId attemptId
  if e.currentAttempt ≠ attemptId then return (false, self)
  if e.state = .error then
    raiseIf ((e.error == error) = false)
      ⟨.conflictingObjectResult, "attempt published conflicting errors for " ++ objectId.repr⟩
    return (true, self)
  self.requirePublishable e false
  return (true, self.setEntry { e with state := .error, error := error, inlineData := none })

theorem publishError_cases [BEq ε] {error : Option ε}
    (h : self.publishError o attempt error = .ok (b, s')) :
    ∃ e, Admits self o e ∧ Answer self s' (e.currentAttempt = attempt)
      (e.state = .error ∧ (e.error == error) = true)
      (fun e' => self.requirePublishable e false = .ok () ∧
        e' = { e with state := .error, error := error, inlineData := none }) b := by
  simp only [publishError, bind_eq_ok, entry_eq_ok, requireNoOutputRetirement_eq_ok,
    requireNotCollecting_eq_ok, raiseIf_eq_ok, ite_eq_ok, pure_eq_ok, Prod.mk.injEq, ne_eq,
    not_not, Bool.not_eq_false] at h
  obtain ⟨e, he, _, hopen, _, hidle, _, _, h⟩ := h
  refine ⟨e, ⟨he, hopen, hidle⟩, ?_⟩
  rcases h with ⟨hstale, rfl, rfl⟩ | ⟨hnow, ⟨hstate, _, herror, rfl, rfl⟩ |
    ⟨_, _, hpublish, rfl, rfl⟩⟩
  · exact .stale hstale rfl
  · exact .replayed hnow ⟨hstate, herror⟩ rfl
  · exact .rewritten hnow _ ⟨hpublish, rfl⟩ rfl

theorem publishError_moves [BEq ε] {error : Option ε}
    (h : self.publishError o attempt error = .ok (b, s')) : Moves c self s' := by
  obtain ⟨e, he, hanswer⟩ := publishError_cases h
  refine hanswer.moves he ?_
  rintro _ ⟨hpublish, rfl⟩
  obtain ⟨hr, hstate, hloc⟩ := requirePublishable_eq_ok.mp hpublish
  exact ⟨⟨rfl, rfl, rfl⟩, .failed error _
    (.inl ⟨by simpa using hstate, hloc, unretired_of_not hr⟩) (.inl rfl)⟩

/-! ## Stored replicas -/

/-- The logical identity of a stored result, whatever Node holds the replica. -/
def SameStoredResultIdentity (left right : ResultDescriptor) : Prop :=
  left.objectId = right.objectId ∧ left.storage = .objectStore ∧ right.storage = .objectStore ∧
    left.sizeBytes = right.sizeBytes ∧ left.ownerWorkerId = right.ownerWorkerId ∧
    left.checksum = right.checksum ∧ left.inlineData = none ∧ right.inlineData = none

instance (left right : ResultDescriptor) : Decidable (SameStoredResultIdentity left right) :=
  inferInstanceAs (Decidable (_ ∧ _))

theorem SameStoredResultIdentity.integrity {left right : ResultDescriptor}
    (h : SameStoredResultIdentity left right) : SameIntegrity left right :=
  ⟨h.2.2.2.1, h.2.2.2.2.2.1, h.2.2.2.2.1⟩

/-- The first location of another epoch. -/
def conflictingLocation (e : ObjectOwnerEntry ε) (attemptId : Option AttemptID) : Option NodeID :=
  (e.locationAttempts.items.find? fun item => item.2 ≠ attemptId).map Prod.fst

theorem conflictingLocation_eq_none :
    conflictingLocation e attempt = none ↔
      ∀ n a, e.locationAttempts.get? n = some a → a = attempt := by
  simp [conflictingLocation, Dict.get?_eq_some_iff]

/-- Publish or add one sealed replica for the current attempt. -/
def publishStored (self : ObjectOwnerTable ε) (objectId : ObjectID)
    (attemptId : Option AttemptID) (location : NodeID) (descriptor : Option ResultDescriptor) :
    Except Raised (Bool × ObjectOwnerTable ε) := do
  raiseIf (∃ d ∈ descriptor, d.objectId ≠ objectId ∨ d.storage ≠ .objectStore ∨
      d.nodeId ≠ location)
    ⟨.valueError, "stored descriptor must match object, storage, and location"⟩
  let e ← self.entry objectId
  requireNoOutputRetirement e
  requireNotCollecting e (collectionIsPending objectId)
  requireAttempt objectId attemptId
  if e.currentAttempt ≠ attemptId then return (false, self)
  let canonical := e.canonicalStoredResult
  raiseIf (∃ d ∈ descriptor, ∃ known ∈ canonical, ¬ SameStoredResultIdentity known d)
    ⟨.conflictingObjectResult, if e.state = .readyStored then
      "stored publication changed canonical descriptor"
      else "rediscovered replica changed canonical descriptor"⟩
  raiseIf (conflictingLocation e attemptId ≠ none)
    ⟨.conflictingObjectResult, "location " ++ ((conflictingLocation e attemptId).map
      NodeID.repr).getD "" ++ " has a different attempt epoch"⟩
  if e.state = .readyStored then
    return (true, self.setEntry { e with
      canonicalStoredResult := canonical.or descriptor
      locationAttempts := e.locationAttempts.set location attemptId })
  self.requirePublishable e true
  return (true, self.setEntry { e with
    state := .readyStored
    inlineData := none
    error := none
    canonicalStoredResult := canonical.or descriptor
    locationAttempts := e.locationAttempts.set location attemptId })

/-- The entry gains a replica of the attempt, and its descriptor if none was known. -/
structure GainsReplica (table : ObjectOwnerTable ε) (e e' : ObjectOwnerEntry ε)
    (attempt : Option AttemptID) (node : NodeID) (descriptor : Option ResultDescriptor) :
    Prop where
  known : ∀ d d', descriptor = some d → e.canonicalStoredResult = some d' →
    SameStoredResultIdentity d' d
  described : ∀ d, descriptor = some d → DescribesStored e.objectId d
  epochs : ∀ n a, e.locationAttempts.get? n = some a → a = attempt
  effect : e.state = .readyStored ∧ e' = { e with
        canonicalStoredResult := e.canonicalStoredResult.or descriptor
        locationAttempts := e.locationAttempts.set node attempt } ∨
    table.requirePublishable e true = .ok () ∧ e' = { e with
        state := .readyStored
        inlineData := none
        error := none
        canonicalStoredResult := e.canonicalStoredResult.or descriptor
        locationAttempts := e.locationAttempts.set node attempt }

variable {node : NodeID}

variable {descriptor : Option ResultDescriptor}

theorem publishStored_cases (h : self.publishStored o attempt node descriptor = .ok (b, s')) :
    ∃ e, Admits self o e ∧ Answer self s' (e.currentAttempt = attempt) False
      (GainsReplica self e · attempt node descriptor) b := by
  simp only [publishStored, bind_eq_ok, entry_eq_ok, requireNoOutputRetirement_eq_ok,
    requireNotCollecting_eq_ok, raiseIf_eq_ok, ite_eq_ok, pure_eq_ok, Prod.mk.injEq, ne_eq,
    not_not, conflictingLocation_eq_none] at h
  obtain ⟨_, hmatch, e, he, _, hopen, _, hidle, _, _, h⟩ := h
  refine ⟨e, ⟨he, hopen, hidle⟩, ?_⟩
  rcases h with ⟨hstale, rfl, rfl⟩ | ⟨hnow, _, hknown, _, hepochs, h⟩
  · exact .stale hstale rfl
  have hdescribed : ∀ d, descriptor = some d → DescribesStored e.objectId d := by
    intro d hd
    by_contra hne
    refine hmatch ⟨d, hd, ?_⟩
    rw [← self.keyed o e he]
    simp only [DescribesStored, not_and_or] at hne
    exact hne.imp id .inl
  have hsame : ∀ d d', descriptor = some d → e.canonicalStoredResult = some d' →
      SameStoredResultIdentity d' d := by
    intro d d' hd hd'
    by_contra hne
    exact hknown ⟨d, hd, d', hd', hne⟩
  rcases h with ⟨hstate, rfl, rfl⟩ | ⟨_, _, hpublish, rfl, rfl⟩
  · exact .rewritten hnow _ ⟨hsame, hdescribed, hepochs, .inl ⟨hstate, rfl⟩⟩ rfl
  · exact .rewritten hnow _ ⟨hsame, hdescribed, hepochs, .inr ⟨hpublish, rfl⟩⟩ rfl

theorem publishStored_moves (h : self.publishStored o attempt node descriptor = .ok (b, s')) :
    Moves c self s' := by
  obtain ⟨e, he, hanswer⟩ := publishStored_cases h
  cases hanswer with
  | stale _ same => exact same ▸ .same
  | replayed _ known => exact known.elim
  | rewritten now e' gains set =>
    subst now
    have hdescribed : ∀ d, e.canonicalStoredResult.or descriptor = some d →
        e.canonicalStoredResult = some d ∨ DescribesStored e.objectId d := by
      intro d hd
      rcases Option.or_eq_some_iff.mp hd with hd | ⟨_, hd⟩
      · exact .inl hd
      · exact .inr (gains.described d hd)
    have hor : ∀ d, e.canonicalStoredResult = some d →
        e.canonicalStoredResult.or descriptor = some d := by
      intro d hd
      simp [hd]
    rcases gains.effect with ⟨hstate, rfl⟩ | ⟨hpublish, rfl⟩
    · exact .set he.entry set rfl rfl rfl (fun _ => he.idle)
        (.replicated node _ hstate gains.epochs hor hdescribed)
    · obtain ⟨hr, hstate, hloc⟩ := requirePublishable_eq_ok.mp hpublish
      exact .set he.entry set rfl rfl rfl (fun _ => he.idle) (.publishedStored node _ _ _
        (by simpa using hstate) hloc (unretired_of_not hr)
        (fun _ _ d hd => ⟨d, hor d hd, rfl, rfl, rfl⟩) (.inl rfl) hdescribed)

def withoutReplica (e : ObjectOwnerEntry ε) (location : NodeID) : ObjectOwnerEntry ε :=
  { e with
    locationAttempts := e.locationAttempts.erase location
    state := if e.state = .readyStored ∧ (e.locationAttempts.erase location).items = [] then .lost
      else e.state }

/-- Remove a matching replica epoch; stale removals are ignored. -/
def removeLocation (self : ObjectOwnerTable ε) (objectId : ObjectID)
    (attemptId : Option AttemptID) (location : NodeID) :
    Except Raised (Bool × ObjectOwnerTable ε) := do
  let e ← self.entry objectId
  requireNotCollecting e (collectionIsPending objectId)
  requireAttempt objectId attemptId
  if e.locationAttempts.get? location ≠ some attemptId then return (false, self)
  return (true, self.setEntry (withoutReplica e location))

theorem removeLocation_cases (h : self.removeLocation o attempt node = .ok (b, s')) :
    ∃ e, self.entries.get? o = some e ∧ e.collectionPending = false ∧
      (b = false ∧ s' = self ∨ b = true ∧ e.locationAttempts.get? node = some attempt ∧
        s' = self.setEntry (withoutReplica e node)) := by
  simp only [removeLocation, bind_eq_ok, entry_eq_ok, requireNotCollecting_eq_ok, ite_eq_ok,
    pure_eq_ok, Prod.mk.injEq, ne_eq, not_not] at h
  obtain ⟨e, he, _, hidle, _, _, h⟩ := h
  refine ⟨e, he, hidle, ?_⟩
  rcases h with ⟨_, rfl, rfl⟩ | ⟨hnode, rfl, rfl⟩
  · exact .inl ⟨rfl, rfl⟩
  · exact .inr ⟨rfl, hnode, rfl⟩

theorem removeLocation_moves (h : self.removeLocation o attempt node = .ok (b, s')) :
    Moves c self s' := by
  obtain ⟨e, he, hidle, ⟨_, rfl⟩ | ⟨_, _, hset⟩⟩ := removeLocation_cases h
  · exact .same
  · exact .set he hset rfl rfl rfl (fun _ => hidle) (.forgotReplica node)

def markLost (self : ObjectOwnerTable ε) (objectId : ObjectID) (attemptId : Option AttemptID) :
    Except Raised (Bool × ObjectOwnerTable ε) := do
  let e ← self.entry objectId
  requireNoOutputRetirement e
  requireNotCollecting e (collectionIsPending objectId)
  requireAttempt objectId attemptId
  if e.currentAttempt ≠ attemptId then return (false, self)
  if e.state = .lost then return (true, self)
  raiseIf (e.state ≠ .readyStored)
    ⟨.invalidObjectTransition, "cannot lose " ++ objectId.repr ++ " from state " ++ e.state.value⟩
  return (true, self.setEntry { e with locationAttempts := .empty, state := .lost })

theorem markLost_cases (h : self.markLost o attempt = .ok (b, s')) :
    ∃ e, Admits self o e ∧ Answer self s' (e.currentAttempt = attempt) (e.state = .lost)
      (fun e' => e.state = .readyStored ∧
        e' = { e with locationAttempts := .empty, state := .lost }) b := by
  simp only [markLost, bind_eq_ok, entry_eq_ok, requireNoOutputRetirement_eq_ok,
    requireNotCollecting_eq_ok, raiseIf_eq_ok, ite_eq_ok, pure_eq_ok, Prod.mk.injEq, ne_eq,
    not_not] at h
  obtain ⟨e, he, _, hopen, _, hidle, _, _, h⟩ := h
  refine ⟨e, ⟨he, hopen, hidle⟩, ?_⟩
  rcases h with ⟨hstale, rfl, rfl⟩ | ⟨hnow, ⟨hlost, rfl, rfl⟩ | ⟨_, _, hstate, rfl, rfl⟩⟩
  · exact .stale hstale rfl
  · exact .replayed hnow hlost rfl
  · exact .rewritten hnow _ ⟨hstate, rfl⟩ rfl

theorem markLost_moves (h : self.markLost o attempt = .ok (b, s')) : Moves c self s' := by
  obtain ⟨e, he, hanswer⟩ := markLost_cases h
  refine hanswer.moves he ?_
  rintro _ ⟨hstate, rfl⟩
  exact ⟨⟨rfl, rfl, rfl⟩, .lost hstate⟩

/-! ## Dead Nodes -/

structure NodeLocationRemoval where
  nodeId : NodeID
  lost : List ObjectID
  surviving : List ObjectID
  collecting : List ObjectID

/-- The identities of a scan, in the order of their text. -/
def scanOrder (self : ObjectOwnerTable ε) (p : ObjectOwnerEntry ε → Bool) : List ObjectID :=
  ((self.entries.items.filter fun item => p item.2).map Prod.fst).insertionSort
    fun a b => a.repr ≤ b.repr

/-- What a Node's death leaves of one entry; a collecting entry keeps its locations. -/
def withoutNode (nodeId : NodeID) (e : ObjectOwnerEntry ε) : ObjectOwnerEntry ε :=
  if (e.locationAttempts.get? nodeId).isSome ∧ e.collectionPending = false then
    withoutReplica e nodeId
  else e

theorem withoutNode_objectId (nodeId : NodeID) (e : ObjectOwnerEntry ε) :
    (withoutNode nodeId e).objectId = e.objectId := by
  unfold withoutNode
  split <;> rfl

/-- Forget every replica on one authoritatively dead Node. -/
def removeNodeLocations (self : ObjectOwnerTable ε) (nodeId : NodeID) :
    NodeLocationRemoval × ObjectOwnerTable ε :=
  let holds (e : ObjectOwnerEntry ε) : Bool := (e.locationAttempts.get? nodeId).isSome
  let removed (e : ObjectOwnerEntry ε) : Bool := holds e && !e.collectionPending
  let emptied (e : ObjectOwnerEntry ε) : Bool := (e.locationAttempts.erase nodeId).items.isEmpty
  ({ nodeId := nodeId
     lost := self.scanOrder fun e => removed e && emptied e
     surviving := self.scanOrder fun e => removed e && !emptied e
     collecting := self.scanOrder fun e => holds e && e.collectionPending },
    self.mapEntries (withoutNode nodeId) (withoutNode_objectId nodeId))

theorem removeNodeLocations_references (node : NodeID) :
    ReferenceSpec keeps self (self.removeNodeLocations node).2 := by
  refine .of_kept ?_ rfl rfl
  intro o
  simp only [removeNodeLocations, get?_mapEntries, Option.map_map]
  congr 1
  funext e
  simp only [Function.comp_apply, withoutNode]
  split <;> rfl

theorem removeNodeLocations_results (node : NodeID) :
    ResultSpec c self (self.removeNodeLocations node).2 := by
  refine ⟨?_, Finset.Subset.refl _, fun _ h => h, fun _ h => .inl h, fun _ h => .inl h,
    fun _ _ _ _ _ _ _ _ h => h⟩
  intro o
  simp only [removeNodeLocations, get?_mapEntries]
  cases self.entries.get? o with
  | none => exact .absent
  | some e =>
    rw [Option.map_some, withoutNode]
    split
    · next h => exact .moved e _ rfl (fun _ hp => by simp [h.2] at hp) (.forgotReplica node)
    · exact .refl ..

end ObjectOwnerTable

end MiniRay
