import MiniRay.Ownership.Results

/-! A put has no producer lineage and no publication membership: its owner publishes the value
together with the release obligations of its children, and remembers only its identity. -/

namespace MiniRay

open Checked

/-- `_descriptor`: the result of a put, checked again and in the wire range. -/
def checkedDescriptor (d : ResultDescriptor) : Except Raised ResultDescriptor := do
  raiseIf (¬ Uint64 d.sizeBytes) ⟨.valueError, "result size_bytes must be a non-negative uint64"⟩
  raiseIf (¬ Uint64 d.objectId.returnIndex)
    ⟨.valueError, "return_index must be a non-negative uint64"⟩
  if h : d.checksum.toList.all isHexDigit = true then
    return { d with
      checksum := lowerHex d.checksum
      inline_payload := fun hi => by
        obtain ⟨hs, hc⟩ := d.inline_payload hi
        refine ⟨hs, ?_⟩
        obtain ⟨data, hd, hx⟩ := Option.map_eq_some_iff.mp hc
        rw [← hx, lowerHex_of_lower (Sha256.isLowerHexDigest_hexdigest data), hx]
        exact hc
      checksum_hex := isResultChecksum_of_lower (isLowerHexDigest_lowerHex d.checksum_hex.1 h) }
  else throw ⟨.valueError, "result checksum must be a SHA-256 hex digest"⟩

/-! ## Child edges -/

/-- The edges of a put after the ones before them, all from its own container. -/
def putEdges (objectId : ObjectID) (before : List ContainedReferenceEdge) :
    List ContainedReferenceEdge →
      Except Raised
        {edges : List ContainedReferenceEdge // ∀ e ∈ edges, e.containerObjectId = objectId}
  | [] => .ok ⟨[], by simp⟩
  | edge :: rest => do
      raiseIf (¬ (Uint64 edge.containerObjectId.returnIndex ∧
          Uint64 edge.containedObjectId.returnIndex))
        ⟨.valueError, "return_index must be a non-negative uint64"⟩
      if h : edge.containerObjectId = objectId then do
        raiseIf (∃ known ∈ before, known.containedObjectId = edge.containedObjectId ∧
            (known.containedOwnerWorkerId, known.containedOwnerAddress) ≠
              (edge.containedOwnerWorkerId, edge.containedOwnerAddress))
          ⟨.conflictingObjectResult,
            "put repeats a child with conflicting edge owner or address"⟩
        raiseIf (∃ known ∈ before, known.containedObjectId = edge.containedObjectId ∧
            known.transferToken = edge.transferToken ∧ known ≠ edge)
          ⟨.conflictingObjectResult, "put repeats a child with conflicting edge identity"⟩
        let ⟨edges, hedges⟩ ← putEdges objectId (before ++ [edge]) rest
        return ⟨edge :: edges, by simp [h]; exact hedges⟩
      else throw ⟨.valueError, "put edge must name the published container"⟩

/-! ## Publication -/

namespace ObjectOwnerTable

variable {ε : Type} {self s' : ObjectOwnerTable ε} {c : CallerConditions}

/-- An exact replay still finds the value it published. -/
def PutReplayValid (e : ObjectOwnerEntry ε) (identity : PutIdentity)
    (edges : Finset ContainedReferenceEdge) (d : ResultDescriptor) : Prop :=
  e.putIdentity = some identity ∧ e.outgoingContainedEdges = edges ∧ e.error.isNone = true ∧
    (d.storage = .inline ∧ e.state = .readyInline ∧ e.inlineData = d.inlineData ∧
        e.canonicalStoredResult = none ∧ e.locationAttempts.items = [] ∨
      d.storage ≠ .inline ∧ e.state = .readyStored ∧ e.inlineData = none ∧
        e.canonicalStoredResult = some d ∧ e.locationAttempts.items ≠ [] ∧
        ∀ epoch ∈ e.locationAttempts.values, epoch = some identity.attempt)

instance (e : ObjectOwnerEntry ε) (identity : PutIdentity) (edges : Finset ContainedReferenceEdge)
    (d : ResultDescriptor) : Decidable (PutReplayValid e identity edges d) :=
  inferInstanceAs (Decidable (_ ∧ _))

/-- Publish a put value and its child-release obligations. -/
def publishPutValue (self : ObjectOwnerTable ε) (objectId : ObjectID) (attempt : AttemptID)
    (descriptor : ResultDescriptor) (edges : List ContainedReferenceEdge) :
    Except Raised (Bool × ObjectOwnerTable ε) := do
  raiseIf (¬ Uint64 objectId.returnIndex)
    ⟨.valueError, "return_index must be a non-negative uint64"⟩
  raiseIf (¬ Uint64 attempt.attemptNumber)
    ⟨.valueError, "attempt_number must be a non-negative uint64"⟩
  requireAttempt objectId (some attempt)
  let descriptor ← checkedDescriptor descriptor
  raiseIf (descriptor.objectId ≠ objectId)
    ⟨.valueError, "put descriptor must name the registered object"⟩
  let edges ← putEdges objectId [] edges
  let edgeSet := edges.val.toFinset
  let inline := descriptor.storage = .inline
  let identity : PutIdentity := ⟨attempt, descriptor.ownerWorkerId, descriptor.nodeId,
    descriptor.storage, descriptor.sizeBytes, descriptor.checksum⟩
  let e ← self.keyedEntry objectId
  requireNoOutputRetirement e.val
  requireNotCollecting e.val "put metadata collection is pending"
  if e.val.currentAttempt ≠ some attempt then return (false, self)
  raiseIf (e.val.producerTaskSpec ≠ none ∨ (self.taskLineage.get? objectId.taskId).isSome ∨
      e.val.outgoingLineageEdges ≠ ∅ ∨ e.val.outputPublication ≠ none)
    ⟨.invalidObjectTransition, "put cannot publish task lineage or publication membership"⟩
  if self.Dead descriptor.ownerWorkerId then return (false, self)
  if e.val.putIdentity ≠ none then
    raiseIf (¬ PutReplayValid e.val identity edgeSet descriptor)
      ⟨.conflictingObjectResult, "put replay changed identity, edges, or available result"⟩
    return (true, self)
  self.requirePublishable e.val false
  raiseIf (e.val.inlineData ≠ none ∨ e.val.error.isSome = true ∨
      e.val.canonicalStoredResult ≠ none ∨ e.val.locationAttempts.items ≠ [] ∨
      e.val.outgoingContainedEdges ≠ ∅)
    ⟨.conflictingObjectResult, "put requires pristine pending result metadata"⟩
  return (true, self.setEntry { e.val with
    inlineData := if inline then descriptor.inlineData else none
    canonicalStoredResult := if inline then none else some descriptor
    locationAttempts := if inline then .empty else Dict.empty.set descriptor.nodeId (some attempt)
    outgoingContainedEdges := edgeSet
    putIdentity := some identity
    state := if inline then .readyInline else .readyStored
    own_edges := fun x hx => (edges.property x (by simpa [edgeSet] using hx)).trans
      e.property.symm })

def putIdentityOf (attempt : AttemptID) (d : ResultDescriptor) : PutIdentity :=
  ⟨attempt, d.ownerWorkerId, d.nodeId, d.storage, d.sizeBytes, d.checksum⟩

/-- A pending entry without any result metadata becomes a put value. -/
structure Puts (table : ObjectOwnerTable ε) (e e' : ObjectOwnerEntry ε) (attempt : AttemptID)
    (d : ResultDescriptor) (edges : Finset ContainedReferenceEdge) : Prop where
  publishable : table.requirePublishable e false = .ok ()
  free : e.outputPublication = none
  error : e.error = none
  inline : e.inlineData = none
  canonical : e.canonicalStoredResult = none
  objectId : d.objectId = e.objectId
  frame : Rewrites e e'
  result : e'.toResultFields = { e.toResultFields with
    inlineData := if d.storage = .inline then d.inlineData else none
    canonicalStoredResult := if d.storage = .inline then none else some d
    locationAttempts := if d.storage = .inline then .empty
      else Dict.empty.set d.nodeId (some attempt)
    outgoingContainedEdges := edges
    putIdentity := some (putIdentityOf attempt d)
    state := if d.storage = .inline then .readyInline else .readyStored }

variable {attempt : AttemptID}

variable {edges : List ContainedReferenceEdge}

theorem publishPutValue_cases {o : ObjectID} {descriptor : ResultDescriptor} {b : Bool}
    (h : self.publishPutValue o attempt descriptor edges = .ok (b, s')) :
    ∃ d e, ∃ children : Finset ContainedReferenceEdge, checkedDescriptor descriptor = .ok d ∧
      Admits self o e ∧
      Answer self s' (e.currentAttempt = some attempt ∧ ¬ self.Dead d.ownerWorkerId)
        (PutReplayValid e (putIdentityOf attempt d) children d) (Puts self e · attempt d children)
        b := by
  simp only [publishPutValue, bind_eq_ok, keyedEntry_eq_ok, requireNoOutputRetirement_eq_ok,
    requireNotCollecting_eq_ok, raiseIf_eq_ok, ite_eq_ok, pure_eq_ok, Prod.mk.injEq, ne_eq,
    not_not, not_or] at h
  obtain ⟨_, _, _, _, _, _, d, hd, _, hobject, children, _, e, he, _, hopen, _, hidle, h⟩ := h
  refine ⟨d, e.val, children.val.toFinset, hd, ⟨he, hopen, hidle⟩, ?_⟩
  rcases h with ⟨hstale, rfl, rfl⟩ | ⟨hnow, _, ⟨_, _, _, hfree⟩, ⟨hdead, rfl, rfl⟩ |
    ⟨halive, ⟨_, _, hreplay, rfl, rfl⟩ | ⟨_, _, hpublish, _, hpristine, rfl, rfl⟩⟩⟩
  · exact .stale (fun hnow => hstale hnow.1) rfl
  · exact .stale (fun hnow => hnow.2 hdead) rfl
  · exact .replayed ⟨hnow, halive⟩ hreplay rfl
  · obtain ⟨hinline, herror, hcanonical, _, _⟩ := hpristine
    refine .rewritten ⟨hnow, halive⟩ _ ?_ rfl
    exact ⟨hpublish, hfree, by simpa using herror, hinline, hcanonical,
      hobject.trans e.property.symm, ⟨rfl, rfl, rfl⟩, rfl⟩

variable {d : ResultDescriptor}

theorem Puts.move {e e' : ObjectOwnerEntry ε} {edges : Finset ContainedReferenceEdge}
    (h : Puts self e e' attempt d edges) (hnow : e.currentAttempt = some attempt) :
    ResultMove c self.toPublicationHistory self.toPublicationHistory e.objectId e.toResultFields
      e'.toResultFields := by
  obtain ⟨hr, hstate, hloc⟩ := requirePublishable_eq_ok.mp h.publishable
  have hempty : e.locationAttempts = .empty := Dict.eq_empty hloc
  have herr := h.error
  have hinline := h.inline
  have hpending : e.state = .pending := by simpa using hstate
  rw [h.result]
  cases hs : d.storage with
  | inline =>
    obtain ⟨data, hdata, _⟩ := Option.map_eq_some_iff.mp (d.inline_payload hs).1
    simpa [hdata, herr, hempty] using ResultMove.publishedInline data
      (some (putIdentityOf attempt d)) edges hpending hloc (unretired_of_not hr) (.inr h.free)
  | objectStore =>
    simpa [hinline, herr, hempty, hnow] using ResultMove.publishedStored d.nodeId (some d)
      (some (putIdentityOf attempt d)) edges (.inl hpending) hloc (unretired_of_not hr)
      (fun _ _ d' hd => by simp [h.canonical] at hd) (.inr h.free)
      fun d' hd => .inr (by cases hd; exact ⟨h.objectId, hs⟩)

theorem publishPutValue_moves {o : ObjectID} {b : Bool}
    (h : self.publishPutValue o attempt d edges = .ok (b, s')) : Moves c self s' := by
  obtain ⟨d, e, children, _, he, hanswer⟩ := publishPutValue_cases h
  cases hanswer with
  | stale _ same => exact same ▸ .same
  | replayed _ _ same => exact same ▸ .same
  | rewritten now e' puts set =>
    exact .set he.entry set puts.frame.objectId puts.frame.references puts.frame.collection
      (fun _ => he.idle) (puts.move now.1)

end ObjectOwnerTable

end MiniRay
