import MiniRay.Ownership.Results

/-! What an object's final collection will have to release: the dependencies of its task, and the
children its value contains. -/

namespace MiniRay

open Checked

namespace ObjectOwnerTable

variable {ε : Type} {self s' : ObjectOwnerTable ε} {keeps : ObjectID → ReferenceToken → Prop}
  {c : CallerConditions}

/-! ## Task lineage -/

/-- The output manifest of the entry's producer. -/
def lineageManifest (objectId : ObjectID) (e : ObjectOwnerEntry ε) :
    Except Raised (List ObjectID) :=
  match e.producerTaskSpec with
  | none => .ok [objectId]
  | some spec => do
      raiseIf (objectId ∉ spec.returnIds)
        ⟨.invalidObjectTransition, "producer entry is outside its task output manifest"⟩
      return spec.returnIds

/-- The authority of a task, created on first use. -/
def lineageAuthority (self : ObjectOwnerTable ε) (taskId : TaskID) (outputIds : List ObjectID) :
    Except Raised TaskLineageAuthority :=
  match self.taskLineage.get? taskId with
  | none => .ok ⟨taskId, outputIds, ∅⟩
  | some authority => do
      raiseIf (authority.outputIds ≠ outputIds)
        ⟨.invalidObjectTransition, "task lineage output manifest changed"⟩
      return authority

/-- Record dependency release work under its task. -/
def addOutgoingLineageEdge (self : ObjectOwnerTable ε) (objectId : ObjectID)
    (edge : LineageReferenceEdge) : Except Raised (Bool × ObjectOwnerTable ε) := do
  raiseIf (edge.producerObjectId ≠ objectId)
    ⟨.valueError, "lineage edge must name the entry as its producer"⟩
  let e ← self.entry objectId
  requireNotCollecting e (collectionIsPending objectId)
  let outputIds ← lineageManifest objectId e
  let authority ← self.lineageAuthority objectId.taskId outputIds
  let obligation : TaskLineageObligation :=
    ⟨objectId.taskId, edge.dependencyObjectId, edge.token, edge.token_ne⟩
  return (decide (obligation ∉ authority.obligations), { self with
    taskLineage := self.taskLineage.set objectId.taskId
      { authority with obligations := insert obligation authority.obligations } })

variable {o : ObjectID} {edge : LineageReferenceEdge} {b : Bool}

theorem addOutgoingLineageEdge_cases (h : self.addOutgoingLineageEdge o edge = .ok (b, s')) :
    ∃ e authority, self.entries.get? o = some e ∧ e.collectionPending = false ∧
      s' = { self with taskLineage := self.taskLineage.set o.taskId authority } := by
  simp only [addOutgoingLineageEdge, bind_eq_ok, entry_eq_ok, requireNotCollecting_eq_ok,
    pure_eq_ok, Prod.mk.injEq] at h
  obtain ⟨_, _, e, he, _, hidle, _, _, _, _, _, rfl⟩ := h
  exact ⟨e, _, he, hidle, rfl⟩

theorem addOutgoingLineageEdge_references (h : self.addOutgoingLineageEdge o edge = .ok (b, s')) :
    ReferenceSpec keeps self s' := by
  obtain ⟨_, _, _, _, rfl⟩ := addOutgoingLineageEdge_cases h
  exact .of_kept (fun _ => rfl) rfl rfl

variable {t : TaskID}

theorem lineage_results {lineage : Dict TaskID TaskLineageAuthority}
    (hother : ∀ t', t' ≠ t → lineage.get? t' = self.taskLineage.get? t')
    (hidle : c.lineage → ∀ x e, self.entries.get? x = some e → e.collectionPending = true →
      x.taskId ≠ t) :
    ResultSpec c self { self with taskLineage := lineage } := by
  refine ⟨fun o => .refl .., Finset.Subset.refl _, fun _ h => h, fun _ h => .inl h,
    fun _ h => .inl h, ?_⟩
  intro hc x e e' l he hpending _ hl
  rw [← hl]
  exact finalTaskLineage_congr (hother _ (hidle hc x e he hpending))

theorem addOutgoingLineageEdge_results (h : self.addOutgoingLineageEdge o edge = .ok (b, s'))
    (hlineage : c.lineage → ∀ x e, self.entries.get? x = some e → e.collectionPending = true →
      x.taskId = o.taskId → x = o) :
    ResultSpec c self s' := by
  obtain ⟨e, _, he, hidle, rfl⟩ := addOutgoingLineageEdge_cases h
  refine lineage_results (fun t ht => Dict.get?_set_of_ne _ _ ht.symm) ?_
  intro hc x e' he' hpending ht
  obtain rfl := hlineage hc x e' he' hpending ht
  rw [he] at he'
  cases he'
  simp [hidle] at hpending

/-- Withdraw exactly the unexposed obligations of a task. -/
def abortTaskLineageEdges (self : ObjectOwnerTable ε) (taskId : TaskID)
    (expectedEdges : List LineageReferenceEdge) : Except Raised (Bool × ObjectOwnerTable ε) :=
  self.abortTaskLineageEdgesLocked taskId expectedEdges none

variable {edges : List LineageReferenceEdge}

theorem abortTaskLineageEdges_references (h : self.abortTaskLineageEdges t edges = .ok (b, s')) :
    ReferenceSpec keeps self s' := by
  rcases abortTaskLineageEdgesLocked_cases h with rfl | ⟨rfl, _⟩
  · exact .refl _
  · exact .of_kept (fun _ => rfl) rfl rfl

theorem abortTaskLineageEdges_results (h : self.abortTaskLineageEdges t edges = .ok (b, s'))
    (hlineage : c.lineage → ∀ x e, self.entries.get? x = some e → e.collectionPending = true →
      x.taskId ≠ t) :
    ResultSpec c self s' := by
  rcases abortTaskLineageEdgesLocked_cases h with rfl | ⟨rfl, _⟩
  · exact .refl _
  · exact lineage_results (fun t ht => Dict.get?_erase_of_ne _ ht.symm) hlineage

/-! ## Contained children -/

/-- Install container edges; an adopted output slot only repeats its own. -/
def installContainedEdges (self : ObjectOwnerTable ε) (objectId : ObjectID)
    (values : List ContainedReferenceEdge) (own : ∀ v ∈ values, v.containerObjectId = objectId) :
    Except Raised (Nat × ObjectOwnerTable ε) := do
  let e ← self.keyedEntry objectId
  requireNotCollecting e.val (collectionIsPending objectId)
  match e.val.outputPublication with
  | some membership => do
      raiseIf (∃ v ∈ values, v ∉ membership.slot.edges)
        ⟨.outputOwnerPublicationConflict, "cannot change edges of an adopted output slot"⟩
      return (0, self)
  | none =>
    let edges := e.val.outgoingContainedEdges ∪ values.toFinset
    return (edges.card - e.val.outgoingContainedEdges.card, self.setEntry { e.val with
      outgoingContainedEdges := edges
      own_edges := by
        intro v hv
        rcases Finset.mem_union.mp hv with hv | hv
        · exact e.val.own_edges v hv
        · rw [e.property]
          exact own v (List.mem_toFinset.mp hv) })

theorem installContainedEdges_moves {values : List ContainedReferenceEdge}
    {own : ∀ v ∈ values, v.containerObjectId = o} {n : Nat}
    (h : self.installContainedEdges o values own = .ok (n, s')) : Moves c self s' := by
  simp only [installContainedEdges, bind_eq_ok, keyedEntry_eq_ok, requireNotCollecting_eq_ok] at h
  obtain ⟨e, he, _, hidle, h⟩ := h
  cases hm : e.val.outputPublication with
  | some membership =>
    simp only [hm, bind_eq_ok, pure_eq_ok, Prod.mk.injEq] at h
    obtain ⟨_, _, _, rfl⟩ := h
    exact .same
  | none =>
    simp only [hm, pure_eq_ok, Prod.mk.injEq] at h
    obtain ⟨_, rfl⟩ := h
    exact .set he rfl rfl rfl rfl (fun _ => hidle)
      (by simpa only [hm] using ResultMove.edged _ hm)

/-- Record release work owned by a container's metadata. -/
def addOutgoingContainedEdge (self : ObjectOwnerTable ε) (objectId : ObjectID)
    (edge : ContainedReferenceEdge) : Except Raised (Bool × ObjectOwnerTable ε) := do
  let ⟨own⟩ ← certify (∀ v ∈ [edge], v.containerObjectId = objectId)
    ⟨.valueError, "contained edge must name the entry as its container"⟩
  let (installed, table) ← self.installContainedEdges objectId [edge] own
  return (decide (installed ≠ 0), table)

theorem addOutgoingContainedEdge_moves {edge : ContainedReferenceEdge}
    (h : self.addOutgoingContainedEdge o edge = .ok (b, s')) : Moves c self s' := by
  simp only [addOutgoingContainedEdge, bind_eq_ok, pure_eq_ok] at h
  obtain ⟨_, _, ⟨_, _⟩, h, hs⟩ := h
  cases hs
  exact installContainedEdges_moves h

/-- Install a deduplicated batch of container edges. -/
def addOutgoingContainedEdges (self : ObjectOwnerTable ε) (objectId : ObjectID)
    (edges : List ContainedReferenceEdge) : Except Raised (Nat × ObjectOwnerTable ε) := do
  let ⟨own⟩ ← certify (∀ v ∈ edges, v.containerObjectId = objectId)
    ⟨.valueError, "every contained edge must name the entry as its container"⟩
  self.installContainedEdges objectId edges own

theorem addOutgoingContainedEdges_moves {edges : List ContainedReferenceEdge} {n : Nat}
    (h : self.addOutgoingContainedEdges o edges = .ok (n, s')) : Moves c self s' := by
  simp only [addOutgoingContainedEdges, bind_eq_ok] at h
  obtain ⟨_, _, h⟩ := h
  exact installContainedEdges_moves h

end ObjectOwnerTable

end MiniRay
