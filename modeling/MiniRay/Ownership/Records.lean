import MiniRay.Ownership.Step

/-! The table keeps three kinds of records beside its entries: of contained pins, of Worker deaths
and of output publications. Few calls write one of them. -/

namespace MiniRay

open Checked

def CallerConditions.loose : CallerConditions where
  validated := False
  vacant := False
  renewed := False
  ordered := False
  identical := False
  bytes := False
  lineage := False
  integrity := False
  retires _ _ := True
  registers _ := True
  advances _ _ := True
  restates := True

namespace ObjectOwnerTable

variable {ε : Type} {s s' : ObjectOwnerTable ε}

/-- The records of contained pins, deaths and publications. -/
def records (s : ObjectOwnerTable ε) :=
  (s.containedRecords, s.deadWorkerCleanups, s.toPublicationHistory)

/-- The call leaves the records alone. -/
def SameRecords (s s' : ObjectOwnerTable ε) : Prop := s'.records = s.records

namespace SameRecords

theorem contained (h : SameRecords s s') : s'.containedRecords = s.containedRecords :=
  congrArg Prod.fst h

theorem deaths (h : SameRecords s s') : s'.deadWorkerCleanups = s.deadWorkerCleanups :=
  congrArg (fun records => records.2.1) h

theorem publications (h : SameRecords s s') : s'.toPublicationHistory = s.toPublicationHistory :=
  congrArg (fun records => records.2.2) h

theorem commit {α : Type} {x : Except Raised (α × ObjectOwnerTable ε)}
    (h : ∀ a s', x = .ok (a, s') → SameRecords s s') : SameRecords s (commit s x) :=
  commit_of rfl h

end SameRecords

theorem Uncontained.sameRecords (h : Uncontained s s') : SameRecords s s' := by
  rw [SameRecords, records, records, h.contained, h.dead, h.publications]

theorem RewritesOne.sameRecords (h : RewritesOne s s') : SameRecords s s' := by
  rcases h with rfl | ⟨_, _, _, _, _, _, rfl⟩
  · rfl
  · rfl

theorem Registers.sameRecords {o : ObjectID} (h : Registers s s' o) : SameRecords s s' := by
  rcases h.effect with rfl | ⟨e, token, _, _, rfl⟩ | ⟨_, attempt, spec, token, _, rfl⟩
  · rfl
  · rfl
  · rfl

theorem abortRegisteredTaskOutputs_sameRecords {plan : TaskOutputRegistrationPlan}
    {edges : List LineageReferenceEdge} {b : Bool}
    (h : s.abortRegisteredTaskOutputs plan edges = .ok (b, s')) : SameRecords s s' := by
  rcases abortRegisteredTaskOutputs_cases h with rfl | ⟨_, _, _, _, rfl, rfl | ⟨rfl, _⟩⟩
  · rfl
  · rfl
  · rfl

theorem Completed.sameRecords {plan : ObjectMetadataCollectionPlan} {e : ObjectOwnerEntry ε}
    {collection : ObjectMetadataCollection} (h : Completed s s' plan e collection) :
    SameRecords s s' := by
  have hcontained : s'.containedRecords = s.containedRecords :=
    congrArg ReferenceHistory.containedRecords h.references
  rw [SameRecords, records, records, hcontained, h.references, h.publications]

theorem installContainedEdges_sameRecords {o : ObjectID} {values : List ContainedReferenceEdge}
    {own : ∀ v ∈ values, v.containerObjectId = o} {n : Nat}
    (h : s.installContainedEdges o values own = .ok (n, s')) : SameRecords s s' := by
  simp only [installContainedEdges, bind_eq_ok] at h
  obtain ⟨e, _, _, _, h⟩ := h
  cases hm : e.val.outputPublication with
  | some membership =>
    simp only [hm, bind_eq_ok, pure_eq_ok, Prod.mk.injEq] at h
    obtain ⟨_, _, _, rfl⟩ := h
    rfl
  | none =>
    simp only [hm, pure_eq_ok, Prod.mk.injEq] at h
    obtain ⟨_, rfl⟩ := h
    rfl

/-! ## One step -/

/-- The calls that write the records of output publications. -/
def Op.Publishes : Op ε → Prop
  | .commitOutputPublication .. => True
  | .resolveOutputNodeLoss .. => True
  | .beginOutputPublicationRetirement .. => True
  | .completeOutputPublicationRetirement .. => True
  | _ => False

variable [BEq ε]

theorem step_sameRecords (s : ObjectOwnerTable ε) (op : Op ε) (hop : ¬ Op.MovesContained op)
    (hpublishes : ¬ Op.Publishes op) : SameRecords s (s.step op) := by
  by_cases hchanges : Op.ChangesReferences op
  · exact (step_uncontained s op hchanges hop).sameRecords
  by_cases hrewrites : Op.Rewrites op
  · exact (step_rewrites s op hrewrites).sameRecords
  cases op with
  | installDeadWorker => exact absurd trivial hop
  | commitOutputPublication => exact absurd trivial hpublishes
  | resolveOutputNodeLoss => exact absurd trivial hpublishes
  | beginOutputPublicationRetirement => exact absurd trivial hpublishes
  | completeOutputPublicationRetirement => exact absurd trivial hpublishes
  | register => exact .commit fun _ _ h => (register_cases h).sameRecords
  | commitRegisterTaskOutputs =>
    exact .commit fun _ _ h => (commitRegisterTaskOutputs_cases h).sameRecords
  | abortRegisteredTaskOutputs =>
    exact .commit fun _ _ h => abortRegisteredTaskOutputs_sameRecords h
  | removeLocation =>
    refine .commit fun _ _ h => ?_
    obtain ⟨_, _, _, ⟨_, rfl⟩ | ⟨_, _, rfl⟩⟩ := removeLocation_cases h
    · rfl
    · rfl
  | removeNodeLocations => rfl
  | addOutgoingLineageEdge =>
    refine .commit fun _ _ h => ?_
    obtain ⟨_, _, _, _, rfl⟩ := addOutgoingLineageEdge_cases h
    rfl
  | abortTaskLineageEdges =>
    refine .commit fun _ _ h => ?_
    rcases abortTaskLineageEdgesLocked_cases h with rfl | ⟨rfl, _⟩
    · rfl
    · rfl
  | addOutgoingContainedEdge =>
    refine .commit fun _ _ h => ?_
    simp only [addOutgoingContainedEdge, bind_eq_ok, pure_eq_ok] at h
    obtain ⟨_, _, ⟨_, _⟩, h, hs⟩ := h
    cases hs
    exact installContainedEdges_sameRecords h
  | addOutgoingContainedEdges =>
    refine .commit fun _ _ h => ?_
    simp only [addOutgoingContainedEdges, bind_eq_ok] at h
    obtain ⟨_, _, h⟩ := h
    exact installContainedEdges_sameRecords h
  | collectIfUnused =>
    refine .commit fun _ _ h => ?_
    rcases collectIfUnused_cases h with rfl | ⟨_, _, _, rfl⟩
    · rfl
    · rfl
  | collectUnusedWithEdges =>
    refine .commit fun _ _ h => ?_
    rcases collectUnusedWithEdges_cases h with rfl | ⟨_, _, _, _, _, _, rfl⟩
    · rfl
    · rfl
  | beginCollection =>
    refine .commit fun _ _ h => ?_
    rcases beginCollection_cases h with rfl | ⟨_, _, _, hb⟩
    · rfl
    · exact hb.table_eq ▸ rfl
  | beginOutputPublicationCollection =>
    refine .commit fun _ _ h => ?_
    rcases beginOutputPublicationCollection_cases h with rfl | ⟨_, _, _, _, hb, _⟩
    · rfl
    · exact hb.table_eq ▸ rfl
  | completeOutputPublicationCollection =>
    refine .commit fun _ _ h => ?_
    rcases completeOutputPublicationCollection_cases h with ⟨_, rfl⟩ | ⟨_, _, hc⟩
    · rfl
    · exact hc.sameRecords
  | completeCollection =>
    refine .commit fun _ _ h => ?_
    obtain ⟨_, hc⟩ := completeCollection_cases h
    exact hc.sameRecords
  | _ => first | exact absurd trivial hchanges | exact absurd trivial hrewrites

theorem step_references (s : ObjectOwnerTable ε) (op : Op ε) (hop : Op.Publishes op) :
    (s.step op).toReferenceHistory = s.toReferenceHistory := by
  have hmoves : ∀ {α : Type} {x : Except Raised (α × ObjectOwnerTable ε)},
      (∀ a s', x = .ok (a, s') → Moves .loose s s') →
        (commit s x).toReferenceHistory = s.toReferenceHistory := by
    intro α x h
    refine commit_of
      (p := fun t : ObjectOwnerTable ε => t.toReferenceHistory = s.toReferenceHistory) rfl ?_
    intro a s' hx
    rcases h a s' hx with rfl | ⟨_, _, hentry⟩
    · rfl
    · exact hentry.referenceHistory
  cases op with
  | commitOutputPublication => exact hmoves fun _ _ h => commitOutputPublication_moves h
  | resolveOutputNodeLoss =>
    exact hmoves fun _ _ h => resolveOutputNodeLoss_moves h (fun _ => trivial) nofun
  | beginOutputPublicationRetirement =>
    exact hmoves fun _ _ h => beginOutputPublicationRetirement_moves h
  | completeOutputPublicationRetirement =>
    exact hmoves fun _ _ h => completeOutputPublicationRetirement_moves h trivial
  | _ => exact hop.elim

end ObjectOwnerTable

end MiniRay
