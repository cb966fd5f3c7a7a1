import MiniRay.Ownership.Step

/-! From the moment a retirement is begun until it completes, its output is frozen: every other call
either refuses the entry or changes its references alone. -/

namespace MiniRay

open Checked Run

/-- A lost, published output without replicas that no collection has claimed. -/
structure ObjectOwnerEntry.Frozen {ε : Type} (e : ObjectOwnerEntry ε) : Prop where
  marked : e.outputRetirementId ≠ none
  lost : e.state = .lost
  published : e.outputPublication ≠ none
  vacant : e.locationAttempts.items = []
  unclaimed : e.toCollectionFields = ⟨false, none⟩

/-- The entry as it was, its references apart. -/
def ObjectOwnerEntry.SameResult {ε : Type} (e e' : ObjectOwnerEntry ε) : Prop :=
  e'.toResultFields = e.toResultFields ∧ e'.toCollectionFields = e.toCollectionFields

theorem ObjectOwnerEntry.SameResult.refl {ε : Type} (e : ObjectOwnerEntry ε) : e.SameResult e :=
  ⟨rfl, rfl⟩

namespace ObjectOwnerTable

variable {ε : Type} {s s' : ObjectOwnerTable ε} {o : ObjectID} {e e' : ObjectOwnerEntry ε}

/-! ## Calls outside retirements -/

/-- What a call other than the two of a retirement leaves alone. -/
structure KeepsFrozen (s s' : ObjectOwnerTable ε) : Prop where
  entries : ∀ o e, s.entries.get? o = some e → e.Frozen →
    ∃ e', s'.entries.get? o = some e' ∧ e.SameResult e'
  plans : s'.outputRetirementPlans = s.outputRetirementPlans
  receipts : s'.outputRetirementReceipts = s.outputRetirementReceipts
  publications : ∀ p m, s.outputPublicationReceipts.get? p = some m →
    s'.outputPublicationReceipts.get? p = some m
  deaths : ∀ w cleanup, s.deadWorkerCleanups.get? w = some cleanup →
    s'.deadWorkerCleanups.get? w = some cleanup

namespace KeepsFrozen

theorem refl (s : ObjectOwnerTable ε) : KeepsFrozen s s :=
  ⟨fun _ e he _ => ⟨e, he, .refl e⟩, rfl, rfl, fun _ _ h => h, fun _ _ h => h⟩

theorem of_entries (hentries : ∀ o e, s.entries.get? o = some e → e.Frozen →
      ∃ e', s'.entries.get? o = some e' ∧ e.SameResult e')
    (hpublications : s'.toPublicationHistory = s.toPublicationHistory)
    (hdeaths : s'.deadWorkerCleanups = s.deadWorkerCleanups) : KeepsFrozen s s' := by
  refine ⟨hentries, by rw [hpublications], by rw [hpublications], ?_, ?_⟩
  · intro p m h
    rwa [hpublications]
  · intro w cleanup h
    rwa [hdeaths]

theorem entries_set (he : s.entries.get? o = some e)
    (hentries : s'.entries = (s.setEntry e').entries) (hid : e'.objectId = e.objectId)
    (hfree : e.Frozen → e.SameResult e') :
    ∀ x e₁, s.entries.get? x = some e₁ → e₁.Frozen →
      ∃ e₂, s'.entries.get? x = some e₂ ∧ e₁.SameResult e₂ := by
  intro x e₁ he₁ hfrozen
  rw [hentries, get?_setEntry, hid, s.keyed o e he]
  by_cases hx : o = x
  · subst hx
    cases he.symm.trans he₁
    exact ⟨e', if_pos rfl, hfree hfrozen⟩
  · exact ⟨e₁, by rw [if_neg hx, he₁], .refl e₁⟩

theorem set (he : s.entries.get? o = some e) (hs : s' = s.setEntry e')
    (hid : e'.objectId = e.objectId) (hfree : e.Frozen → e.SameResult e') : KeepsFrozen s s' := by
  subst hs
  exact of_entries (entries_set he rfl hid hfree) rfl rfl

theorem erase (he : s.entries.get? o = some e) (hfree : ¬ e.Frozen)
    (hentries : s'.entries = (s.eraseEntry o).entries)
    (hpublications : s'.toPublicationHistory = s.toPublicationHistory)
    (hdeaths : s'.deadWorkerCleanups = s.deadWorkerCleanups) : KeepsFrozen s s' := by
  refine of_entries ?_ hpublications hdeaths
  intro x e₁ he₁ hfrozen
  rw [hentries, get?_eraseEntry]
  by_cases hx : o = x
  · subst hx
    cases he.symm.trans he₁
    exact absurd hfrozen hfree
  · exact ⟨e₁, by rw [if_neg hx, he₁], .refl e₁⟩

end KeepsFrozen

theorem Changes.keepsFrozen (h : Changes s s') : KeepsFrozen s s' := by
  refine .of_entries ?_ h.publications h.dead
  intro o e he _
  rcases h.effect with rfl | ⟨x, ha⟩ | ⟨e₁, e₂, hc⟩
  · exact ⟨e, he, .refl e⟩
  · exact ⟨e, by rw [ha.entries, he], .refl e⟩
  · rw [hc.entries, get?_setEntry, hc.objectId]
    by_cases hx : e₁.objectId = o
    · subst hx
      cases hc.entry.symm.trans he
      exact ⟨e₂, if_pos rfl, hc.result, hc.collection⟩
    · exact ⟨e, by rw [if_neg hx, he], .refl e⟩

theorem RewritesOne.keepsFrozen (h : RewritesOne s s') : KeepsFrozen s s' := by
  rcases h with rfl | ⟨o, e, e', he, hunmarked, hid, hs⟩
  · exact .refl _
  · exact .set he hs hid fun hf => absurd hunmarked hf.marked

theorem Registers.keepsFrozen (h : Registers s s' o) : KeepsFrozen s s' := by
  rcases h.effect with rfl | ⟨e, token, he, hidle, rfl⟩ | ⟨ho, attempt, spec, token, ht, rfl⟩
  · exact .refl _
  · exact .set he rfl rfl fun _ => ⟨rfl, rfl⟩
  · refine .of_entries ?_ rfl rfl
    intro x e he _
    refine ⟨e, ?_, .refl e⟩
    rw [get?_setEntry, if_neg, he]
    rintro rfl
    simp [ObjectOwnerEntry.fresh, ho] at he

variable {b : Bool}

theorem abortRegisteredTaskOutputs_keepsFrozen {plan : TaskOutputRegistrationPlan}
    {edges : List LineageReferenceEdge} (h : s.abortRegisteredTaskOutputs plan edges =
      .ok (b, s')) :
    KeepsFrozen s s' := by
  rcases abortRegisteredTaskOutputs_cases h with rfl | ⟨e, aborted, he, ha, rfl, haborted⟩
  · exact .refl _
  · obtain ⟨_, _, hpending, _⟩ := ha.abortable
    have hfree : ¬ e.Frozen := fun hf => by simp [hf.lost] at hpending
    rcases haborted with rfl | ⟨rfl, _⟩
    · exact .erase he hfree rfl rfl rfl
    · exact .erase he hfree rfl rfl rfl

theorem installDeadWorker_keepsFrozen {w : WorkerID} {deathId : String}
    {cleanup : DeadWorkerReferenceCleanup}
    (h : s.installDeadWorker w deathId = .ok (cleanup, s')) : KeepsFrozen s s' := by
  rcases installDeadWorker_cases h with ⟨_, rfl⟩ | ⟨record, rfl, rfl, hset⟩
  · exact .refl _
  · subst hset
    refine ⟨?_, rfl, rfl, fun _ _ hp => hp, fun v known hv => installDeadWorker_keeps h hv⟩
    intro o e he _
    exact ⟨e.withoutWorker record.workerId, by simp [he], rfl, rfl⟩

theorem withoutReplica_frozen (hf : e.Frozen) (node : NodeID) :
    e.SameResult (withoutReplica e node) := by
  have hempty : e.locationAttempts = .empty := Dict.eq_empty hf.vacant
  have herase : e.locationAttempts.erase node = e.locationAttempts := by rw [hempty]; rfl
  have hstate : (if e.state = .readyStored ∧ e.locationAttempts.items = [] then .lost
      else e.state) = e.state := if_neg (by simp [hf.lost])
  refine ⟨?_, rfl⟩
  simp only [withoutReplica, herase, hstate]

theorem removeLocation_keepsFrozen {attempt : Option AttemptID} {node : NodeID}
    (h : s.removeLocation o attempt node = .ok (b, s')) : KeepsFrozen s s' := by
  obtain ⟨e, he, _, ⟨_, rfl⟩ | ⟨_, _, hs⟩⟩ := removeLocation_cases h
  · exact .refl _
  · exact .set he hs rfl fun hf => withoutReplica_frozen hf node

theorem removeNodeLocations_keepsFrozen (s : ObjectOwnerTable ε) (node : NodeID) :
    KeepsFrozen s (s.removeNodeLocations node).2 := by
  refine .of_entries ?_ rfl rfl
  intro o e he hf
  refine ⟨withoutNode node e, by simp [removeNodeLocations, he], ?_⟩
  unfold withoutNode
  split
  · exact withoutReplica_frozen hf node
  · exact .refl e

theorem installContainedEdges_keepsFrozen {values : List ContainedReferenceEdge}
    {own : ∀ v ∈ values, v.containerObjectId = o} {n : Nat}
    (h : s.installContainedEdges o values own = .ok (n, s')) : KeepsFrozen s s' := by
  simp only [installContainedEdges, bind_eq_ok, keyedEntry_eq_ok] at h
  obtain ⟨e, he, _, _, h⟩ := h
  cases hm : e.val.outputPublication with
  | some membership =>
    simp only [hm, bind_eq_ok, pure_eq_ok, Prod.mk.injEq] at h
    obtain ⟨_, _, _, rfl⟩ := h
    exact .refl _
  | none =>
    simp only [hm, pure_eq_ok, Prod.mk.injEq] at h
    exact .set he h.2.symm rfl fun hf => absurd hm hf.published

theorem keepsFrozen_of_lineage (lineage : Dict TaskID TaskLineageAuthority) :
    KeepsFrozen s { s with taskLineage := lineage } :=
  .of_entries (fun _ e he _ => ⟨e, he, .refl e⟩) rfl rfl

theorem commitOutputPublication_keepsFrozen {plan : OutputOwnerPublicationPlan}
    {receipt : OutputOwnerPublicationReceipt}
    (h : s.commitOutputPublication plan = .ok (receipt, s')) : KeepsFrozen s s' := by
  have hkeep := commitOutputPublication_receipts h
  rcases commitOutputPublication_cases h with ⟨_, _, rfl⟩ | ⟨_, e, hid, happ, rfl⟩
  · exact .refl _
  · refine ⟨?_, rfl, rfl, hkeep, fun _ _ h => h⟩
    exact KeepsFrozen.entries_set happ.entry rfl rfl fun hf => absurd happ.free hf.published

theorem resolveOutputNodeLoss_keepsFrozen {manifest : OutputPublicationManifest}
    {resolution : NodeLostOutputResolution} {envelope : Option OutputPublicationEnvelope}
    {nodes : List NodeID}
    (h : s.resolveOutputNodeLoss manifest resolution envelope nodes = .ok (b, s')) :
    KeepsFrozen s s' := by
  rcases resolveOutputNodeLoss_quiet h with rfl | hquiet
  · exact .refl _
  rcases resolveOutputNodeLoss_cases h with ⟨_, rfl⟩ |
    ⟨_, e, e', he, hres, hentries, href, _, heffect⟩
  · exact .refl _
  have hid : e'.objectId = e.objectId := by
    rcases heffect with ⟨_, rfl, _⟩ | ⟨_, rfl, _⟩ <;> rfl
  refine ⟨?_, hquiet.plans, hquiet.receipts, hquiet.publications, fun _ _ hd => by rwa [href]⟩
  exact KeepsFrozen.entries_set hres.entry hentries hid
    fun hf => absurd (hquiet.unmarked e (he ▸ hres.entry)) hf.marked

variable {plan : ObjectMetadataCollectionPlan}

theorem Begun.keepsFrozen {size : Option Nat} {checksum : Option String}
    (h : Begun s s' o size checksum e plan) (hunmarked : e.outputRetirementId = none) :
    KeepsFrozen s s' :=
  .set h.entry h.table_eq rfl fun hf => absurd hunmarked hf.marked

theorem Completed.keepsFrozen {collection : ObjectMetadataCollection}
    (h : Completed s s' plan e collection)
    (hpending : ∃ e, s.entries.get? plan.objectId = some e ∧ e.collectionPending = true) :
    KeepsFrozen s s' := by
  obtain ⟨e₁, he₁, hp⟩ := hpending
  cases h.entry.symm.trans he₁
  refine .erase he₁ (fun hf => ?_) h.entries h.publications (by rw [h.references])
  have hu : e.collectionPending = false := congrArg CollectionFields.collectionPending hf.unclaimed
  simp [hu] at hp

theorem KeepsFrozen.commit {α : Type} {x : Except Raised (α × ObjectOwnerTable ε)}
    (h : ∀ a s', x = .ok (a, s') → KeepsFrozen s s') : KeepsFrozen s (commit s x) :=
  commit_of (.refl s) h

def Op.IsRetirement : Op ε → Prop
  | .beginOutputPublicationRetirement .. => True
  | .completeOutputPublicationRetirement .. => True
  | _ => False

variable [BEq ε]

theorem step_keepsFrozen (s : ObjectOwnerTable ε) (op : Op ε) (hop : ¬ Op.IsRetirement op) :
    KeepsFrozen s (s.step op) := by
  by_cases hchanges : Op.ChangesReferences op
  · exact (step_changes s op hchanges).keepsFrozen
  by_cases hrewrites : Op.Rewrites op
  · exact (step_rewrites s op hrewrites).keepsFrozen
  cases op with
  | register => exact .commit fun _ _ h => (register_cases h).keepsFrozen
  | commitRegisterTaskOutputs =>
    exact .commit fun _ _ h => (commitRegisterTaskOutputs_cases h).keepsFrozen
  | abortRegisteredTaskOutputs =>
    exact .commit fun _ _ h => abortRegisteredTaskOutputs_keepsFrozen h
  | installDeadWorker => exact .commit fun _ _ h => installDeadWorker_keepsFrozen h
  | removeLocation => exact .commit fun _ _ h => removeLocation_keepsFrozen h
  | removeNodeLocations node => exact removeNodeLocations_keepsFrozen s node
  | commitOutputPublication => exact .commit fun _ _ h => commitOutputPublication_keepsFrozen h
  | resolveOutputNodeLoss => exact .commit fun _ _ h => resolveOutputNodeLoss_keepsFrozen h
  | beginOutputPublicationRetirement => exact absurd trivial hop
  | completeOutputPublicationRetirement => exact absurd trivial hop
  | addOutgoingLineageEdge =>
    refine .commit fun _ _ h => ?_
    obtain ⟨_, _, _, _, rfl⟩ := addOutgoingLineageEdge_cases h
    exact keepsFrozen_of_lineage _
  | abortTaskLineageEdges =>
    refine .commit fun _ _ h => ?_
    rcases abortTaskLineageEdgesLocked_cases h with rfl | ⟨rfl, _⟩
    · exact .refl _
    · exact keepsFrozen_of_lineage _
  | addOutgoingContainedEdge =>
    refine .commit fun _ _ h => ?_
    simp only [addOutgoingContainedEdge, bind_eq_ok, pure_eq_ok] at h
    obtain ⟨_, _, ⟨_, _⟩, h, hs⟩ := h
    cases hs
    exact installContainedEdges_keepsFrozen h
  | addOutgoingContainedEdges =>
    refine .commit fun _ _ h => ?_
    simp only [addOutgoingContainedEdges, bind_eq_ok] at h
    obtain ⟨_, _, h⟩ := h
    exact installContainedEdges_keepsFrozen h
  | collectIfUnused =>
    refine .commit fun _ _ h => ?_
    rcases collectIfUnused_cases h with rfl | ⟨e, he, hforget, rfl⟩
    · exact .refl _
    · obtain ⟨_, _, _, _, _, _, hunmarked, _⟩ := hforget
      exact .erase he (fun hf => hf.marked hunmarked) rfl rfl rfl
  | collectUnusedWithEdges =>
    refine .commit fun _ _ h => ?_
    rcases collectUnusedWithEdges_cases h with rfl | ⟨e, l, he, _, hrelease, _, rfl⟩
    · exact .refl _
    · exact .erase he (fun hf => hf.published hrelease.2.2) rfl rfl rfl
  | beginCollection =>
    refine .commit fun _ _ h => ?_
    have hunmarked := beginCollection_unmarked h
    rcases beginCollection_cases h with rfl | ⟨e, plan, _, hb⟩
    · exact .refl _
    · exact hb.keepsFrozen (hunmarked e hb.entry)
  | beginOutputPublicationCollection =>
    refine .commit fun _ _ h => ?_
    rcases beginOutputPublicationCollection_unmarked h with rfl | hunmarked
    · exact .refl _
    rcases beginOutputPublicationCollection_cases h with rfl | ⟨e, plan, size, checksum, hb, _⟩
    · exact .refl _
    · exact hb.keepsFrozen (hunmarked e hb.entry)
  | completeOutputPublicationCollection =>
    refine .commit fun _ _ h => ?_
    rcases completeOutputPublicationCollection_pending h with rfl | hpending
    · exact .refl _
    rcases completeOutputPublicationCollection_cases h with ⟨_, rfl⟩ | ⟨e, _, hc⟩
    · exact .refl _
    · exact hc.keepsFrozen hpending
  | completeCollection =>
    refine .commit fun _ _ h => ?_
    obtain ⟨e, hc⟩ := completeCollection_cases h
    exact hc.keepsFrozen (completeCollection_pending h)
  | _ => first | exact absurd trivial hchanges | exact absurd trivial hrewrites

end ObjectOwnerTable

end MiniRay
