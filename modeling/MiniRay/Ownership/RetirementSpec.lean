import MiniRay.Ownership.Retiring

/-! A begin freezes the output with its cleanup plan; a completion with exactly the acknowledgements
of the plan clears it, once. -/

namespace MiniRay

open Checked Run

namespace ObjectOwnerTable

variable {ε : Type} {s s' : ObjectOwnerTable ε} {o : ObjectID} {e e' : ObjectOwnerEntry ε}

/-! ## The two calls of a retirement -/

variable {member : OutputOwnerPublicationMembership} {id : String} {u : Unit}

theorem frozen_of_validated (h : s.validateOutputRetirementEntry e member (some id) = .ok u) :
    e.Frozen := by
  simp only [validateOutputRetirementEntry, bind_eq_ok, requireNotCollecting_eq_ok, raiseIf_eq_ok,
    not_or, not_not] at h
  obtain ⟨_, hidle, _, hmarked, _, ⟨_, hmember, _, hlost, hvacant, _, hclaim, _⟩, _⟩ := h
  refine ⟨by simp [hmarked], hlost, by simp [hmember], hvacant, ?_⟩
  rw [← hidle, ← hclaim]

theorem marker_of_validated {id : Option String}
    (h : s.validateOutputRetirementEntry e member id = .ok u) : e.outputRetirementId = id := by
  simp only [validateOutputRetirementEntry, bind_eq_ok, raiseIf_eq_ok, ne_eq, not_not] at h
  obtain ⟨_, _, _, hmarker, _⟩ := h
  exact hmarker

theorem validateOutputRetirementEntry_kept {id : Option String}
    (h : s.validateOutputRetirementEntry e member id = .ok u) (hsame : e.SameResult e')
    (hpublications : ∀ p m, s.outputPublicationReceipts.get? p = some m →
      s'.outputPublicationReceipts.get? p = some m) :
    s'.validateOutputRetirementEntry e' member id = .ok u := by
  obtain ⟨hresult, hcollection⟩ := hsame
  simp only [validateOutputRetirementEntry, LostResultIntact, bind_eq_ok,
    requireNotCollecting_eq_ok, raiseIf_eq_ok, not_or, not_not, hresult, hcollection] at h ⊢
  obtain ⟨u₁, hidle, u₂, hmarked, u₃, ⟨hreceipt, hrest⟩, hintact⟩ := h
  exact ⟨u₁, hidle, u₂, hmarked, u₃, ⟨hpublications _ _ hreceipt, hrest⟩, by simpa using hintact⟩

theorem validateOutputRetirementEntry_marked
    (h : s.validateOutputRetirementEntry e member none = .ok u) (id : String)
    (hpublications : ∀ p m, s.outputPublicationReceipts.get? p = some m →
      s'.outputPublicationReceipts.get? p = some m) :
    s'.validateOutputRetirementEntry { e with outputRetirementId := some id } member (some id) =
      .ok u := by
  simp only [validateOutputRetirementEntry, LostResultIntact, bind_eq_ok,
    requireNotCollecting_eq_ok, raiseIf_eq_ok, not_or, not_not] at h ⊢
  obtain ⟨u₁, hidle, u₂, _, u₃, ⟨hreceipt, hrest⟩, hintact⟩ := h
  exact ⟨u₁, hidle, u₂, trivial, u₃, ⟨hpublications _ _ hreceipt, hrest⟩, by simpa using hintact⟩

/-- A first begin marks the entry and records the plan. -/
structure Marks (s s' : ObjectOwnerTable ε) (plan : OutputOwnerPublicationRetirementPlan)
    (e : ObjectOwnerEntry ε) : Prop where
  fresh : s.outputRetirementPlans.get? plan.retirementId = none
  entry : s.entries.get? plan.member.objectId = some e
  valid : s.validateOutputRetirementEntry e plan.member none = .ok ()
  effect : s' = { s.setEntry { e with outputRetirementId := some plan.retirementId } with
    outputRetirementPlans := s.outputRetirementPlans.set plan.retirementId plan }

variable {ms : List OutputOwnerPublicationMembership} {locations : Dict ObjectID (List NodeID)}

theorem beginOutputPublicationRetirement_cases {plan : OutputOwnerPublicationRetirementPlan}
    (h : s.beginOutputPublicationRetirement ms id locations = .ok (plan, s')) :
    s.outputRetirementPlans.get? id = some plan ∧ s' = s ∨
      plan.retirementId = id ∧ ∃ e, Marks s s' plan e := by
  simp only [beginOutputPublicationRetirement, bind_eq_ok] at h
  obtain ⟨_, _, drops, _, created, hcreate, h⟩ := h
  simp only [OutputOwnerPublicationRetirementPlan.create, bind_eq_ok, pure_eq_ok] at hcreate
  obtain ⟨_, _, _, _, _, _, _, _, _, _, hplan⟩ := hcreate
  have hid : created.retirementId = id := by rw [← hplan]
  cases hp : s.outputRetirementPlans.get? id with
  | some previous =>
    simp only [hp, bind_eq_ok, pure_eq_ok, Prod.mk.injEq] at h
    obtain ⟨_, _, rfl, rfl⟩ := h
    exact .inl ⟨rfl, rfl⟩
  | none =>
    simp only [hp, bind_eq_ok, entry_eq_ok, pure_eq_ok, Prod.mk.injEq] at h
    obtain ⟨e, he, _, hv, rfl, rfl⟩ := h
    subst hid
    exact .inr ⟨rfl, e, hp, he, hv, rfl⟩

/-- One valid acknowledgement per obligation, with the installed deaths of child owners. -/
structure Acknowledged (s : ObjectOwnerTable ε) (plan : OutputOwnerPublicationRetirementPlan)
    (edges : List ChildCleanup) (replicas : List ReplicaCleanup) : Prop where
  every_edge : edges.length = plan.containedReleases.length
  acknowledged : ∀ pair ∈ edges.zip plan.containedReleases, pair.1.Acknowledges pair.2
  every_replica : replicas.length = plan.replicaDrops.length
  discharged : ∀ pair ∈ replicas.zip plan.replicaDrops,
    pair.1.Discharges plan.member.manifest.header.nodeIncarnation pair.2
  deaths : ∀ record, ChildCleanup.death record ∈ edges →
    (s.deadWorkerCleanups.get? record.workerId).map (fun cleanup => cleanup.record.deathId) =
      some (retirementChildDeathId record)

variable {plan : OutputOwnerPublicationRetirementPlan} {edges : List ChildCleanup}
  {replicas : List ReplicaCleanup} {r : OutputOwnerPublicationRetirementReceipt}

namespace Acknowledged

def receipt (h : Acknowledged s plan edges replicas) : OutputOwnerPublicationRetirementReceipt :=
  ⟨plan, edges, replicas, .applied, OutputOwnerPublicationDisposition.applied_committed,
    h.every_edge, h.acknowledged, h.every_replica, h.discharged⟩

theorem create_eq (h : Acknowledged s plan edges replicas) :
    OutputOwnerPublicationRetirementReceipt.create plan edges replicas = .ok h.receipt := by
  rw [OutputOwnerPublicationRetirementReceipt.create, certify_ok h.every_edge,
    certifyAll_ok h.acknowledged, certify_ok h.every_replica, certifyAll_ok h.discharged]
  rfl

theorem of_create (h : OutputOwnerPublicationRetirementReceipt.create plan edges replicas = .ok r)
    (hdeaths : ∀ record, ChildCleanup.death record ∈ edges →
      (s.deadWorkerCleanups.get? record.workerId).map (fun cleanup => cleanup.record.deathId) =
        some (retirementChildDeathId record)) : Acknowledged s plan edges replicas := by
  simp only [OutputOwnerPublicationRetirementReceipt.create, bind_eq_ok] at h
  obtain ⟨⟨hedges⟩, _, ⟨hacks⟩, _, ⟨hreplicas⟩, _, ⟨hdrops⟩, _⟩ := h
  exact ⟨hedges, hacks, hreplicas, hdrops, hdeaths⟩

theorem kept (h : Acknowledged s plan edges replicas) (hdeaths : ∀ w cleanup,
      s.deadWorkerCleanups.get? w = some cleanup → s'.deadWorkerCleanups.get? w = some cleanup) :
    Acknowledged s' plan edges replicas := by
  refine ⟨h.every_edge, h.acknowledged, h.every_replica, h.discharged, fun record hr => ?_⟩
  obtain ⟨cleanup, hw, hid⟩ := Option.map_eq_some_iff.mp (h.deaths record hr)
  exact Option.map_eq_some_iff.mpr ⟨cleanup, hdeaths _ _ hw, hid⟩

end Acknowledged

/-- A first completion clears the entry and remembers its receipt. -/
structure Retires (s s' : ObjectOwnerTable ε) (plan : OutputOwnerPublicationRetirementPlan)
    (e : ObjectOwnerEntry ε) (r : OutputOwnerPublicationRetirementReceipt) : Prop where
  recorded : s.outputRetirementPlans.get? plan.retirementId = some plan
  first : s.outputRetirementReceipts.get? plan.retirementId = none
  entry : s.entries.get? plan.member.objectId = some e
  valid : s.validateOutputRetirementEntry e plan.member (some plan.retirementId) = .ok ()
  receipt_plan : r.plan = plan
  effect : s' = { s.setEntry (retireOutput e) with
    retiredOutputSlots :=
      insert (plan.member.publicationId, plan.member.objectId) s.retiredOutputSlots
    retiredOutputAttempts :=
      insert (plan.member.objectId, plan.member.publicationId.attemptId) s.retiredOutputAttempts
    outputRetirementReceipts := s.outputRetirementReceipts.set plan.retirementId r }

theorem checkDeaths_eq_ok {f : ChildCleanup → Except Raised Unit} {p : WorkerDeathRecord → Prop}
    (hrelease : ∀ reply, f (.release reply) = .ok ())
    (hdeath : ∀ record, f (.death record) = .ok () ↔ p record) :
    checkAll f edges = .ok u ↔ ∀ record, ChildCleanup.death record ∈ edges → p record := by
  rw [checkAll_eq_ok]
  constructor
  · exact fun h record hr => (hdeath record).mp (h _ hr)
  · intro h proof hproof
    cases proof with
    | release reply => exact hrelease reply
    | death record => exact (hdeath record).mpr (h record hproof)

theorem completeOutputPublicationRetirement_retires
    (h : s.completeOutputPublicationRetirement plan edges replicas = .ok (r, s')) :
    ∃ hack : Acknowledged s plan edges replicas,
      s.outputRetirementReceipts.get? plan.retirementId = some hack.receipt ∧ s' = s ∨
        r = hack.receipt ∧ ∃ e, Retires s s' plan e r := by
  simp only [completeOutputPublicationRetirement, bind_eq_ok] at h
  obtain ⟨created, hcreate, _, hdeaths, h⟩ := h
  have hedges : created.releasedEdges = edges := by
    simp only [OutputOwnerPublicationRetirementReceipt.create, bind_eq_ok, pure_eq_ok] at hcreate
    obtain ⟨_, _, _, _, _, _, _, _, rfl⟩ := hcreate
    rfl
  rw [hedges] at hdeaths
  have hack : Acknowledged s plan edges replicas :=
    .of_create hcreate ((checkDeaths_eq_ok (fun _ => rfl) fun _ => by simp).mp hdeaths)
  cases hcreate.symm.trans hack.create_eq
  refine ⟨hack, ?_⟩
  cases hp : s.outputRetirementReceipts.get? plan.retirementId with
  | some previous =>
    simp only [hp, bind_eq_ok, pure_eq_ok, Prod.mk.injEq, raiseIf_eq_ok, not_not] at h
    obtain ⟨_, hsame, _, rfl⟩ := h
    exact .inl ⟨congrArg some hsame, rfl⟩
  | none =>
    simp only [hp, bind_eq_ok, entry_eq_ok, pure_eq_ok, Prod.mk.injEq, raiseIf_eq_ok, ne_eq,
      not_not] at h
    obtain ⟨_, hrecorded, e, he, _, hv, rfl, rfl⟩ := h
    exact .inr ⟨rfl, e, hrecorded, hp, he, hv, rfl, rfl⟩

theorem completeOutputPublicationRetirement_first (hack : Acknowledged s plan edges replicas)
    (hrecorded : s.outputRetirementPlans.get? plan.retirementId = some plan)
    (hfirst : s.outputRetirementReceipts.get? plan.retirementId = none)
    (he : s.entries.get? plan.member.objectId = some e)
    (hv : s.validateOutputRetirementEntry e plan.member (some plan.retirementId) = .ok ()) :
    ∃ s', s.completeOutputPublicationRetirement plan edges replicas = .ok (hack.receipt, s') := by
  have hentry : s.entry plan.member.objectId = .ok e := entry_eq_ok.mpr he
  apply Exists.intro
  simp only [completeOutputPublicationRetirement, bind_eq_ok]
  refine ⟨_, hack.create_eq, (),
    (checkDeaths_eq_ok (fun _ => rfl) fun _ => by simp).mpr hack.deaths, ?_⟩
  rw [hfirst]
  simp only [bind_eq_ok, raiseIf_eq_ok, ne_eq, not_not]
  exact ⟨(), hrecorded, e, hentry, (), hv, rfl⟩

theorem completeOutputPublicationRetirement_again (hack : Acknowledged s plan edges replicas)
    (hdone : s.outputRetirementReceipts.get? plan.retirementId = some hack.receipt) :
    s.completeOutputPublicationRetirement plan edges replicas =
      .ok ({ hack.receipt with disposition := .alreadyApplied, committed := .inr rfl }, s) := by
  simp only [completeOutputPublicationRetirement, bind_eq_ok]
  refine ⟨_, hack.create_eq, (),
    (checkDeaths_eq_ok (fun _ => rfl) fun _ => by simp).mpr hack.deaths, ?_⟩
  rw [hdone]
  simp

/-! ## One call -/

/-- What one call does to retirements. -/
inductive RetirementMove (s s' : ObjectOwnerTable ε) : Prop
  | kept (h : KeepsFrozen s s')
  | marked (plan : OutputOwnerPublicationRetirementPlan) (e : ObjectOwnerEntry ε)
      (h : Marks s s' plan e)
  | retired (plan : OutputOwnerPublicationRetirementPlan) (e : ObjectOwnerEntry ε)
      (r : OutputOwnerPublicationRetirementReceipt) (h : Retires s s' plan e r)

theorem step_retirement [BEq ε] (s : ObjectOwnerTable ε) (op : Op ε) :
    RetirementMove s (s.step op) := by
  by_cases hop : Op.IsRetirement op
  · cases op with
    | beginOutputPublicationRetirement =>
      refine commit_of (.kept (.refl s)) fun plan s' h => ?_
      rcases beginOutputPublicationRetirement_cases h with ⟨_, rfl⟩ | ⟨_, e, hm⟩
      · exact .kept (.refl _)
      · exact .marked plan e hm
    | completeOutputPublicationRetirement plan =>
      refine commit_of (.kept (.refl s)) fun r s' h => ?_
      obtain ⟨_, ⟨_, rfl⟩ | ⟨_, e, hr⟩⟩ := completeOutputPublicationRetirement_retires h
      · exact .kept (.refl _)
      · exact .retired plan e r hr
    | _ => exact absurd hop id
  · exact .kept (step_keepsFrozen s op hop)

/-- The records of the table are never rewritten. -/
structure Remembers (s s' : ObjectOwnerTable ε) : Prop where
  plans : ∀ id plan, s.outputRetirementPlans.get? id = some plan →
    s'.outputRetirementPlans.get? id = some plan
  receipts : ∀ id r, s.outputRetirementReceipts.get? id = some r →
    s'.outputRetirementReceipts.get? id = some r
  publications : ∀ p m, s.outputPublicationReceipts.get? p = some m →
    s'.outputPublicationReceipts.get? p = some m
  deaths : ∀ w cleanup, s.deadWorkerCleanups.get? w = some cleanup →
    s'.deadWorkerCleanups.get? w = some cleanup

theorem RetirementMove.remembers (h : RetirementMove s s') : Remembers s s' := by
  cases h with
  | kept h =>
    exact ⟨fun _ _ hp => h.plans ▸ hp, fun _ _ hr => h.receipts ▸ hr, h.publications, h.deaths⟩
  | marked plan e h =>
    rw [h.effect]
    exact ⟨fun _ _ hp => Dict.get?_set_kept h.fresh hp, fun _ _ hr => hr, fun _ _ hp => hp,
      fun _ _ hd => hd⟩
  | retired plan e r h =>
    rw [h.effect]
    exact ⟨fun _ _ hp => hp, fun _ _ hr => Dict.get?_set_kept h.first hr, fun _ _ hp => hp,
      fun _ _ hd => hd⟩

theorem RetirementMove.entry_kept (h : RetirementMove s s')
    (hplan : s.outputRetirementPlans.get? id = some plan)
    (he : s.entries.get? plan.member.objectId = some e)
    (hv : s.validateOutputRetirementEntry e plan.member (some id) = .ok u)
    (hopen : s'.outputRetirementReceipts.get? id = none) :
    ∃ e', s'.entries.get? plan.member.objectId = some e' ∧ e.SameResult e' := by
  have hfrozen := frozen_of_validated hv
  cases h with
  | kept h => exact h.entries _ e he hfrozen
  | marked plan' e' h =>
    have hentries : s'.entries =
        (s.setEntry { e' with outputRetirementId := some plan'.retirementId }).entries := by
      rw [h.effect]
    have hunmarked : ¬ e'.Frozen := fun hf => hf.marked (marker_of_validated h.valid)
    exact KeepsFrozen.entries_set h.entry hentries rfl (fun hf => absurd hf hunmarked) _ e he
      hfrozen
  | retired plan' e' r h =>
    refine ⟨e, ?_, .refl e⟩
    rw [h.effect] at hopen ⊢
    have hne : plan'.retirementId ≠ id := by
      rintro rfl
      simp at hopen
    have hobject : plan'.member.objectId ≠ plan.member.objectId := by
      intro heq
      have he' := h.entry
      rw [heq, he, Option.some.injEq] at he'
      subst he'
      have hmarkers := (marker_of_validated h.valid).symm.trans (marker_of_validated hv)
      exact hne (Option.some.inj hmarkers)
    have hid : (retireOutput e').objectId = plan'.member.objectId := s.keyed _ e' h.entry
    rw [get?_setEntry, hid, if_neg hobject, he]

/-! ## Runs -/

/-- Every recorded plan is still pending on its frozen entry, or has its receipt. -/
structure RetirementsKnown (s : ObjectOwnerTable ε) : Prop where
  pending : ∀ id plan, s.outputRetirementPlans.get? id = some plan → plan.retirementId = id ∧
    (s.outputRetirementReceipts.get? id = none → ∃ e,
      s.entries.get? plan.member.objectId = some e ∧
        s.validateOutputRetirementEntry e plan.member (some id) = .ok ())
  settled : ∀ id r, s.outputRetirementReceipts.get? id = some r →
    s.outputRetirementPlans.get? id = some r.plan

theorem RetirementsKnown.move (hs : s.RetirementsKnown) (h : RetirementMove s s') :
    s'.RetirementsKnown := by
  have hrem := h.remembers
  -- A plan recorded before: its entry is unchanged as long as it is pending.
  have hold : ∀ id plan, s.outputRetirementPlans.get? id = some plan →
      plan.retirementId = id ∧ (s'.outputRetirementReceipts.get? id = none → ∃ e,
        s'.entries.get? plan.member.objectId = some e ∧
          s'.validateOutputRetirementEntry e plan.member (some id) = .ok ()) := by
    intro id plan hplan
    obtain ⟨hid, hpending⟩ := hs.pending id plan hplan
    refine ⟨hid, fun hopen => ?_⟩
    have hbefore : s.outputRetirementReceipts.get? id = none := by
      cases hr : s.outputRetirementReceipts.get? id with
      | none => rfl
      | some r => simp [hrem.receipts id r hr] at hopen
    obtain ⟨e, he, hv⟩ := hpending hbefore
    obtain ⟨e', he', hsame⟩ := h.entry_kept hplan he hv hopen
    exact ⟨e', he', validateOutputRetirementEntry_kept hv hsame hrem.publications⟩
  cases h with
  | kept h =>
    refine ⟨fun id plan hplan => hold id plan (h.plans ▸ hplan), fun id r hr => ?_⟩
    rw [h.receipts] at hr
    exact hrem.plans _ _ (hs.settled id r hr)
  | marked plan e h =>
    refine ⟨fun id plan' hplan => ?_, fun id r hr => ?_⟩
    · by_cases hid : plan.retirementId = id
      · have hmarked : s'.outputRetirementPlans.get? id = some plan := by
          rw [h.effect, hid]
          exact Dict.get?_set_self ..
        cases hmarked.symm.trans hplan
        refine ⟨hid, fun _ => ⟨{ e with outputRetirementId := some plan.retirementId }, ?_, ?_⟩⟩
        · rw [h.effect, get?_setEntry, if_pos (s.keyed _ e h.entry)]
        · subst hid
          exact validateOutputRetirementEntry_marked h.valid _ hrem.publications
      · have hplan' : s.outputRetirementPlans.get? id = some plan' := by
          rw [h.effect] at hplan
          rwa [Dict.get?_set_of_ne _ _ hid] at hplan
        exact hold id plan' hplan'
    · rw [h.effect] at hr
      exact hrem.plans _ _ (hs.settled id r hr)
  | retired plan e r h =>
    refine ⟨fun id plan' hplan => hold id plan' (by rwa [h.effect] at hplan), fun id r' hr => ?_⟩
    by_cases hid : plan.retirementId = id
    · have hretired : s'.outputRetirementReceipts.get? id = some r := by
        rw [h.effect, hid]
        exact Dict.get?_set_self ..
      cases hretired.symm.trans hr
      rw [← hid, h.receipt_plan]
      exact hrem.plans _ _ h.recorded
    · have hr' : s.outputRetirementReceipts.get? id = some r' := by
        rw [h.effect] at hr
        rwa [Dict.get?_set_of_ne _ _ hid] at hr
      exact hrem.plans _ _ (hs.settled id r' hr')

theorem Remembers.refl (s : ObjectOwnerTable ε) : Remembers s s :=
  ⟨fun _ _ h => h, fun _ _ h => h, fun _ _ h => h, fun _ _ h => h⟩

variable {s₁ : ObjectOwnerTable ε}

theorem Remembers.trans {s₂ s₃ : ObjectOwnerTable ε} (h : Remembers s₁ s₂) (h' : Remembers s₂ s₃) :
    Remembers s₁ s₃ :=
  ⟨fun id plan hp => h'.plans id plan (h.plans id plan hp),
    fun id r hr => h'.receipts id r (h.receipts id r hr),
    fun p m hp => h'.publications p m (h.publications p m hp),
    fun w cleanup hd => h'.deaths w cleanup (h.deaths w cleanup hd)⟩

/-- Of its entry a retirement clears the membership, its edges, the result and the marker. -/
def clearOutput (r : ResultFields ε) : ResultFields ε :=
  { r with
    canonicalStoredResult := none
    outgoingContainedEdges := ∅
    outputPublication := none
    outputRetirementId := none }

theorem Retires.cleared (h : Retires s s' plan e r) :
    (retireOutput e).toResultFields = clearOutput e.toResultFields := by
  have hv := h.valid
  simp only [validateOutputRetirementEntry, bind_eq_ok, raiseIf_eq_ok, not_or, not_not] at hv
  obtain ⟨_, _, _, _, _, ⟨_, _, _, _, hvacant, herror, _⟩, hintact⟩ := hv
  have hempty : e.locationAttempts = .empty := Dict.eq_empty hvacant
  have herror : e.error = none := by simpa using herror
  simp [retireOutput, clearOutput, hempty, herror, hintact.1]

variable [BEq ε]

theorem remembers_run (s : ObjectOwnerTable ε) (ops : List (Op ε)) :
    Remembers s (run step s ops) :=
  run_invariant (p := fun t => Remembers s t)
    (fun t op h => h.trans (step_retirement t op).remembers) (.refl s) ops

theorem retirementsKnown_run (ops : List (Op ε)) :
    (run step (.empty : ObjectOwnerTable ε) ops).RetirementsKnown :=
  run_invariant (p := RetirementsKnown) (fun t op h => h.move (step_retirement t op))
    ⟨fun _ _ h => by simp [empty] at h, fun _ _ h => by simp [empty] at h⟩ ops

theorem RetirementsKnown.run (hs : s.RetirementsKnown) (ops : List (Op ε)) :
    (Run.run step s ops).RetirementsKnown :=
  run_invariant (p := RetirementsKnown) (fun t op h => h.move (step_retirement t op)) hs ops

theorem RetirementsKnown.frozen_run (hs : s.RetirementsKnown)
    (hplan : s.outputRetirementPlans.get? id = some plan)
    (he : s.entries.get? plan.member.objectId = some e) (ops : List (Op ε))
    (hopen : (Run.run step s ops).outputRetirementReceipts.get? id = none) :
    ∃ e', (Run.run step s ops).entries.get? plan.member.objectId = some e' ∧ e.SameResult e' := by
  induction ops using List.reverseRecOn with
  | nil => exact ⟨e, he, .refl e⟩
  | append_singleton ops op ih =>
    rw [run_concat] at hopen ⊢
    have hmove := step_retirement (Run.run step s ops) op
    have hbefore : (Run.run step s ops).outputRetirementReceipts.get? id = none := by
      cases hr : (Run.run step s ops).outputRetirementReceipts.get? id with
      | none => rfl
      | some r => simp [hmove.remembers.receipts id r hr] at hopen
    obtain ⟨e₁, he₁, hsame⟩ := ih hbefore
    have hplan₁ := (remembers_run s ops).plans id plan hplan
    obtain ⟨e₂, he₂, hv⟩ := ((hs.run ops).pending id plan hplan₁).2 hbefore
    cases he₁.symm.trans he₂
    obtain ⟨e₃, he₃, hsame'⟩ := hmove.entry_kept hplan₁ he₁ hv hopen
    exact ⟨e₃, he₃, hsame'.1.trans hsame.1, hsame'.2.trans hsame.2⟩

/-- A table keeps the discipline of retirements. `s` is any state of a run. -/
structure RetirementSpec (s : ObjectOwnerTable ε) : Prop where
  /-- From the begin on, and until a completion, the entry is frozen but for its references. -/
  frozen : ∀ ms id locations plan s₁, s.outputRetirementPlans.get? id = none →
    s.beginOutputPublicationRetirement ms id locations = .ok (plan, s₁) →
    ∃ e, s.entries.get? plan.member.objectId = some e ∧ ∀ ops : List (Op ε),
      (Run.run step s₁ ops).outputRetirementReceipts.get? id = none →
      ∃ e', (Run.run step s₁ ops).entries.get? plan.member.objectId = some e' ∧
        e'.toResultFields = { e.toResultFields with outputRetirementId := some id } ∧
        e'.toCollectionFields = e.toCollectionFields
  /-- A first completion succeeds exactly with the recorded plan and every acknowledgement. -/
  completes : ∀ plan edges replicas, s.outputRetirementReceipts.get? plan.retirementId = none →
    ((∃ r s₁, s.completeOutputPublicationRetirement plan edges replicas = .ok (r, s₁)) ↔
      s.outputRetirementPlans.get? plan.retirementId = some plan ∧
        Acknowledged s plan edges replicas)
  /-- It then clears the entry, and touches no other. -/
  clears : ∀ plan edges replicas r s₁,
    s.outputRetirementReceipts.get? plan.retirementId = none →
    s.completeOutputPublicationRetirement plan edges replicas = .ok (r, s₁) →
    r.disposition = .applied ∧ ∃ e e', s.entries.get? plan.member.objectId = some e ∧
      s₁.entries.get? plan.member.objectId = some e' ∧
      e'.toResultFields = clearOutput e.toResultFields ∧
      e'.toReferenceFields = e.toReferenceFields ∧ e'.toCollectionFields = e.toCollectionFields ∧
      ∀ o, o ≠ plan.member.objectId → s₁.entries.get? o = s.entries.get? o
  /-- A completion that is refused changes nothing. -/
  refused : ∀ plan edges replicas raised,
    s.completeOutputPublicationRetirement plan edges replicas = .error raised →
    s.step (.completeOutputPublicationRetirement plan edges replicas) = s
  /-- After its completion a retirement is answered from its receipt, at any time, and no call
  under its name changes the table again. -/
  once : ∀ plan edges replicas r s₁,
    s.outputRetirementReceipts.get? plan.retirementId = none →
    s.completeOutputPublicationRetirement plan edges replicas = .ok (r, s₁) →
    ∀ ops : List (Op ε),
      (Run.run step s₁ ops).completeOutputPublicationRetirement plan edges replicas =
        .ok ({ r with disposition := .alreadyApplied, committed := .inr rfl },
          Run.run step s₁ ops) ∧
      (∀ plan' edges' replicas', plan'.retirementId = plan.retirementId →
        (Run.run step s₁ ops).step (.completeOutputPublicationRetirement plan' edges' replicas') =
          Run.run step s₁ ops) ∧
      ∀ ms locations, (Run.run step s₁ ops).step
        (.beginOutputPublicationRetirement ms plan.retirementId locations) = Run.run step s₁ ops

theorem RetirementsKnown.frozen (hs : s.RetirementsKnown)
    (hfresh : s.outputRetirementPlans.get? id = none)
    (h : s.beginOutputPublicationRetirement ms id locations = .ok (plan, s')) :
    ∃ e, s.entries.get? plan.member.objectId = some e ∧ ∀ ops : List (Op ε),
      (Run.run step s' ops).outputRetirementReceipts.get? id = none →
      ∃ e', (Run.run step s' ops).entries.get? plan.member.objectId = some e' ∧
        e'.toResultFields = { e.toResultFields with outputRetirementId := some id } ∧
        e'.toCollectionFields = e.toCollectionFields := by
  rcases beginOutputPublicationRetirement_cases h with ⟨hknown, _⟩ | ⟨rfl, e, hm⟩
  · simp [hfresh] at hknown
  refine ⟨e, hm.entry, fun ops hopen => ?_⟩
  have hknown : s'.RetirementsKnown := hs.move (.marked plan e hm)
  have hplan : s'.outputRetirementPlans.get? plan.retirementId = some plan := by
    rw [hm.effect]
    exact Dict.get?_set_self ..
  have hentry : s'.entries.get? plan.member.objectId =
      some { e with outputRetirementId := some plan.retirementId } := by
    rw [hm.effect, get?_setEntry, if_pos (s.keyed _ e hm.entry)]
  obtain ⟨e', he', hsame⟩ := hknown.frozen_run hplan hentry ops hopen
  exact ⟨e', he', hsame.1, hsame.2⟩

omit [BEq ε] in
theorem RetirementsKnown.completes (hs : s.RetirementsKnown)
    (hfirst : s.outputRetirementReceipts.get? plan.retirementId = none) :
    (∃ r s₁, s.completeOutputPublicationRetirement plan edges replicas = .ok (r, s₁)) ↔
      s.outputRetirementPlans.get? plan.retirementId = some plan ∧
        Acknowledged s plan edges replicas := by
  constructor
  · rintro ⟨r, s₁, h⟩
    obtain ⟨hack, ⟨hdone, _⟩ | ⟨_, e, hr⟩⟩ := completeOutputPublicationRetirement_retires h
    · simp [hfirst] at hdone
    · exact ⟨hr.recorded, hack⟩
  · rintro ⟨hrecorded, hack⟩
    obtain ⟨e, he, hv⟩ := (hs.pending _ plan hrecorded).2 hfirst
    obtain ⟨s₁, h⟩ := completeOutputPublicationRetirement_first hack hrecorded hfirst he hv
    exact ⟨_, s₁, h⟩

omit [BEq ε] in
theorem retires_of_first (hfirst : s.outputRetirementReceipts.get? plan.retirementId = none)
    (h : s.completeOutputPublicationRetirement plan edges replicas = .ok (r, s₁)) :
    ∃ hack : Acknowledged s plan edges replicas, r = hack.receipt ∧ ∃ e, Retires s s₁ plan e r := by
  obtain ⟨hack, ⟨hdone, _⟩ | ⟨hr, he⟩⟩ := completeOutputPublicationRetirement_retires h
  · simp [hfirst] at hdone
  · exact ⟨hack, hr, he⟩

theorem step_of_completed (hdone : s.outputRetirementReceipts.get? plan.retirementId = some r) :
    s.step (.completeOutputPublicationRetirement plan edges replicas) = s := by
  refine commit_of (p := fun t => t = s) rfl fun r' s' h => ?_
  obtain ⟨_, ⟨_, hs⟩ | ⟨_, e, hr⟩⟩ := completeOutputPublicationRetirement_retires h
  · exact hs
  · simp [hr.first] at hdone

theorem completed_once (hfirst : s.outputRetirementReceipts.get? plan.retirementId = none)
    (h : s.completeOutputPublicationRetirement plan edges replicas = .ok (r, s₁))
    (ops : List (Op ε)) :
    (Run.run step s₁ ops).completeOutputPublicationRetirement plan edges replicas =
        .ok ({ r with disposition := .alreadyApplied, committed := .inr rfl },
          Run.run step s₁ ops) ∧
      (∀ plan' edges' replicas', plan'.retirementId = plan.retirementId →
        (Run.run step s₁ ops).step (.completeOutputPublicationRetirement plan' edges' replicas') =
          Run.run step s₁ ops) ∧
      ∀ ms locations, (Run.run step s₁ ops).step
        (.beginOutputPublicationRetirement ms plan.retirementId locations) =
          Run.run step s₁ ops := by
  obtain ⟨hack, rfl, e, hr⟩ := retires_of_first hfirst h
  have hrem : Remembers s (Run.run step s₁ ops) :=
    (RetirementMove.retired plan e _ hr).remembers.trans (remembers_run s₁ ops)
  have hreceipt : s₁.outputRetirementReceipts.get? plan.retirementId = some hack.receipt := by
    rw [hr.effect]
    exact Dict.get?_set_self ..
  have hdone := (remembers_run s₁ ops).receipts _ _ hreceipt
  refine ⟨completeOutputPublicationRetirement_again (hack.kept hrem.deaths) hdone, ?_, ?_⟩
  · intro plan' edges' replicas' hid
    exact step_of_completed (hid ▸ hdone)
  · intro ms locations
    refine commit_of (p := fun t => t = Run.run step s₁ ops) rfl fun plan' s' hbegin => ?_
    rcases beginOutputPublicationRetirement_cases hbegin with ⟨_, hsame⟩ | ⟨hid, e', hm⟩
    · exact hsame
    · have hplan := hrem.plans _ _ hr.recorded
      rw [← hid, hm.fresh] at hplan
      cases hplan

theorem retirementSpec_run (ops : List (Op ε)) :
    (Run.run step (.empty : ObjectOwnerTable ε) ops).RetirementSpec := by
  have hs := retirementsKnown_run ops
  refine ⟨?_, ?_, ?_, ?_, ?_⟩
  · intro ms id locations plan s₁ hfresh h
    exact hs.frozen hfresh h
  · intro plan edges replicas hfirst
    exact hs.completes hfirst
  · intro plan edges replicas r s₁ hfirst h
    obtain ⟨hack, rfl, e, hr⟩ := retires_of_first hfirst h
    have hid : (retireOutput e).objectId = plan.member.objectId :=
      (Run.run step .empty ops).keyed _ e hr.entry
    refine ⟨rfl, e, retireOutput e, hr.entry, ?_, hr.cleared, rfl, rfl, ?_⟩
    · rw [hr.effect, get?_setEntry, if_pos hid]
    · intro o ho
      rw [hr.effect, get?_setEntry, hid, if_neg ho.symm]
  · intro plan edges replicas raised h
    rw [step, h]
    rfl
  · intro plan edges replicas r s₁ hfirst h
    exact completed_once hfirst h

/-! ## The child edges of a retired output -/

namespace Sample

variable (m : OutputPublicationManifest)

/-- The task that produces the output of a manifest. -/
def producer : TaskSpec :=
  ⟨m.header.jobId, m.publicationId.attemptId.taskId, m.publicationId.attemptId,
    m.header.ownerWorkerId, "", rfl⟩

theorem returnIds_producer : (producer m).returnIds = m.publicationId.outputIds := by
  have htask : m.publicationId.attemptId.taskId = m.publicationId.execution.taskId :=
    m.publicationId.execution.attempt_task
  rw [OutputPublicationID.outputIds_eq]
  exact congrArg (fun t => [ObjectID.forTask t 0]) htask

/-- The output waits for its first attempt. -/
def awaiting : ObjectOwnerEntry Unit :=
  .fresh m.publicationId.output (some m.publicationId.attemptId) (some (producer m)) none
    fun a ha => by cases ha; exact m.publicationId.attempt_taskId

variable (hstored : m.slot.tier = .objectStore)

def storedEnvelope : OutputPublicationEnvelope where
  manifest := m
  complete := ⟨m.publicationId, m.manifestDigest, m.digest_hex⟩
  results := [m.storedDescriptor]
  complete_eq := ⟨rfl, rfl⟩
  result_ids := by simp [OutputPublicationManifest.storedDescriptor]
  described := by
    simp [m.slots_eq, DescribesSlot, OutputPublicationManifest.storedDescriptor, hstored]

def storedPlan : OutputOwnerPublicationPlan := ⟨m.execution, storedEnvelope m hstored, rfl⟩

def inventory : Dict ObjectID (List NodeID) :=
  Dict.empty.set m.publicationId.output [m.header.nodeIncarnation.nodeId]

/-- The output is published, loses its replica, and starts to be retired. -/
def retiringOps : List (Op Unit) :=
  [.register m.publicationId.output (some m.publicationId.attemptId) (some (producer m)) none,
    .commitOutputPublication (storedPlan m hstored),
    .markLost m.publicationId.output (some m.publicationId.attemptId),
    .beginOutputPublicationRetirement [.ofManifest m] "retirement" (inventory m)]

theorem step_register : step .empty
    (.register m.publicationId.output (some m.publicationId.attemptId) (some (producer m)) none) =
      setEntry .empty (awaiting m) := by
  have h : ∀ a, some m.publicationId.attemptId = some a →
      a.taskId = m.publicationId.output.taskId := by
    intro a ha
    cases ha
    exact m.publicationId.attempt_taskId
  rw [step, register, dif_pos h]
  rfl

/-- The table that only knows the waiting output. -/
def registered : ObjectOwnerTable Unit := setEntry .empty (awaiting m)

theorem get?_registered :
    (registered m).entries.get? m.publicationId.output = some (awaiting m) := by
  rw [registered, get?_setEntry]
  exact if_pos rfl

theorem validate_publication :
    (registered m).validateOutputPublication (storedPlan m hstored) = .ok .applied := by
  have hentry : (registered m).entry m.publicationId.output = .ok (awaiting m) :=
    entry_eq_ok.mpr (get?_registered m)
  have hids : (producer m).returnIds = [m.publicationId.output] :=
    (returnIds_producer m).trans (OutputPublicationID.outputIds_eq _)
  have hout : (storedPlan m hstored).output = m.publicationId.output := rfl
  have hid : (storedPlan m hstored).publicationId = m.publicationId := rfl
  have hm : (storedPlan m hstored).envelope.manifest = m := rfl
  have hattempt : (storedPlan m hstored).execution.attemptId = m.publicationId.attemptId := rfl
  have hreceipts : (registered m).outputPublicationReceipts = .empty := rfl
  have hfenced : ¬ (registered m).IsCollected m.publicationId.output ∧
      (registered m).retiredOutputSlots = ∅ ∧ (registered m).retiredOutputAttempts = ∅ ∧
      ¬ (registered m).Dead m.header.ownerWorkerId := ⟨nofun, rfl, rfl, nofun⟩
  have hpristine : PristinePending (awaiting m) := ⟨rfl, rfl, rfl, rfl, rfl, rfl⟩
  have hcurrent : (awaiting m).currentAttempt = some m.publicationId.attemptId := rfl
  have hspec : (awaiting m).producerTaskSpec = some (producer m) := rfl
  have hopen : (awaiting m).collectionPending = false ∧ (awaiting m).outputRetirementId = none ∧
      (awaiting m).outputPublication = none := ⟨rfl, rfl, rfl⟩
  have howner : (producer m).ownerWorkerId = m.header.ownerWorkerId ∧
      (producer m).jobId = m.header.jobId := ⟨rfl, rfl⟩
  simp [validateOutputPublication, hentry, hids, hout, hid, hm, hattempt, hreceipts, hfenced,
    hpristine, hcurrent, hspec, hopen, howner, raiseIf]

def adopted : ObjectOwnerEntry Unit := adopt (storedPlan m hstored) (awaiting m) rfl

def published : ObjectOwnerTable Unit :=
  { (registered m).setEntry (adopted m hstored) with
    outputPublicationReceipts := (registered m).outputPublicationReceipts.set m.publicationId m }

theorem step_publish : (registered m).step (.commitOutputPublication (storedPlan m hstored)) =
    published m hstored := by
  have hcommit : (registered m).commitOutputPublication (storedPlan m hstored) =
      .ok (⟨storedPlan m hstored, .applied⟩, published m hstored) := by
    simp only [commitOutputPublication, bind_eq_ok, ite_eq_ok]
    refine ⟨_, validate_publication m hstored, .inr ⟨by simp, ⟨awaiting m, rfl⟩, ?_, rfl⟩⟩
    exact subscript_eq_ok.mpr (get?_registered m)
  rw [step, hcommit]
  rfl

theorem get?_published : (published m hstored).entries.get? m.publicationId.output =
    some (adopted m hstored) := by
  simp only [published, get?_setEntry]
  exact if_pos rfl

def lostOutput : ObjectOwnerEntry Unit :=
  { adopted m hstored with locationAttempts := .empty, state := .lost }

def unreplicated : ObjectOwnerTable Unit := (published m hstored).setEntry (lostOutput m hstored)

theorem step_lost : (published m hstored).step
    (.markLost m.publicationId.output (some m.publicationId.attemptId)) =
      unreplicated m hstored := by
  have hentry : (published m hstored).entry m.publicationId.output = .ok (adopted m hstored) :=
    entry_eq_ok.mpr (get?_published m hstored)
  have hstate : (adopted m hstored).state = .readyStored := rfl
  have hmark : (published m hstored).markLost m.publicationId.output
      (some m.publicationId.attemptId) = .ok (true, unreplicated m hstored) := by
    have hattempt : (adopted m hstored).currentAttempt = some m.publicationId.attemptId := rfl
    have hopen : (adopted m hstored).outputRetirementId = none ∧
        (adopted m hstored).collectionPending = false := ⟨rfl, rfl⟩
    have htask := m.publicationId.attempt_taskId
    simp [markLost, hentry, hstate, hattempt, hopen, requireNoOutputRetirement,
      requireNotCollecting, requireAttempt, raiseIf, htask]
    rfl
  rw [step, hmark]
  rfl

theorem valid_lost : (unreplicated m hstored).validateOutputRetirementEntry (lostOutput m hstored)
    (.ofManifest m) none = .ok () := by
  have hreceipt : (unreplicated m hstored).outputPublicationReceipts.get? m.publicationId =
      some m := Dict.get?_set_self ..
  have hedges : (lostOutput m hstored).outgoingContainedEdges = m.slot.edges.toFinset := rfl
  have hintact : LostResultIntact (lostOutput m hstored) (.ofManifest m) := by
    refine ⟨rfl, ?_⟩
    rw [OutputOwnerPublicationMembership.ofManifest_slot, if_pos hstored]
    rfl
  simp only [validateOutputRetirementEntry, bind_eq_ok, requireNotCollecting_eq_ok,
    raiseIf_eq_ok, not_or, not_not]
  refine ⟨(), rfl, (), rfl, (), ⟨hreceipt, rfl, rfl, rfl, rfl, by rintro ⟨⟩, rfl, hedges, ?_⟩,
    hintact⟩
  exact ⟨producer m, rfl, returnIds_producer m, rfl, rfl⟩

/-- The only replica of the output is with its publisher. -/
def drop : DropObjectReplica where
  objectId := m.publicationId.output
  producerAttemptId := m.publicationId.attemptId
  ownerWorkerId := m.header.ownerWorkerId
  nodeId := m.header.nodeIncarnation.nodeId
  checksum := m.slot.checksum
  attempt_task := m.publicationId.attempt_taskId
  checksum_hex := m.slot.checksum_hex

def retirementPlan : OutputOwnerPublicationRetirementPlan where
  retirementId := "retirement"
  memberships := [.ofManifest m]
  replicaDrops := [drop m]
  id_ne := by decide
  single := rfl
  drops_match := by
    intro d hd
    rw [List.mem_singleton.mp hd]
    refine ⟨_, List.mem_singleton.mpr rfl, hstored, ?_, rfl, rfl, rfl⟩
    exact (m.slot_objectId).symm
  drops_sorted := by simp
  publisher_drop := by
    intro member hmember _
    rw [List.mem_singleton.mp hmember]
    simp [drop, OutputOwnerPublicationMembership.objectId_eq]

include hstored in
theorem replicaDrops_inventory :
    replicaDrops (inventory m) [.ofManifest m] = .ok [drop m] := by
  have hobject : (OutputOwnerPublicationMembership.ofManifest m).objectId =
      m.publicationId.output := m.slot_objectId
  simp [replicaDrops, hobject, inventory, raiseIf, hstored, drop, Sorted.sortList]

/-- The table in which the retirement of the output has begun. -/
def retiring : ObjectOwnerTable Unit :=
  { (unreplicated m hstored).setEntry
      { lostOutput m hstored with outputRetirementId := some "retirement" } with
    outputRetirementPlans := (unreplicated m hstored).outputRetirementPlans.set "retirement"
      (retirementPlan m hstored) }

theorem step_begin : (unreplicated m hstored).step
    (.beginOutputPublicationRetirement [.ofManifest m] "retirement" (inventory m)) =
      retiring m hstored := by
  have hobject : (OutputOwnerPublicationMembership.ofManifest m).objectId =
      m.publicationId.output := m.slot_objectId
  have hkeys : (inventory m).keys.toFinset =
      ([OutputOwnerPublicationMembership.ofManifest m].map (·.objectId)).toFinset := by
    simp [inventory, hobject, Dict.keys, Dict.set, Dict.setItems]
  have hentry : (unreplicated m hstored).entry (retirementPlan m hstored).member.objectId =
      .ok (lostOutput m hstored) := by
    refine entry_eq_ok.mpr ?_
    rw [unreplicated, get?_setEntry]
    exact if_pos hobject.symm
  have hbegin : (unreplicated m hstored).beginOutputPublicationRetirement [.ofManifest m]
      "retirement" (inventory m) = .ok (retirementPlan m hstored, retiring m hstored) := by
    simp only [beginOutputPublicationRetirement, bind_eq_ok]
    exact ⟨(), raiseIf_ok (not_not.mpr hkeys), _, replicaDrops_inventory m hstored, _,
      (retirementPlan m hstored).create_self, bind_eq_ok.mpr ⟨_, hentry, bind_eq_ok.mpr
        ⟨(), valid_lost m hstored, rfl⟩⟩⟩
  rw [step, hbegin]
  rfl

theorem run_retiring : run step .empty (retiringOps m hstored) = retiring m hstored := by
  rw [retiringOps, run_cons, step_register]
  exact (congrArg (fun s => run step s _) (step_publish m hstored)).trans <|
    (congrArg (fun s => run step s _) (step_lost m hstored)).trans (step_begin m hstored)

theorem complete_retiring
    (hack : Acknowledged (retiring m hstored) (retirementPlan m hstored) edges replicas) :
    ∃ r s₁ e e', (run step .empty (retiringOps m hstored)).completeOutputPublicationRetirement
        (retirementPlan m hstored) edges replicas = .ok (r, s₁) ∧
      (run step .empty (retiringOps m hstored)).entries.get?
        (retirementPlan m hstored).member.objectId = some e ∧
      s₁.entries.get? (retirementPlan m hstored).member.objectId = some e' ∧
      e.outgoingContainedEdges = m.slot.edges.toFinset ∧ e'.outgoingContainedEdges = ∅ := by
  have hknown := retirementsKnown_run (retiringOps m hstored)
  rw [run_retiring] at hknown ⊢
  have hfirst : (retiring m hstored).outputRetirementReceipts.get? "retirement" = none := rfl
  have hplan : (retiring m hstored).outputRetirementPlans.get? "retirement" =
      some (retirementPlan m hstored) := Dict.get?_set_self ..
  obtain ⟨r, s₁, hcomplete⟩ := (hknown.completes hfirst).mpr ⟨hplan, hack⟩
  obtain ⟨_, _, e, hr⟩ := retires_of_first hfirst hcomplete
  refine ⟨r, s₁, e, retireOutput e, hcomplete, hr.entry, ?_, ?_, rfl⟩
  · have hid : (retireOutput e).objectId = (retirementPlan m hstored).member.objectId :=
      (retiring m hstored).keyed _ e hr.entry
    rw [hr.effect, get?_setEntry, if_pos hid]
  · have hv := hr.valid
    simp only [validateOutputRetirementEntry, bind_eq_ok, raiseIf_eq_ok, not_or, not_not] at hv
    obtain ⟨_, _, _, _, _, ⟨_, _, _, _, _, _, _, hedges, _⟩, _⟩ := hv
    exact hedges

theorem receipts_retiring :
    (run step .empty (retiringOps m hstored)).outputRetirementReceipts.get?
      (retirementPlan m hstored).retirementId = none := by
  rw [run_retiring]
  rfl

/-! One stored result with one child, published by the executor's Node. -/

def heldChild : PreparedContainedTransfer := .sample

def storedManifest : OutputPublicationManifest := .sample .objectStore

theorem transfers_storedManifest : storedManifest.slot.transfers = [heldChild] := rfl

/-- The child's owner released the final hold. -/
def released : ChildCleanup :=
  .release ⟨heldChild.containedObjectId, heldChild.containedOwnerWorkerId, heldChild.finalHold,
    true, true, none, fun _ => rfl, nofun⟩

def dropped : ReplicaCleanup :=
  .dropped ⟨drop storedManifest, .dropped, none, fun _ => rfl, fun h => absurd (.inl rfl) h⟩

theorem acknowledged_stored (s : ObjectOwnerTable Unit) :
    Acknowledged s (retirementPlan storedManifest rfl) [released] [dropped] := by
  have hreleases : (retirementPlan storedManifest rfl).containedReleases =
      [⟨heldChild.containedObjectId, heldChild.containedOwnerWorkerId, heldChild.finalHold⟩] := rfl
  have hdrops : (retirementPlan storedManifest rfl).replicaDrops = [drop storedManifest] := rfl
  refine ⟨by rw [hreleases]; rfl, ?_, by rw [hdrops]; rfl, ?_, ?_⟩
  · rw [hreleases]
    intro pair hpair
    rw [List.mem_singleton.mp hpair]
    exact ⟨rfl, rfl, rfl, rfl, rfl⟩
  · rw [hdrops]
    intro pair hpair
    rw [List.mem_singleton.mp hpair]
    exact ⟨rfl, .inl rfl⟩
  · intro record hrecord
    cases List.mem_singleton.mp hrecord

end Sample

open Sample in
/-- Completing the retirement of a stored output with a child also clears its child edges. -/
theorem not_clears_exactly : ¬ ∀ (ops : List (Op Unit))
    (plan : OutputOwnerPublicationRetirementPlan) (edges : List ChildCleanup)
    (replicas : List ReplicaCleanup) (r : OutputOwnerPublicationRetirementReceipt)
    (s₁ : ObjectOwnerTable Unit),
    (Run.run step .empty ops).outputRetirementReceipts.get? plan.retirementId = none →
    (Run.run step .empty ops).completeOutputPublicationRetirement plan edges replicas =
      .ok (r, s₁) →
    ∃ e e', (Run.run step .empty ops).entries.get? plan.member.objectId = some e ∧
      s₁.entries.get? plan.member.objectId = some e' ∧
      e'.toResultFields = { e.toResultFields with
        canonicalStoredResult := none, outputPublication := none, outputRetirementId := none } := by
  intro h
  obtain ⟨r, s₁, e, e', hcomplete, he, he', hbefore, hafter⟩ :=
    complete_retiring storedManifest rfl (acknowledged_stored _)
  obtain ⟨e₀, e₁, he₀, he₁, hfields⟩ :=
    h _ _ _ _ r s₁ (receipts_retiring storedManifest rfl) hcomplete
  cases he.symm.trans he₀
  cases he'.symm.trans he₁
  have hedges : e'.outgoingContainedEdges = e.outgoingContainedEdges := by
    have h := congrArg ResultFields.outgoingContainedEdges hfields
    exact h
  rw [hbefore, hafter, OutputSlotManifest.edges, transfers_storedManifest] at hedges
  simp at hedges

end ObjectOwnerTable

end MiniRay
