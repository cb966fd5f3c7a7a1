import MiniRay.Ownership.OutputPublications

/-! A lost output is first frozen with its exact cleanup plan, and gives up its publication only
against the acknowledgement of every child pin and replica. -/

namespace MiniRay

open Checked

instance (member : OutputOwnerPublicationMembership) (drop : DropObjectReplica) :
    Decidable (RetiresReplica member drop) := inferInstanceAs (Decidable (_ ∧ _))

instance (proof : ChildCleanup) (expected : ReleaseContainedReference) :
    Decidable (proof.Acknowledges expected) :=
  match proof with
  | .release _ | .death _ => inferInstanceAs (Decidable (_ ∧ _))

instance (publisher : PublicationNodeIncarnation) (proof : ReplicaCleanup)
    (expected : DropObjectReplica) : Decidable (proof.Discharges publisher expected) := by
  cases proof <;> exact inferInstanceAs (Decidable (_ ∧ _))

/-! ## Plans and receipts -/

namespace OutputOwnerPublicationRetirementPlan

/-- The order replica obligations are stated in. -/
def dropKeys (drops : List DropObjectReplica) : List (ObjectID × NodeID) :=
  drops.map fun drop => (drop.objectId, drop.nodeId)

/-- The constructor's checks, in its order. -/
def create (retirementId : String) (memberships : List OutputOwnerPublicationMembership)
    (drops : List DropObjectReplica) : Except Raised OutputOwnerPublicationRetirementPlan := do
  let ⟨hid⟩ ← certify (retirementId ≠ "")
    ⟨.typeError, "retirement_id must be a non-empty string"⟩
  let ⟨hsingle⟩ ← certify (memberships.length = 1)
    ⟨.valueError, "retirement requires exactly one output membership"⟩
  let ⟨hmatch⟩ ← certify (∀ drop ∈ drops, ∃ member ∈ memberships, RetiresReplica member drop)
    ⟨.outputOwnerRetirementConflict, "replica obligation changed the old output identity"⟩
  let ⟨hsorted⟩ ← certify
    ((drops.map fun drop => toLex (drop.objectId, drop.nodeId)).Pairwise (· < ·))
    ⟨.outputOwnerRetirementConflict, "replica obligations must be unique and ordered"⟩
  let ⟨hpublisher⟩ ← certify (∀ member ∈ memberships, member.slot.tier = .objectStore →
      (member.objectId, member.manifest.header.nodeIncarnation.nodeId) ∈ dropKeys drops)
    ⟨.outputOwnerRetirementConflict, "stored retirement must include its publishing Node"⟩
  return ⟨retirementId, memberships, drops, hid, hsingle, hmatch, hsorted, hpublisher⟩

theorem create_self (plan : OutputOwnerPublicationRetirementPlan) :
    create plan.retirementId plan.memberships plan.replicaDrops = .ok plan := by
  have hpublisher : ∀ member ∈ plan.memberships, member.slot.tier = .objectStore →
      (member.objectId, member.manifest.header.nodeIncarnation.nodeId) ∈
        dropKeys plan.replicaDrops := plan.publisher_drop
  rw [create, certify_ok plan.id_ne, certify_ok plan.single, certify_ok plan.drops_match,
    certify_ok plan.drops_sorted, certify_ok hpublisher]
  rfl

end OutputOwnerPublicationRetirementPlan

/-- The identity a child's death must have been installed under. -/
def retirementChildDeathId (death : WorkerDeathRecord) : String :=
  "worker-death:v1:" ++ toString death.deathEpoch ++ ":" ++ death.workerId.value.hex ++ ":" ++
    death.incarnation.nodeId.value.hex ++ ":" ++ toString death.incarnation.nodePid ++ ":" ++
    toString death.incarnation.nodeRegistrationEpoch ++ ":" ++
    toString death.incarnation.workerPid ++ ":" ++ toString death.exitCode ++ ":" ++
    death.reason.value ++ ":" ++ death.detectionId

/-- Why a child proof was refused. -/
def ChildCleanup.refusal : ChildCleanup → Raised
  | .death record =>
    if record.OwnerDeath then
      ⟨.outputOwnerRetirementConflict,
        "child death must identify the final hold's confirmed owner exit"⟩
    else
      ⟨.valueError, (if ¬ Uint64 record.incarnation.nodePid then "owner node_pid"
        else if ¬ Uint64 record.incarnation.nodeRegistrationEpoch then "owner node epoch"
        else if ¬ Uint64 record.incarnation.workerPid then "owner worker_pid"
        else "owner death_epoch") ++ " must be a positive uint64"⟩
  | .release _ =>
    ⟨.outputOwnerRetirementConflict, "child release must acknowledge the exact final hold"⟩

/-- Why a replica proof was refused. -/
def ReplicaCleanup.refusal : ReplicaCleanup → Raised
  | .dropped _ =>
    ⟨.outputOwnerRetirementConflict, "replica ACK must discharge the exact old replica"⟩
  | .death record =>
    if ¬ Uint64 record.nodePid then ⟨.valueError, "node_pid must be a positive uint64"⟩
    else if ¬ Uint64 record.registrationEpoch then
      ⟨.valueError, "registration_epoch must be a positive uint64"⟩
    else if ¬ Uint64 record.deathEpoch then
      ⟨.valueError, "death_epoch must be a positive uint64"⟩
    else ⟨.outputOwnerRetirementConflict, "replica death must match its frozen Node incarnation"⟩

namespace OutputOwnerPublicationRetirementReceipt

/-- Check typed acknowledgements against the exact frozen obligations. -/
def create (plan : OutputOwnerPublicationRetirementPlan) (releasedEdges : List ChildCleanup)
    (droppedReplicas : List ReplicaCleanup) :
    Except Raised OutputOwnerPublicationRetirementReceipt := do
  let publisher := plan.member.manifest.header.nodeIncarnation
  let ⟨hedges⟩ ← certify (releasedEdges.length = plan.containedReleases.length)
    ⟨.outputOwnerRetirementConflict, "retirement requires every child release ACK"⟩
  let ⟨hreleased⟩ ← certifyAll (fun pair => pair.1.Acknowledges pair.2)
    (fun pair => pair.1.refusal) (releasedEdges.zip plan.containedReleases)
  let ⟨hreplicas⟩ ← certify (droppedReplicas.length = plan.replicaDrops.length)
    ⟨.outputOwnerRetirementConflict, "retirement requires every replica cleanup ACK"⟩
  let ⟨hdropped⟩ ← certifyAll (fun pair => pair.1.Discharges publisher pair.2)
    (fun pair => pair.1.refusal) (droppedReplicas.zip plan.replicaDrops)
  return ⟨plan, releasedEdges, droppedReplicas, .applied,
    OutputOwnerPublicationDisposition.applied_committed, hedges, hreleased, hreplicas, hdropped⟩

theorem create_eq_ok {plan : OutputOwnerPublicationRetirementPlan} {edges : List ChildCleanup}
    {replicas : List ReplicaCleanup} {receipt : OutputOwnerPublicationRetirementReceipt}
    (h : create plan edges replicas = .ok receipt) :
    receipt.plan = plan ∧ receipt.disposition = .applied := by
  simp only [create, bind_eq_ok, pure_eq_ok] at h
  obtain ⟨_, _, _, _, _, _, _, _, rfl⟩ := h
  exact ⟨rfl, rfl⟩

end OutputOwnerPublicationRetirementReceipt

namespace ObjectOwnerTable

variable {ε : Type} {self s' : ObjectOwnerTable ε} {keeps : ObjectID → ReferenceToken → Prop}
  {c : CallerConditions}

/-! ## Freezing a lost output -/

/-- The result of a lost output: its descriptor stays, its bytes and replicas do not. -/
def LostResultIntact (e : ObjectOwnerEntry ε) (member : OutputOwnerPublicationMembership) : Prop :=
  e.inlineData = none ∧ e.canonicalStoredResult =
    if member.slot.tier = .objectStore then some member.manifest.storedDescriptor else none

instance (e : ObjectOwnerEntry ε) (member : OutputOwnerPublicationMembership) :
    Decidable (LostResultIntact e member) := inferInstanceAs (Decidable (_ ∧ _))

def validateOutputRetirementEntry (self : ObjectOwnerTable ε) (e : ObjectOwnerEntry ε)
    (member : OutputOwnerPublicationMembership) (retirementId : Option String) :
    Except Raised Unit := do
  let manifest := member.manifest
  requireNotCollecting e "normal collection conflicts with output retirement"
  raiseIf (e.outputRetirementId ≠ retirementId)
    ⟨.outputOwnerRetirementInProgress, "another retirement owns this output"⟩
  raiseIf (self.outputPublicationReceipts.get? member.publicationId ≠ some manifest ∨
      e.outputPublication ≠ some member ∨
      e.currentAttempt ≠ some member.publicationId.attemptId ∨ e.state ≠ .lost ∨
      e.locationAttempts.items ≠ [] ∨ e.error.isSome = true ∨ e.collectionPlan ≠ none ∨
      e.outgoingContainedEdges ≠ member.slot.edges.toFinset ∨
      ¬ ∃ spec ∈ e.producerTaskSpec, spec.returnIds = member.publicationId.outputIds ∧
        spec.ownerWorkerId = manifest.header.ownerWorkerId ∧ spec.jobId = manifest.header.jobId)
    ⟨.outputOwnerRetirementConflict,
      "retirement requires the exact published LOST slot and lineage"⟩
  raiseIf (¬ LostResultIntact e member)
    ⟨.outputOwnerRetirementConflict, "retirement result identity changed before cleanup"⟩

theorem validateOutputRetirementEntry_cases {e : ObjectOwnerEntry ε}
    {member : OutputOwnerPublicationMembership} {id : Option String} {u : Unit}
    (h : self.validateOutputRetirementEntry e member id = .ok u) :
    e.collectionPending = false ∧ e.outputPublication = some member ∧
      e.currentAttempt = some member.publicationId.attemptId ∧ e.state = .lost := by
  simp only [validateOutputRetirementEntry, bind_eq_ok, requireNotCollecting_eq_ok, raiseIf_eq_ok,
    not_or, not_not] at h
  obtain ⟨_, hidle, _, _, _, ⟨_, hmember, hattempt, hstate, _⟩, _⟩ := h
  exact ⟨hidle, hmember, hattempt, hstate⟩

/-- The replica obligations of the inventory of one member. -/
def replicaDrops (replicaLocations : Dict ObjectID (List NodeID)) :
    List OutputOwnerPublicationMembership → Except Raised (List DropObjectReplica)
  | [] => .ok []
  | member :: rest => do
      let locations := (replicaLocations.get? member.objectId).getD []
      raiseIf (¬ locations.Nodup)
        ⟨.outputOwnerRetirementConflict, "replica inventory repeats a Node"⟩
      raiseIf (member.slot.tier = .inline ∧ locations ≠ [])
        ⟨.outputOwnerRetirementConflict, "inline retirement cannot drop physical replicas"⟩
      let drops : List DropObjectReplica := (Sorted.sortList locations).map fun node =>
        { objectId := member.objectId
          producerAttemptId := member.publicationId.attemptId
          ownerWorkerId := member.manifest.header.ownerWorkerId
          nodeId := node
          checksum := member.slot.checksum
          attempt_task := by
            rw [member.objectId_eq]
            exact member.publicationId.attempt_taskId
          checksum_hex := member.slot.checksum_hex }
      return drops ++ (← replicaDrops replicaLocations rest)

/-- Freeze an exact lost slot, without collecting its logical identity. -/
def beginOutputPublicationRetirement (self : ObjectOwnerTable ε)
    (memberships : List OutputOwnerPublicationMembership) (retirementId : String)
    (replicaLocations : Dict ObjectID (List NodeID)) :
    Except Raised (OutputOwnerPublicationRetirementPlan × ObjectOwnerTable ε) := do
  raiseIf (replicaLocations.keys.toFinset ≠ (memberships.map (·.objectId)).toFinset)
    ⟨.outputOwnerRetirementConflict,
      "replica inventory must cover exactly the retiring output"⟩
  let drops ← replicaDrops replicaLocations memberships
  let plan ← OutputOwnerPublicationRetirementPlan.create retirementId memberships drops
  match self.outputRetirementPlans.get? retirementId with
  | some previous => do
      raiseIf (previous ≠ plan)
        ⟨.outputOwnerRetirementConflict, "retirement_id changed its exact cleanup plan"⟩
      return (previous, self)
  | none => do
      let e ← self.entry plan.member.objectId
      self.validateOutputRetirementEntry e plan.member none
      return (plan, { self.setEntry { e with outputRetirementId := some retirementId } with
        outputRetirementPlans := self.outputRetirementPlans.set retirementId plan })

variable {plan : OutputOwnerPublicationRetirementPlan}

theorem beginOutputPublicationRetirement_moves {ms : List OutputOwnerPublicationMembership}
    {id : String} {locations : Dict ObjectID (List NodeID)}
    (h : self.beginOutputPublicationRetirement ms id locations = .ok (plan, s')) :
    Moves c self s' := by
  simp only [beginOutputPublicationRetirement, bind_eq_ok] at h
  obtain ⟨_, _, drops, _, created, _, h⟩ := h
  cases hp : self.outputRetirementPlans.get? id with
  | some previous =>
    simp only [hp, bind_eq_ok, pure_eq_ok, Prod.mk.injEq] at h
    obtain ⟨_, _, _, rfl⟩ := h
    exact .same
  | none =>
    simp only [hp, bind_eq_ok, entry_eq_ok, pure_eq_ok, Prod.mk.injEq] at h
    obtain ⟨e, he, _, hv, _, rfl⟩ := h
    exact .inr ⟨e, _, get?_objectId he, rfl, rfl, rfl, rfl,
      fun _ => (validateOutputRetirementEntry_cases hv).1, .retiring id hp (by simp),
      Finset.Subset.refl _, rfl, rfl⟩

/-! ## Completing a retirement -/

/-- The entry without the effects of its retired publication. -/
def retireOutput (e : ObjectOwnerEntry ε) : ObjectOwnerEntry ε :=
  { e with
    inlineData := none
    error := none
    canonicalStoredResult := none
    locationAttempts := .empty
    outgoingContainedEdges := ∅
    outputPublication := none
    outputRetirementId := none
    own_edges := e.own_empty }

/-- Clear only retired result effects after every exact cleanup acknowledgement. -/
def completeOutputPublicationRetirement (self : ObjectOwnerTable ε)
    (plan : OutputOwnerPublicationRetirementPlan) (releasedEdges : List ChildCleanup)
    (droppedReplicas : List ReplicaCleanup) :
    Except Raised (OutputOwnerPublicationRetirementReceipt × ObjectOwnerTable ε) := do
  let receipt ← OutputOwnerPublicationRetirementReceipt.create plan releasedEdges droppedReplicas
  checkAll (fun proof => match proof with
      | .release _ => .ok ()
      | .death record =>
        raiseIf (((self.deadWorkerCleanups.get? record.workerId).map fun cleanup =>
            cleanup.record.deathId) ≠ some (retirementChildDeathId record))
          (⟨.outputOwnerRetirementConflict,
            "child death must match the installed immutable owner fence"⟩ : Raised))
    receipt.releasedEdges
  match self.outputRetirementReceipts.get? plan.retirementId with
  | some previous => do
      raiseIf (previous ≠ receipt)
        ⟨.outputOwnerRetirementConflict,
          "retirement completion changed its exact plan or proofs"⟩
      return ({ previous with
        disposition := .alreadyApplied
        committed := OutputOwnerPublicationDisposition.alreadyApplied_committed }, self)
  | none => do
      raiseIf (self.outputRetirementPlans.get? plan.retirementId ≠ some plan)
        ⟨.outputOwnerRetirementConflict,
          "retirement was not admitted with this exact cleanup plan"⟩
      let member := plan.member
      let e ← self.entry member.objectId
      self.validateOutputRetirementEntry e member (some plan.retirementId)
      return (receipt, { self.setEntry (retireOutput e) with
        retiredOutputSlots :=
          insert (member.publicationId, member.objectId) self.retiredOutputSlots
        retiredOutputAttempts :=
          insert (member.objectId, member.publicationId.attemptId) self.retiredOutputAttempts
        outputRetirementReceipts :=
          self.outputRetirementReceipts.set plan.retirementId receipt })

variable {edges : List ChildCleanup} {replicas : List ReplicaCleanup}
  {receipt : OutputOwnerPublicationRetirementReceipt}

theorem completeOutputPublicationRetirement_cases
    (h : self.completeOutputPublicationRetirement plan edges replicas = .ok (receipt, s')) :
    receipt.disposition = .alreadyApplied ∧ s' = self ∨
      receipt.disposition = .applied ∧ ∃ e, self.entries.get? plan.member.objectId = some e ∧
        e.collectionPending = false ∧ e.outputPublication = some plan.member ∧
        e.currentAttempt = some plan.member.publicationId.attemptId ∧ e.state = .lost ∧
        s' = { self.setEntry (retireOutput e) with
          retiredOutputSlots :=
            insert (plan.member.publicationId, plan.member.objectId) self.retiredOutputSlots
          retiredOutputAttempts := insert
            (plan.member.objectId, plan.member.publicationId.attemptId) self.retiredOutputAttempts
          outputRetirementReceipts :=
            self.outputRetirementReceipts.set plan.retirementId receipt } := by
  simp only [completeOutputPublicationRetirement, bind_eq_ok] at h
  obtain ⟨created, hcreate, _, _, h⟩ := h
  cases hp : self.outputRetirementReceipts.get? plan.retirementId with
  | some previous =>
    simp only [hp, bind_eq_ok, pure_eq_ok, Prod.mk.injEq] at h
    obtain ⟨_, _, rfl, rfl⟩ := h
    exact .inl ⟨rfl, rfl⟩
  | none =>
    simp only [hp, bind_eq_ok, entry_eq_ok, pure_eq_ok, Prod.mk.injEq] at h
    obtain ⟨_, _, e, he, _, hv, rfl, rfl⟩ := h
    obtain ⟨hidle, hmember, hattempt, hstate⟩ := validateOutputRetirementEntry_cases hv
    exact .inr ⟨(OutputOwnerPublicationRetirementReceipt.create_eq_ok hcreate).2, e, he, hidle,
      hmember, hattempt, hstate, rfl⟩

theorem completeOutputPublicationRetirement_moves
    (h : self.completeOutputPublicationRetirement plan edges replicas = .ok (receipt, s'))
    (hretires : c.retires plan.member.objectId plan.member.publicationId.attemptId) :
    Moves c self s' := by
  rcases completeOutputPublicationRetirement_cases h with ⟨_, rfl⟩ |
    ⟨_, e, he, hidle, _, hattempt, hstate, rfl⟩
  · exact .same
  · refine .inr ⟨e, retireOutput e, get?_objectId he, rfl, rfl, rfl, rfl, fun _ => hidle,
      .retired _ hstate hattempt ?_ ?_, Finset.subset_insert _ _, rfl, rfl⟩
    · rw [self.keyed _ _ he]
      exact hretires
    · rw [self.keyed _ _ he]
      exact Finset.mem_insert_self _ _

end ObjectOwnerTable

end MiniRay
