import MiniRay.Ownership.CollectionCompletion
import MiniRay.Ownership.PutValues
import MiniRay.Ownership.Retirement
import MiniRay.Ownership.TaskOutputs
import MiniRay.Ownership.WorkerDeaths

/-! Every call that can change the table, as one step. A call that raises leaves the table as it
was. -/

namespace MiniRay

open Checked

inductive Op (ε : Type)
  | register (objectId : ObjectID) (currentAttempt : Option AttemptID)
      (producerTaskSpec : Option TaskSpec) (localToken : Option ReferenceToken)
  | commitRegisterTaskOutputs (plan : TaskOutputRegistrationPlan)
  | abortRegisteredTaskOutputs (plan : TaskOutputRegistrationPlan)
      (outgoingLineageEdges : List LineageReferenceEdge)
  | installDeadWorker (workerId : WorkerID) (deathId : String)
  | advanceAttempt (objectId : ObjectID) (expectedAttempt : Option AttemptID)
      (nextAttempt : AttemptID)
  | commitAdvanceTaskOutputs (plan : TaskOutputAttemptAdvancePlan)
  | commitValidatedAdvanceTaskOutputs (plan : TaskOutputAttemptAdvancePlan)
  | publishInline (objectId : ObjectID) (attemptId : Option AttemptID) (data : List UInt8)
  | publishPutValue (objectId : ObjectID) (attempt : AttemptID) (descriptor : ResultDescriptor)
      (edges : List ContainedReferenceEdge)
  | publishStored (objectId : ObjectID) (attemptId : Option AttemptID) (location : NodeID)
      (descriptor : Option ResultDescriptor)
  | removeLocation (objectId : ObjectID) (attemptId : Option AttemptID) (location : NodeID)
  | removeNodeLocations (nodeId : NodeID)
  | publishError (objectId : ObjectID) (attemptId : Option AttemptID) (error : Option ε)
  | commitPublishTaskOutputs (plan : TaskOutputPublicationPlan)
  | commitValidatedPublishTaskOutputs (plan : TaskOutputPublicationPlan)
  | commitOutputPublication (plan : OutputOwnerPublicationPlan)
  | resolveOutputNodeLoss (manifest : OutputPublicationManifest)
      (resolution : NodeLostOutputResolution) (envelope : Option OutputPublicationEnvelope)
      (unavailableNodes : List NodeID)
  | beginOutputPublicationRetirement (memberships : List OutputOwnerPublicationMembership)
      (retirementId : String) (replicaLocations : Dict ObjectID (List NodeID))
  | completeOutputPublicationRetirement (plan : OutputOwnerPublicationRetirementPlan)
      (releasedEdges : List ChildCleanup) (droppedReplicas : List ReplicaCleanup)
  | commitPublishTaskError (plan : TaskOutputErrorPlan ε)
  | commitValidatedPublishTaskError (plan : TaskOutputErrorPlan ε)
  | markLost (objectId : ObjectID) (attemptId : Option AttemptID)
  | addReference (objectId : ObjectID) (kind : ReferenceKind) (token : ReferenceToken)
  | releaseReference (objectId : ObjectID) (kind : ReferenceKind) (token : ReferenceToken)
  | addSubmittedReference (objectId : ObjectID) (hold : TaskReferenceHold)
  | releaseSubmittedReference (objectId : ObjectID) (hold : TaskReferenceHold)
  | addBorrowedReference (objectId : ObjectID) (token : ReferenceToken)
  | releaseBorrowedReference (objectId : ObjectID) (token : ReferenceToken)
  | acquireExportedReference (objectId : ObjectID) (source : BorrowSource)
      (borrowerToken : ReferenceToken)
  | retainBorrowedReferenceForTask (objectId : ObjectID) (borrowerToken : ReferenceToken)
      (hold : TaskReferenceHold)
  | releaseRetainedReferenceForTask (objectId : ObjectID) (hold : TaskReferenceHold)
  | replaceRetainedReferenceForTask (objectId : ObjectID)
      (expectedHold replacementHold : TaskReferenceHold)
  | addContainedReference (objectId : ObjectID) (hold : ContainedReferenceHold)
  | prepareStoredContainedReference (transfer : PreparedContainedTransfer)
      (authorityWorkerId : WorkerID)
  | promoteStoredContainedReference (transfer : PreparedContainedTransfer)
      (authorityWorkerId : WorkerID)
  | releaseContainedReference (objectId : ObjectID) (hold : ContainedReferenceHold)
  | addLineageReference (objectId : ObjectID) (token : ReferenceToken)
  | releaseLineageReference (objectId : ObjectID) (token : ReferenceToken)
  | addOutgoingLineageEdge (objectId : ObjectID) (edge : LineageReferenceEdge)
  | abortTaskLineageEdges (taskId : TaskID) (expectedEdges : List LineageReferenceEdge)
  | addOutgoingContainedEdge (objectId : ObjectID) (edge : ContainedReferenceEdge)
  | addOutgoingContainedEdges (objectId : ObjectID) (edges : List ContainedReferenceEdge)
  | collectIfUnused (objectId : ObjectID)
  | collectUnusedWithEdges (objectId : ObjectID)
  | beginCollection (objectId : ObjectID) (collectionId : Option String) (uuid : String)
      (canonicalSizeBytes : Option Nat) (canonicalChecksum : Option String)
  | beginOutputPublicationCollection (objectId : ObjectID) (collectionId : String)
  | completeOutputPublicationCollection (plan : OutputOwnerPublicationCollectionPlan)
  | completeCollection (plan : ObjectMetadataCollectionPlan)

def Op.Registers {ε : Type} (op : Op ε) (o : ObjectID) : Prop :=
  match op with
  | .register x _ _ _ => o = x
  | .commitRegisterTaskOutputs plan => o = plan.execution.output
  | _ => False

/-- The call retires the output of an attempt, or discards it after a Node loss. -/
def Op.Retires {ε : Type} (op : Op ε) (o : ObjectID) (a : AttemptID) : Prop :=
  match op with
  | .resolveOutputNodeLoss manifest resolution _ _ => resolution.keep = false ∧
      o = manifest.slot.objectId ∧ a = manifest.publicationId.attemptId
  | .completeOutputPublicationRetirement plan _ _ =>
    o = plan.member.objectId ∧ a = plan.member.publicationId.attemptId
  | _ => False

def Op.Advances {ε : Type} (op : Op ε) (o : ObjectID) (next : AttemptID) : Prop :=
  match op with
  | .advanceAttempt x _ a => o = x ∧ next = a
  | .commitAdvanceTaskOutputs plan | .commitValidatedAdvanceTaskOutputs plan =>
    o = plan.expected.output ∧ next = plan.nextExecution.attemptId
  | _ => False

namespace ObjectOwnerTable

variable {ε : Type} {s s' : ObjectOwnerTable ε} {keeps : ObjectID → ReferenceToken → Prop}
  {c : CallerConditions}

/-- What every call keeps: the discipline of references and that of results. -/
structure StepSpec (keeps : ObjectID → ReferenceToken → Prop) (c : CallerConditions)
    (s s' : ObjectOwnerTable ε) : Prop where
  references : ReferenceSpec keeps s s'
  results : ResultSpec c s s'

theorem StepSpec.refl (s : ObjectOwnerTable ε) : StepSpec keeps c s s := ⟨.refl _, .refl _⟩

theorem Moves.toStepSpec (h : Moves c s s') : StepSpec keeps c s s' :=
  ⟨h.toReferenceSpec, h.toResultSpec⟩

theorem Changes.toStepSpec (h : Changes s s') : StepSpec keeps c s s' :=
  ⟨h.toReferenceSpec, h.toResultSpec⟩

theorem StepSpec.commit {α : Type} {x : Except Raised (α × ObjectOwnerTable ε)}
    (h : ∀ a s', x = .ok (a, s') → StepSpec keeps c s s') : StepSpec keeps c s (commit s x) :=
  commit_of (.refl s) h

variable [BEq ε]

/-- The table after one call. -/
def step (s : ObjectOwnerTable ε) : Op ε → ObjectOwnerTable ε
  | .register o attempt spec token => commit s (s.register o attempt spec token)
  | .commitRegisterTaskOutputs plan => commit s (s.commitRegisterTaskOutputs plan)
  | .abortRegisteredTaskOutputs plan edges => commit s (s.abortRegisteredTaskOutputs plan edges)
  | .installDeadWorker w death => commit s (s.installDeadWorker w death)
  | .advanceAttempt o expected next => commit s (s.advanceAttempt o expected next)
  | .commitAdvanceTaskOutputs plan => commit s (s.commitAdvanceTaskOutputs plan)
  | .commitValidatedAdvanceTaskOutputs plan =>
    commit s (s.commitValidatedAdvanceTaskOutputs plan)
  | .publishInline o attempt data => commit s (s.publishInline o attempt data)
  | .publishPutValue o attempt d edges => commit s (s.publishPutValue o attempt d edges)
  | .publishStored o attempt node d => commit s (s.publishStored o attempt node d)
  | .removeLocation o attempt node => commit s (s.removeLocation o attempt node)
  | .removeNodeLocations node => (s.removeNodeLocations node).2
  | .publishError o attempt error => commit s (s.publishError o attempt error)
  | .commitPublishTaskOutputs plan => commit s (s.commitPublishTaskOutputs plan)
  | .commitValidatedPublishTaskOutputs plan =>
    commit s (s.commitValidatedPublishTaskOutputs plan)
  | .commitOutputPublication plan => commit s (s.commitOutputPublication plan)
  | .resolveOutputNodeLoss manifest resolution envelope nodes =>
    commit s (s.resolveOutputNodeLoss manifest resolution envelope nodes)
  | .beginOutputPublicationRetirement members id locations =>
    commit s (s.beginOutputPublicationRetirement members id locations)
  | .completeOutputPublicationRetirement plan edges replicas =>
    commit s (s.completeOutputPublicationRetirement plan edges replicas)
  | .commitPublishTaskError plan => commit s (s.commitPublishTaskError plan)
  | .commitValidatedPublishTaskError plan => commit s (s.commitValidatedPublishTaskError plan)
  | .markLost o attempt => commit s (s.markLost o attempt)
  | .addReference o kind token => commit s (s.addReference o kind token)
  | .releaseReference o kind token => commit s (s.releaseReference o kind token)
  | .addSubmittedReference o hold => commit s (s.addSubmittedReference o hold)
  | .releaseSubmittedReference o hold => commit s (s.releaseSubmittedReference o hold)
  | .addBorrowedReference o token => commit s (s.addBorrowedReference o token)
  | .releaseBorrowedReference o token => commit s (s.releaseBorrowedReference o token)
  | .acquireExportedReference o source token =>
    commit s (s.acquireExportedReference o source token)
  | .retainBorrowedReferenceForTask o token hold =>
    commit s (s.retainBorrowedReferenceForTask o token hold)
  | .releaseRetainedReferenceForTask o hold => commit s (s.releaseRetainedReferenceForTask o hold)
  | .replaceRetainedReferenceForTask o expected replacement =>
    commit s (s.replaceRetainedReferenceForTask o expected replacement)
  | .addContainedReference o hold => commit s (s.addContainedReference o hold)
  | .prepareStoredContainedReference transfer w =>
    commit s (s.prepareStoredContainedReference transfer w)
  | .promoteStoredContainedReference transfer w =>
    commit s (s.promoteStoredContainedReference transfer w)
  | .releaseContainedReference o hold => commit s (s.releaseContainedReference o hold)
  | .addLineageReference o token => commit s (s.addLineageReference o token)
  | .releaseLineageReference o token => (s.releaseLineageReference o token).2
  | .addOutgoingLineageEdge o edge => commit s (s.addOutgoingLineageEdge o edge)
  | .abortTaskLineageEdges t edges => commit s (s.abortTaskLineageEdges t edges)
  | .addOutgoingContainedEdge o edge => commit s (s.addOutgoingContainedEdge o edge)
  | .addOutgoingContainedEdges o edges => commit s (s.addOutgoingContainedEdges o edges)
  | .collectIfUnused o => commit s (s.collectIfUnused o)
  | .collectUnusedWithEdges o => commit s (s.collectUnusedWithEdges o)
  | .beginCollection o name uuid size checksum =>
    commit s (s.beginCollection o name uuid size checksum)
  | .beginOutputPublicationCollection o name => commit s (s.beginOutputPublicationCollection o name)
  | .completeOutputPublicationCollection plan =>
    commit s (s.completeOutputPublicationCollection plan)
  | .completeCollection plan => commit s (s.completeCollection plan)

def callerConditions (s : ObjectOwnerTable ε) (op : Op ε) : CallerConditions where
  validated := match op with
    | .commitValidatedAdvanceTaskOutputs plan => ∃ f, s.validateAdvanceTaskOutputs plan = .ok f
    | .commitValidatedPublishTaskOutputs plan => s.validatePublishTaskOutputs plan = .ok true
    | .commitValidatedPublishTaskError plan => s.validatePublishTaskError plan = .ok true
    | _ => True
  vacant := match op with
    | .commitValidatedAdvanceTaskOutputs plan => s.AdvancesVacant plan
    | _ => True
  renewed := match op with
    | .commitValidatedAdvanceTaskOutputs plan => s.AdvancesRenewed plan
    | _ => True
  ordered := match op with
    | .commitValidatedAdvanceTaskOutputs plan => s.AdvancesInOrder plan
    | _ => True
  bytes := match op with
    | .resolveOutputNodeLoss manifest _ envelope _ => s.HandsBackBytes manifest envelope
    | _ => True
  identical := match op with
    | .commitPublishTaskOutputs plan => s.RepublishesIdentically plan
    | .commitValidatedPublishTaskOutputs plan => s.RepublishesIdentically plan
    | _ => True
  lineage := match op with
    | .addOutgoingLineageEdge o _ => ∀ x e, s.entries.get? x = some e →
        e.collectionPending = true → x.taskId = o.taskId → x = o
    | .abortTaskLineageEdges t _ => ∀ x e, s.entries.get? x = some e →
        e.collectionPending = true → x.taskId ≠ t
    | _ => True
  integrity := match op with
    | .beginCollection o _ _ size checksum => ∀ e, s.entries.get? o = some e →
        KnownIntegrity e size checksum
    | _ => True
  retires := op.Retires
  registers := op.Registers
  advances := op.Advances
  restates := match op with
    | .commitPublishTaskError _ | .commitValidatedPublishTaskError _ => True
    | _ => False

def Forgets (s : ObjectOwnerTable ε) (op : Op ε) (o : ObjectID) (e : ObjectOwnerEntry ε) : Prop :=
  s.entries.get? o = some e ∧ match op with
    | .abortRegisteredTaskOutputs plan edges =>
      o = plan.execution.output ∧ Withdrawable s plan edges e
    | .collectIfUnused x => o = x ∧ Forgettable s e
    | .collectUnusedWithEdges x => o = x ∧ e.collectionPending = false ∧ Releasable e ∧
        ∃ l, s.finalTaskLineage o = .ok l
    | _ => False

/-- The call does not forget the borrower's tombstone with its object. -/
def KeepsTombstone (s : ObjectOwnerTable ε) (op : Op ε) (o : ObjectID) (t : ReferenceToken) :
    Prop :=
  ∀ e, s.Forgets op o e → t ∉ e.releasedBorrowedTokens

def Op.ChangesReferences : Op ε → Prop
  | .addReference .. | .releaseReference .. | .addSubmittedReference ..
  | .releaseSubmittedReference .. | .addBorrowedReference .. | .releaseBorrowedReference ..
  | .acquireExportedReference .. | .retainBorrowedReferenceForTask ..
  | .releaseRetainedReferenceForTask .. | .replaceRetainedReferenceForTask ..
  | .addContainedReference .. | .prepareStoredContainedReference ..
  | .promoteStoredContainedReference .. | .releaseContainedReference ..
  | .addLineageReference .. | .releaseLineageReference .. => True
  | _ => False

/-- The calls that write the records of contained pins. -/
def Op.MovesContained : Op ε → Prop
  | .prepareStoredContainedReference .. => True
  | .promoteStoredContainedReference .. => True
  | .releaseContainedReference .. => True
  | .installDeadWorker .. => True
  | _ => False

theorem step_uncontained (s : ObjectOwnerTable ε) (op : Op ε) (hop : Op.ChangesReferences op)
    (hmoves : ¬ Op.MovesContained op) : Uncontained s (s.step op) := by
  have hcommit : ∀ {α : Type} {x : Except Raised (α × ObjectOwnerTable ε)},
      (∀ a s', x = .ok (a, s') → Uncontained s s') → Uncontained s (commit s x) :=
    fun h => commit_of ⟨.same, rfl⟩ h
  cases op with
  | addReference => exact hcommit fun _ _ h => addReference_changes h
  | releaseReference => exact hcommit fun _ _ h => releaseReference_changes h
  | addSubmittedReference => exact hcommit fun _ _ h => addSubmittedReference_changes h
  | releaseSubmittedReference => exact hcommit fun _ _ h => releaseSubmittedReference_changes h
  | addBorrowedReference => exact hcommit fun _ _ h => addBorrowedReference_changes h
  | releaseBorrowedReference => exact hcommit fun _ _ h => releaseBorrowedReference_changes h
  | acquireExportedReference => exact hcommit fun _ _ h => acquireExportedReference_changes h
  | retainBorrowedReferenceForTask =>
    exact hcommit fun _ _ h => retainBorrowedReferenceForTask_changes h
  | releaseRetainedReferenceForTask =>
    exact hcommit fun _ _ h => releaseRetainedReferenceForTask_changes h
  | replaceRetainedReferenceForTask =>
    exact hcommit fun _ _ h => replaceRetainedReferenceForTask_changes h
  | addContainedReference => exact hcommit fun _ _ h => addContainedReference_changes h
  | addLineageReference => exact hcommit fun _ _ h => addLineageReference_changes h
  | releaseLineageReference => exact releaseLineageReference_changes s _ _
  | prepareStoredContainedReference => exact absurd trivial hmoves
  | promoteStoredContainedReference => exact absurd trivial hmoves
  | releaseContainedReference => exact absurd trivial hmoves
  | _ => exact hop.elim

theorem step_changes (s : ObjectOwnerTable ε) (op : Op ε) (hop : Op.ChangesReferences op) :
    Changes s (s.step op) := by
  by_cases hmoves : Op.MovesContained op
  swap
  · exact (step_uncontained s op hop hmoves).toChanges
  cases op with
  | prepareStoredContainedReference =>
    exact commit_of .same fun _ _ h => prepareStoredContainedReference_changes h
  | promoteStoredContainedReference =>
    exact commit_of .same fun _ _ h => promoteStoredContainedReference_changes h
  | releaseContainedReference =>
    exact commit_of .same fun _ _ h => releaseContainedReference_changes h
  | installDeadWorker => exact hop.elim
  | _ => exact hmoves.elim

/-- At most one entry is rewritten, and it was under no retirement. -/
def RewritesOne (s s' : ObjectOwnerTable ε) : Prop :=
  s' = s ∨ ∃ o e e', s.entries.get? o = some e ∧ e.outputRetirementId = none ∧
    e'.objectId = e.objectId ∧ s' = s.setEntry e'

omit [BEq ε] in
theorem Answer.rewritesOne {o : ObjectID} {e : ObjectOwnerEntry ε} {current replayed : Prop}
    {rewrites : ObjectOwnerEntry ε → Prop} {b : Bool} (he : Admits s o e)
    (h : Answer s s' current replayed rewrites b) (hframe : ∀ e', rewrites e' → Rewrites e e') :
    RewritesOne s s' := by
  cases h with
  | stale _ same => exact .inl same
  | replayed _ _ same => exact .inl same
  | rewritten _ e' effect hset =>
    exact .inr ⟨o, e, e', he.entry, he.unmarked, (hframe e' effect).objectId, hset⟩

def Op.Rewrites : Op ε → Prop
  | .advanceAttempt .. | .commitAdvanceTaskOutputs .. | .commitValidatedAdvanceTaskOutputs ..
  | .publishInline .. | .publishPutValue .. | .publishStored .. | .publishError ..
  | .commitPublishTaskOutputs .. | .commitValidatedPublishTaskOutputs ..
  | .commitPublishTaskError .. | .commitValidatedPublishTaskError .. | .markLost .. => True
  | _ => False

theorem step_rewrites (s : ObjectOwnerTable ε) (op : Op ε) (hop : Op.Rewrites op) :
    RewritesOne s (s.step op) := by
  cases op with
  | advanceAttempt =>
    refine commit_of (.inl rfl) fun _ _ h => ?_
    obtain ⟨e, he, hanswer⟩ := advanceAttempt_cases h
    exact hanswer.rewritesOne he fun _ hr => hr.frame
  | commitAdvanceTaskOutputs =>
    refine commit_of (.inl rfl) fun _ _ h => ?_
    obtain ⟨e, he, hanswer⟩ := commitAdvanceTaskOutputs_cases h
    exact hanswer.rewritesOne he fun _ hr => hr.frame
  | commitValidatedAdvanceTaskOutputs =>
    refine commit_of (.inl rfl) fun _ _ h => ?_
    obtain ⟨e, _, he, hunmarked, _, hs⟩ := commitValidatedAdvanceTaskOutputs_cases h
    refine .inr ⟨_, e, _, he, hunmarked, ?_, hs⟩
    rfl
  | publishInline =>
    refine commit_of (.inl rfl) fun _ _ h => ?_
    obtain ⟨e, he, hanswer⟩ := publishInline_cases h
    exact hanswer.rewritesOne he fun e' hr => hr.2 ▸ ⟨rfl, rfl, rfl⟩
  | publishPutValue =>
    refine commit_of (.inl rfl) fun _ _ h => ?_
    obtain ⟨_, e, _, _, he, hanswer⟩ := publishPutValue_cases h
    exact hanswer.rewritesOne he fun e' hr => hr.frame
  | publishStored =>
    refine commit_of (.inl rfl) fun _ _ h => ?_
    obtain ⟨e, he, hanswer⟩ := publishStored_cases h
    refine hanswer.rewritesOne he fun e' hr => ?_
    rcases hr.effect with ⟨_, rfl⟩ | ⟨_, rfl⟩ <;> exact ⟨rfl, rfl, rfl⟩
  | publishError =>
    refine commit_of (.inl rfl) fun _ _ h => ?_
    obtain ⟨e, he, hanswer⟩ := publishError_cases h
    exact hanswer.rewritesOne he fun e' hr => hr.2 ▸ ⟨rfl, rfl, rfl⟩
  | commitPublishTaskOutputs plan =>
    refine commit_of (.inl rfl) fun _ _ h => ?_
    obtain ⟨_, e, he, hanswer⟩ := commitPublishTaskOutputs_cases h
    exact hanswer.rewritesOne he fun e' hr => hr.2 ▸ assignResult_rewrites plan e
  | commitValidatedPublishTaskOutputs =>
    refine commit_of (.inl rfl) fun _ _ h => ?_
    obtain ⟨e, he, hunmarked, hs⟩ := commitValidatedPublishTaskOutputs_cases h
    exact .inr ⟨_, e, _, he, hunmarked, assignResult_objectId .., hs⟩
  | commitPublishTaskError plan =>
    refine commit_of (.inl rfl) fun _ _ h => ?_
    obtain ⟨_, e, he, hanswer⟩ := commitPublishTaskError_cases h
    exact hanswer.rewritesOne he fun e' hr => hr.2 ▸ assignError_rewrites plan e
  | commitValidatedPublishTaskError =>
    refine commit_of (.inl rfl) fun _ _ h => ?_
    obtain ⟨e, he, hunmarked, hs⟩ := commitValidatedPublishTaskError_cases h
    refine .inr ⟨_, e, _, he, hunmarked, ?_, hs⟩
    rfl
  | markLost =>
    refine commit_of (.inl rfl) fun _ _ h => ?_
    obtain ⟨e, he, hanswer⟩ := markLost_cases h
    exact hanswer.rewritesOne he fun e' hr => hr.2 ▸ ⟨rfl, rfl, rfl⟩
  | _ => exact hop.elim

theorem step_spec (s : ObjectOwnerTable ε) (op : Op ε) :
    StepSpec (s.KeepsTombstone op) (s.callerConditions op) s (s.step op) := by
  by_cases hop : Op.ChangesReferences op
  · exact (step_changes s op hop).toStepSpec
  cases op with
  | register =>
    exact .commit fun _ _ h => ⟨(register_cases h).references, (register_cases h).results rfl⟩
  | commitRegisterTaskOutputs =>
    exact .commit fun _ _ h =>
      ⟨(commitRegisterTaskOutputs_cases h).references,
        (commitRegisterTaskOutputs_cases h).results rfl⟩
  | abortRegisteredTaskOutputs =>
    exact .commit fun _ _ h =>
      ⟨abortRegisteredTaskOutputs_references h fun _ hk e he hw => hk e ⟨he, rfl, hw⟩,
        abortRegisteredTaskOutputs_results h⟩
  | installDeadWorker =>
    exact .commit fun _ _ h =>
      ⟨installDeadWorker_references h, installDeadWorker_results h⟩
  | advanceAttempt =>
    refine .commit fun _ _ h => (advanceAttempt_moves h ?_).toStepSpec
    exact ⟨rfl, rfl⟩
  | commitAdvanceTaskOutputs =>
    refine .commit fun _ _ h => (commitAdvanceTaskOutputs_moves h ?_).toStepSpec
    exact ⟨rfl, rfl⟩
  | commitValidatedAdvanceTaskOutputs =>
    refine .commit fun _ _ h =>
      (commitValidatedAdvanceTaskOutputs_moves h id id id id ?_).toStepSpec
    exact ⟨rfl, rfl⟩
  | publishInline => exact .commit fun _ _ h => (publishInline_moves h).toStepSpec
  | publishPutValue => exact .commit fun _ _ h => (publishPutValue_moves h).toStepSpec
  | publishStored => exact .commit fun _ _ h => (publishStored_moves h).toStepSpec
  | removeLocation => exact .commit fun _ _ h => (removeLocation_moves h).toStepSpec
  | removeNodeLocations => exact ⟨removeNodeLocations_references _, removeNodeLocations_results _⟩
  | publishError => exact .commit fun _ _ h => (publishError_moves h).toStepSpec
  | commitPublishTaskOutputs =>
    exact .commit fun _ _ h => (commitPublishTaskOutputs_moves h id).toStepSpec
  | commitValidatedPublishTaskOutputs =>
    exact .commit fun _ _ h => (commitValidatedPublishTaskOutputs_moves h id id).toStepSpec
  | commitOutputPublication =>
    exact .commit fun _ _ h => (commitOutputPublication_moves h).toStepSpec
  | resolveOutputNodeLoss manifest resolution envelope nodes =>
    refine .commit fun _ _ h => (resolveOutputNodeLoss_moves h ?_ id).toStepSpec
    exact fun hk => ⟨hk, rfl, rfl⟩
  | beginOutputPublicationRetirement =>
    exact .commit fun _ _ h => (beginOutputPublicationRetirement_moves h).toStepSpec
  | completeOutputPublicationRetirement plan edges replicas =>
    refine .commit fun _ _ h => (completeOutputPublicationRetirement_moves h ?_).toStepSpec
    exact ⟨rfl, rfl⟩
  | commitPublishTaskError =>
    exact .commit fun _ _ h => (commitPublishTaskError_moves h trivial).toStepSpec
  | commitValidatedPublishTaskError =>
    exact .commit fun _ _ h => (commitValidatedPublishTaskError_moves h id trivial).toStepSpec
  | markLost => exact .commit fun _ _ h => (markLost_moves h).toStepSpec
  | addOutgoingLineageEdge =>
    exact .commit fun _ _ h =>
      ⟨addOutgoingLineageEdge_references h, addOutgoingLineageEdge_results h id⟩
  | abortTaskLineageEdges =>
    exact .commit fun _ _ h =>
      ⟨abortTaskLineageEdges_references h, abortTaskLineageEdges_results h id⟩
  | addOutgoingContainedEdge =>
    exact .commit fun _ _ h => (addOutgoingContainedEdge_moves h).toStepSpec
  | addOutgoingContainedEdges =>
    exact .commit fun _ _ h => (addOutgoingContainedEdges_moves h).toStepSpec
  | collectIfUnused =>
    exact .commit fun _ _ h =>
      ⟨collectIfUnused_references h fun _ hk e he hf => hk e ⟨he, rfl, hf⟩,
        collectIfUnused_results h⟩
  | collectUnusedWithEdges =>
    exact .commit fun _ _ h =>
      ⟨collectUnusedWithEdges_references h
          fun _ hk e l he hidle hr hl => hk e ⟨he, rfl, hidle, hr, l, hl⟩,
        collectUnusedWithEdges_results h⟩
  | beginCollection =>
    exact .commit fun _ _ h =>
      ⟨beginCollection_references h, beginCollection_results h id⟩
  | beginOutputPublicationCollection =>
    exact .commit fun _ _ h =>
      ⟨beginOutputPublicationCollection_references h, beginOutputPublicationCollection_results h⟩
  | completeOutputPublicationCollection =>
    refine .commit fun _ _ h => ?_
    rcases completeOutputPublicationCollection_cases h with ⟨_, rfl⟩ | ⟨_, _, hc⟩
    · exact .refl _
    · exact ⟨hc.toReferenceSpec, hc.toResultSpec⟩
  | completeCollection =>
    refine .commit fun _ _ h => ?_
    obtain ⟨_, hc⟩ := completeCollection_cases h
    exact ⟨hc.toReferenceSpec, hc.toResultSpec⟩
  | _ => exact absurd trivial hop

/-- Every `commit_validated` call carries the plan its validator just returned. -/
def ValidatedRun (ops : List (Op ε)) : Prop :=
  Run.Admissible step (fun s op => (s.callerConditions op).validated) .empty ops

end ObjectOwnerTable

end MiniRay
