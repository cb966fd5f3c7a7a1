import MiniRay.Ownership.Step
import MiniRay.Recovery.Preflight

/-! START and JOIN of a lost task output: a transaction is prepared against the owner table and the
recovery manager, committed to both, and handed to the task queue. -/

namespace MiniRay

open Checked

inductive ReconstructionDisposition
  | start
  | join
  | failed
  deriving DecidableEq

/-- What the composition layer must do after one START decision. -/
structure ReconstructionPlan where
  taskId : TaskID
  requestedObjectId : ObjectID
  objectId : ObjectID
  outputIds : List ObjectID
  previousAttempt : AttemptID
  attemptId : AttemptID
  taskSpec : TaskSpec
  clearDescriptorIds : List ObjectID
  clearWaiterIds : List ObjectID
  dependencyHold : TaskReferenceHold
  protectedDependencies : List ObjectID
  nestedLocalHolds : List ObjectID
  acceptedCountDelta : Nat
  deriving DecidableEq

structure AdmissionIdentity where
  disposition : ReconstructionDisposition
  action : RecoveryAction
  taskId : Option TaskID
  attemptId : Option AttemptID
  requestedObjectId : Option ObjectID
  outputIds : List ObjectID
  deriving DecidableEq

/-- `commit` proves the outcome committed, `admission` its attempt accepted by the queue. -/
structure ReconstructionOutcome where
  disposition : ReconstructionDisposition
  decision : RecoveryDecision
  plan : Option ReconstructionPlan := none
  admission : Option AdmissionIdentity := none
  commit : Option AdmissionIdentity := none
  deriving DecidableEq

def ReconstructionOutcome.identity (outcome : ReconstructionOutcome) : AdmissionIdentity :=
  ⟨outcome.disposition, outcome.decision.action, outcome.decision.taskId,
    outcome.decision.attemptId, outcome.decision.requestedObjectId, outcome.decision.outputIds⟩

def ReconstructionOutcome.committed (outcome : ReconstructionOutcome) : ReconstructionOutcome :=
  { outcome with commit := some outcome.identity }

/-- A local transaction without side effects so far. -/
structure PreparedReconstruction where
  outcome : ReconstructionOutcome
  recoveryPlan : Option RecoveryTransitionPlan
  ownerPlan : Option TaskOutputAttemptAdvancePlan
  deriving DecidableEq

/-- How a specification names arguments, and rebinds nested holds to a reconstruction. -/
structure TaskArguments where
  arguments : TaskSpec → List TaskArg
  rewriteNestedHolds : TaskSpec → TaskReferenceHold → TaskSpec

/-- The coordinator with its two authorities and the attempts its queue has accepted. -/
structure ReconstructionCoordinator (ε : Type) where
  owner : ObjectOwnerTable ε
  recovery : RecoveryManager
  sessions : Dict TaskID ReconstructionPlan
  handoffs : Dict AttemptID (List ObjectID)
  queue : List AttemptID

namespace ReconstructionCoordinator

open Preflight

variable {ε : Type}

def empty : ReconstructionCoordinator ε := ⟨.empty, .empty, .empty, .empty, []⟩

/-! ## Prepare -/

/-- The CAS of a task's outputs from one attempt to another. -/
def advancePlan (spec : TaskSpec) (previous next : AttemptID) :
    Except ReconstructionError TaskOutputAttemptAdvancePlan :=
  if hprevious : previous.taskId = spec.taskId then
    if hnext : next.taskId = spec.taskId then
      if hlater : previous.attemptNumber < next.attemptNumber then
        .ok ⟨⟨.forTask spec.taskId, previous, hprevious⟩, ⟨.forTask spec.taskId, next, hnext⟩,
          rfl, hlater⟩
      else .error .value
    else .error .value
  else .error .value

/-- The owner's half of a START, unless only a preview is asked for. -/
def preflightAdvance (self : ReconstructionCoordinator ε) (plan : TaskOutputAttemptAdvancePlan) :
    Bool → Except ReconstructionError (Option TaskOutputAttemptAdvancePlan)
  | true => do
      let _ ← (self.owner.validateAdvanceTaskOutputs plan).mapError .owner
      return some plan
  | false => .ok none

/-- The checks of a START decision, and its transaction. -/
def prepareStart (args : TaskArguments) (self : ReconstructionCoordinator ε) (o : ObjectID)
    (spec : TaskSpec) (outputIds : List ObjectID) (previous : AttemptID) (inputs : LineageInputs)
    (recoveryPlan : RecoveryTransitionPlan) (preflightOwner : Bool) :
    Except ReconstructionError PreparedReconstruction := do
  let decision := recoveryPlan.decision
  raiseIf (decision.producerTaskSpec ≠ some spec)
    (.runtime "recovery lineage changed during request")
  raiseIf (decision.outputIds ≠ outputIds)
    (.runtime "recovery changed the producer output manifest")
  match decision.attemptId with
  | none => throw (.runtime "START decision has no next attempt")
  | some next => do
      raiseIf (decision.taskId ≠ some spec.taskId ∨ next.taskId ≠ spec.taskId)
        (.runtime "reconstruction changed logical TaskID")
      raiseIf (next.attemptNumber ≤ previous.attemptNumber)
        (.runtime "reconstruction attempt did not advance")
      let advance ← advancePlan spec previous next
      let ownerPlan ← self.preflightAdvance advance preflightOwner
      let ⟨htask⟩ ← certify (next.taskId = spec.taskId) .value
      let hold : TaskReferenceHold :=
        ⟨.submitted, spec.ownerWorkerId, spec.taskId, next, htask⟩
      let plan : ReconstructionPlan := {
        taskId := spec.taskId
        requestedObjectId := o
        objectId := outputIds.headD o
        outputIds := outputIds
        previousAttempt := previous
        attemptId := next
        taskSpec := args.rewriteNestedHolds spec hold
        clearDescriptorIds := outputIds
        clearWaiterIds := outputIds
        dependencyHold := hold
        protectedDependencies := inputs.dependencies
        nestedLocalHolds := inputs.nestedLocalHolds
        acceptedCountDelta := 1 }
      return ⟨{ disposition := .start, decision := decision, plan := some plan },
        some recoveryPlan, ownerPlan⟩

def prepareJoin (self : ReconstructionCoordinator ε) (o : ObjectID)
    (before : ObjectOwnerEntry ε) (session : ReconstructionPlan) :
    Except ReconstructionError PreparedReconstruction := do
  raiseIf (o ∉ session.outputIds)
    (.runtime "active reconstruction does not contain requested output")
  let recoveryPlan ← (self.recovery.validateRequestReconstruction o).mapError .recovery
  let decision := recoveryPlan.decision
  raiseIf (decision.action ≠ .joinReconstruction ∨ decision.taskId ≠ some session.taskId ∨
      decision.attemptId ≠ before.currentAttempt ∨ decision.outputIds ≠ session.outputIds)
    (.runtime "active reconstruction disagrees with RecoveryManager")
  return ⟨{ disposition := .join, decision := decision }, some recoveryPlan, none⟩

def prepareProducer (args : TaskArguments) (self : ReconstructionCoordinator ε) (o : ObjectID)
    (before : ObjectOwnerEntry ε) (spec : TaskSpec) (preflightOwner : Bool) :
    Except ReconstructionError PreparedReconstruction := do
  let recoveryBefore ← (self.recovery.reconstructionSnapshot o).mapError .recovery
  match recoveryBefore.lineage with
  | none => throw (.runtime "object has no registered producer lineage")
  | some lineage => do
      validateGraphLineage o lineage
      raiseIf (lineage.taskSpec ≠ spec)
        (.runtime "owner and recovery disagree on canonical producer lineage")
      raiseIf (recoveryBefore.currentAttempt ≠ before.currentAttempt)
        (.runtime "owner and recovery disagree on current attempt")
      match before.currentAttempt with
      | none => throw .assertion
      | some previous => do
          let states ← validateOutputGroup self.owner spec lineage.outputIds previous
          raiseIf (¬ AllIn .lost states)
            (.runtime "reconstruction requires the producer output to be LOST")
          let inputs ← validateLineageInputs args.arguments self.owner spec
          let recoveryPlan ← (self.recovery.validateRequestReconstruction o).mapError .recovery
          let decision := recoveryPlan.decision
          if decision.action = .joinReconstruction then
            return ⟨{ disposition := .join, decision := decision }, some recoveryPlan, none⟩
          else if decision.action ≠ .startReconstruction then
            return ⟨{ disposition := .failed, decision := decision }, some recoveryPlan, none⟩
          else
            prepareStart args self o spec lineage.outputIds previous inputs recoveryPlan
              preflightOwner

/-- Construct a START, JOIN or failure outcome without mutation. -/
def prepare (args : TaskArguments) (self : ReconstructionCoordinator ε) (o : ObjectID)
    (preflightOwner : Bool) : Except ReconstructionError PreparedReconstruction := do
  let before ← (self.owner.entry o).mapError .owner
  raiseIf before.collectionPending
    (.runtime "cannot reconstruct object while collection is pending")
  match self.sessions.get? o.taskId with
  | some session => prepareJoin self o before session
  | none => do
      raiseIf (before.state ≠ .lost) (.runtime "reconstruction requires a LOST owner object")
      match before.producerTaskSpec with
      | none => do
          let recoveryPlan ← (self.recovery.validateRequestReconstruction o).mapError .recovery
          return ⟨{ disposition := .failed, decision := recoveryPlan.decision },
            some recoveryPlan, none⟩
      | some spec => prepareProducer args self o before spec preflightOwner

/-! ## Commit -/

/-- A call that may raise after it wrote something: its result and the state it leaves. -/
abbrev Call (ε α : Type) := Except ReconstructionError α × ReconstructionCoordinator ε

def raised {α : Type} (self : ReconstructionCoordinator ε) (e : ReconstructionError) : Call ε α :=
  (.error e, self)

/-- Install a START: the owner's outputs first, then recovery, then the session. -/
def commitStart (self : ReconstructionCoordinator ε) (outcome : ReconstructionOutcome)
    (plan : ReconstructionPlan) (recoveryPlan : RecoveryTransitionPlan)
    (ownerPlan : TaskOutputAttemptAdvancePlan) : Call ε ReconstructionOutcome :=
  match self.recovery.validateRequestReconstruction plan.requestedObjectId with
  | .error e => self.raised (.recovery e)
  | .ok refreshed =>
    if refreshed ≠ recoveryPlan then
      self.raised (.runtime "recovery authority changed after reconstruction prepare")
    else match self.owner.commitAdvanceTaskOutputs ownerPlan with
      | .error e => self.raised (.owner e)
      | .ok (false, _) => self.raised (.runtime "owner rejected reconstruction output CAS")
      | .ok (true, owner) =>
        let advanced := { self with owner := owner }
        match advanced.recovery.commitTransition recoveryPlan with
        | .error e => advanced.raised (.recovery e)
        | .ok (committed, recovery) =>
          let moved := { advanced with recovery := recovery }
          if committed ≠ outcome.decision then moved.raised .assertion
          else (.ok outcome.committed,
            { moved with sessions := moved.sessions.set plan.taskId plan })

/-- Expose a START, unless its attempt has a session already. -/
def commitPlanned (self : ReconstructionCoordinator ε) (prepared : PreparedReconstruction) :
    Call ε ReconstructionOutcome :=
  match prepared.outcome.plan, prepared.recoveryPlan, prepared.ownerPlan with
  | some plan, some recoveryPlan, some ownerPlan =>
    match self.sessions.get? plan.taskId with
    | some existing =>
      if existing.attemptId = plan.attemptId then
        let joined : ReconstructionOutcome := {
          disposition := .join
          decision := { prepared.outcome.decision with action := .joinReconstruction } }
        (.ok joined.committed, self)
      else self.raised (.runtime "another reconstruction committed after prepare")
    | none => self.commitStart prepared.outcome plan recoveryPlan ownerPlan
  | _, _, _ => self.raised (.runtime "prepared START lacks a complete local transaction")

/-- A JOIN installs nothing. -/
def commitJoin (self : ReconstructionCoordinator ε) (outcome : ReconstructionOutcome) :
    Call ε ReconstructionOutcome :=
  let inactive := ReconstructionError.runtime "prepared reconstruction JOIN is no longer active"
  match outcome.decision.taskId with
  | none => self.raised inactive
  | some taskId =>
    match self.sessions.get? taskId with
    | none => self.raised inactive
    | some active =>
      if outcome.decision.outputIds ≠ active.outputIds ∨
          self.recovery.activeRecoveries.get? taskId ≠ outcome.decision.attemptId then
        self.raised inactive
      else (.ok outcome.committed, self)

/-- A failure is recorded by recovery alone. -/
def commitFailed (self : ReconstructionCoordinator ε) (prepared : PreparedReconstruction) :
    Call ε ReconstructionOutcome :=
  match prepared.recoveryPlan with
  | none => (.ok prepared.outcome, self)
  | some recoveryPlan =>
    match self.recovery.commitTransition recoveryPlan with
    | .error e => self.raised (.recovery e)
    | .ok (committed, recovery) =>
      let moved := { self with recovery := recovery }
      if committed ≠ prepared.outcome.decision then moved.raised .assertion
      else (.ok prepared.outcome, moved)

/-- Revalidate and expose one prepared transition. -/
def commitPrepared (self : ReconstructionCoordinator ε) (prepared : PreparedReconstruction) :
    Call ε ReconstructionOutcome :=
  match prepared.outcome.disposition with
  | .join => self.commitJoin prepared.outcome
  | .failed => self.commitFailed prepared
  | .start => self.commitPlanned prepared

/-- Prepare and commit in one step. -/
def request (args : TaskArguments) (self : ReconstructionCoordinator ε) (o : ObjectID) :
    Call ε ReconstructionOutcome :=
  match self.prepare args o true with
  | .error e => self.raised e
  | .ok prepared => self.commitPrepared prepared

/-! ## Handoff -/

/-- The session of an attempt that both authorities hold current and unfinished. -/
def requireCurrentHandoffAttempt (self : ReconstructionCoordinator ε) (taskId : Option TaskID)
    (attempt : Option AttemptID) :
    Except ReconstructionError (AttemptID × ReconstructionPlan) := do
  let stale := ReconstructionError.runtime "handoff is not the current committed reconstruction"
  match taskId, attempt with
  | some taskId, some attempt =>
    match self.sessions.get? taskId with
    | none => throw stale
    | some session => do
        raiseIf (attempt.taskId ≠ taskId ∨
          self.recovery.activeRecoveries.get? taskId ≠ some attempt) stale
        let recovery ← (self.recovery.reconstructionSnapshot session.objectId).mapError .recovery
        let owners ← session.outputIds.mapM fun o => (self.owner.entry o).mapError .owner
        raiseIf (recovery.currentAttempt ≠ some attempt ∨
            ¬ (recovery.taskState = some .retryPending ∨ recovery.taskState = some .running) ∨
            owners.any fun e => e.currentAttempt ≠ some attempt ∨ e.state ≠ .pending)
          (.runtime "handoff owner/recovery transition is not committed")
        return (attempt, session)
  | _, _ => throw stale

/-- The attempt enters the queue and is recorded. -/
def enqueued (self : ReconstructionCoordinator ε) (attempt : AttemptID)
    (session : ReconstructionPlan) : ReconstructionCoordinator ε :=
  { self with
    queue := self.queue ++ [attempt]
    handoffs := self.handoffs.set attempt session.outputIds }

def receipted (outcome : ReconstructionOutcome) : ReconstructionOutcome :=
  { outcome with admission := some outcome.identity }

/-- The queue side of a START: `accepts` tells whether the queue callback returns. -/
def acceptStart (self : ReconstructionCoordinator ε) (outcome : ReconstructionOutcome)
    (attempt : AttemptID) (session : ReconstructionPlan) (accepts : Bool) :
    Call ε ReconstructionOutcome :=
  if outcome.decision.action ≠ .startReconstruction ∨ outcome.plan ≠ some session then
    self.raised (.runtime "START handoff changed its committed plan")
  else match self.handoffs.get? attempt with
    | some _ => (.ok (receipted outcome), self)
    | none =>
      if accepts then (.ok (receipted outcome), self.enqueued attempt session)
      else self.raised .callback

def acceptJoin (self : ReconstructionCoordinator ε) (outcome : ReconstructionOutcome)
    (attempt : AttemptID) (session : ReconstructionPlan) : Call ε ReconstructionOutcome :=
  if outcome.disposition ≠ .join ∨ outcome.decision.action ≠ .joinReconstruction ∨
      self.handoffs.get? attempt ≠ some session.outputIds then
    self.raised (.runtime "JOIN requires an already queued attempt")
  else (.ok (receipted outcome), self)

/-- Accept a committed START at the queue, or prove a JOIN. -/
def handoff (self : ReconstructionCoordinator ε) (outcome : ReconstructionOutcome)
    (accepts : Bool) : Call ε ReconstructionOutcome :=
  if outcome.commit ≠ some outcome.identity then
    self.raised (.runtime "handoff requires an actual committed admission")
  else match self.requireCurrentHandoffAttempt outcome.decision.taskId
      outcome.decision.attemptId with
    | .error e => self.raised e
    | .ok (attempt, session) =>
      if outcome.decision.outputIds ≠ session.outputIds then
        self.raised (.runtime "handoff changed the committed output identity")
      else if outcome.disposition = .start then
        self.acceptStart outcome attempt session accepts
      else self.acceptJoin outcome attempt session

/-- Record the queue edge of a committed SYSTEM retry. -/
def handoffRetry (self : ReconstructionCoordinator ε) (taskId : TaskID)
    (previous attempt : AttemptID) (accepts : Bool) : Call ε Bool :=
  match self.requireCurrentHandoffAttempt (some taskId) (some attempt) with
  | .error e => self.raised e
  | .ok (_, session) =>
    if previous.taskId ≠ taskId ∨ attempt.attemptNumber ≠ previous.attemptNumber + 1 then
      self.raised (.runtime "retry handoff changed predecessor identity")
    else if self.handoffs.get? attempt = some session.outputIds then (.ok false, self)
    else if self.handoffs.get? previous ≠ some session.outputIds then
      self.raised (.runtime "retry predecessor was never queued")
    else if accepts then
      let queued := self.enqueued attempt session
      (.ok true, { queued with handoffs := queued.handoffs.erase previous })
    else self.raised .callback

/-- Forget the session after its attempt ended. -/
def complete (self : ReconstructionCoordinator ε) (taskId : TaskID) (attempt : AttemptID) :
    Call ε Bool :=
  match self.sessions.get? taskId with
  | none => (.ok false, self)
  | some _ =>
    match self.recovery.taskRecord taskId with
    | .error e => self.raised (.recovery e)
    | .ok record =>
      if record.currentAttempt ≠ attempt ∨
          self.recovery.activeRecoveries.get? taskId ≠ none then (.ok false, self)
      else (.ok true, { self with
        sessions := self.sessions.erase taskId
        handoffs := self.handoffs.erase attempt })

end ReconstructionCoordinator

end MiniRay
