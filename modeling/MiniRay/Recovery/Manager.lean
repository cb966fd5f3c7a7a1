import MiniRay.Library.Dict
import MiniRay.Library.Run
import MiniRay.Recovery.Record

/-! Producer lineage and the attempts that are reconstructing it. Every transition is planned
against the current state and then installed by assignment. -/

namespace MiniRay

open Checked

structure ProducerLineage where
  taskId : TaskID
  taskSpec : TaskSpec
  outputIds : List ObjectID
  deriving DecidableEq

/-- Recovery facts consumed by graph preflight. -/
structure ReconstructionSnapshot where
  objectId : ObjectID
  lineage : Option ProducerLineage
  taskState : Option TaskState
  currentAttempt : Option AttemptID
  activeRecovery : Option AttemptID
  isPut : Bool
  retriesRemaining : Option Nat

inductive ForgetKind
  | none
  | put
  | task (taskId : TaskID) (removeTask : Bool) (activeAttempt : Option AttemptID)
  deriving DecidableEq

/-- Validated lineage deletion transaction. -/
structure CollectedObjectForgetPlan where
  objectId : ObjectID
  kind : ForgetKind
  deriving DecidableEq

/-- The task a transition is about, with its record before and after. -/
structure TransitionScope where
  taskId : TaskID
  before : TaskRecord
  after : TaskRecord
  deriving DecidableEq

/-- Compare-and-commit task recovery transition. -/
structure RecoveryTransitionPlan where
  scope : Option TransitionScope
  activeBefore : Option AttemptID
  activeAfter : Option AttemptID
  decision : RecoveryDecision
  deriving DecidableEq

structure RecoveryManager where
  tasks : Dict TaskID TaskRecord
  lineages : Dict TaskID ProducerLineage
  objectProducers : Dict ObjectID TaskID
  putObjects : List ObjectID
  activeRecoveries : Dict TaskID AttemptID

namespace RecoveryManager

def empty : RecoveryManager := ⟨.empty, .empty, .empty, [], .empty⟩

/-! ## Lineage -/

def normalizeOutputIds (spec : TaskSpec) (outputIds : Option (List ObjectID)) :
    Except RecoveryError (List ObjectID) := do
  let outputs := outputIds.getD spec.returnIds
  raiseIf (¬ outputs.Nodup) ⟨.valueError, "producer output IDs must be unique"⟩
  return outputs

def checkOutput (self : RecoveryManager) (taskId : TaskID) (o : ObjectID) :
    Except RecoveryError Unit := do
  raiseIf (o.taskId ≠ taskId)
    ⟨.valueError, "output object " ++ o.repr ++ " does not belong to task " ++ taskId.repr⟩
  raiseIf (o ∈ self.putObjects)
    ⟨.lineageConflict, "object " ++ o.repr ++ " is already registered as put data"⟩
  checkSome (fun producer => raiseIf (producer ≠ taskId) ⟨.lineageConflict,
    "object " ++ o.repr ++ " already belongs to task " ++ producer.repr⟩)
    (self.objectProducers.get? o)

/-- What a registration would do: it is known, or it can be added. -/
inductive RegistrationForecast
  | known (record : TaskRecord)
  | fresh (outputs : List ObjectID) (maxRetries : Nat)

/-- Every fallible lineage-registration check, without mutation. -/
def validateRegisterTask (self : RecoveryManager) (spec : TaskSpec)
    (outputIds : Option (List ObjectID)) (maxRetries : Int) :
    Except RecoveryError RegistrationForecast := do
  raiseIf (maxRetries < 0) ⟨.valueError, "max_retries must be a non-negative integer"⟩
  let outputs ← normalizeOutputIds spec outputIds
  match self.lineages.get? spec.taskId with
  | some old =>
    match self.tasks.get? spec.taskId with
    | none => throw ⟨.keyError, spec.taskId.repr⟩
    | some record => do
        raiseIf (old.taskSpec ≠ spec ∨ old.outputIds ≠ outputs ∨ record.maxRetries ≠ maxRetries)
          ⟨.lineageConflict,
            "task " ++ spec.taskId.repr ++ " was registered with different lineage"⟩
        return .known record
  | none => do
      checkAll (self.checkOutput spec.taskId) outputs
      return .fresh outputs maxRetries.toNat

/-- Save immutable producer lineage before the task is executed. -/
def registerTask (self : RecoveryManager) (spec : TaskSpec)
    (outputIds : Option (List ObjectID)) (maxRetries : Int) :
    Except RecoveryError (TaskRecord × RecoveryManager) := do
  match ← self.validateRegisterTask spec outputIds maxRetries with
  | .known record => return (record, self)
  | .fresh outputs maxRetries =>
    let record := TaskRecord.initial spec maxRetries
    return (record, { self with
      tasks := self.tasks.set spec.taskId record
      lineages := self.lineages.set spec.taskId ⟨spec.taskId, spec, outputs⟩
      objectProducers :=
        outputs.foldl (fun producers o => producers.set o spec.taskId) self.objectProducers })

/-- The untouched initial record of an exact registration. -/
def Abortable (self : RecoveryManager) (lineage : ProducerLineage) (record : TaskRecord)
    (spec : TaskSpec) (outputs : List ObjectID) (maxRetries : Int) : Prop :=
  lineage.taskSpec = spec ∧ lineage.outputIds = outputs ∧
    record.currentAttempt = spec.attemptId ∧ record.maxRetries = maxRetries ∧
    record.retriesStarted = 0 ∧ record.state = .pending ∧ record.lastError = none ∧
    self.activeRecoveries.get? spec.taskId = none ∧
    ∀ o ∈ outputs, self.objectProducers.get? o = some spec.taskId

instance (self : RecoveryManager) (lineage : ProducerLineage) (record : TaskRecord)
    (spec : TaskSpec) (outputs : List ObjectID) (maxRetries : Int) :
    Decidable (self.Abortable lineage record spec outputs maxRetries) :=
  inferInstanceAs (Decidable (_ ∧ _))

/-- Undo an exact initial registration before execution starts. -/
def abortRegisteredTask (self : RecoveryManager) (spec : TaskSpec)
    (outputIds : Option (List ObjectID)) (maxRetries : Int) :
    Except RecoveryError (Bool × RecoveryManager) := do
  let outputs ← normalizeOutputIds spec outputIds
  match self.lineages.get? spec.taskId with
  | none => return (false, self)
  | some lineage =>
    match self.tasks.get? spec.taskId with
    | none => throw ⟨.keyError, spec.taskId.repr⟩
    | some record => do
        raiseIf (¬ self.Abortable lineage record spec outputs maxRetries)
          ⟨.recoveryState, "registered task lineage is no longer abortable"⟩
        return (true, { self with
          objectProducers := outputs.foldl (fun producers o => producers.erase o)
            self.objectProducers
          lineages := self.lineages.erase spec.taskId
          tasks := self.tasks.erase spec.taskId })

/-- Record an object with bytes but no replayable producer task. -/
def registerPut (self : RecoveryManager) (o : ObjectID) :
    Except RecoveryError (Bool × RecoveryManager) := do
  raiseIf ((self.objectProducers.get? o).isSome)
    ⟨.lineageConflict, "task output " ++ o.repr ++ " cannot also be registered as put data"⟩
  if o ∈ self.putObjects then return (false, self)
  return (true, { self with putObjects := o :: self.putObjects })

def taskRecord (self : RecoveryManager) (taskId : TaskID) : Except RecoveryError TaskRecord :=
  match self.tasks.get? taskId with
  | none => .error ⟨.unknownTask, "unknown task " ++ taskId.repr⟩
  | some record => .ok record

/-- A dictionary lookup that raises on a missing key. -/
def subscript {ν : Type} (d : Dict TaskID ν) (taskId : TaskID) : Except RecoveryError ν :=
  match d.get? taskId with
  | none => .error ⟨.keyError, taskId.repr⟩
  | some v => .ok v

def reconstructionSnapshot (self : RecoveryManager) (o : ObjectID) :
    Except RecoveryError ReconstructionSnapshot :=
  match self.objectProducers.get? o with
  | none => .ok ⟨o, none, none, none, none, o ∈ self.putObjects, none⟩
  | some taskId => do
      let lineage ← subscript self.lineages taskId
      let record ← subscript self.tasks taskId
      return ⟨o, some lineage, some record.state, some record.currentAttempt,
        self.activeRecoveries.get? taskId, false, some record.retriesRemaining⟩

/-! ## Forgetting -/

/-- Validate lineage identity without mutating recovery state. -/
def validateForgetCollectedObject (self : RecoveryManager) (o : ObjectID)
    (expectedTaskSpec : Option TaskSpec) (expectedAttempt : Option AttemptID) :
    Except RecoveryError CollectedObjectForgetPlan :=
  if o ∈ self.putObjects then do
    raiseIf expectedTaskSpec.isSome
      ⟨.lineageConflict, "put-object collection unexpectedly carried task lineage"⟩
    return ⟨o, .put⟩
  else match self.objectProducers.get? o with
    | none => .ok ⟨o, .none⟩
    | some taskId => do
        let lineage ← subscript self.lineages taskId
        raiseIf (expectedTaskSpec ≠ some lineage.taskSpec)
          ⟨.lineageConflict, "collection lineage changed for object " ++ o.repr⟩
        let active := self.activeRecoveries.get? taskId
        raiseIf (active.isSome ∧ active ≠ expectedAttempt) ⟨.recoveryState,
          "collection attempt does not match active reconstruction for task " ++ taskId.repr⟩
        let remaining := self.objectProducers.items.any fun item =>
          item.1 ≠ o && item.2 = taskId
        return ⟨o, .task taskId (!remaining) active⟩

/-- Apply a validated plan idempotently; the active marker goes with the last sibling. -/
def commitForgetCollectedObject (self : RecoveryManager) (plan : CollectedObjectForgetPlan) :
    Bool × RecoveryManager :=
  match plan.kind with
  | .none => (false, self)
  | .put => (true, { self with putObjects := self.putObjects.filter (· ≠ plan.objectId) })
  | .task taskId removeTask activeAttempt =>
    let active := if activeAttempt.isSome && removeTask then self.activeRecoveries.erase taskId
      else self.activeRecoveries
    let producers := self.objectProducers.erase plan.objectId
    if removeTask then
      (true, { self with
        activeRecoveries := active
        objectProducers := producers
        lineages := self.lineages.erase taskId
        tasks := self.tasks.erase taskId })
    else (true, { self with activeRecoveries := active, objectProducers := producers })

/-! ## Transitions -/

def withLineage (self : RecoveryManager) (decision : RecoveryDecision) : RecoveryDecision :=
  match decision.taskId.bind self.lineages.get? with
  | none => decision
  | some lineage => { decision with
      outputIds := lineage.outputIds, producerTaskSpec := some lineage.taskSpec }

def planFor (self : RecoveryManager) (taskId : TaskID) (before after : TaskRecord)
    (activeAfter : Option AttemptID) (decision : RecoveryDecision) : RecoveryTransitionPlan :=
  ⟨some ⟨taskId, before, after⟩, self.activeRecoveries.get? taskId, activeAfter, decision⟩

/-- The marker after the active attempt `attempt` got another one. -/
def moveActive (self : RecoveryManager) (taskId : TaskID) (attempt : AttemptID)
    (next : Option AttemptID) : Option AttemptID :=
  if self.activeRecoveries.get? taskId = some attempt then next
  else self.activeRecoveries.get? taskId

def validateTaskSuccess (self : RecoveryManager) (taskId : TaskID) (attempt : AttemptID) :
    Except RecoveryError RecoveryTransitionPlan := do
  let before ← self.taskRecord taskId
  let (decision, after) ← before.recordSuccess attempt
  let activeAfter := if decision.action = .acceptSuccess then self.moveActive taskId attempt none
    else self.activeRecoveries.get? taskId
  return self.planFor taskId before after activeAfter (self.withLineage decision)

/-- Plan application failure, retry, or exhaustion. -/
def validateTaskFailure (self : RecoveryManager) (taskId : TaskID) (attempt : AttemptID)
    (failure : TaskFailure) (error : Option TaskFailure) :
    Except RecoveryError RecoveryTransitionPlan := do
  let before ← self.taskRecord taskId
  let (decision, after) ← before.recordFailure attempt failure error
  let activeAfter :=
    if decision.action = .retryTask then self.moveActive taskId attempt decision.attemptId
    else if decision.action = .failApplication ∨ decision.action = .failRetryExhausted then
      self.moveActive taskId attempt none
    else self.activeRecoveries.get? taskId
  return self.planFor taskId before after activeAfter (self.withLineage decision)

def validateTerminalSystemFailure (self : RecoveryManager) (taskId : TaskID)
    (attempt : AttemptID) (error : Option TaskFailure) :
    Except RecoveryError RecoveryTransitionPlan := do
  let before ← self.taskRecord taskId
  if ¬ (← before.isCurrent attempt) then
    return self.planFor taskId before before (self.activeRecoveries.get? taskId)
      (self.withLineage (TaskRecord.fenced attempt
        "terminal system failure came from a stale attempt"))
  raiseIf (before.state = .succeeded)
    ⟨.recoveryState, "terminal failure conflicts with accepted success"⟩
  raiseIf (before.state = .applicationFailed)
    ⟨.recoveryState, "system failure conflicts with terminal application failure"⟩
  return self.planFor taskId before (before.settle .systemFailed error)
    (self.moveActive taskId attempt none)
    (self.withLineage (.about .failRetryExhausted attempt (some .system) error
      "current attempt ended in a terminal system failure"))

/-- The logical task is succeeded again, and its consumed retry stays consumed. -/
def validateTerminalReconstructionFailure (self : RecoveryManager) (taskId : TaskID)
    (attempt : AttemptID) (error : Option TaskFailure) :
    Except RecoveryError RecoveryTransitionPlan := do
  let before ← self.taskRecord taskId
  if ¬ (← before.isCurrent attempt) then
    return self.planFor taskId before before (self.activeRecoveries.get? taskId)
      (self.withLineage (TaskRecord.fenced attempt
        "targeted terminal failure came from a stale attempt"))
  raiseIf (self.activeRecoveries.get? taskId ≠ some attempt ∨ before.state ≠ .retryPending)
    ⟨.recoveryState, "targeted terminal failure requires its active reconstruction"⟩
  return self.planFor taskId before (before.settle .succeeded error) none
    (self.withLineage (.about .failReconstructionTargets attempt (some .system) error
      ("targeted reconstruction ended; healthy siblings retain " ++
        "their lineage and remaining retry budget")))

/-- Plan START/JOIN/failure without consuming recovery budget. -/
def validateRequestReconstruction (self : RecoveryManager) (o : ObjectID) :
    Except RecoveryError RecoveryTransitionPlan :=
  match self.objectProducers.get? o with
  | none =>
    let detail := if o ∈ self.putObjects then "put objects have no producer task lineage"
      else "the object has no registered producer task lineage"
    .ok ⟨none, none, none, ⟨.unreconstructableObject, none, none, some o, [], none, none,
      some (.unreconstructable detail), detail⟩⟩
  | some taskId => do
      let lineage ← subscript self.lineages taskId
      let before ← subscript self.tasks taskId
      match self.activeRecoveries.get? taskId with
      | some active =>
        return ⟨some ⟨taskId, before, before⟩, some active, some active,
          ⟨.joinReconstruction, some taskId, some active, some o, lineage.outputIds,
            some lineage.taskSpec, none, none,
            "a reconstruction for this producer task is already active"⟩⟩
      | none => do
          let (retry, after) ← before.beginReconstruction
          if retry.action ≠ .retryTask then
            return ⟨some ⟨taskId, before, after⟩, none, none,
              ⟨retry.action, some taskId, retry.attemptId, some o, lineage.outputIds,
                some lineage.taskSpec, retry.failureKind, retry.error, retry.reason⟩⟩
          return ⟨some ⟨taskId, before, after⟩, none, retry.attemptId,
            ⟨.startReconstruction, some taskId, retry.attemptId, some o, lineage.outputIds,
              some lineage.taskSpec, some .system, none,
              "resubmit the producer once for all of its lost outputs"⟩⟩

/-- Install one validated transition using assignment only. -/
def commitTransition (self : RecoveryManager) (plan : RecoveryTransitionPlan) :
    Except RecoveryError (RecoveryDecision × RecoveryManager) :=
  match plan.scope with
  | none => .ok (plan.decision, self)
  | some scope => do
      let _ ← subscript self.tasks scope.taskId
      return (plan.decision, { self with
        tasks := self.tasks.set scope.taskId scope.after
        activeRecoveries := match plan.activeAfter with
          | none => self.activeRecoveries.erase scope.taskId
          | some active => self.activeRecoveries.set scope.taskId active })

/-! ## Runs -/

inductive Report
  | success
  | failure (failure : TaskFailure) (error : Option TaskFailure)
  | terminalSystemFailure (error : Option TaskFailure)
  | terminalReconstructionFailure (error : Option TaskFailure)

/-- A call of the manager; every transition is committed where it was validated. -/
inductive Op
  | registerTask (spec : TaskSpec) (outputIds : Option (List ObjectID)) (maxRetries : Int)
  | abortRegisteredTask (spec : TaskSpec) (outputIds : Option (List ObjectID)) (maxRetries : Int)
  | registerPut (o : ObjectID)
  | markRunning (taskId : TaskID) (attempt : AttemptID)
  | report (taskId : TaskID) (attempt : AttemptID) (report : Report)
  | requestReconstruction (o : ObjectID)
  | forgetCollectedObject (o : ObjectID) (expectedTaskSpec : Option TaskSpec)
      (expectedAttempt : Option AttemptID)

inductive Reply
  | record (record : TaskRecord)
  | changed (changed : Bool)
  | decision (decision : RecoveryDecision)

def validateReport (self : RecoveryManager) (taskId : TaskID) (attempt : AttemptID) :
    Report → Except RecoveryError RecoveryTransitionPlan
  | .success => self.validateTaskSuccess taskId attempt
  | .failure failure error => self.validateTaskFailure taskId attempt failure error
  | .terminalSystemFailure error => self.validateTerminalSystemFailure taskId attempt error
  | .terminalReconstructionFailure error =>
    self.validateTerminalReconstructionFailure taskId attempt error

def markRunning (self : RecoveryManager) (taskId : TaskID) (attempt : AttemptID) :
    Except RecoveryError (Bool × RecoveryManager) := do
  let record ← self.taskRecord taskId
  let (running, after) ← record.markRunning attempt
  return (running, { self with tasks := self.tasks.set taskId after })

def call (self : RecoveryManager) : Op → Except RecoveryError (Reply × RecoveryManager)
  | .registerTask spec outputIds maxRetries => do
      let (record, after) ← self.registerTask spec outputIds maxRetries
      return (.record record, after)
  | .abortRegisteredTask spec outputIds maxRetries => do
      let (aborted, after) ← self.abortRegisteredTask spec outputIds maxRetries
      return (.changed aborted, after)
  | .registerPut o => do
      let (added, after) ← self.registerPut o
      return (.changed added, after)
  | .markRunning taskId attempt => do
      let (running, after) ← self.markRunning taskId attempt
      return (.changed running, after)
  | .report taskId attempt report => do
      let plan ← self.validateReport taskId attempt report
      let (decision, after) ← self.commitTransition plan
      return (.decision decision, after)
  | .requestReconstruction o => do
      let plan ← self.validateRequestReconstruction o
      let (decision, after) ← self.commitTransition plan
      return (.decision decision, after)
  | .forgetCollectedObject o expectedTaskSpec expectedAttempt => do
      let plan ← self.validateForgetCollectedObject o expectedTaskSpec expectedAttempt
      let (forgotten, after) := self.commitForgetCollectedObject plan
      return (.changed forgotten, after)

def step (self : RecoveryManager) (op : Op) : RecoveryManager := commit self (self.call op)

end RecoveryManager

end MiniRay
