import MiniRay.Library.Checked
import MiniRay.Protocol

/-! Which attempt of a logical task is current, and whether a failure may consume another retry. -/

namespace MiniRay

open Checked

/-! ## Vocabulary -/

inductive FailureKind
  | application
  | system
  deriving DecidableEq

inductive TaskState
  | pending
  | running
  | retryPending
  | succeeded
  | applicationFailed
  | systemFailed
  deriving DecidableEq

def TaskState.value : TaskState → String
  | .pending => "PENDING"
  | .running => "RUNNING"
  | .retryPending => "RETRY_PENDING"
  | .succeeded => "SUCCEEDED"
  | .applicationFailed => "APPLICATION_FAILED"
  | .systemFailed => "SYSTEM_FAILED"

/-- An explicit instruction for the component that owns execution. -/
inductive RecoveryAction
  | acceptSuccess
  | retryTask
  | failApplication
  | failRetryExhausted
  | fenceStaleAttempt
  | startReconstruction
  | joinReconstruction
  | failReconstructionTargets
  | unreconstructableObject
  deriving DecidableEq

/-- A failure or error handed in by a caller. A system error carries the name of its own
class; `status` is any other value, by the upper-case names it goes by. -/
inductive TaskFailure
  | kind (kind : FailureKind)
  | taskError (message : String)
  | systemTaskError (className message : String)
  | unreconstructable (message : String)
  | status (names : List String)
  deriving DecidableEq

inductive RecoveryErrorKind
  | valueError
  | typeError
  | keyError
  | assertionError
  | recoveryState
  | unknownTask
  | lineageConflict
  deriving DecidableEq

structure RecoveryError where
  kind : RecoveryErrorKind
  message : String
  deriving DecidableEq

def classifyFailure : TaskFailure → Except RecoveryError FailureKind
  | .kind kind => .ok kind
  | .taskError _ => .ok .application
  | .systemTaskError _ _ => .ok .system
  | .unreconstructable _ => .error ⟨.typeError, typeText⟩
  | .status names =>
    if "APPLICATION_ERROR" ∈ names ∨ "APPLICATION" ∈ names then .ok .application
    else if "SYSTEM_ERROR" ∈ names ∨ "SYSTEM" ∈ names then .ok .system
    else .error ⟨.typeError, typeText⟩
where
  typeText : String := "failure must be FailureKind, TaskError, SystemTaskError, or a " ++
    "protocol application/system failure status"

/-- A side-effect-free recovery or retry decision. -/
structure RecoveryDecision where
  action : RecoveryAction
  taskId : Option TaskID
  attemptId : Option AttemptID
  requestedObjectId : Option ObjectID
  outputIds : List ObjectID
  producerTaskSpec : Option TaskSpec
  failureKind : Option FailureKind
  error : Option TaskFailure
  reason : String
  deriving DecidableEq

def RecoveryDecision.about (action : RecoveryAction) (attempt : AttemptID)
    (failureKind : Option FailureKind) (error : Option TaskFailure) (reason : String) :
    RecoveryDecision :=
  ⟨action, some attempt.taskId, some attempt, none, [], none, failureKind, error, reason⟩

/-- Authoritative retry state for one logical task. `maxRetries` counts physical attempts
after the initial one. -/
@[ext] structure TaskRecord where
  taskId : TaskID
  currentAttempt : AttemptID
  maxRetries : Nat
  retriesStarted : Nat
  state : TaskState
  lastError : Option TaskFailure
  attempt_task : currentAttempt.taskId = taskId
  budget : retriesStarted ≤ maxRetries

instance : DecidableEq TaskRecord := byFields TaskRecord.ext_iff

namespace TaskRecord

def initial (spec : TaskSpec) (maxRetries : Nat) : TaskRecord :=
  ⟨spec.taskId, spec.attemptId, maxRetries, 0, .pending, none, spec.attempt_task, Nat.zero_le _⟩

def retriesRemaining (self : TaskRecord) : Nat := self.maxRetries - self.retriesStarted

def settle (self : TaskRecord) (state : TaskState) (error : Option TaskFailure) : TaskRecord :=
  { self with state := state, lastError := error }

def isCurrent (self : TaskRecord) (attempt : AttemptID) : Except RecoveryError Bool := do
  raiseIf (attempt.taskId ≠ self.taskId) ⟨.valueError, "attempt_id must belong to task_id"⟩
  return attempt = self.currentAttempt

/-- Mark the current attempt running; stale starts are fenced. -/
def markRunning (self : TaskRecord) (attempt : AttemptID) :
    Except RecoveryError (Bool × TaskRecord) := do
  if ¬ (← self.isCurrent attempt) then return (false, self)
  raiseIf (self.state = .applicationFailed ∨ self.state = .systemFailed)
    ⟨.recoveryState, "cannot run terminal task " ++ self.taskId.repr ++ " in " ++ self.state.value⟩
  raiseIf (self.state = .succeeded)
    ⟨.recoveryState, "a succeeded task needs reconstruction first"⟩
  return (true, { self with state := .running })

def fenced (attempt : AttemptID) (reason : String) : RecoveryDecision :=
  .about .fenceStaleAttempt attempt none none reason

def recordSuccess (self : TaskRecord) (attempt : AttemptID) :
    Except RecoveryError (RecoveryDecision × TaskRecord) := do
  if ¬ (← self.isCurrent attempt) then
    return (fenced attempt "success came from a stale attempt", self)
  raiseIf (self.state = .applicationFailed ∨ self.state = .systemFailed)
    ⟨.recoveryState, "success conflicts with terminal state " ++ self.state.value⟩
  return (.about .acceptSuccess attempt none none "current attempt completed successfully",
    self.settle .succeeded none)

def retryExhausted (self : TaskRecord) (error : Option TaskFailure) : RecoveryDecision :=
  .about .failRetryExhausted self.currentAttempt (some .system) error
    "task retry budget is exhausted"

/-- The record after another attempt was started. -/
def advance (self : TaskRecord) (error : Option TaskFailure)
    (h : self.retriesRemaining ≠ 0) : TaskRecord :=
  { self with
    currentAttempt := self.currentAttempt.next
    retriesStarted := self.retriesStarted + 1
    state := .retryPending
    lastError := error
    attempt_task := self.attempt_task
    budget := by unfold retriesRemaining at h; omega }

def advanceOrExhaust (self : TaskRecord) (error : Option TaskFailure) (reason : String) :
    RecoveryDecision × TaskRecord :=
  if h : self.retriesRemaining = 0 then
    (self.retryExhausted error, self.settle .systemFailed error)
  else
    (.about .retryTask self.currentAttempt.next (some .system) error
      ("retry admitted after " ++ reason), self.advance error h)

/-- Fencing precedes payload interpretation. -/
def recordFailure (self : TaskRecord) (attempt : AttemptID) (failure : TaskFailure)
    (error : Option TaskFailure) : Except RecoveryError (RecoveryDecision × TaskRecord) := do
  if ¬ (← self.isCurrent attempt) then
    return (fenced attempt "failure came from a stale attempt", self)
  let kind ← classifyFailure failure
  let recorded := error.getD failure
  match kind with
  | .application => do
      raiseIf (self.state = .systemFailed)
        ⟨.recoveryState, "application failure conflicts with exhausted system failure"⟩
      raiseIf (self.state = .succeeded)
        ⟨.recoveryState, "failure conflicts with accepted success"⟩
      return (.about .failApplication attempt (some .application) (some recorded)
        "user-code failures are terminal and are not system-retried",
        self.settle .applicationFailed (some recorded))
  | .system => do
      raiseIf (self.state = .applicationFailed)
        ⟨.recoveryState, "system failure conflicts with terminal application failure"⟩
      raiseIf (self.state = .succeeded)
        ⟨.recoveryState, "failure conflicts with accepted success"⟩
      if self.state = .systemFailed then return (self.retryExhausted (some recorded), self)
      return self.advanceOrExhaust (some recorded) "system failure"

/-- Consume a retry slot to recreate outputs of a succeeded task. -/
def beginReconstruction (self : TaskRecord) :
    Except RecoveryError (RecoveryDecision × TaskRecord) :=
  match self.state with
  | .systemFailed => .ok (self.retryExhausted self.lastError, self)
  | .applicationFailed =>
    .ok (.about .failApplication self.currentAttempt (some .application) self.lastError
      "the producer ended in a terminal application failure", self)
  | .succeeded => .ok (self.advanceOrExhaust
      (some (.unreconstructable "the task retry budget cannot fund another reconstruction"))
      "lineage reconstruction")
  | _ => .error ⟨.recoveryState, "lineage reconstruction requires a previously succeeded task"⟩

end TaskRecord

end MiniRay
