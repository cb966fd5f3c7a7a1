import MiniRay.Ids
import MiniRay.Library.BigEndian
import MiniRay.Library.Dict
import MiniRay.Library.Run

/-! The Driver's Core and the Cores embedded in Workers derive the TaskIDs of one job from parents,
attempt numbers and their own counters. -/

namespace MiniRay

structure DigestInput where
  domain : String
  parts : List (List UInt8)
  deriving DecidableEq

abbrev Digest := DigestInput → OpaqueValue

namespace TaskID

def driverInput (jobId : JobID) : DigestInput := ⟨"driver-task", [jobId.value.bytes]⟩

def putInput (jobId : JobID) (ownerWorkerId : WorkerID) (putIndex : Nat) : DigestInput :=
  ⟨"put", [jobId.value.bytes, ownerWorkerId.value.bytes, Sha256.bigEndian 8 putIndex]⟩

def deriveInput (jobId : JobID) (parentTaskId : TaskID) (submissionIndex : Nat) : DigestInput :=
  ⟨"task", [jobId.value.bytes, parentTaskId.value.bytes, Sha256.bigEndian 8 submissionIndex]⟩

def forDriver (digest : Digest) (jobId : JobID) : TaskID := ⟨digest (driverInput jobId)⟩

/-- Raises when the index does not fit in its eight bytes. -/
def forPut (digest : Digest) (jobId : JobID) (ownerWorkerId : WorkerID) (putIndex : Nat) :
    Option TaskID :=
  if Uint64 putIndex then some ⟨digest (putInput jobId ownerWorkerId putIndex)⟩ else none

/-- Raises when the index does not fit in its eight bytes. -/
def derive (digest : Digest) (jobId : JobID) (parentTaskId : TaskID) (submissionIndex : Nat) :
    Option TaskID :=
  if Uint64 submissionIndex then some ⟨digest (deriveInput jobId parentTaskId submissionIndex)⟩
  else none

end TaskID

namespace JobIdentities

/-- Identity of one executing parent and its deterministic child namespace. -/
structure ExecutionContext where
  coreWorker : WorkerID
  parentTaskId : TaskID
  parentAttemptId : AttemptID
  submissionIndex : Nat := 0
  belongs : parentAttemptId.taskId = parentTaskId

def ExecutionContext.attemptParent (digest : Digest) (jobId : JobID) (context : ExecutionContext) :
    Option TaskID :=
  TaskID.derive digest jobId context.parentTaskId context.parentAttemptId.attemptNumber

def ExecutionContext.nextTaskId (digest : Digest) (jobId : JobID) (context : ExecutionContext) :
    Option (TaskID × ExecutionContext) :=
  match context.attemptParent digest jobId with
  | none => none
  | some attemptParent =>
    match TaskID.derive digest jobId attemptParent context.submissionIndex with
    | none => none
    | some taskId =>
      some (taskId, { context with submissionIndex := context.submissionIndex + 1 })

structure CoreCounters where
  submissionIndex : Nat := 0
  putIndex : Nat := 0

inductive Kind
  | task
  | actorCall
  | put
  deriving DecidableEq

inductive Origin
  | root (owner : WorkerID) (index : Nat)
  | nested (attempt : AttemptID) (index : Nat)
  | put (owner : WorkerID) (index : Nat)
  deriving DecidableEq

/-- An admitted submission and the Core that registered its objects. -/
structure Submission where
  owner : WorkerID
  kind : Kind
  taskId : TaskID
  numReturns : Nat
  origin : Origin

def Submission.objectIds (x : Submission) : List ObjectID :=
  (List.range x.numReturns).map (ObjectID.forTask x.taskId)

/-- The Cores of a job, the contexts of started attempts, and what was admitted. -/
structure JobState where
  cores : Dict WorkerID CoreCounters := .empty
  contexts : Dict AttemptID ExecutionContext := .empty
  submissions : List Submission := []

/-- A reserved identity is admitted unless a later step of the submission raises. -/
def JobState.admitIf (s : JobState) (admitted : Bool) (x : Submission) : JobState :=
  if admitted then { s with submissions := s.submissions ++ [x] } else s

section

variable (digest : Digest) (jobId : JobID) (s : JobState)

/-- A submission outside any task: the Core's own counter under the driver's TaskID. -/
def submitRoot (worker : WorkerID) (kind : Kind) (numReturns : Nat) (admitted : Bool) : JobState :=
  match s.cores.get? worker with
  | none => s
  | some core =>
    match TaskID.derive digest jobId (TaskID.forDriver digest jobId) core.submissionIndex with
    | none => s
    | some taskId =>
      let counted := { core with submissionIndex := core.submissionIndex + 1 }
      { s with cores := s.cores.set worker counted }.admitIf admitted
        ⟨worker, kind, taskId, numReturns, .root worker core.submissionIndex⟩

/-- `_register_submission`, inside a task's execution context or outside any. -/
def registerSubmission (worker : WorkerID) (context : Option AttemptID) (numReturns : Nat)
    (admitted : Bool) : JobState :=
  match context with
  | none => submitRoot digest jobId s worker .task numReturns admitted
  | some attempt =>
    match s.contexts.get? attempt with
    | none => s
    | some context =>
      if context.coreWorker ≠ worker then s
      else
        match context.nextTaskId digest jobId with
        | none => s
        | some (taskId, counted) =>
          { s with contexts := s.contexts.set attempt counted }.admitIf admitted
            ⟨worker, .task, taskId, numReturns, .nested attempt context.submissionIndex⟩

/-- `submit_actor_call`, which does not ask for the context of the calling code. -/
def submitActorCall (worker : WorkerID) (admitted : Bool) : JobState :=
  submitRoot digest jobId s worker .actorCall 1 admitted

def putValue (worker : WorkerID) (admitted : Bool) : JobState :=
  match s.cores.get? worker with
  | none => s
  | some core =>
    let next := { core with putIndex := core.putIndex + 1 }
    let counted := { s with cores := s.cores.set worker next }
    match TaskID.forPut digest jobId worker core.putIndex with
    | none => counted
    | some taskId => counted.admitIf admitted
        ⟨worker, .put, taskId, 1, .put worker core.putIndex⟩

/-- A Worker binds an attempt of an admitted task to its Core, once. -/
def execute (worker : WorkerID) (attempt : AttemptID) : JobState :=
  match s.cores.get? worker, s.contexts.get? attempt with
  | some _, none =>
    let context : ExecutionContext := ⟨worker, attempt.taskId, attempt, 0, rfl⟩
    if ∃ x ∈ s.submissions, x.kind = .task ∧ x.taskId = attempt.taskId then
      { s with contexts := s.contexts.set attempt context }
    else s
  | _, _ => s

def startCore (worker : WorkerID) : JobState :=
  match s.cores.get? worker with
  | some _ => s
  | none => { s with cores := s.cores.set worker {} }

end

inductive Action
  | startCore (worker : WorkerID)
  | registerSubmission (worker : WorkerID) (context : Option AttemptID) (numReturns : Nat)
      (admitted : Bool)
  | submitActorCall (worker : WorkerID) (admitted : Bool)
  | putValue (worker : WorkerID) (admitted : Bool)
  | execute (worker : WorkerID) (attempt : AttemptID)

def step (digest : Digest) (jobId : JobID) (s : JobState) : Action → JobState
  | .startCore worker => startCore s worker
  | .registerSubmission worker context numReturns admitted =>
    registerSubmission digest jobId s worker context numReturns admitted
  | .submitActorCall worker admitted => submitActorCall digest jobId s worker admitted
  | .putValue worker admitted => putValue digest jobId s worker admitted
  | .execute worker attempt => execute s worker attempt

/-! ## Uniqueness -/

/-- What the digest was asked for: the driver, the admitted and the seeds of attempts. -/
def Origin.input (digest : Digest) (jobId : JobID) : Origin → DigestInput
  | .root _ index => TaskID.deriveInput jobId (TaskID.forDriver digest jobId) index
  | .nested attempt index => TaskID.deriveInput jobId
      ⟨digest (TaskID.deriveInput jobId attempt.taskId attempt.attemptNumber)⟩ index
  | .put owner index => TaskID.putInput jobId owner index

def JobState.inputs (digest : Digest) (jobId : JobID) (s : JobState) : List DigestInput :=
  TaskID.driverInput jobId :: (s.submissions.map fun x => x.origin.input digest jobId) ++
    s.contexts.keys.map fun attempt =>
      TaskID.deriveInput jobId attempt.taskId attempt.attemptNumber

/-- The digest tells apart what it was asked for. -/
def CollisionFree (digest : Digest) (inputs : List DigestInput) : Prop :=
  ∀ a ∈ inputs, ∀ b ∈ inputs, digest a = digest b → a = b

instance (digest : Digest) (inputs : List DigestInput) :
    Decidable (CollisionFree digest inputs) :=
  inferInstanceAs (Decidable (∀ a ∈ inputs, ∀ b ∈ inputs, digest a = digest b → a = b))

/-- Distinct submissions of a job have distinct identities. -/
structure Unique (digest : Digest) (jobId : JobID) (s : JobState) : Prop where
  taskIds : (s.submissions.map Submission.taskId).Nodup
  /-- No object is registered by two Cores. -/
  owners : ∀ x ∈ s.submissions, ∀ y ∈ s.submissions, ∀ object ∈ x.objectIds,
    object ∈ y.objectIds → x.owner = y.owner
  /-- No seed of an attempt is the TaskID of a submission. -/
  seeds : ∀ attempt context, s.contexts.get? attempt = some context →
    ∀ x ∈ s.submissions, context.attemptParent digest jobId ≠ some x.taskId

end JobIdentities

end MiniRay
