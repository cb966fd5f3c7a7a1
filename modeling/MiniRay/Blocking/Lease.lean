import MiniRay.Ids
import MiniRay.Lease.Execution
import MiniRay.Resources.Ledger

/-! A running lease gives back its CPU while its task blocks. Episodes are numbered; an episode
closed before it was opened leaves a tombstone under the same number. -/

namespace MiniRay

/-- The physical execution a notification speaks about. -/
structure BlockingIdentity where
  leaseId : LeaseID
  taskId : TaskID
  attemptId : AttemptID
  workerId : WorkerID
  deriving DecidableEq

inductive BlockingKind
  | blocked
  | unblocked
  deriving DecidableEq

structure BlockingNotification where
  kind : BlockingKind
  identity : BlockingIdentity
  sequence : Nat
  deriving DecidableEq

structure BlockingReply where
  request : BlockingNotification
  state : LeaseExecutionState
  accepted : Bool
  changed : Bool
  error : Option String := none
  deriving DecidableEq

/-- What blocking episodes use of a lease record, and the ledger of its allocation. -/
structure BlockingLease where
  identity : BlockingIdentity
  resources : ResourceVector
  allocationToken : AllocationToken
  ledger : ResourceLedger
  state : LeaseExecutionState := .granted
  /-- The greatest observed episode. -/
  blockingSequence : Int := -1
  blockingOpen : Bool := false
  cpuYielded : Bool := false

namespace BlockingLease

variable (self : BlockingLease)

def reply (request : BlockingNotification) (changed : Bool) : BlockingReply :=
  ⟨request, self.state, true, changed, none⟩

def reject (request : BlockingNotification) (error : String) : BlockingReply :=
  ⟨request, self.state, false, false, some error⟩

def BlockingKind.operation : BlockingKind → String
  | .blocked => "block"
  | .unblocked => "unblock"

/-- `_blocking_notification_rejection_locked`, for a record that exists. -/
def rejection (request : BlockingNotification) : Option BlockingReply :=
  if request.identity ≠ self.identity then
    some (self.reject request ("worker lease " ++ BlockingKind.operation request.kind ++
      " identity does not match grant"))
  else if self.state ≠ .running then
    some (self.reject request ("worker lease cannot " ++ BlockingKind.operation request.kind ++
      " from " ++ self.state.value))
  else none

def openEpisode (request : BlockingNotification) :
    Except ResourceError BlockingReply × BlockingLease :=
  match self.ledger.yieldCpu self.allocationToken with
  | (.error e, ledger) => (.error e, { self with ledger := ledger })
  | (.ok cpuYielded, ledger) =>
    if cpuYielded ≠ decide (0 < self.resources.units cpuName) then
      (.error (.assertionError "running lease CPU allocation disagrees with its request"),
        { self with ledger := ledger })
    else (.ok (self.reply request true), { self with
      ledger := ledger
      blockingSequence := request.sequence
      blockingOpen := true
      cpuYielded := cpuYielded })

def notifyBlocked (request : BlockingNotification) :
    Except ResourceError BlockingReply × BlockingLease :=
  match self.rejection request with
  | some rejected => (.ok rejected, self)
  | none =>
    if (request.sequence : Int) < self.blockingSequence then
      (.ok (self.reject request "blocking episode sequence is stale"), self)
    else if request.sequence = self.blockingSequence then
      if self.blockingOpen then (.ok (self.reply request false), self)
      else (.ok (self.reject request "blocking episode is already closed"), self)
    else if (request.sequence : Int) ≠ self.blockingSequence + 1 then
      (.ok (self.reject request "blocking episode sequence skipped an episode"), self)
    else if self.blockingOpen then
      (.ok (self.reject request "the preceding blocking episode is still open"), self)
    else self.openEpisode request

/-- Close the open episode, and take the CPU back at once. -/
def closeEpisode (request : BlockingNotification) :
    Except ResourceError BlockingReply × BlockingLease :=
  let closed (ledger : ResourceLedger) : Except ResourceError BlockingReply × BlockingLease :=
    (.ok (self.reply request true),
      { self with ledger := ledger, blockingOpen := false, cpuYielded := false })
  if self.cpuYielded = false then closed self.ledger
  else match self.ledger.reacquireCpu self.allocationToken with
    | (.error e, ledger) => (.error e, { self with ledger := ledger })
    | (.ok false, ledger) =>
      (.error (.assertionError "open blocking episode could not reacquire its CPU"),
        { self with ledger := ledger })
    | (.ok true, ledger) => closed ledger

def notifyUnblocked (request : BlockingNotification) :
    Except ResourceError BlockingReply × BlockingLease :=
  match self.rejection request with
  | some rejected => (.ok rejected, self)
  | none =>
    if (request.sequence : Int) < self.blockingSequence then
      (.ok (self.reject request "blocking episode sequence is stale"), self)
    else if request.sequence = self.blockingSequence then
      if self.blockingOpen then self.closeEpisode request
      else (.ok (self.reply request false), self)
    else if (request.sequence : Int) ≠ self.blockingSequence + 1 then
      (.ok (self.reject request "blocking episode sequence skipped an episode"), self)
    else if self.blockingOpen then
      (.ok (self.reject request "unblock does not match the open blocking episode"), self)
    else
      -- Close before open: a tombstone for a Blocked that may still arrive.
      (.ok (self.reply request true), { self with
        blockingSequence := request.sequence, blockingOpen := false, cpuYielded := false })

def notify (request : BlockingNotification) :
    Except ResourceError BlockingReply × BlockingLease :=
  match request.kind with
  | .blocked => self.notifyBlocked request
  | .unblocked => self.notifyUnblocked request

/-! ## The other lease handlers -/

def start : BlockingLease :=
  if self.state = .granted then { self with state := .running } else self

/-- `_release_record_locked`, which every terminal transition of a live lease uses. -/
def releaseRecord (state : LeaseExecutionState) : BlockingLease :=
  { self with
    ledger := (self.ledger.release self.allocationToken).2
    state := state
    blockingOpen := false
    cpuYielded := false }

/-- Completion, cancellation, abandonment or worker loss. -/
def finish (state : LeaseExecutionState) : BlockingLease :=
  if self.state.Live ∧ ¬ state.Live then self.releaseRecord state else self

/-- A late output-bound completion of a lost or abandoned lease. -/
def completeLate : BlockingLease :=
  if self.state = .workerLost ∨ self.state = .abandoned then { self with state := .completed }
  else self

def useLedger (op : ResourceLedger.Op) : BlockingLease :=
  if op.subject = self.allocationToken then self else { self with ledger := self.ledger.step op }

end BlockingLease

end MiniRay

/-! ## The blocking notifier of a Worker

One lock serializes the outermost blocking sections of all threads. A section blocks until its
Blocked converged, and before it is left its Unblocked has to converge. -/

namespace MiniRay

/-- `_BLOCK_ATTEMPTS` and `_UNBLOCK_ATTEMPTS`. -/
def blockAttempts : Nat := 3
def unblockAttempts : Nat := 8

/-- How one attempt of a notification ends at the Worker. -/
inductive BlockingOutcome
  | reply (reply : BlockingReply)
  | invalid
  | transportError (stopping : Bool)
  | interrupted

inductive NotifierPhase
  | idle
  | blocking (attempt : Nat)
  | inside
  | unblocking (attempt : Nat)
  deriving DecidableEq

structure BlockingNotifier where
  identity : BlockingIdentity
  sequence : Int := -1
  /-- The thread-local nesting of blocking sections. -/
  depths : Dict Nat Nat := .empty
  /-- The thread that holds the episode lock. -/
  holder : Option Nat := none
  phase : NotifierPhase := .idle
  /-- The close of the last episode was acknowledged. -/
  converged : Bool := true

namespace BlockingNotifier

variable (self : BlockingNotifier)

def depth (tid : Nat) : Nat := (self.depths.get? tid).getD 0

/-- The thread runs user code inside its blocking section. -/
def Inside (tid : Nat) : Prop := self.holder = some tid ∧ self.phase = .inside

instance (tid : Nat) : Decidable (self.Inside tid) := inferInstanceAs (Decidable (_ ∧ _))

/-- `blocking_scope` is entered: nested, or with the episode lock. -/
def enter (tid : Nat) : BlockingNotifier :=
  if 0 < self.depth tid then
    if self.Inside tid then { self with depths := self.depths.set tid (self.depth tid + 1) }
    else self
  else if self.holder ≠ none then self
  else { self with
    depths := self.depths.set tid 1
    holder := some tid
    sequence := self.sequence + 1
    phase := .blocking 0
    converged := false }

/-- The body of a section ends, with or without an exception. -/
def exit (tid : Nat) : BlockingNotifier :=
  if ¬ self.Inside tid then self
  else if 1 < self.depth tid then
    { self with depths := self.depths.set tid (self.depth tid - 1) }
  else { self with phase := .unblocking 0 }

def leave (converged : Bool) : BlockingNotifier :=
  { self with
    depths := match self.holder with
      | none => self.depths
      | some tid => self.depths.set tid 0
    holder := none
    phase := .idle
    converged := converged }

/-- The message that is being sent, if any. -/
def current : Option BlockingNotification :=
  match self.phase with
  | .blocking _ => some ⟨.blocked, self.identity, self.sequence.toNat⟩
  | .unblocking _ => some ⟨.unblocked, self.identity, self.sequence.toNat⟩
  | _ => none

/-- `_converge_block` and `_converge_unblock`, one attempt. -/
def attempt (outcome : BlockingOutcome) : BlockingNotifier :=
  match self.phase, outcome with
  | .blocking _, .reply reply =>
    if some reply.request = self.current ∧ reply.accepted = true then
      { self with phase := .inside }
    else { self with phase := .unblocking 0 }
  | .blocking attempt, .transportError stopping =>
    if attempt + 1 < blockAttempts ∧ stopping = false then
      { self with phase := .blocking (attempt + 1) }
    else { self with phase := .unblocking 0 }
  | .blocking _, _ => { self with phase := .unblocking 0 }
  | .unblocking _, .reply reply =>
    self.leave (some reply.request = self.current ∧
      (reply.accepted = true ∨ ¬ reply.state.Live))
  | .unblocking attempt, .transportError stopping =>
    if attempt + 1 < unblockAttempts ∧ stopping = false then
      { self with phase := .unblocking (attempt + 1) }
    else self.leave false
  | .unblocking _, _ => self.leave false
  | _, _ => self

end BlockingNotifier

/-! ## The Worker and its Node -/

/-- What was sent may arrive at any later time, repeatedly and in any order. -/
structure BlockingSystem where
  lease : BlockingLease
  notifier : BlockingNotifier
  sent : List BlockingNotification := []
  replies : List BlockingReply := []

inductive BlockingAction
  | enter (tid : Nat)
  | exit (tid : Nat)
  | send
  | attempt (outcome : BlockingOutcome)
  | deliver (request : BlockingNotification)
  | start
  | finish (state : LeaseExecutionState)
  | completeLate
  | useLedger (op : ResourceLedger.Op)

namespace BlockingSystem

variable (self : BlockingSystem)

/-- A request arrives that was sent, or that speaks about another execution. -/
def Arrives (request : BlockingNotification) : Prop :=
  request ∈ self.sent ∨ request.identity ≠ self.notifier.identity

instance (request : BlockingNotification) : Decidable (self.Arrives request) :=
  inferInstanceAs (Decidable (_ ∨ _))

/-- A reply can be received only if the Node wrote it. -/
def Possible : BlockingOutcome → Prop
  | .reply reply => reply ∈ self.replies
  | _ => True

instance : DecidablePred self.Possible := fun outcome => by
  cases outcome <;> unfold Possible <;> infer_instance

def step : BlockingAction → BlockingSystem
  | .enter tid => { self with notifier := self.notifier.enter tid }
  | .exit tid => { self with notifier := self.notifier.exit tid }
  | .send => { self with sent := self.notifier.current.toList ++ self.sent }
  | .attempt outcome =>
    if self.Possible outcome then { self with notifier := self.notifier.attempt outcome }
    else self
  | .deliver request =>
    if self.Arrives request then { self with
      lease := (self.lease.notify request).2
      replies := match (self.lease.notify request).1 with
        | .error _ => self.replies
        | .ok reply => reply :: self.replies }
    else self
  | .start => { self with lease := self.lease.start }
  | .finish state => { self with lease := self.lease.finish state }
  | .completeLate => { self with lease := self.lease.completeLate }
  | .useLedger op => { self with lease := self.lease.useLedger op }

end BlockingSystem

end MiniRay
