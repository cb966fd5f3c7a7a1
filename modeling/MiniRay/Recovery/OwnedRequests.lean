import MiniRay.Recovery.CoordinatorRuns

/-! A borrower asks the owner of a lost object to reconstruct it. The owner checks the request
against its credential and one snapshot of both authorities, lets the local admission decide, and
remembers what it accepted. -/

namespace MiniRay

open Checked Run

/-! ## Messages -/

/-- The capability a request is made under. -/
inductive ReconstructionCredential
  | borrowed (source : BorrowSource) (borrowerToken : String)
  | retained (hold : TaskReferenceHold)
  deriving DecidableEq

structure RequestOwnedObjectReconstruction where
  objectId : ObjectID
  ownerWorkerId : WorkerID
  requesterWorkerId : WorkerID
  credential : ReconstructionCredential
  expectedOwnerAttempt : AttemptID
  retained_hold : ∀ hold, credential = .retained hold →
    hold.kind = .retained ∧ hold.submittingWorkerId = requesterWorkerId
  expected_task : expectedOwnerAttempt.taskId = objectId.taskId

instance : DecidableEq RequestOwnedObjectReconstruction := fun a b =>
  decidable_of_iff
    (a.objectId = b.objectId ∧ a.ownerWorkerId = b.ownerWorkerId ∧
      a.requesterWorkerId = b.requesterWorkerId ∧ a.credential = b.credential ∧
      a.expectedOwnerAttempt = b.expectedOwnerAttempt) (by
    cases a
    cases b
    simp only [RequestOwnedObjectReconstruction.mk.injEq])

inductive OwnedObjectReconstructionDisposition
  | started
  | joined
  | failed
  deriving DecidableEq

inductive OwnedObjectReconstructionFailure
  | wrongOwner
  | ownerDead
  | unknownObject
  | inactiveCredential
  | releasedCredential
  | credentialMismatch
  | requestConflict
  | expectedAttemptMismatch
  | notLost
  | putObject
  | retryExhausted
  | unreconstructable
  | collectionInProgress
  | authorityRejected
  deriving DecidableEq

/-- The request it echoes, and a START/JOIN attempt or a typed failure. -/
structure RequestOwnedObjectReconstructionReply where
  request : RequestOwnedObjectReconstruction
  disposition : OwnedObjectReconstructionDisposition
  reconstructionAttempt : Option AttemptID := none
  failure : Option OwnedObjectReconstructionFailure := none
  detail : Option String := none

/-- A refusal: what is wrong, and its text. -/
structure ReconstructionRefusal where
  failure : OwnedObjectReconstructionFailure
  detail : String

def ReconstructionRefusal.reply (refusal : ReconstructionRefusal)
    (request : RequestOwnedObjectReconstruction) : RequestOwnedObjectReconstructionReply :=
  { request := request, disposition := .failed, failure := some refusal.failure
    detail := some refusal.detail }

/-- The token or the hold that a transaction is made under. -/
inductive CredentialKey
  | borrowed (borrowerToken : String)
  | retained (hold : TaskReferenceHold)
  deriving DecidableEq

def ReconstructionCredential.key : ReconstructionCredential → CredentialKey
  | .borrowed _ borrowerToken => .borrowed borrowerToken
  | .retained hold => .retained hold

structure TransactionKey where
  objectId : ObjectID
  ownerWorkerId : WorkerID
  requesterWorkerId : WorkerID
  credential : CredentialKey
  expectedOwnerAttempt : AttemptID
  deriving DecidableEq

def RequestOwnedObjectReconstruction.transactionKey (request : RequestOwnedObjectReconstruction) :
    TransactionKey :=
  ⟨request.objectId, request.ownerWorkerId, request.requesterWorkerId, request.credential.key,
    request.expectedOwnerAttempt⟩

/-! ## Checks -/

/-- The admission callback's outcome, deferral or exception with its text. -/
inductive AdmissionResult
  | outcome (outcome : ReconstructionOutcome)
  | deferred (text : String)
  | raised (text : String)

/-- A request past its checks: it waits for the admission, the reducer's lock is held. The
snapshot is kept, and the attempts started since while the authorities were as it shows. -/
structure Handling where
  request : RequestOwnedObjectReconstruction
  seenAttempt : Option AttemptID
  seenActive : Option AttemptID
  direct : List AttemptID

/-- The reducer with the authorities it reads. `accepted` logs the replies that named an
attempt, and whether it was started as the snapshot showed the authorities. -/
structure OwnedObjectReconstructionReducer (ε : Type) where
  ownerWorkerId : WorkerID
  authorities : ReconstructionRun ε
  replies : Dict RequestOwnedObjectReconstruction RequestOwnedObjectReconstructionReply
  claims : Dict TransactionKey RequestOwnedObjectReconstruction
  handling : Option Handling
  sent : List RequestOwnedObjectReconstructionReply
  direct : List (RequestOwnedObjectReconstruction × AttemptID)

namespace OwnedObjectReconstructionReducer

variable {ε : Type}

def init (ownerWorkerId : WorkerID) : OwnedObjectReconstructionReducer ε :=
  ⟨ownerWorkerId, .empty, .empty, .empty, none, [], []⟩

def validateCredential (request : RequestOwnedObjectReconstruction)
    (owner : ObjectOwnerEntry ε) : Option ReconstructionRefusal :=
  match request.credential with
  | .borrowed source borrowerToken =>
    let token := ReferenceToken.worker request.requesterWorkerId borrowerToken
    if token ∈ owner.releasedBorrowedTokens then
      some ⟨.releasedCredential, "the borrower credential was already released"⟩
    else if token ∉ owner.borrowedTokens then
      some ⟨.inactiveCredential, "the borrower credential is not active at the owner"⟩
    else if owner.borrowedSources.get? token ≠ some source then
      some ⟨.credentialMismatch, "the active borrower is bound to another export source"⟩
    else none
  | .retained hold =>
    if hold ∈ owner.releasedRetainedTokens then
      some ⟨.releasedCredential, "the retained reconstruction hold was already released"⟩
    else if hold ∉ owner.retainedTokens then
      some ⟨.inactiveCredential, "the retained reconstruction hold is not active"⟩
    else none

/-- The owner is reconstructing the object beyond the attempt the requester saw. -/
def isJoinOfActiveReconstruction (request : RequestOwnedObjectReconstruction)
    (owner : ObjectOwnerEntry ε) (recovery : ReconstructionSnapshot) : Bool :=
  match recovery.activeRecovery with
  | none => false
  | some active => owner.currentAttempt = some active ∧
      active.taskId = request.expectedOwnerAttempt.taskId ∧
      request.expectedOwnerAttempt.attemptNumber < active.attemptNumber

def validateSnapshots (request : RequestOwnedObjectReconstruction) (owner : ObjectOwnerEntry ε)
    (recovery : ReconstructionSnapshot) : Option ReconstructionRefusal :=
  let joining := isJoinOfActiveReconstruction request owner recovery
  if owner.currentAttempt ≠ some request.expectedOwnerAttempt ∧ ¬ joining then
    some ⟨.expectedAttemptMismatch,
      "the object owner has advanced beyond the expected producer attempt"⟩
  else if owner.collectionPending then
    some ⟨.collectionInProgress, "object metadata collection is already in progress"⟩
  else if ¬ joining ∧ owner.state ≠ .lost then
    some ⟨.notLost, "the expected owner attempt is not in LOST state"⟩
  else if recovery.isPut then
    some ⟨.putObject, "put objects have no replayable producer task"⟩
  else if recovery.lineage = none then
    some ⟨.unreconstructable, "the object has no replayable producer lineage"⟩
  else if recovery.activeRecovery = none ∧ recovery.retriesRemaining = some 0 then
    some ⟨.retryExhausted, "the producer retry budget is exhausted"⟩
  else none

/-! ## Receiving a request -/

def answer (self : OwnedObjectReconstructionReducer ε)
    (reply : RequestOwnedObjectReconstructionReply) : OwnedObjectReconstructionReducer ε :=
  { self with sent := self.sent ++ [reply] }

def refuse (self : OwnedObjectReconstructionReducer ε)
    (request : RequestOwnedObjectReconstruction)
    (failure : OwnedObjectReconstructionFailure) (detail : String) :
    OwnedObjectReconstructionReducer ε :=
  self.answer (ReconstructionRefusal.reply ⟨failure, detail⟩ request)

def conflict (self : OwnedObjectReconstructionReducer ε)
    (request : RequestOwnedObjectReconstruction) : OwnedObjectReconstructionReducer ε :=
  let refusal : ReconstructionRefusal := ⟨.requestConflict,
    "the reconstruction transaction was already bound to different request fields"⟩
  { self with replies := self.replies.set request (refusal.reply request) }.answer
    (refusal.reply request)

/-- The request is bound to its key, and admitted if the snapshot allows it. -/
def claim (self : OwnedObjectReconstructionReducer ε)
    (request : RequestOwnedObjectReconstruction) (owner : ObjectOwnerEntry ε)
    (recovery : ReconstructionSnapshot) : OwnedObjectReconstructionReducer ε :=
  let claimed := { self with claims := self.claims.set request.transactionKey request }
  match validateSnapshots request owner recovery with
  | some refusal => claimed.answer (refusal.reply request)
  | none => { claimed with
      handling := some ⟨request, owner.currentAttempt, recovery.activeRecovery, []⟩ }

/-- The checks against one snapshot of both authorities. -/
def inspect (self : OwnedObjectReconstructionReducer ε)
    (request : RequestOwnedObjectReconstruction) : OwnedObjectReconstructionReducer ε :=
  match self.authorities.coordinator.owner.entry request.objectId with
  | .error _ => self.refuse request .unknownObject "the owner does not know this logical object"
  | .ok owner =>
    match self.authorities.coordinator.recovery.reconstructionSnapshot request.objectId with
    | .error _ => self.refuse request .authorityRejected
        "local reconstruction authority could not read object state"
    | .ok recovery =>
      match validateCredential request owner with
      | some refusal => self.answer (refusal.reply request)
      | none => self.claim request owner recovery

/-- The first half of `handle`, up to the admission. -/
def receive (self : OwnedObjectReconstructionReducer ε)
    (request : RequestOwnedObjectReconstruction) : OwnedObjectReconstructionReducer ε :=
  match self.replies.get? request with
  | some replay => self.answer replay
  | none =>
    if request.ownerWorkerId ≠ self.ownerWorkerId then
      self.refuse request .wrongOwner "request targets a different object owner"
    else if (self.authorities.coordinator.owner.deadWorkerCleanups.get?
        self.ownerWorkerId).isSome then
      self.refuse request .ownerDead "the owner Worker has a committed death record"
    else match self.claims.get? request.transactionKey with
      | none => self.inspect request
      | some claimed =>
        if claimed ≠ request then self.conflict request else self.inspect request

/-! ## After the admission -/

/-- The kind of a failed decision; it may have to read the recovery manager again. -/
def failureFromDecision (self : OwnedObjectReconstructionReducer ε)
    (request : RequestOwnedObjectReconstruction) (action : RecoveryAction) :
    Except RecoveryError OwnedObjectReconstructionFailure :=
  match action with
  | .failRetryExhausted => .ok .retryExhausted
  | .unreconstructableObject => do
      let snapshot ←
        self.authorities.coordinator.recovery.reconstructionSnapshot request.objectId
      return if snapshot.isPut then .putObject else .unreconstructable
  | .fenceStaleAttempt => .ok .expectedAttemptMismatch
  | _ => .ok .authorityRejected

def acceptedDisposition : ReconstructionDisposition → OwnedObjectReconstructionDisposition
  | .start => .started
  | _ => .joined

/-- A receipted START or JOIN is answered and remembered. -/
def accept (self : OwnedObjectReconstructionReducer ε) (handling : Handling)
    (outcome : ReconstructionOutcome) (attempt : AttemptID) :
    OwnedObjectReconstructionReducer ε :=
  let reply : RequestOwnedObjectReconstructionReply := {
    request := handling.request
    disposition := acceptedDisposition outcome.disposition
    reconstructionAttempt := some attempt }
  { self with
    replies := self.replies.set handling.request reply
    direct := if attempt ∈ handling.direct then (handling.request, attempt) :: self.direct
      else self.direct }.answer reply

/-- The identity of an outcome that fits the request. -/
def Fits (request : RequestOwnedObjectReconstruction) (decision : RecoveryDecision)
    (attempt : AttemptID) : Prop :=
  decision.taskId = some request.objectId.taskId ∧
    decision.requestedObjectId = some request.objectId ∧
    attempt.taskId = request.objectId.taskId ∧
    request.expectedOwnerAttempt.attemptNumber < attempt.attemptNumber

instance (request : RequestOwnedObjectReconstruction) (decision : RecoveryDecision)
    (attempt : AttemptID) : Decidable (Fits request decision attempt) :=
  inferInstanceAs (Decidable (_ ∧ _))

/-- The reply to an outcome; an exception leaves none. -/
def replyFromOutcome (self : OwnedObjectReconstructionReducer ε) (handling : Handling)
    (outcome : ReconstructionOutcome) : OwnedObjectReconstructionReducer ε :=
  let request := handling.request
  let mismatch := self.refuse request .authorityRejected
    "local reconstruction authority returned a mismatched identity"
  if outcome.disposition = .failed then
    match self.failureFromDecision request outcome.decision.action with
    | .error _ => self
    | .ok failure => self.refuse request failure
        (if outcome.decision.reason = "" then "local reconstruction authority rejected the request"
          else outcome.decision.reason)
  else match outcome.decision.attemptId with
    | none => mismatch
    | some attempt =>
      if ¬ Fits request outcome.decision attempt then mismatch
      else if outcome.admission ≠ some outcome.identity then
        self.refuse request .authorityRejected
          "local reconstruction authority did not provide an exact queue handoff receipt"
      else self.accept handling outcome attempt

/-- The second half of `handle`; the lock is released. -/
def finish (self : OwnedObjectReconstructionReducer ε) (handling : Handling)
    (result : AdmissionResult) : OwnedObjectReconstructionReducer ε :=
  let released := { self with handling := none }
  match result with
  | .deferred text => released.refuse handling.request .notLost
      (if text = "" then "local reconstruction admission is deferred" else text)
  | .raised text => released.refuse handling.request .authorityRejected
      ("local reconstruction authority rejected the request: " ++ text)
  | .outcome outcome => released.replyFromOutcome handling outcome

/-! ## Runs -/

/-- A request arrives, any thread uses the authorities, or the admission returns. -/
inductive Action (ε : Type)
  | deliver (request : RequestOwnedObjectReconstruction)
  | authority (action : ReconstructionRun.Action ε)
  | admitted (result : AdmissionResult)

/-- The authorities stand as the snapshot showed them. -/
def Handling.Unmoved (handling : Handling) (authorities : ReconstructionRun ε) : Prop :=
  authorities.coordinator.recovery.activeRecoveries.get? handling.request.objectId.taskId =
      handling.seenActive ∧
    ∃ owner ∈ authorities.coordinator.owner.entries.get? handling.request.objectId,
      owner.currentAttempt = handling.seenAttempt

instance (handling : Handling) (authorities : ReconstructionRun ε) :
    Decidable (Handling.Unmoved handling authorities) :=
  inferInstanceAs (Decidable (_ ∧ ∃ owner ∈ _, _))

/-- The attempts this step starts for the requested object. -/
def startedFor (handling : Handling) (before after : ReconstructionRun ε) :
    ReconstructionRun.Action ε → List AttemptID
  | .commit prepared =>
    if prepared.outcome.plan.map (·.requestedObjectId) = some handling.request.objectId then
      after.started.drop before.started.length
    else []
  | _ => []

/-- A step of the authorities while a request is handled. -/
def observe (before after : ReconstructionRun ε) (action : ReconstructionRun.Action ε)
    (handling : Handling) : Handling :=
  if Handling.Unmoved handling before then
    { handling with direct := handling.direct ++ startedFor handling before after action }
  else handling

def step [BEq ε] (args : TaskArguments) (s : OwnedObjectReconstructionReducer ε) :
    Action ε → OwnedObjectReconstructionReducer ε
  | .deliver request => match s.handling with
      | some _ => s
      | none => s.receive request
  | .authority action =>
    let after := s.authorities.step args action
    { s with
      authorities := after
      handling := s.handling.map (observe s.authorities after action) }
  | .admitted result => match s.handling with
      | none => s
      | some handling => s.finish handling result

/-- A receipt is sealed: a callback can only hand on one that a handoff issued. -/
def Genuine (authorities : ReconstructionRun ε) : AdmissionResult → Prop
  | .outcome outcome => ∀ identity ∈ outcome.admission,
      ∃ issued ∈ authorities.outcomes, issued.admission = some identity
  | _ => True

instance (authorities : ReconstructionRun ε) (result : AdmissionResult) :
    Decidable (Genuine authorities result) :=
  match result with
  | .outcome outcome => inferInstanceAs (Decidable (∀ identity ∈ outcome.admission, _))
  | .deferred _ | .raised _ => inferInstanceAs (Decidable True)

/-- The callers of the authorities keep to their contract. -/
def Regular (s : OwnedObjectReconstructionReducer ε) : Action ε → Prop
  | .deliver _ => True
  | .authority action => s.authorities.Regular action
  | .admitted result => Genuine s.authorities result

instance (s : OwnedObjectReconstructionReducer ε) (a : Action ε) : Decidable (s.Regular a) :=
  match a with
  | .deliver _ => inferInstanceAs (Decidable True)
  | .authority action => inferInstanceAs (Decidable (s.authorities.Regular action))
  | .admitted result => inferInstanceAs (Decidable (Genuine s.authorities result))

end OwnedObjectReconstructionReducer

end MiniRay
