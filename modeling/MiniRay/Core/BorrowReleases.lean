import MiniRay.Protocol

/-! A Core records what it must give back to another owner before it asks for it: the token of a
borrowed handle, the borrower of one physical attempt, the hold of one submitted task. -/

namespace MiniRay

/-- Give a borrowed token back. The owner keeps a tombstone of it. -/
structure ReleaseBorrowedObject where
  objectId : ObjectID
  ownerWorkerId : WorkerID
  borrowerWorkerId : WorkerID
  borrowerToken : String
  deriving DecidableEq

/-- Turn a contained pin or a Task hold into one borrower token. -/
structure AcquireBorrowedObject where
  objectId : ObjectID
  ownerWorkerId : WorkerID
  borrowerWorkerId : WorkerID
  source : BorrowSource
  borrowerToken : String
  deriving DecidableEq

def AcquireBorrowedObject.release (acquire : AcquireBorrowedObject) : ReleaseBorrowedObject :=
  ⟨acquire.objectId, acquire.ownerWorkerId, acquire.borrowerWorkerId, acquire.borrowerToken⟩

/-- Owner, object, borrower and token. -/
abbrev BorrowReleaseKey := WorkerID × ObjectID × WorkerID × String

/-- One immutable borrower identity with mutable retry progress. -/
structure BorrowReleaseObligation where
  ownerAddress : Address
  acquire : AcquireBorrowedObject
  release : ReleaseBorrowedObject
  identities_match : release = acquire.release
  releaseRequested : Bool := false
  scheduledRound : Option Nat := none
  retryRound : Nat := 0

def BorrowReleaseObligation.key (self : BorrowReleaseObligation) : BorrowReleaseKey :=
  (self.release.ownerWorkerId, self.release.objectId, self.release.borrowerWorkerId,
    self.release.borrowerToken)

/-- Owner, object and physical attempt. -/
abbrev AttemptBorrowKey := WorkerID × ObjectID × AttemptID

/-- Durable local obligation for one physical attempt borrower. -/
structure AttemptBorrowRelease where
  transfer : NestedReferenceTransfer
  attemptId : AttemptID
  acquire : AcquireBorrowedObject
  release : ReleaseBorrowedObject
  releaseRequested : Bool := false
  retryScheduled : Bool := false
  retryRound : Nat := 0

def AttemptBorrowRelease.key (self : AttemptBorrowRelease) : AttemptBorrowKey :=
  (self.transfer.ownerWorkerId, self.transfer.objectId, self.attemptId)

abbrev GuardKey := WorkerID × ObjectID × TaskReferenceHold

/-- Stable owner credential held for one logical submitted task. -/
structure ForeignDependencyGuard where
  objectId : ObjectID
  ownerWorkerId : WorkerID
  ownerAddress : Address
  borrowerWorkerId : WorkerID
  borrowerToken : String
  hold : TaskReferenceHold
  retained : hold.kind = .retained
  own_hold : hold.submittingWorkerId = borrowerWorkerId

def ForeignDependencyGuard.key (guard : ForeignDependencyGuard) : GuardKey :=
  (guard.ownerWorkerId, guard.objectId, guard.hold)

end MiniRay
