import MiniRay.Pull.Decision

/-! One pull record per object coalesces concurrent demand, buffers and checks the chunks of one
transfer, and shows the replica only after the local store sealed it. The manager keeps its own
buffer and ranges beside those of the store. -/

namespace MiniRay

open Checked

/-- `_PullRecord`; the waiters are a set. -/
structure PullRecord (ℓ α ω : Type) where
  objectId : ObjectID
  state : PullState := .waitingForLocation
  sourceLocation : Option ℓ := none
  transferId : Option String := none
  waiters : List ω := []
  expectedSize : Option Int := none
  expectedChecksum : Option String := none
  attemptId : Option α := none
  buffer : Option (List UInt8) := none
  writtenRanges : List (Nat × Nat) := []
  targetCreated : Bool := false
  error : Option String := none

structure PullSnapshot (ℓ α ω : Type) where
  objectId : ObjectID
  state : PullState
  sourceLocation : Option ℓ
  transferId : Option String
  waiterTokens : List ω
  expectedSize : Option Int
  receivedSize : Nat
  expectedChecksum : Option String
  attemptId : Option α
  error : Option String

structure PullCompletion (ℓ ω : Type) where
  objectId : ObjectID
  localLocation : ℓ
  sizeBytes : Int
  checksum : String
  waiterTokens : List ω

/-- What the owner table knows of an object. -/
structure OwnerSnapshot (ℓ α : Type) where
  locations : List ℓ
  currentAttempt : Option α

/-- The arguments of `request_pull`, the owner's answer, and the names `uuid4` makes up. -/
structure PullRequest (ℓ α ω : Type) where
  objectId : ObjectID
  locations : Option (List ℓ)
  waiterToken : Option ω
  expectedSize : Option Int
  expectedChecksum : Option String
  attemptId : Option α
  excludedLocations : List ℓ
  owner : Option (OwnerSnapshot ℓ α)
  freshToken : ω
  freshTransfer : String

/-- How the owner table answers the publication of a sealed replica. -/
inductive PublicationOutcome
  | noOwner
  | accepted
  | rejected
  | raised (message : String)

structure ObjectManager (ℓ α ω τ : Type) where
  localLocation : ℓ
  objectStore : ObjectStore τ
  pulls : Dict ObjectID (PullRecord ℓ α ω)

namespace PullRecord

variable {ℓ α ω : Type}

def receivedSize (r : PullRecord ℓ α ω) : Nat :=
  (r.writtenRanges.map fun range => range.2 - range.1).sum

def addWaiter [DecidableEq ω] (r : PullRecord ℓ α ω) (token : ω) : PullRecord ℓ α ω :=
  { r with waiters := r.waiters.insert token }

def snapshot (r : PullRecord ℓ α ω) : PullSnapshot ℓ α ω :=
  ⟨r.objectId, r.state, r.sourceLocation, r.transferId, r.waiters, r.expectedSize,
    r.receivedSize, r.expectedChecksum, r.attemptId, r.error⟩

def checkMetadata (r : PullRecord ℓ α ω) (sizeBytes : Option Int) (checksum : Option String) :
    Except ObjectManagerError Unit := do
  match sizeBytes with
  | none => pure ()
  | some size => do
      validateSize size
      raiseIf (r.expectedSize ≠ none ∧ r.expectedSize ≠ some size)
        (.conflictingPull "concurrent pulls disagree about object size")
  match checksum with
  | none => pure ()
  | some text => do
      let normalized ← normalizeChecksum text
      raiseIf (r.expectedChecksum ≠ none ∧ r.expectedChecksum ≠ some normalized)
        (.conflictingPull "concurrent pulls disagree about checksum")

def requirePulling [DecidableEq ℓ] (r : PullRecord ℓ α ω) (transferId : Option String)
    (sourceLocation : Option ℓ) : Except ObjectManagerError Unit := do
  raiseIf (r.state ≠ .pulling)
    (.pullState ("object " ++ r.objectId.repr ++ " is in state " ++ r.state.value))
  raiseIf (transferId ≠ none ∧ transferId ≠ r.transferId)
    (.stalePull "message belongs to a superseded transfer")
  raiseIf (sourceLocation ≠ none ∧ sourceLocation ≠ r.sourceLocation)
    (.stalePull "message came from a non-selected source")

/-- `_require_overlap_matches`: on every range received before, the chunk has the same
bytes. -/
def requireOverlapMatches (r : PullRecord ℓ α ω) (buffer : List UInt8) (offset : Nat)
    (payload : List UInt8) : Except ObjectManagerError Unit :=
  raiseIf (∃ range ∈ r.writtenRanges,
      let start := max offset range.1
      let stop := min (offset + payload.length) range.2
      start < stop ∧ (buffer.drop start).take (stop - start) ≠
        (payload.drop (start - offset)).take (stop - start))
    (.conflictingPull "duplicate chunks contain conflicting bytes")

end PullRecord

namespace ObjectManager

variable {ℓ α ω τ : Type} [DecidableEq ℓ] [StableLocationKey ℓ] [DecidableEq α] [DecidableEq ω]
  [DecidableEq τ]

def empty (localLocation : ℓ) (capacityBytes : Nat) : ObjectManager ℓ α ω τ :=
  ⟨localLocation, .empty capacityBytes, .empty⟩

def setRecord (self : ObjectManager ℓ α ω τ) (r : PullRecord ℓ α ω) : ObjectManager ℓ α ω τ :=
  { self with pulls := self.pulls.set r.objectId r }

def setStore (self : ObjectManager ℓ α ω τ) (s : ObjectStore τ) : ObjectManager ℓ α ω τ :=
  { self with objectStore := s }

def pullRecord (self : ObjectManager ℓ α ω τ) (o : ObjectID) :
    Except ObjectManagerError (PullRecord ℓ α ω) :=
  match self.pulls.get? o with
  | none => .error (.unknownPull ("unknown object pull: " ++ o.repr))
  | some r => .ok r

/-- `_fail_record` aborts an incomplete local entry; the record waits for the abort. -/
def failRecord (self : ObjectManager ℓ α ω τ) (r : PullRecord ℓ α ω) (error : String) :
    Except ObjectManagerError Unit × ObjectManager ℓ α ω τ :=
  let failed : PullRecord ℓ α ω := { r with
    targetCreated := false, buffer := none, writtenRanges := [], state := .failed
    error := some error }
  if r.targetCreated = true ∧ self.objectStore.contains r.objectId false = true ∧
      self.objectStore.contains r.objectId true = false then
    match self.objectStore.abort r.objectId with
    | (.error e, aborted) => (.error (.store e), (self.setStore aborted).setRecord r)
    | (.ok _, aborted) => (.ok (), (self.setStore aborted).setRecord failed)
  else (.ok (), self.setRecord failed)

/-- Fail the record and raise the error again. -/
def failWith {β : Type} (self : ObjectManager ℓ α ω τ) (r : PullRecord ℓ α ω)
    (error : ObjectManagerError) : Except ObjectManagerError β × ObjectManager ℓ α ω τ :=
  match self.failRecord r error.message with
  | (.error e, failed) => (.error e, failed)
  | (.ok _, failed) => (.error error, failed)

/-- `_configure_transfer`: the record and the store after the reservation. -/
def configureTransfer (self : ObjectManager ℓ α ω τ) (r : PullRecord ℓ α ω)
    (sizeBytes : Option Int) (checksum : Option String) :
    Except ObjectManagerError (PullRecord ℓ α ω × ObjectStore τ) :=
  match sizeBytes, checksum with
  | some size, some text => do
      r.checkMetadata (some size) (some text)
      if r.buffer ≠ none then return (r, self.objectStore)
      else do
        raiseIf (self.objectStore.contains r.objectId false = true)
          (.conflictingPull "an unrelated incomplete local replica already exists")
        let created ← (self.objectStore.create r.objectId size).mapError .store
        return ({ r with
          targetCreated := true
          expectedSize := some size
          expectedChecksum := some (lowerHex text)
          buffer := some (List.replicate size.toNat 0) }, created)
  | _, _ => throw (.valueError "both size_bytes and checksum are required")

/-! ## Demand -/

/-- `_owner_metadata` and the checks before the lock: locations, attempt and checksum. -/
def resolveRequest (q : PullRequest ℓ α ω) :
    Except ObjectManagerError (List ℓ × Option α × Option String) := do
  let locations := q.locations.getD ((q.owner.map OwnerSnapshot.locations).getD [])
  let ownerAttempt := q.owner.bind OwnerSnapshot.currentAttempt
  raiseIf (q.attemptId ≠ none ∧ ownerAttempt ≠ none ∧ q.attemptId ≠ ownerAttempt)
    (.stalePull "requested attempt is no longer current at the owner")
  let checksum ← match q.expectedChecksum with
    | none => pure none
    | some text => some <$> normalizeChecksum text
  return (locations, q.attemptId.or ownerAttempt, checksum)

def validateLocalReplica (self : ObjectManager ℓ α ω τ) (o : ObjectID)
    (expectedSize : Option Int) (expectedChecksum : Option String) :
    Except ObjectManagerError Unit := do
  if expectedSize = none ∧ expectedChecksum = none then pure ()
  else do
    let payload ← (self.objectStore.get o).mapError .store
    match expectedSize with
    | none => pure ()
    | some size => do
        validateSize size
        raiseIf ((payload.length : Int) ≠ size)
          (.conflictingPull "sealed local replica has a different object size")
    match expectedChecksum with
    | none => pure ()
    | some text => do
        let checksum ← normalizeChecksum text
        raiseIf (Sha256.hexdigest payload ≠ checksum)
          (.conflictingPull "sealed local replica has a different checksum")

def AttemptsDiffer (known requested : Option α) : Prop :=
  known ≠ none ∧ requested ≠ none ∧ known ≠ requested

instance (known requested : Option α) : Decidable (AttemptsDiffer known requested) :=
  inferInstanceAs (Decidable (_ ∧ _))

def requestSealed (self : ObjectManager ℓ α ω τ) (q : PullRequest ℓ α ω) (attempt : Option α)
    (checksum : Option String) :
    Except ObjectManagerError (PullDecision ℓ ω × ObjectManager ℓ α ω τ) := do
  let token := q.waiterToken.getD q.freshToken
  match self.pulls.get? q.objectId with
  | some r =>
    if r.state = .failed then
      let reason := if r.error.getD "" = "" then "prior pull failed" else r.error.getD ""
      return ({ objectId := q.objectId, action := .failed, sourceLocation := r.sourceLocation
                transferId := r.transferId, waiterToken := some token, reason := reason },
        self.setRecord (r.addWaiter token))
    else do
      raiseIf (AttemptsDiffer r.attemptId attempt)
        (.stalePull "local replica belongs to another attempt")
      r.checkMetadata q.expectedSize checksum
      self.validateLocalReplica q.objectId q.expectedSize checksum
      return ({ objectId := q.objectId, action := .localReady, transferId := r.transferId
                waiterToken := some token, reason := "sealed locally" },
        self.setRecord { r.addWaiter token with state := .ready })
  | none => do
      self.validateLocalReplica q.objectId q.expectedSize checksum
      let r : PullRecord ℓ α ω := { objectId := q.objectId, state := .ready, waiters := [token]
                                    expectedSize := q.expectedSize
                                    expectedChecksum := checksum, attemptId := attempt }
      return ({ objectId := q.objectId, action := .localReady, waiterToken := some token
                reason := "sealed locally" }, self.setRecord r)

/-- The record of a demand for an unsealed object, with its waiter and metadata. -/
def admitWaiter (self : ObjectManager ℓ α ω τ) (q : PullRequest ℓ α ω) (attempt : Option α)
    (checksum : Option String) : Except ObjectManagerError (PullRecord ℓ α ω) := do
  let bind (r : PullRecord ℓ α ω) : PullRecord ℓ α ω :=
    PullRecord.addWaiter { r with
      attemptId := r.attemptId.or attempt
      expectedSize := r.expectedSize.or q.expectedSize
      expectedChecksum := r.expectedChecksum.or checksum } (q.waiterToken.getD q.freshToken)
  match self.pulls.get? q.objectId with
  | some old => do
      raiseIf (AttemptsDiffer old.attemptId attempt)
        (.conflictingPull "concurrent requests name different producing attempts")
      old.checkMetadata q.expectedSize checksum
      return bind old
  | none => return bind { objectId := q.objectId }

/-- Reserve the target of a started transfer when its metadata is known. -/
def startTransfer (self : ObjectManager ℓ α ω τ) (r : PullRecord ℓ α ω)
    (answer : PullDecision ℓ ω) :
    Except ObjectManagerError (PullDecision ℓ ω) × ObjectManager ℓ α ω τ :=
  if r.expectedSize = none ∧ r.expectedChecksum = none then (.ok answer, self.setRecord r)
  else match self.configureTransfer r r.expectedSize r.expectedChecksum with
    | .error e => self.failWith r e
    | .ok (configured, store) => (.ok answer, (self.setStore store).setRecord configured)

/-- Register demand and coalesce it with an existing pull of the object. -/
def requestPull (self : ObjectManager ℓ α ω τ) (q : PullRequest ℓ α ω) :
    Except ObjectManagerError (PullDecision ℓ ω) × ObjectManager ℓ α ω τ :=
  match resolveRequest q with
  | .error e => (.error e, self)
  | .ok (locations, attempt, checksum) =>
    if self.objectStore.contains q.objectId true = true then
      match self.requestSealed q attempt checksum with
      | .error e => (.error e, self)
      | .ok (decision, next) => (.ok decision, next)
    else match self.admitWaiter q attempt checksum with
      | .error e => (.error e, self)
      | .ok r =>
        let token := q.waiterToken.getD q.freshToken
        let active := if r.state = .pulling then r.transferId else none
        let decision : PullDecision ℓ ω := decidePull q.objectId false locations
          (some self.localLocation) active r.sourceLocation (r.state = .failed)
          q.excludedLocations
        if decision.action = .startPull then
          self.startTransfer
            { r with
              state := .pulling, sourceLocation := decision.sourceLocation
              transferId := some q.freshTransfer }
            { decision with transferId := some q.freshTransfer, waiterToken := some token }
        else (.ok { decision with waiterToken := some token }, self.setRecord r)

/-! ## Transfers -/

def pullingRecord (self : ObjectManager ℓ α ω τ) (o : ObjectID) (transferId : Option String)
    (sourceLocation : Option ℓ) : Except ObjectManagerError (PullRecord ℓ α ω) := do
  let r ← self.pullRecord o
  r.requirePulling transferId sourceLocation
  return r

/-- Attach immutable object metadata and reserve the target store. -/
def beginTransfer (self : ObjectManager ℓ α ω τ) (o : ObjectID) (sizeBytes : Int)
    (checksum : String) (transferId : Option String) (sourceLocation : Option ℓ) :
    Except ObjectManagerError (PullSnapshot ℓ α ω) × ObjectManager ℓ α ω τ :=
  match self.pullingRecord o transferId sourceLocation with
  | .error e => (.error e, self)
  | .ok r =>
    match self.configureTransfer r (some sizeBytes) (some checksum) with
    | .error e => self.failWith r e
    | .ok (configured, store) =>
      (.ok configured.snapshot, (self.setStore store).setRecord configured)

/-- The record a chunk is for, its buffer, and the offset of the chunk. -/
def checkChunk (self : ObjectManager ℓ α ω τ) (o : ObjectID) (data : List UInt8) (offset : Int)
    (transferId : Option String) (sourceLocation : Option ℓ) :
    Except ObjectManagerError (PullRecord ℓ α ω × List UInt8) := do
  raiseIf (offset < 0) (.valueError "chunk offset must be a non-negative integer")
  let r ← self.pullingRecord o transferId sourceLocation
  match r.buffer, r.expectedSize with
  | some buffer, some size => do
      let stop := offset + data.length
      raiseIf (size < stop) (.valueError ("chunk [" ++ toString offset ++ ", " ++
        toString stop ++ ") exceeds object size " ++ toString size))
      r.requireOverlapMatches buffer offset.toNat data
      return (r, buffer)
  | _, _ => throw (.pullState "begin_transfer must precede chunk delivery")

/-- Write a chunk; duplicates with the same bytes are safe. -/
def receiveChunk (self : ObjectManager ℓ α ω τ) (o : ObjectID) (data : List UInt8)
    (offset : Int) (transferId : Option String) (sourceLocation : Option ℓ) :
    Except ObjectManagerError Nat × ObjectManager ℓ α ω τ :=
  match self.checkChunk o data offset transferId sourceLocation with
  | .error e => (.error e, self)
  | .ok (r, buffer) =>
    match self.objectStore.write o data offset with
    | .error e => self.failWith r (.store e)
    | .ok written =>
      let start := offset.toNat
      let received := { r with
        buffer := some (Buffer.splice buffer start data)
        writtenRanges := Intervals.insert r.writtenRanges start (start + data.length) }
      (.ok received.receivedSize, (self.setStore written).setRecord received)

/-- The record a completion is for, with its buffer, size and checksum. -/
def checkFinish (self : ObjectManager ℓ α ω τ) (o : ObjectID) (transferId : Option String)
    (sourceLocation : Option ℓ) :
    Except ObjectManagerError (PullRecord ℓ α ω × List UInt8 × Int × String) := do
  let r ← self.pullingRecord o transferId sourceLocation
  match r.buffer, r.expectedSize, r.expectedChecksum with
  | some buffer, some size, some checksum => do
      raiseIf ((r.receivedSize : Int) ≠ size) (.incompletePull ("received " ++
        toString r.receivedSize ++ " of " ++ toString size ++ " bytes"))
      return (r, buffer, size, checksum)
  | _, _, _ => throw (.pullState "transfer metadata is incomplete")

/-- A sealed, unpublished replica is deleted as far as its pins allow; the record failed. -/
def quarantine {β : Type} (self : ObjectManager ℓ α ω τ) (r : PullRecord ℓ α ω)
    (error : ObjectManagerError) : Except ObjectManagerError β × ObjectManager ℓ α ω τ :=
  if self.objectStore.contains r.objectId true = true then
    match self.objectStore.delete r.objectId with
    | (.error e, deleted) => (.error (.store e), self.setStore deleted)
    | (.ok _, deleted) => (self.setStore deleted).failWith r error
  else self.failWith r error

def publishLocalLocation : PublicationOutcome → Except ObjectManagerError Unit
  | .noOwner | .accepted => .ok ()
  | .rejected => .error (.stalePull "owner rejected a stale replica location")
  | .raised message => .error (.publish message)

/-- The pins that transfer readers take on a replica as soon as it is sealed. -/
def pinAll (s : ObjectStore τ) (o : ObjectID) (readers : List τ) : ObjectStore τ :=
  readers.foldl (fun s token => (s.atomic (s.pin o token)).2) s

/-- Verify, seal, publish the location, and only then show the replica. -/
def finishPull (self : ObjectManager ℓ α ω τ) (o : ObjectID) (transferId : Option String)
    (sourceLocation : Option ℓ) (publication : PublicationOutcome) (readers : List τ) :
    Except ObjectManagerError (PullCompletion ℓ ω) × ObjectManager ℓ α ω τ :=
  match self.checkFinish o transferId sourceLocation with
  | .error e => (.error e, self)
  | .ok (r, buffer, size, checksum) =>
    let actual := Sha256.hexdigest buffer
    if actual ≠ lowerHex checksum then
      self.failWith r
        (.pullChecksum "transferred object checksum does not match its descriptor")
    else match self.objectStore.seal_ o with
      | .error e => self.quarantine r (.store e)
      | .ok ready =>
        let sealed := self.setStore (pinAll ready o readers)
        if sealed.objectStore.contains o true = false then
          sealed.quarantine r
            (.pullState "object store did not expose the sealed replica")
        else match publishLocalLocation publication with
          | .error e => sealed.quarantine r e
          | .ok () => (.ok ⟨o, self.localLocation, size, actual, r.waiters⟩,
              sealed.setRecord { r with state := .ready, error := none })

/-! ## The end of a record -/

/-- Fail one in-flight pull; duplicate failure reports are harmless. -/
def failPull (self : ObjectManager ℓ α ω τ) (o : ObjectID) (error : String) :
    Except ObjectManagerError Bool × ObjectManager ℓ α ω τ :=
  match self.pullRecord o with
  | .error e => (.error e, self)
  | .ok r =>
    if r.state = .failed ∨ r.state = .ready then (.ok false, self)
    else match self.failRecord r error with
      | (.error e, failed) => (.error e, failed)
      | (.ok _, failed) => (.ok true, failed)

/-- Remove a retryable record only when no replica remains. -/
def resetFailedPull (self : ObjectManager ℓ α ω τ) (o : ObjectID) :
    Except ObjectManagerError (Bool × ObjectManager ℓ α ω τ) :=
  match self.pulls.get? o with
  | none => .ok (false, self)
  | some r => do
      if r.state ≠ .failed then return (false, self)
      else do
        raiseIf (self.objectStore.contains o false = true)
          (.pullState "cannot reset a failed pull while a local replica exists")
        return (true, { self with pulls := self.pulls.erase o })

/-- Forget pull state after the physical bytes are gone. -/
def forgetLocalReplica (self : ObjectManager ℓ α ω τ) (o : ObjectID) (attempt : Option α) :
    Except ObjectManagerError (Bool × ObjectManager ℓ α ω τ) :=
  match self.pulls.get? o with
  | none => .ok (false, self)
  | some r => do
      if AttemptsDiffer r.attemptId attempt then return (false, self)
      else do
        raiseIf (r.state = .pulling)
          (.pullState "cannot forget a replica while its pull is in flight")
        raiseIf (self.objectStore.contains o false = true)
          (.pullState "cannot forget pull state while a local replica exists")
        return (true, { self with pulls := self.pulls.erase o })

/-- Drop a sealed replica of the attempt unless it is pinned, and forget its pull state. -/
def dropReplica (self : ObjectManager ℓ α ω τ) (o : ObjectID) (attempt : Option α) :
    Except ObjectManagerError Bool × ObjectManager ℓ α ω τ :=
  if self.objectStore.contains o true = false ∨
      (∃ r ∈ self.pulls.get? o, AttemptsDiffer r.attemptId attempt) then (.ok false, self)
  else match self.objectStore.delete o with
    | (.error e, deleted) => (.error (.store e), self.setStore deleted)
    | (.ok false, deleted) => (.ok false, self.setStore deleted)
    | (.ok true, deleted) =>
      match (self.setStore deleted).forgetLocalReplica o attempt with
      | .error e => (.error e, self.setStore deleted)
      | .ok (forgotten, next) => (.ok forgotten, next)

/-! ## Local reads -/

def isReady (self : ObjectManager ℓ α ω τ) (o : ObjectID) : Bool :=
  self.objectStore.contains o true && (self.pulls.get? o).all fun r => r.state = .ready

def getLocal (self : ObjectManager ℓ α ω τ) (o : ObjectID) :
    Except ObjectManagerError (List UInt8) := do
  raiseIf (self.isReady o = false)
    (.pullNotReady ("object is not ready locally: " ++ o.repr))
  (self.objectStore.get o).mapError .store

/-! ## Calls -/

inductive Op (ℓ α ω τ : Type)
  | requestPull (request : PullRequest ℓ α ω)
  | beginTransfer (o : ObjectID) (sizeBytes : Int) (checksum : String)
      (transferId : Option String) (sourceLocation : Option ℓ)
  | receiveChunk (o : ObjectID) (data : List UInt8) (offset : Int)
      (transferId : Option String) (sourceLocation : Option ℓ)
  | finishPull (o : ObjectID) (transferId : Option String) (sourceLocation : Option ℓ)
      (publication : PublicationOutcome) (readers : List τ)
  | failPull (o : ObjectID) (error : String)
  | resetFailedPull (o : ObjectID)
  | forgetLocalReplica (o : ObjectID) (attempt : Option α)
  | dropReplica (o : ObjectID) (attempt : Option α)
  | pin (o : ObjectID) (token : τ)
  | unpin (o : ObjectID) (token : τ)

/-- The manager after a call that changes nothing when it raises. -/
def commit {β : Type} (self : ObjectManager ℓ α ω τ)
    (result : Except ObjectManagerError (β × ObjectManager ℓ α ω τ)) : ObjectManager ℓ α ω τ :=
  match result with
  | .error _ => self
  | .ok (_, next) => next

def step (self : ObjectManager ℓ α ω τ) : Op ℓ α ω τ → ObjectManager ℓ α ω τ
  | .requestPull q => (self.requestPull q).2
  | .beginTransfer o size checksum transfer source =>
    (self.beginTransfer o size checksum transfer source).2
  | .receiveChunk o data offset transfer source =>
    (self.receiveChunk o data offset transfer source).2
  | .finishPull o transfer source publication readers =>
    (self.finishPull o transfer source publication readers).2
  | .failPull o error => (self.failPull o error).2
  | .resetFailedPull o => self.commit (self.resetFailedPull o)
  | .forgetLocalReplica o attempt => self.commit (self.forgetLocalReplica o attempt)
  | .dropReplica o attempt => (self.dropReplica o attempt).2
  | .pin o token => self.setStore (self.objectStore.step (.pin o token))
  | .unpin o token => self.setStore (self.objectStore.step (.unpin o token))

end ObjectManager

end MiniRay
