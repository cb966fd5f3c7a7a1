import MiniRay.Library.Digraph
import MiniRay.Library.Run
import MiniRay.EnhancedPublication.Snapshot

/-! One reducer owns admission, the metadata history and the reservations of the contained graph.
Records are never deleted. -/

namespace MiniRay

open Checked

/-! ## Replies -/

structure PublicationReply where
  request : PublicationRequest
  accepted : Bool
  snapshot : Option PublicationSnapshot
  receipt : Option PublicationReceipt
  errorKind : Option PublicationErrorKind
  error : Option String

namespace PublicationReply

/-- The checks of `__post_init__`, which rebuild the snapshot as well. -/
def validate (r : PublicationReply) : Except Failure Unit := do
  checkSome (fun snapshot => do
    snapshot.validate
    raiseIf (snapshot.reference ≠ r.request.reference)
      (.valueError "reply snapshot changed request reference")) r.snapshot
  checkSome (fun receipt =>
    raiseIf (r.snapshot.any (fun snapshot => receipt ∈ snapshot.receipts) = false)
      (.valueError "reply receipt must belong to its exact snapshot")) r.receipt
  if r.accepted then do
    raiseIf (r.errorKind ≠ none ∨ r.error ≠ none)
      (.valueError "accepted publication reply cannot carry an error")
    raiseIf (r.request.stage ≠ none ∧ (r.snapshot = none ∨ r.receipt = none))
      (.valueError "accepted mutation requires its snapshot and receipt")
  else
    raiseIf (r.errorKind = none ∨ r.error = none ∨ r.error = some "" ∨ r.receipt ≠ none)
      (.valueError "rejected publication reply requires typed error without success receipt")

def create (r : PublicationReply) : Except Failure PublicationReply := do
  r.validate
  return r

def accept (request : PublicationRequest) (snapshot : Option PublicationSnapshot)
    (receipt : Option PublicationReceipt) : PublicationReply :=
  ⟨request, true, snapshot, receipt, none, none⟩

def reject (request : PublicationRequest) (snapshot : Option PublicationSnapshot)
    (kind : PublicationErrorKind) (message : String) : PublicationReply :=
  ⟨request, false, snapshot, none, some kind, some message⟩

end PublicationReply

/-! ## Admission checks -/

/-- The record history, keyed by publication, and the receipt counter. -/
structure PublicationAuthority where
  records : Dict PublicationKey PublicationSnapshot
  sequence : Nat

/-- The owners a publication names: its own object and every contained child. -/
def Publication.ownerEntries (p : Publication) : List (ObjectID × WorkerID) :=
  (p.objectId, p.ownerWorkerId) ::
    p.transfers.map fun t => (t.containedObjectId, t.containedOwnerWorkerId)

def Publication.children (p : Publication) : List ObjectID :=
  p.transfers.map PreparedContainedTransfer.containedObjectId

namespace PublicationAuthority

def empty : PublicationAuthority := ⟨.empty, 0⟩

/-- One turn of the binding loop. An exact fence before Begin is cleanup history, not
execution admission, so it skips the epoch checks. -/
def checkBinding (publication : Publication) (admitting : Bool) (previous : PublicationSnapshot) :
    Except Failure Unit := do
  let other := previous.publication
  raiseIf (other.jobId ≠ publication.jobId)
    (conflict "the teaching GCS supports one publication job")
  raiseIf (other.ownerWorkerId = publication.ownerWorkerId ∧
      other.ownerAddress ≠ publication.ownerAddress)
    (conflict "owner incarnation was rebound to another route")
  if other.objectId = publication.objectId then do
    raiseIf (other.ownerWorkerId ≠ publication.ownerWorkerId)
      (conflict "one ObjectID cannot name two owners")
    if admitting = false ∨ previous.receipt .intent = none then pure ()
    else do
      raiseIf (previous.receipt .retired = none)
        (state "old publication must retire before the next object epoch")
      raiseIf (publication.reference.key.attemptId.attemptNumber ≤
          other.reference.key.attemptId.attemptNumber)
        (state "retired object publication requires a newer attempt")
  else pure ()

def validateBinding (self : PublicationAuthority) (publication : Publication) (admitting : Bool) :
    Except Failure Unit := do
  checkAll (checkBinding publication admitting) self.records.values
  let candidate ← PublicationSnapshot.create (.registered publication)
  raiseIf (¬ Functional ((self.records.values ++ [candidate]).flatMap fun item =>
      item.publication.ownerEntries))
    (conflict "contained ObjectID owner credentials conflict")

/-- `adjacency.setdefault(item.object_id, set()).update(children)`. -/
def addChildren (adjacency : Dict ObjectID (List ObjectID)) (item : Publication) :
    Dict ObjectID (List ObjectID) :=
  adjacency.set item.objectId ((adjacency.get? item.objectId).getD [] ∪ item.children)

/-- The merged adjacency of every active record and the candidate. -/
def adjacency (self : PublicationAuthority) (publication : Publication) :
    Dict ObjectID (List ObjectID) :=
  ((self.records.values.filter (·.graphActive)).map (·.publication) ++ [publication]).foldl
    addChildren .empty

def wouldCycle (self : PublicationAuthority) (publication : Publication) : Bool :=
  Digraph.hasCycle (self.adjacency publication)

def requireForward (snapshot : PublicationSnapshot) : Except Failure Unit :=
  raiseIf (snapshot.forwardOpen = false) (state "publication forward permission is fenced")

def requireStage (snapshot : PublicationSnapshot) (stage : PublicationStage) :
    Except Failure Unit :=
  raiseIf (snapshot.receipt stage = none)
    (state ("publication requires " ++ stage.value ++ " history"))

/-! ## Transitions -/

/-- The record a mutation addresses. Only Begin and Fence can create it. -/
def addressed (self : PublicationAuthority) (request : PublicationRequest) :
    Except Failure PublicationSnapshot :=
  match self.records.get? request.reference.key, request.publication with
  | some previous, some publication => do
      raiseIf (previous.publication ≠ publication)
        (conflict "publication request changed its complete manifest or owner route")
      return previous
  | some previous, none => return previous
  | none, some publication => do
      self.validateBinding publication request.admitting
      PublicationSnapshot.create (.registered publication)
  | none, none => throw (state "publication has not been registered")

/-- The record with the facts of an acceptable request; the receipt is appended later. -/
def changes (self : PublicationAuthority) (previous : PublicationSnapshot) :
    PublicationRequest → Except Failure PublicationSnapshot
  | .beginPublication _ => do
      requireForward previous
      return previous
  | .prepareGraph _ => do
      requireForward previous
      requireStage previous .intent
      raiseIf (previous.receipt .prepared = none ∧ self.wouldCycle previous.publication = true)
        (.publicationError .cycle "contained ObjectID edges would form a cycle")
      return previous
  | .armTask prepared => do
      validatePrepared previous.publication (.task prepared)
      raiseIf (previous.prepared ≠ none ∧ previous.prepared ≠ some (.task prepared))
        (conflict "preparation receipt was rebound")
      requireForward previous
      requireStage previous .prepared
      return { previous with prepared := some (.task prepared) }
  | .recordTerminal complete => do
      raiseIf (previous.publication.isTask = false) (state "put has no Task Complete")
      requireStage previous .armed
      raiseIf (previous.complete ≠ none ∧ previous.complete ≠ some complete)
        (conflict "Complete history was rebound")
      -- Late accurate success is history, even after a forward fence.
      raiseIf ((previous.closedHolds.bind (·.rollbackScope)) ≠ none)
        (conflict "Complete contradicts the actual rollback decision")
      return { previous with complete := some complete }
  | .commitGraph request =>
    if previous.publication.isTask = false then
      match request.putPrepared with
      | none => throw (state "put graph commit requires actual preparation")
      | some prepared => do
          validatePrepared previous.publication (.put prepared)
          raiseIf (previous.prepared ≠ none ∧ previous.prepared ≠ some (.put prepared))
            (conflict "put preparation receipt was rebound")
          requireStage previous .prepared
          (if previous.receipt .committed = none then requireForward previous else pure ())
          return { previous with prepared := some (.put prepared) }
    else do
      raiseIf (request.putPrepared ≠ none) (conflict "Task commit cannot carry put preparation")
      requireStage previous .terminal
      requireStage previous .prepared
      (if previous.receipt .committed = none then requireForward previous else pure ())
      return previous
  | .recordAdoption proof => do
      requireStage previous .committed
      raiseIf (some proof.complete ≠ previous.complete ∨
          proof.ownerWorkerId ≠ previous.publication.ownerWorkerId)
        (conflict "adoption changed exact owner or Complete")
      raiseIf (previous.adoption ≠ none ∧ previous.adoption ≠ some proof)
        (conflict "adoption history was rebound")
      raiseIf (previous.receipt .adopted = none ∧ previous.fence.any FenceProof.isAbort = true)
        (state "an owner abort cannot have an adoption")
      return { previous with adoption := some proof }
  | .fencePublication request => do
      raiseIf (previous.fence ≠ none ∧ previous.fence ≠ some request.proof)
        (conflict "first forward fence cannot be rebound")
      raiseIf (request.proof.isAbort = true ∧ previous.adoption ≠ none)
        (state "adopted output cannot be aborted")
      return { previous with fence := some request.proof }
  | .retireGraph closedHolds => do
      raiseIf (previous.fence = none)
        (state "graph retirement requires an owner/death forward fence")
      previous.validateClosed closedHolds
      raiseIf (previous.closedHolds ≠ none ∧ previous.closedHolds ≠ some closedHolds)
        (conflict "retirement cleanup receipt was rebound")
      return { previous with closedHolds := some closedHolds }
  | .getPublication _ => return previous

/-- Append the receipt, revalidate the record and prepare the reply before committing. -/
def record (self : PublicationAuthority) (request : PublicationRequest) (stage : PublicationStage)
    (changed : PublicationSnapshot) : Except Failure (PublicationReply × PublicationAuthority) := do
  let receipt : PublicationReceipt :=
    ⟨request.reference, stage, self.sequence + 1, Nat.succ_pos self.sequence⟩
  let updated ←
    PublicationSnapshot.create { changed with receipts := changed.receipts ++ [receipt] }
  let reply ← PublicationReply.create (.accept request (some updated) (some receipt))
  return (reply, ⟨self.records.set request.reference.key updated, self.sequence + 1⟩)

def applyLocked (self : PublicationAuthority) (request : PublicationRequest) :
    Except Failure (PublicationReply × PublicationAuthority) := do
  raiseIf ((self.records.get? request.reference.key).any
      (fun previous => previous.reference ≠ request.reference) = true)
    (conflict "publication key was rebound to another digest")
  match request.stage with
  | none => do
      let reply ← PublicationReply.create
        (.accept request (self.records.get? request.reference.key) none)
      return (reply, self)
  | some stage => do
      let previous ← self.addressed request
      let changed ← self.changes previous request
      match previous.receipt stage with
      | some receipt => do
          let reply ← PublicationReply.create (.accept request (some previous) (some receipt))
          return (reply, self)
      | none => self.record request stage changed

/-- A publication error becomes a rejected reply, any other failure leaves by exception. -/
def apply (self : PublicationAuthority) (request : PublicationRequest) :
    Except Failure PublicationReply × PublicationAuthority :=
  match self.applyLocked request with
  | .ok (reply, next) => (.ok reply, next)
  | .error (.publicationError kind message) =>
    (PublicationReply.create
      (.reject request
        ((self.records.get? request.reference.key).filter
          fun snapshot => snapshot.reference = request.reference) kind message), self)
  | .error failure => (.error failure, self)

def step (self : PublicationAuthority) (request : PublicationRequest) : PublicationAuthority :=
  (self.apply request).2

/-- The state after a list of requests, from the empty authority. -/
def after (requests : List PublicationRequest) : PublicationAuthority :=
  Run.run step empty requests

end PublicationAuthority

end MiniRay
