import MiniRay.Lease.Request
import MiniRay.Library.RoundRobin
import MiniRay.OwnerFence.Registry

/-! The registry records the replicas a Node witnessed before a Worker lease exists. Their owners
take custody of them, and then the exact inventory is acknowledged. -/

namespace MiniRay

open Checked

/-! ## The wire -/

/-- Owner-authoritative outcome of a retained location report. -/
inductive RetainedLocationReportStatus
  | added
  | alreadyRecorded
  | custodyOnly
  | staleProducer
  | retired
  | rejected
  deriving DecidableEq

/-- A Node offers exact replica custody after its submitter has died. -/
@[ext] structure ReportAbandonedDependencyReplica where
  inventory : LeaseDependencyInventory
  descriptor : ObjectStoreDescriptor
  submitterDeath : WorkerDeathRecord
  witnessed : descriptor ∈ inventory.descriptors
  routed : inventory.leaseRequest.dependencyOwnerRoutes ≠ []
  submitter : submitterDeath.workerId = inventory.leaseRequest.requesterWorkerId
  confirmed : submitterDeath.ConfirmedExit

instance : DecidableEq ReportAbandonedDependencyReplica :=
  byFields ReportAbandonedDependencyReplica.ext_iff

def RetainedLocationReportStatus.custodyTransferred (status : RetainedLocationReportStatus) :
    Bool := status = .custodyOnly ∨ status = .retired

/-- Custody-only acknowledgement; no status grants task execution. -/
structure ReportAbandonedDependencyReplicaReply where
  request : ReportAbandonedDependencyReplica
  status : RetainedLocationReportStatus
  error : Option String
  no_execution : status ≠ .added ∧ status ≠ .alreadyRecorded
  explained : error ≠ some "" ∧ (status.custodyTransferred = false → error ≠ none)
  deriving DecidableEq

/-- The two proofs that an abandoned replica has another custodian. -/
inductive AbandonedReceipt
  | report (reply : ReportAbandonedDependencyReplicaReply)
  | fence (reply : InstallOwnerDeathFenceReply)
  deriving DecidableEq

inductive CustodyError
  | conflict (message : String)
  | protocol (error : ProtocolError)
  | keyError (leaseId : LeaseID)

/-! ## One lease -/

structure DependencyEntry where
  request : RequestWorkerLease
  descriptors : Dict ObjectID ObjectStoreDescriptor := .empty
  acknowledged : Option LeaseDependencyInventory := none
  pending : Dict ObjectID ObjectStoreDescriptor := .empty
  submitterDeath : Option WorkerDeathRecord := none
  ownerReceipts : Dict ObjectID AbandonedReceipt := .empty
  abandonedComplete : Bool := false
  handoffCursor : Nat := 0

namespace DependencyEntry

/-- Acknowledged, or handed over after its submitter died. -/
def settled (self : DependencyEntry) : Bool := self.acknowledged.isSome || self.abandonedComplete

/-- Even a one-object addition is checked against the complete request. -/
def checked (self : DependencyEntry) (nodeId : NodeID) (descriptor : ObjectStoreDescriptor) :
    Except CustodyError Unit := do
  let _ ← (LeaseDependencyInventory.make self.request nodeId [descriptor]).mapError .protocol
  pure ()

def begin_ (self : DependencyEntry) (nodeId : NodeID) (descriptor : ObjectStoreDescriptor) :
    Except CustodyError DependencyEntry := do
  self.checked nodeId descriptor
  if self.settled then
    raiseIf (self.descriptors.get? descriptor.objectId ≠ some descriptor)
      (.conflict "acknowledged inventory cannot begin a new replica")
    pure self
  else
    let pending := self.pending.setDefault descriptor.objectId descriptor
    raiseIf (pending.get? descriptor.objectId ≠ some descriptor)
      (.conflict "localization candidate identity changed")
    pure { self with pending := pending }

def discardUnsealed (self : DependencyEntry) (request : RequestWorkerLease)
    (descriptor : ObjectStoreDescriptor) : Except CustodyError DependencyEntry := do
  raiseIf (self.request ≠ request ∨ self.pending.get? descriptor.objectId ≠ some descriptor)
    (.conflict "unsealed candidate identity changed")
  pure { self with pending := self.pending.erase descriptor.objectId }

def record (self : DependencyEntry) (nodeId : NodeID) (descriptor : ObjectStoreDescriptor) :
    Except CustodyError DependencyEntry := do
  self.checked nodeId descriptor
  match self.descriptors.get? descriptor.objectId with
  | some previous =>
    raiseIf (previous ≠ descriptor)
      (.conflict "witnessed replica changed within one lease")
    pure { self with pending := self.pending.erase descriptor.objectId }
  | none =>
    raiseIf (self.settled = true)
      (.conflict "acknowledged inventory cannot acquire new replicas")
    pure { self with
      descriptors := self.descriptors.set descriptor.objectId descriptor
      pending := self.pending.erase descriptor.objectId }

/-- The entries of one dictionary in the order of the request. -/
def ordered (self : DependencyEntry) (held : Dict ObjectID ObjectStoreDescriptor) :
    List ObjectStoreDescriptor :=
  self.request.dependencies.filterMap fun item => held.get? item.objectId

def candidates (self : DependencyEntry) (nodeId : NodeID) :
    Except CustodyError (List ObjectStoreDescriptor) := do
  let inventory ← (LeaseDependencyInventory.make self.request nodeId
    (self.ordered self.pending)).mapError .protocol
  pure inventory.descriptors

def snapshot (self : DependencyEntry) (nodeId : NodeID) :
    Except CustodyError LeaseDependencyInventory := do
  raiseIf (self.pending.items ≠ [])
    (.conflict "localization effects still need physical reconciliation")
  (LeaseDependencyInventory.make self.request nodeId
    (self.ordered self.descriptors)).mapError .protocol

def acknowledge (self : DependencyEntry) (nodeId : NodeID)
    (inventory : LeaseDependencyInventory) : Except CustodyError (Bool × DependencyEntry) := do
  let actual ← self.snapshot nodeId
  raiseIf (actual ≠ inventory)
    (.conflict "custody acknowledgement is not the exact Node inventory")
  match self.acknowledged with
  | some acknowledged =>
    raiseIf (acknowledged ≠ inventory) (.conflict "custody acknowledgement changed")
    pure (false, self)
  | none => pure (true, { self with acknowledged := some inventory })

/-- The disjunct of `has_pending`; empty requests have no replica custody to lose. -/
def hasPending (self : DependencyEntry) : Bool :=
  self.pending.items ≠ [] ∨ self.descriptors.items ≠ [] ∧ self.settled = false

def abandon (self : DependencyEntry) (death : WorkerDeathRecord) :
    Except CustodyError DependencyEntry := do
  raiseIf (self.request.requesterWorkerId ≠ death.workerId)
    (.conflict "death does not identify the dependency submitter")
  raiseIf (¬ death.ConfirmedExit)
    (.conflict "abandoned inventory requires unexpected submitter death")
  raiseIf (self.submitterDeath ≠ none ∧ self.submitterDeath ≠ some death)
    (.conflict "dependency submitter death changed")
  pure { self with submitterDeath := some death }

def nextAbandonedDescriptor (self : DependencyEntry) (nodeId : NodeID)
    (inventory : LeaseDependencyInventory) :
    Except CustodyError (Option ObjectStoreDescriptor × DependencyEntry) := do
  let actual ← self.snapshot nodeId
  raiseIf (actual ≠ inventory) (.conflict "abandoned handoff changed its inventory")
  let descriptors := inventory.descriptors
  let unreceipted := fun index => (descriptors[index]?).any fun descriptor =>
    (self.ownerReceipts.get? descriptor.objectId).isNone
  match RoundRobin.next descriptors.length self.handoffCursor unreceipted with
  | none => pure (none, self)
  | some index =>
    pure (descriptors[index]?, { self with handoffCursor := (index + 1) % descriptors.length })

/-- What each kind of receipt must prove before it settles one replica. -/
def checkReceipt (inventory : LeaseDependencyInventory) (descriptor : ObjectStoreDescriptor)
    (death : Option WorkerDeathRecord) : AbandonedReceipt → Except CustodyError Unit
  | .report reply =>
    raiseIf (reply.request.inventory ≠ inventory ∨ reply.request.descriptor ≠ descriptor ∨
      some reply.request.submitterDeath ≠ death ∨ reply.status.custodyTransferred = false)
      (.conflict "owner did not accept abandoned replica custody")
  | .fence reply =>
    raiseIf (reply.complete = false ∨
      reply.request.ownerDeath.workerId ≠ descriptor.ownerWorkerId ∨
      reply.request.nodeId ≠ descriptor.nodeId ∨ reply.request.scope ≠ .ownerWideSweep)
      (.conflict "dead owner cleanup did not prove replica collection")

def recordAbandonedReceipt (self : DependencyEntry) (nodeId : NodeID)
    (inventory : LeaseDependencyInventory) (descriptor : ObjectStoreDescriptor)
    (receipt : AbandonedReceipt) : Except CustodyError (Bool × DependencyEntry) := do
  let actual ← self.snapshot nodeId
  raiseIf (actual ≠ inventory ∨ descriptor ∉ actual.descriptors)
    (.conflict "abandoned receipt changed the frozen inventory")
  raiseIf (self.submitterDeath = none)
    (.conflict "abandoned receipt requires submitter death")
  checkReceipt inventory descriptor self.submitterDeath receipt
  let receipts := self.ownerReceipts.setDefault descriptor.objectId receipt
  pure (receipts.get? descriptor.objectId = some receipt, { self with ownerReceipts := receipts })

def completeAbandoned (self : DependencyEntry) (nodeId : NodeID)
    (inventory : LeaseDependencyInventory) : Except CustodyError DependencyEntry := do
  let actual ← self.snapshot nodeId
  raiseIf (actual ≠ inventory) (.conflict "abandoned completion changed inventory")
  raiseIf (self.submitterDeath = none ∨ (inventory.descriptors.any fun item =>
      (self.ownerReceipts.get? item.objectId).isNone) = true)
    (.conflict "abandoned completion lacks owner custody")
  pure { self with abandonedComplete := true }

end DependencyEntry

/-! ## The registry -/

/-- One Node's monotonically accumulated dependency inventories. -/
structure LeaseDependencyCustody where
  nodeId : NodeID
  entries : Dict LeaseID DependencyEntry := .empty

namespace LeaseDependencyCustody

variable (self : LeaseDependencyCustody)

def new (nodeId : NodeID) : LeaseDependencyCustody := { nodeId := nodeId }

/-- Work on one entry; a call that raises leaves it as it was. -/
def onEntry {α : Type} (leaseId : LeaseID) (missing : CustodyError)
    (f : DependencyEntry → Except CustodyError (α × DependencyEntry)) :
    Except CustodyError α × LeaseDependencyCustody :=
  match self.entries.get? leaseId with
  | none => (.error missing, self)
  | some entry => match f entry with
    | .error e => (.error e, self)
    | .ok (result, entry) => (.ok result, { self with entries := self.entries.set leaseId entry })

def bind (request : RequestWorkerLease) : Except CustodyError Unit × LeaseDependencyCustody :=
  match self.entries.get? request.leaseId with
  | some previous => (raiseIf (previous.request ≠ request)
      (.conflict "lease dependency request identity changed"), self)
  | none => (.ok (), { self with
      entries := self.entries.set request.leaseId { request := request } })

/-- `bind`, then work on the bound entry; what was bound stays bound if that raises. -/
def bound (request : RequestWorkerLease)
    (f : DependencyEntry → Except CustodyError DependencyEntry) :
    Except CustodyError Unit × LeaseDependencyCustody :=
  match self.bind request with
  | (.error e, s) => (.error e, s)
  | (.ok (), s) => s.onEntry request.leaseId (.keyError request.leaseId) fun entry =>
    (fun entry => ((), entry)) <$> f entry

/-- Retain identity before an operation may expose physical bytes. -/
def begin_ (request : RequestWorkerLease) (descriptor : ObjectStoreDescriptor) :
    Except CustodyError Unit × LeaseDependencyCustody :=
  self.bound request fun entry => entry.begin_ self.nodeId descriptor

/-- The caller observed that this exact operation left no sealed replica. -/
def discardUnsealed (request : RequestWorkerLease) (descriptor : ObjectStoreDescriptor) :
    Except CustodyError Unit × LeaseDependencyCustody :=
  self.onEntry request.leaseId (.keyError request.leaseId) fun entry =>
    (fun entry => ((), entry)) <$> entry.discardUnsealed request descriptor

def request (leaseId : LeaseID) : Option RequestWorkerLease :=
  (self.entries.get? leaseId).map DependencyEntry.request

def candidates (leaseId : LeaseID) : Except CustodyError (List ObjectStoreDescriptor) :=
  match self.entries.get? leaseId with
  | none => .ok []
  | some entry => entry.candidates self.nodeId

def record (request : RequestWorkerLease) (descriptor : ObjectStoreDescriptor) :
    Except CustodyError Unit × LeaseDependencyCustody :=
  self.bound request fun entry => entry.record self.nodeId descriptor

def snapshot (leaseId : LeaseID) : Except CustodyError (Option LeaseDependencyInventory) :=
  match self.entries.get? leaseId with
  | none => .ok none
  | some entry => some <$> entry.snapshot self.nodeId

def acknowledge (inventory : LeaseDependencyInventory) :
    Except CustodyError Bool × LeaseDependencyCustody :=
  self.onEntry inventory.leaseRequest.leaseId
    (.conflict "custody acknowledgement is not the exact Node inventory") fun entry =>
      entry.acknowledge self.nodeId inventory

def hasPending : Bool := self.entries.values.any DependencyEntry.hasPending

def abandonedCandidates : List RequestWorkerLease :=
  (self.entries.values.filter fun entry =>
    (entry.pending.items ≠ [] ∨ entry.descriptors.items ≠ []) ∧ entry.settled = false).map
      DependencyEntry.request

def abandon (leaseId : LeaseID) (death : WorkerDeathRecord) :
    Except CustodyError Unit × LeaseDependencyCustody :=
  self.onEntry leaseId (.keyError leaseId) fun entry =>
    (fun entry => ((), entry)) <$> entry.abandon death

def receipt (leaseId : LeaseID) (objectId : ObjectID) :
    Except CustodyError (Option AbandonedReceipt) :=
  match self.entries.get? leaseId with
  | none => .error (.keyError leaseId)
  | some entry => .ok (entry.ownerReceipts.get? objectId)

def nextAbandonedDescriptor (inventory : LeaseDependencyInventory) :
    Except CustodyError (Option ObjectStoreDescriptor) × LeaseDependencyCustody :=
  self.onEntry inventory.leaseRequest.leaseId (.keyError inventory.leaseRequest.leaseId)
    fun entry => entry.nextAbandonedDescriptor self.nodeId inventory

def recordAbandonedReceipt (inventory : LeaseDependencyInventory)
    (descriptor : ObjectStoreDescriptor) (receipt : AbandonedReceipt) :
    Except CustodyError Bool × LeaseDependencyCustody :=
  self.onEntry inventory.leaseRequest.leaseId
    (.conflict "abandoned receipt changed the frozen inventory") fun entry =>
      entry.recordAbandonedReceipt self.nodeId inventory descriptor receipt

def completeAbandoned (inventory : LeaseDependencyInventory) :
    Except CustodyError Unit × LeaseDependencyCustody :=
  self.onEntry inventory.leaseRequest.leaseId
    (.conflict "abandoned completion changed inventory") fun entry =>
      (fun entry => ((), entry)) <$> entry.completeAbandoned self.nodeId inventory

end LeaseDependencyCustody

end MiniRay
