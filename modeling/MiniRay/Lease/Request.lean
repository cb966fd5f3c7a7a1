import MiniRay.Protocol
import MiniRay.Resources.Ledger

/-! What a submitter asks a Node for, and the Node's account of the inputs it localized for it. -/

namespace MiniRay

open Checked

/-- Immutable placement-group bundle identity carried on every lease message. -/
@[ext] structure PlacementGroupSchedulingKey where
  placementGroupId : PlacementGroupID
  attempt : Nat
  bundleIndex : Nat
  nodeId : NodeID
  planDigest : String
  digest_hex : Sha256.IsLowerHexDigest planDigest

instance : DecidableEq PlacementGroupSchedulingKey := byFields PlacementGroupSchedulingKey.ext_iff

/-- Frozen logical-owner endpoint and real submission hold for one input. -/
structure DependencyOwnerRoute where
  objectId : ObjectID
  ownerWorkerId : WorkerID
  ownerAddress : Address
  hold : TaskReferenceHold
  deriving DecidableEq

/-- The route belongs to the submitting task's own hold on this input. -/
structure DependencyOwnerRoute.Serves (requesterWorkerId : WorkerID) (attemptId : AttemptID)
    (descriptor : ObjectStoreDescriptor) (route : DependencyOwnerRoute) : Prop where
  same_object : route.objectId = descriptor.objectId
  same_owner : route.ownerWorkerId = descriptor.ownerWorkerId
  kind : route.hold.kind =
    if route.ownerWorkerId = requesterWorkerId then .submitted else .retained
  submitter : route.hold.submittingWorkerId = requesterWorkerId
  task : route.hold.taskId = attemptId.taskId
  origin : route.hold.originAttemptId.attemptNumber ≤ attemptId.attemptNumber

@[ext] structure RequestWorkerLease where
  leaseId : LeaseID
  taskId : TaskID
  attemptId : AttemptID
  resources : ResourceVector
  requesterNodeId : NodeID
  requesterWorkerId : WorkerID
  preferredNodeId : Option NodeID := none
  /-- `none` is the first scheduling hop. -/
  targetNodeId : Option NodeID := none
  dependencies : List ObjectStoreDescriptor := []
  returnIds : List ObjectID := []
  schedulingKey : Option PlacementGroupSchedulingKey := none
  dependencyOwnerRoutes : List DependencyOwnerRoute := []
  requesterOwnerAddress : Option Address := none
  attempt_task : attemptId.taskId = taskId
  unique : (dependencies.map ObjectStoreDescriptor.objectId).Nodup
  single_return : returnIds = [] ∨ returnIds = [ObjectID.forTask taskId 0]
  planned : ∀ key, schedulingKey = some key → targetNodeId = some key.nodeId
  routed : dependencyOwnerRoutes = [] ∨ List.Forall₂
    (DependencyOwnerRoute.Serves requesterWorkerId attemptId) dependencies dependencyOwnerRoutes

instance : DecidableEq RequestWorkerLease := byFields RequestWorkerLease.ext_iff

def ObjectStoreDescriptor.onNode (self : ObjectStoreDescriptor) (nodeId : NodeID) :
    ObjectStoreDescriptor := { self with nodeId := nodeId }

namespace RequestWorkerLease

/-- The replica each dependency leaves on a Node that localizes it. -/
def expected (self : RequestWorkerLease) (nodeId : NodeID) : List ObjectStoreDescriptor :=
  self.dependencies.map fun item => item.onNode nodeId

theorem expected_objectIds (self : RequestWorkerLease) (nodeId : NodeID) :
    (self.expected nodeId).map ObjectStoreDescriptor.objectId =
      self.dependencies.map ObjectStoreDescriptor.objectId := by
  rw [expected, List.map_map]
  rfl

theorem expected_unique {self : RequestWorkerLease} {nodeId : NodeID}
    {d d' : ObjectStoreDescriptor} (hd : d ∈ self.expected nodeId) (hd' : d' ∈ self.expected nodeId)
    (hobject : d.objectId = d'.objectId) : d = d' := by
  have hnodup : ((self.expected nodeId).map ObjectStoreDescriptor.objectId).Nodup := by
    rw [expected_objectIds]
    exact self.unique
  exact List.inj_on_of_nodup_map hnodup hd hd' hobject

end RequestWorkerLease

inductive ProtocolError
  | invalid (message : String)
  deriving DecidableEq

/-- A Node's exact localized subset for one lease request: evidence without allocation. -/
structure LeaseDependencyInventory where
  leaseRequest : RequestWorkerLease
  nodeId : NodeID
  descriptors : List ObjectStoreDescriptor
  subset : descriptors.Sublist (leaseRequest.expected nodeId)
  deriving DecidableEq

namespace LeaseDependencyInventory

/-- Each descriptor is its object's dependency, at or after the index `next`. -/
def checkDescriptors (expected : List ObjectStoreDescriptor) :
    Nat → List ObjectStoreDescriptor → Except ProtocolError Unit
  | _, [] => .ok ()
  | next, descriptor :: descriptors => do
      let index := expected.findIdx fun item => item.objectId = descriptor.objectId
      raiseIf (expected[index]? ≠ some descriptor)
        (.invalid "inventory descriptor does not match its original lease dependency")
      raiseIf (index < next) (.invalid "inventory must be a unique, ordered dependency subset")
      checkDescriptors expected (index + 1) descriptors

variable {descriptors : List ObjectStoreDescriptor}

theorem sublist_of_checkDescriptors {expected : List ObjectStoreDescriptor} {next : Nat}
    (h : checkDescriptors expected next descriptors = .ok ()) :
    descriptors.Sublist (expected.drop next) := by
  induction descriptors generalizing next with
  | nil => exact List.nil_sublist _
  | cons d ds ih =>
    simp only [checkDescriptors, bind_eq_ok, raiseIf_eq_ok, not_not] at h
    obtain ⟨_, hget, _, hnext, hrest⟩ := h
    obtain ⟨hlt, hd⟩ := List.getElem?_eq_some_iff.mp hget
    have hdrop := List.drop_eq_getElem_cons hlt
    rw [hd] at hdrop
    have htail := (ih hrest).cons_cons d
    rw [← hdrop] at htail
    exact htail.trans (List.drop_sublist_drop_left expected (by omega))

def make (leaseRequest : RequestWorkerLease) (nodeId : NodeID)
    (descriptors : List ObjectStoreDescriptor) : Except ProtocolError LeaseDependencyInventory :=
  match h : checkDescriptors (leaseRequest.expected nodeId) 0 descriptors with
  | .ok () => .ok ⟨leaseRequest, nodeId, descriptors, sublist_of_checkDescriptors h⟩
  | .error (.invalid message) =>
    .error (.invalid ("invalid lease dependency inventory: " ++ message))

theorem make_spec {leaseRequest : RequestWorkerLease} {nodeId : NodeID}
    {inventory : LeaseDependencyInventory}
    (h : make leaseRequest nodeId descriptors = .ok inventory) :
    inventory.leaseRequest = leaseRequest ∧ inventory.nodeId = nodeId ∧
      inventory.descriptors = descriptors := by
  unfold make at h
  split at h
  · cases h
    exact ⟨rfl, rfl, rfl⟩
  · cases h

end LeaseDependencyInventory

end MiniRay
