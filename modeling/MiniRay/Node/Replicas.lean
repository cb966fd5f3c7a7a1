import MiniRay.Protocol

/-! # What a Node records about its replicas -/

namespace MiniRay

/-- The sealed metadata of one object: its producer, its owner and its exact bytes. -/
structure ReplicaMetadata where
  producerAttemptId : AttemptID
  ownerWorkerId : WorkerID
  sizeBytes : Nat
  checksum : String

/-- The deletion watermark of one object, which fences old writes. -/
structure ReplicaTombstone where
  producerAttemptId : AttemptID
  ownerWorkerId : WorkerID
  checksum : String

def ObjectStoreDescriptor.MatchesSource (descriptor : ObjectStoreDescriptor) (nodeId : NodeID)
    (metadata : ReplicaMetadata) : Prop :=
  descriptor.nodeId = nodeId ∧ descriptor.producerAttemptId = metadata.producerAttemptId ∧
    descriptor.ownerWorkerId = metadata.ownerWorkerId ∧
    descriptor.sizeBytes = metadata.sizeBytes ∧ descriptor.checksum = metadata.checksum

instance (descriptor : ObjectStoreDescriptor) (nodeId : NodeID) (metadata : ReplicaMetadata) :
    Decidable (descriptor.MatchesSource nodeId metadata) := inferInstanceAs (Decidable (_ ∧ _))

def ReplicaTombstone.Fences (tombstone : ReplicaTombstone) (attemptId : AttemptID) : Prop :=
  attemptId.attemptNumber ≤ tombstone.producerAttemptId.attemptNumber

instance (tombstone : ReplicaTombstone) (attemptId : AttemptID) :
    Decidable (tombstone.Fences attemptId) := inferInstanceAs (Decidable (_ ≤ _))

end MiniRay
