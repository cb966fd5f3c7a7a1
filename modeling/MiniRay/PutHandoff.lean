import MiniRay.PublicationSources

/-! A put is created by its owner: no lease, attempt or producer lineage stands behind it. -/

namespace MiniRay

/-- The checks a put makes on each child transfer. -/
def PutTransfer (objectId : ObjectID) (owner : WorkerID) (t : PreparedContainedTransfer) : Prop :=
  (∀ hold ∈ [t.provisionalHold, t.finalHold],
    hold.containerObjectId = objectId ∧ hold.containerOwnerWorkerId = owner) ∧
  t.source.executor = owner ∧
  ∀ source, t.source = .borrowed source → t.containedOwnerWorkerId ≠ owner

/-- Complete put identity and cleanup targets, without result bytes. -/
@[ext] structure PutManifest where
  objectId : ObjectID
  ownerWorkerId : WorkerID
  tier : ResultStorage
  sizeBytes : Nat
  checksum : String
  transfers : List PreparedContainedTransfer
  index_zero : objectId.returnIndex = 0
  checksum_hex : Sha256.IsLowerHexDigest checksum
  framable : ∀ t ∈ transfers, t.Framable
  own_transfers : ∀ t ∈ transfers, PutTransfer objectId ownerWorkerId t
  child_routes : Functional (transfers.map fun t =>
    (t.containedObjectId, (t.containedOwnerWorkerId, t.containedOwnerAddress)))
  final_holds : (transfers.map PreparedContainedTransfer.finalHold).Nodup

instance : DecidableEq PutManifest := byFields PutManifest.ext_iff

def PutManifest.edges (m : PutManifest) : List ContainedReferenceEdge :=
  m.transfers.map PreparedContainedTransfer.edge

end MiniRay
