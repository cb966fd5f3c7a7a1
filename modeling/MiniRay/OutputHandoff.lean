import MiniRay.Library.Checked
import MiniRay.OutputPublication

/-! The owner's local receipt after a publishing Node's confirmed exit. Keeping needs the exact
Complete; discarding needs proof that every child hold is settled. -/

namespace MiniRay

open Checked

inductive ChildCleanup
  | release (reply : ReleaseContainedReferenceReply)
  | death (record : WorkerDeathRecord)
  deriving DecidableEq

/-- An accepted exact release, or a confirmed exit of the child owner. -/
def ChildCleanup.Settles : ChildCleanup → Prop
  | .release reply => reply.accepted = true ∧ reply.error = none
  | .death record => record.OwnerDeath ∧ record.ConfirmedExit

instance (proof : ChildCleanup) : Decidable proof.Settles := by
  cases proof <;> exact inferInstanceAs (Decidable (_ ∧ _))

@[ext] structure NodeLostOutputResolution where
  publicationId : OutputPublicationID
  manifestDigest : String
  ownerWorkerId : WorkerID
  nodeDeath : NodeDeathRecord
  complete : Option OutputPublicationCompleteWitness
  keep : Bool
  cleanup : List ChildCleanup
  digest_hex : Sha256.IsLowerHexDigest manifestDigest
  node_exit : nodeDeath.reason = .processExit
  complete_eq : ∀ c, complete = some c →
    c.publicationId = publicationId ∧ c.manifestDigest = manifestDigest
  keep_complete : keep = true → complete ≠ none
  settles : ∀ proof ∈ cleanup, proof.Settles
  cleanup_once : cleanup.Nodup
  keep_cleanup : keep = true → cleanup = []

instance : DecidableEq NodeLostOutputResolution := byFields NodeLostOutputResolution.ext_iff

namespace NodeLostOutputResolution

/-- The holds a discard must settle. -/
def expected (manifest : OutputPublicationManifest) :
    List (ObjectID × WorkerID × ContainedReferenceHold) :=
  manifest.slot.transfers.flatMap fun t =>
    [(t.containedObjectId, t.containedOwnerWorkerId, t.finalHold),
      (t.containedObjectId, t.containedOwnerWorkerId, t.provisionalHold)]

def released (cleanup : List ChildCleanup) : List (ObjectID × WorkerID × ContainedReferenceHold) :=
  cleanup.filterMap fun
    | .release reply => some (reply.objectId, reply.ownerWorkerId, reply.hold)
    | .death _ => none

def deaths (cleanup : List ChildCleanup) : List WorkerDeathRecord :=
  cleanup.filterMap fun
    | .release _ => none
    | .death record => some record

/-- One turn of the cleanup loop, after the proofs before it. -/
def checkCleanup (manifest : OutputPublicationManifest) (before : List ChildCleanup) :
    ChildCleanup → Except String Unit
  | .release reply =>
    let key := (reply.objectId, reply.ownerWorkerId, reply.hold)
    raiseIf (key ∉ expected manifest ∨ key ∈ released before)
      "child cleanup changed or repeated a manifest hold"
  | .death record => do
      raiseIf (record.workerId ∉ (expected manifest).map fun key => key.2.1)
        "child death proof names no manifest child owner"
      raiseIf (∃ previous ∈ deaths before, previous.workerId = record.workerId ∧ previous ≠ record)
        "child owner death evidence changed"

def checkCleanups (manifest : OutputPublicationManifest) (before : List ChildCleanup) :
    List ChildCleanup → Except String Unit
  | [] => .ok ()
  | proof :: rest => do
      checkCleanup manifest before proof
      checkCleanups manifest (before ++ [proof]) rest

/-- Require every discarded final and provisional hold to be settled. -/
def validateManifest (r : NodeLostOutputResolution) (manifest : OutputPublicationManifest) :
    Except String Unit := do
  raiseIf (manifest.publicationId ≠ r.publicationId ∨ manifest.manifestDigest ≠ r.manifestDigest ∨
      manifest.header.ownerWorkerId ≠ r.ownerWorkerId)
    "Node-loss resolution changed its manifest or owner"
  let publisher := manifest.header.nodeIncarnation
  raiseIf ((r.nodeDeath.nodeId, r.nodeDeath.nodePid, r.nodeDeath.registrationEpoch) ≠
      (publisher.nodeId, publisher.nodePid, publisher.registrationEpoch))
    "Node-loss receipt names another publishing incarnation"
  if r.keep = true then return ()
  checkCleanups manifest [] r.cleanup
  let dead := (deaths r.cleanup).map WorkerDeathRecord.workerId
  raiseIf (∃ key ∈ expected manifest, key ∉ released r.cleanup ∧ key.2.1 ∉ dead)
    "Node-loss cleanup must settle every final and provisional hold"

end NodeLostOutputResolution

end MiniRay
