import MiniRay.Protocol
import MiniRay.Library.Dict
import MiniRay.Library.Run

/-! A rejected late location still names sealed bytes. The Core keeps its exact drop until the Node
answers or is known dead, and drives all drops from the reference-event thread and from shutdown
threads. -/

namespace MiniRay

namespace LateCleanup

/-! ## The queue -/

inductive CleanupProof
  | reply (reply : DropObjectReplicaReply)
  | death (death : NodeDeathRecord)
  deriving DecidableEq

/-- `ReplicaCleanupSnapshot` of the request that is its key. -/
structure CleanupRecord where
  proof : Option CleanupProof := none
  inFlight : Bool := false
  deriving DecidableEq

abbrev ReplicaCleanupQueue := Dict DropObjectReplica CleanupRecord

namespace ReplicaCleanupQueue

def enqueue (q : ReplicaCleanupQueue) (request : DropObjectReplica) : ReplicaCleanupQueue :=
  match q.get? request with
  | some _ => q
  | none => q.set request {}

def pending (q : ReplicaCleanupQueue) : List DropObjectReplica :=
  (q.items.filter fun item => item.2.proof = none).map Prod.fst

/-- Unproven or in flight, of one object or of any. -/
def hasPending (q : ReplicaCleanupQueue) (objectId : Option ObjectID) : Bool :=
  q.items.any fun item =>
    (item.2.proof = none || item.2.inFlight) && (objectId = none || objectId = some item.1.objectId)

def claim (q : ReplicaCleanupQueue) (request : DropObjectReplica) : Bool × ReplicaCleanupQueue :=
  match q.get? request with
  | none => (false, q)
  | some current =>
    if current.proof ≠ none ∨ current.inFlight = true then (false, q)
    else (true, q.set request { current with inFlight := true })

def unclaim (q : ReplicaCleanupQueue) (request : DropObjectReplica) : ReplicaCleanupQueue :=
  match q.get? request with
  | none => q
  | some current => q.set request { current with inFlight := false }

/-- A reply for another identity raises, and one that did not delete is no proof. -/
def acknowledge (q : ReplicaCleanupQueue) (request : DropObjectReplica)
    (reply : DropObjectReplicaReply) : Bool × ReplicaCleanupQueue :=
  if reply.identity = request ∧ (reply.status = .dropped ∨ reply.status = .alreadyDropped) then
    match q.get? request with
    | none => (false, q)
    | some current =>
      if current.proof ≠ none then (false, q)
      else (true, q.set request { current with proof := some (.reply reply) })
  else (false, q)

/-- The objects whose drops a process death completed, and the queue. -/
def acknowledgeNodeDeath (q : ReplicaCleanupQueue) (death : NodeDeathRecord) :
    List ObjectID × ReplicaCleanupQueue :=
  (((q.items.filter fun item => item.1.nodeId = death.nodeId ∧ item.2.proof = none).map
      fun item => item.1.objectId).eraseDups,
    q.mapValues fun request current =>
      if request.nodeId = death.nodeId ∧ current.proof = none then
        { current with proof := some (.death death) }
      else current)

end ReplicaCleanupQueue

/-! ## The Core -/

inductive ReferenceEvent
  | retryReplicaCleanup
  | retryInlineGc (objectId : ObjectID)
  /-- Releases and retries that leave the late drops alone. -/
  | other
  deriving DecidableEq

/-- The reference-event thread, or a thread that shuts the Core down. -/
inductive Driving
  | referenceThread
  | shutdown (thread : Nat)
  deriving DecidableEq

/-- Where one drive is: before its next request, in its RPC, or after it. -/
inductive DrivePhase
  | next
  | sent (request : DropObjectReplica)
  | answered (request : DropObjectReplica)
  deriving DecidableEq

structure Drive where
  requests : List DropObjectReplica
  phase : DrivePhase := .next
  completed : List ObjectID := []

/-- An open Core. `timers` counts the timers that hold a `_RetryReplicaCleanup`. -/
structure CoreState where
  cleanup : ReplicaCleanupQueue := .empty
  scheduled : Bool := false
  mailbox : List ReferenceEvent := []
  timers : Nat := 0
  deadNodes : Dict NodeID NodeDeathRecord := .empty
  drives : Dict Driving Drive := .empty

variable (s : CoreState)

def CoreState.processExit (nodeId : NodeID) : Option NodeDeathRecord :=
  match s.deadNodes.get? nodeId with
  | some death => if death.reason = .processExit then some death else none
  | none => none

def enqueueInlineGcCheck (objectId : ObjectID) : CoreState :=
  { s with mailbox := s.mailbox ++ [.retryInlineGc objectId] }

def enqueueInlineGcChecks (objectIds : List ObjectID) : CoreState :=
  { s with mailbox := s.mailbox ++ objectIds.map .retryInlineGc }

def scheduleLateReplicaCleanup : CoreState :=
  if s.cleanup.hasPending none = false ∨ s.scheduled = true then s
  else { s with scheduled := true, mailbox := s.mailbox ++ [.retryReplicaCleanup] }

/-- `_retain_retired_replica_cleanup_locked`, once the owner named the drop. -/
def retainRetiredReplicaCleanup (request : DropObjectReplica) : CoreState :=
  let kept := s.cleanup.enqueue request
  match s.processExit request.nodeId with
  | some death =>
    scheduleLateReplicaCleanup { s with cleanup := (kept.acknowledgeNodeDeath death).2 }
  | none => scheduleLateReplicaCleanup { s with cleanup := kept }

/-- The drops in `handle_node_death`, unless the death is installed already. -/
def handleNodeDeath (death : NodeDeathRecord) : CoreState :=
  match s.deadNodes.get? death.nodeId with
  | some _ => s
  | none =>
    let dead := { s with deadNodes := s.deadNodes.set death.nodeId death }
    if death.reason = .processExit then
      let acknowledged := s.cleanup.acknowledgeNodeDeath death
      enqueueInlineGcChecks { dead with cleanup := acknowledged.2 } acknowledged.1
    else dead

/-! ## Drives -/

/-- The head of `_drive_late_replica_cleanup`. Only an event clears the flag. -/
def startDrive (driving : Driving) : CoreState :=
  match s.drives.get? driving with
  | some _ => s
  | none =>
    let drive := { requests := s.cleanup.pending }
    { s with
      scheduled := if driving = .referenceThread then false else s.scheduled
      drives := s.drives.set driving drive }

/-- The locked section before one RPC. -/
def driveNext (driving : Driving) : CoreState :=
  match s.drives.get? driving with
  | none => s
  | some drive =>
    match drive.phase, drive.requests with
    | .next, request :: rest =>
      match s.processExit request.nodeId with
      | some death =>
        let acknowledged := s.cleanup.acknowledgeNodeDeath death
        let after := { drive with
          requests := rest, completed := drive.completed ++ acknowledged.1 }
        { s with cleanup := acknowledged.2, drives := s.drives.set driving after }
      | none =>
        match s.cleanup.claim request with
        | (true, claimed) =>
          { s with
            cleanup := claimed
            drives := s.drives.set driving
              { drive with requests := rest, phase := .sent request } }
        | (false, _) =>
          { s with drives := s.drives.set driving { drive with requests := rest } }
    | _, _ => s

/-- The RPC returns a reply, or raises, and the reply is acknowledged under the lock. -/
def driveAnswer (driving : Driving) (reply : Option DropObjectReplicaReply) : CoreState :=
  match s.drives.get? driving with
  | none => s
  | some drive =>
    match drive.phase with
    | .sent request =>
      match reply.map (s.cleanup.acknowledge request) with
      | some (true, acknowledged) =>
        let after := { drive with
          phase := .answered request, completed := drive.completed ++ [request.objectId] }
        { s with cleanup := acknowledged, drives := s.drives.set driving after }
      | _ =>
        { s with drives := s.drives.set driving { drive with phase := .answered request } }
    | _ => s

/-- The `finally` section after one RPC. -/
def driveRetire (driving : Driving) : CoreState :=
  match s.drives.get? driving with
  | none => s
  | some drive =>
    match drive.phase with
    | .answered request =>
      let unclaimed := s.cleanup.unclaim request
      let completed :=
        if unclaimed.hasPending (some request.objectId) then drive.completed
        else drive.completed ++ [request.objectId]
      { s with
        cleanup := unclaimed
        drives := s.drives.set driving { drive with phase := .next, completed := completed } }
    | _ => s

/-- The last locked section. Only the reference-event thread schedules a retry. -/
def driveFinish (driving : Driving) : CoreState :=
  match s.drives.get? driving with
  | none => s
  | some drive =>
    match drive.phase, drive.requests with
    | .next, [] =>
      let checked := enqueueInlineGcChecks { s with drives := s.drives.erase driving }
        drive.completed.eraseDups
      if checked.cleanup.hasPending none = true ∧ driving = .referenceThread ∧
          checked.scheduled = false then
        { checked with scheduled := true, timers := checked.timers + 1 }
      else checked
    | _, _ => s

/-- `_run_reference_event_loop` takes its next event, when it is not inside a drive. -/
def takeEvent : CoreState :=
  match s.drives.get? .referenceThread, s.mailbox with
  | none, .retryReplicaCleanup :: rest => startDrive { s with mailbox := rest } .referenceThread
  | none, .retryInlineGc objectId :: rest =>
    -- `_reference_released` leaves an object alone while a late drop of it is pending
    if s.cleanup.hasPending (some objectId) then
      scheduleLateReplicaCleanup { s with mailbox := rest }
    else { s with mailbox := rest }
  | none, .other :: rest => { s with mailbox := rest }
  | _, _ => s

/-- The callback of `_schedule_reference_event`. -/
def timerFires : CoreState :=
  if s.timers = 0 then s
  else { s with timers := s.timers - 1, mailbox := s.mailbox ++ [.retryReplicaCleanup] }

inductive Action
  | retain (request : DropObjectReplica)
  | handleNodeDeath (death : NodeDeathRecord)
  | scheduleLate
  | enqueueCheck (objectId : ObjectID)
  | enqueueOther
  | takeEvent
  | startShutdownDrive (thread : Nat)
  | driveNext (driving : Driving)
  | driveAnswer (driving : Driving) (reply : Option DropObjectReplicaReply)
  | driveRetire (driving : Driving)
  | driveFinish (driving : Driving)
  | timerFires

def step (s : CoreState) : Action → CoreState
  | .retain request => retainRetiredReplicaCleanup s request
  | .handleNodeDeath death => handleNodeDeath s death
  | .scheduleLate => scheduleLateReplicaCleanup s
  | .enqueueCheck objectId => enqueueInlineGcCheck s objectId
  | .enqueueOther => { s with mailbox := s.mailbox ++ [.other] }
  | .takeEvent => takeEvent s
  | .startShutdownDrive thread => startDrive s (.shutdown thread)
  | .driveNext driving => driveNext s driving
  | .driveAnswer driving reply => driveAnswer s driving reply
  | .driveRetire driving => driveRetire s driving
  | .driveFinish driving => driveFinish s driving
  | .timerFires => timerFires s

end LateCleanup

end MiniRay
