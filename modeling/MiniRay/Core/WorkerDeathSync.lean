import MiniRay.Control.WorkerLifetimes
import MiniRay.Core.BorrowReleases
import MiniRay.Ownership.InstalledDeaths

/-! A Core reads the journal after its cursor, installs one record after the other in its owner
table, its foreign lineage and its outbound obligations, and only then moves the cursor over it.
What became collectable is handed to collection after that. -/

namespace MiniRay

/-- Canonical identity for the complete immutable death proof. -/
def WorkerDeathRecord.referenceId (death : WorkerDeathRecord) : String :=
  "worker-death:v1:" ++ ":".intercalate [toString death.deathEpoch,
    death.incarnation.workerId.value.hex, death.incarnation.nodeId.value.hex,
    toString death.incarnation.nodePid, toString death.incarnation.nodeRegistrationEpoch,
    toString death.incarnation.workerPid, toString death.exitCode, death.reason.value,
    death.detectionId]

/-- What `GetWorkerDeathsReply` demands: the complete ordered suffix up to the watermark. -/
def GetWorkerDeathsReply.Valid (reply : GetWorkerDeathsReply) : Prop :=
  reply.afterEpoch ≤ reply.watermark ∧ reply.deaths.map WorkerDeathRecord.deathEpoch =
    List.range' (reply.afterEpoch + 1) (reply.watermark - reply.afterEpoch)

instance (reply : GetWorkerDeathsReply) : Decidable reply.Valid :=
  inferInstanceAs (Decidable (_ ∧ _))

/-! ## Foreign lineage -/

abbrev ForeignEdgeKey := ObjectID × WorkerID

structure ForeignRenewal where
  replacements : List ForeignEdgeKey
  acknowledged : Finset ForeignEdgeKey := ∅
  uncertain : Finset ForeignEdgeKey := ∅
  terminalFailures : Dict ForeignEdgeKey String := .empty
  ready : Bool := false
  mutationEpoch : Nat := 0

def ownerDeathFailure : String := "foreign dependency owner has a committed death proof"

/-- One replacement whose expected owner is dead. -/
def ForeignRenewal.failEdge (session : ForeignRenewal) (key : ForeignEdgeKey) : ForeignRenewal :=
  { session with
    uncertain := session.uncertain.erase key
    terminalFailures := session.terminalFailures.set key ownerDeathFailure
    ready := false
    mutationEpoch := session.mutationEpoch + 1 }

def ForeignRenewal.failOwner (session : ForeignRenewal) (owner : WorkerID) : ForeignRenewal :=
  (session.replacements.filter fun key => key.2 = owner).foldl ForeignRenewal.failEdge session

/-- The release of the foreign holds of one collected task. -/
structure ForeignCollection where
  edges : List ForeignEdgeKey
  acknowledged : Finset ForeignEdgeKey := ∅
  uncertain : Finset ForeignEdgeKey := ∅

def ForeignCollection.discharge (session : ForeignCollection) (owner : WorkerID) :
    ForeignCollection :=
  let dead := (session.edges.filter fun key => key.2 = owner).toFinset
  { session with
    uncertain := session.uncertain \ dead
    acknowledged := session.acknowledged ∪ dead }

structure ForeignLineage where
  deadOwners : Dict WorkerID DeadWorkerReferenceRecord := .empty
  renewals : Dict TaskID ForeignRenewal := .empty
  collections : Dict TaskID ForeignCollection := .empty

/-- Install an external authoritative death fence and converge. -/
def ForeignLineage.markOwnerDead (self : ForeignLineage) (record : DeadWorkerReferenceRecord) :
    Except String ForeignLineage :=
  if ∃ previous ∈ self.deadOwners.get? record.workerId, previous ≠ record then
    .error "owner death proof conflicts with tombstone"
  else .ok {
    deadOwners := self.deadOwners.set record.workerId record
    renewals := self.renewals.mapValues fun _ session => session.failOwner record.workerId
    collections := self.collections.mapValues fun _ session => session.discharge record.workerId }

/-! ## Obligations -/

/-- The part of a collection's obligation that names the owners of its children. -/
structure ChildReleases where
  pendingEdges : Finset ContainedReferenceEdge
  childDeaths : Dict WorkerID WorkerDeathRecord := .empty

def ChildReleases.deadEdges (obligation : ChildReleases) (dead : WorkerID) :
    Finset ContainedReferenceEdge :=
  obligation.pendingEdges.filter fun edge => edge.containedOwnerWorkerId = dead

/-- The death stands for the release of every edge toward that owner. -/
def ChildReleases.buryOwner (obligation : ChildReleases) (death : WorkerDeathRecord) :
    ChildReleases where
  pendingEdges := obligation.pendingEdges \ obligation.deadEdges death.workerId
  childDeaths := obligation.childDeaths.set death.workerId death

/-- The guards of one finished task that still wait for their release. -/
structure ForeignGuardReleaseRetry where
  guards : List ForeignDependencyGuard
  releasedKeys : Finset GuardKey := ∅

def ForeignGuardReleaseRetry.deadKeys (retry : ForeignGuardReleaseRetry) (dead : WorkerID) :
    Finset GuardKey :=
  ((retry.guards.filter fun guard => guard.ownerWorkerId = dead).map
    ForeignDependencyGuard.key).toFinset

def ForeignGuardReleaseRetry.buryOwner (retry : ForeignGuardReleaseRetry) (dead : WorkerID) :
    ForeignGuardReleaseRetry :=
  { retry with releasedKeys := retry.releasedKeys ∪ retry.deadKeys dead }

/-- One write of the sweep over the outbound obligations. -/
inductive SweepWrite
  | popBorrowed (key : BorrowReleaseKey)
  | popAttempt (key : AttemptBorrowKey)
  | popOrphan (key : GuardKey)
  | buryEdges (objectId : ObjectID)
  | buryGuards (taskId : TaskID)
  | wake (taskId : TaskID)
  deriving DecidableEq

/-- One step of the installation of one unexpected death, up to the cursor. -/
inductive InstallStep
  | installDeadWorker
  | recordDeath
  | markOwnerDead
  | discharge
  | write (write : SweepWrite)
  | drive (objectId : ObjectID)
  deriving DecidableEq

inductive SyncPoint
  | idle
  | called
  | between (watermark : Nat) (rest : List WorkerDeathRecord)
  | installing (watermark : Nat) (death : WorkerDeathRecord) (rest : List WorkerDeathRecord)
      (cleanup : Option DeadWorkerReferenceCleanup) (script : List InstallStep)
  | handing (watermark : Nat) (rest : List WorkerDeathRecord) (objectIds : List ObjectID)
  deriving DecidableEq

structure DeathSync (ε : Type) where
  ownerTable : ObjectOwnerTable ε := .empty
  deathRecords : Dict WorkerID WorkerDeathRecord := .empty
  foreign : ForeignLineage := {}
  borrowedReleases : Dict BorrowReleaseKey BorrowReleaseObligation := .empty
  attemptReleases : Dict AttemptBorrowKey AttemptBorrowRelease := .empty
  orphanGuards : Dict GuardKey ForeignDependencyGuard := .empty
  gcObligations : Dict ObjectID ChildReleases := .empty
  guardRetries : Dict TaskID ForeignGuardReleaseRetry := .empty
  /-- The owners that a quarantined post-grant report waits for. -/
  quarantined : Dict TaskID (List WorkerID) := .empty
  submissions : List TaskID := []
  cursor : Nat := 0
  point : SyncPoint := .idle
  /-- What the last synchronisation returned; `none` when it raised. -/
  returned : Option Bool := none
  /-- The objects given to collection so far. -/
  handedOver : List ObjectID := []

namespace DeathSync

variable {ε : Type} (self : DeathSync ε)

/-- Whether the owner's death is installed here. -/
def ownerIsDead (owner : WorkerID) : Bool := (self.ownerTable.deadWorkerCleanups.get? owner).isSome

/-! ## One installation -/

def sweepWrites (dead : WorkerID) : List SweepWrite :=
  (self.borrowedReleases.keys.filter fun key => key.1 = dead).map .popBorrowed ++
  (self.attemptReleases.keys.filter fun key => key.1 = dead).map .popAttempt ++
  (self.orphanGuards.keys.filter fun key => key.1 = dead).map .popOrphan ++
  (self.gcObligations.items.filter fun item => (item.2.deadEdges dead).Nonempty).map
    (fun item => .buryEdges item.1) ++
  (self.guardRetries.items.filter fun item => (item.2.deadKeys dead).Nonempty).map
    (fun item => .buryGuards item.1) ++
  (self.quarantined.items.filter fun item => dead ∈ item.2).map (fun item => .wake item.1)

/-- The collections whose edges the sweep takes. -/
def collectionCandidates (dead : WorkerID) : List ObjectID :=
  (self.gcObligations.items.filter fun item => (item.2.deadEdges dead).Nonempty).map Prod.fst

def applyWrite (death : WorkerDeathRecord) : SweepWrite → DeathSync ε
  | .popBorrowed key => { self with borrowedReleases := self.borrowedReleases.erase key }
  | .popAttempt key => { self with attemptReleases := self.attemptReleases.erase key }
  | .popOrphan key => { self with orphanGuards := self.orphanGuards.erase key }
  | .buryEdges objectId =>
    match self.gcObligations.get? objectId with
    | none => self
    | some obligation => { self with
        gcObligations := self.gcObligations.set objectId (obligation.buryOwner death) }
  | .buryGuards taskId =>
    match self.guardRetries.get? taskId with
    | none => self
    | some retry => { self with
        guardRetries := self.guardRetries.set taskId (retry.buryOwner death.workerId) }
  | .wake taskId => { self with submissions := self.submissions ++ [taskId] }

/-- The synchronisation ends where it stands. -/
def leave (returned : Option Bool) : DeathSync ε :=
  { self with point := .idle, returned := returned }

/-- The cursor moves over the record, and its candidates are to be handed over. -/
def commitCursor (watermark : Nat) (death : WorkerDeathRecord) (rest : List WorkerDeathRecord)
    (collectable : List ObjectID) : DeathSync ε :=
  -- "Worker death journal lost strict continuity"
  if death.deathEpoch ≠ self.cursor + 1 then self.leave none
  else { self with cursor := death.deathEpoch, point := .handing watermark rest collectable }

/-- One step of the installation; a step that raises leaves the record to be replayed. -/
def install (watermark : Nat) (death : WorkerDeathRecord) (rest : List WorkerDeathRecord)
    (cleanup : Option DeadWorkerReferenceCleanup) : List InstallStep → DeathSync ε
  | [] => self.commitCursor watermark death rest
      ((cleanup.map DeadWorkerReferenceCleanup.collectableObjectIds).getD [])
  | .installDeadWorker :: script =>
    match self.ownerTable.installDeadWorker death.workerId death.referenceId with
    | .error _ => self.leave (some false)
    | .ok (installed, table) => { self with
        ownerTable := table
        point := .installing watermark death rest (some installed) script }
  | .recordDeath :: script =>
    let recorded :=
      { self with deathRecords := self.deathRecords.setDefault death.workerId death }
    if recorded.deathRecords.get? death.workerId ≠ some death then recorded.leave (some false)
    else { recorded with point := .installing watermark death rest cleanup script }
  | .markOwnerDead :: script =>
    match cleanup with
    | none => self.leave (some false)
    | some installed =>
      match self.foreign.markOwnerDead installed.record with
      | .error _ => self.leave (some false)
      | .ok foreign => { self with
          foreign := foreign
          point := .installing watermark death rest cleanup script }
  | .discharge :: script =>
    -- The sweep needs the exact installed proof.
    if (self.ownerTable.deadWorkerCleanups.get? death.workerId).map (·.record.deathId) ≠
        some death.referenceId then self.leave (some false)
    else
      let sweep := (self.sweepWrites death.workerId).map InstallStep.write ++
        (self.collectionCandidates death.workerId).map .drive
      { self with point := .installing watermark death rest cleanup (sweep ++ script) }
  | .write write :: script =>
    { self.applyWrite death write with
      point := .installing watermark death rest cleanup script }
  | .drive objectId :: script => { self with
      handedOver := self.handedOver ++ [objectId]
      point := .installing watermark death rest cleanup script }

/-- What is done for one unexpected death before the cursor moves. -/
def installScript : List InstallStep :=
  [.installDeadWorker, .recordDeath, .markOwnerDead, .discharge]

def advance : DeathSync ε :=
  match self.point with
  | .idle | .called => self
  | .between watermark [] => self.leave (some (self.cursor = watermark))
  | .between watermark (death :: rest) =>
    match death.reason with
    | .processExit | .nodeExit => { self with
        point := .installing watermark death rest none installScript }
    | .expected => self.commitCursor watermark death rest []
  | .installing watermark death rest cleanup script =>
    self.install watermark death rest cleanup script
  | .handing watermark rest [] => { self with point := .between watermark rest }
  | .handing watermark rest (objectId :: objectIds) => { self with
      handedOver := self.handedOver ++ [objectId]
      point := .handing watermark rest objectIds }

/-- A step raises before it did anything. `KeyboardInterrupt` and `SystemExit` always leave the
synchronisation; whatever else a trace or a collection drive raises is swallowed there. -/
def raise (interrupt : Bool) : DeathSync ε :=
  match self.point with
  | .idle => self
  | .handing .. => if interrupt then self.leave none else self.advance
  | _ => self.leave (if interrupt then none else some false)

def begin : DeathSync ε :=
  match self.point with
  | .idle => { self with point := .called }
  | _ => self

/-- The answer, or no reply that has the type and passes its own validation. -/
def receive (received : Option GetWorkerDeathsReply) : DeathSync ε :=
  match self.point, received with
  | .called, none => self.leave (some false)
  | .called, some reply =>
    if ¬ reply.Valid ∨ reply.afterEpoch ≠ self.cursor then self.leave (some false)
    else { self with point := .between reply.watermark reply.deaths }
  | _, _ => self

end DeathSync

end MiniRay

/-! ## The journal and its consumer

The journal grows, replies bring some of its records in any selection, other threads of the
Core work between the steps of the consumer. -/

namespace MiniRay

open Checked Run

structure DeathJournal (ε : Type) where
  gcs : WorkerRegistry := {}
  core : DeathSync ε := {}

namespace DeathJournal

/-- A reply on the wire: its header, and the places in the journal its records were read from.
Replies are repeated, truncated and reordered, but no record is made up. -/
structure WireReply where
  afterEpoch : Nat
  watermark : Nat
  places : List Nat

def WireReply.read (reply : WireReply) (journal : List WorkerDeathRecord) : GetWorkerDeathsReply :=
  ⟨reply.afterEpoch, reply.watermark, reply.places.filterMap (journal[·]?)⟩

inductive Action (ε : Type)
  | register (nodes : NodeRegistry) (incarnation : WorkerIncarnation)
  | report (request : ReportWorkerDeath)
  | failNode (death : NodeDeathRecord)
  | begin
  | receive (reply : Option WireReply)
  | advance
  | raise (interrupt : Bool)
  -- Other threads of the Core. They admit an obligation under the lock of the death fence.
  | call (op : Op ε)
  | oweBorrowed (obligation : BorrowReleaseObligation)
  | oweAttempt (obligation : AttemptBorrowRelease)
  | oweGuard (guard : ForeignDependencyGuard)
  | settleBorrowed (key : BorrowReleaseKey)
  | settleAttempt (key : AttemptBorrowKey)
  | settleGuard (key : GuardKey)
  | collections (gcObligations : Dict ObjectID ChildReleases)
  | finishes (guardRetries : Dict TaskID ForeignGuardReleaseRetry)
      (quarantined : Dict TaskID (List WorkerID))
  | lookupOwner (owner : WorkerID)
  | sessions (renewals : Dict TaskID ForeignRenewal) (collections : Dict TaskID ForeignCollection)

variable {ε : Type} [BEq ε]

/-- What another thread of the Core does to the consumer's state. -/
def other (core : DeathSync ε) : Action ε → DeathSync ε
  | .call op =>
    -- The consumer is the only one that installs a death.
    if Op.InstallsDeath op then core else { core with ownerTable := core.ownerTable.step op }
  | .oweBorrowed obligation =>
    if core.ownerIsDead obligation.release.ownerWorkerId then core
    else { core with
      borrowedReleases := core.borrowedReleases.setDefault obligation.key obligation }
  | .oweAttempt obligation =>
    if core.ownerIsDead obligation.transfer.ownerWorkerId then core
    else { core with
      attemptReleases := core.attemptReleases.setDefault obligation.key obligation }
  | .oweGuard guard =>
    if core.ownerIsDead guard.ownerWorkerId then core
    else { core with orphanGuards := core.orphanGuards.set guard.key guard }
  | .settleBorrowed key => { core with borrowedReleases := core.borrowedReleases.erase key }
  | .settleAttempt key => { core with attemptReleases := core.attemptReleases.erase key }
  | .settleGuard key => { core with orphanGuards := core.orphanGuards.erase key }
  | .collections gcObligations => { core with gcObligations := gcObligations }
  | .finishes guardRetries quarantined =>
    { core with guardRetries := guardRetries, quarantined := quarantined }
  | .lookupOwner owner =>
    match core.ownerTable.deadWorkerCleanups.get? owner with
    | none => core
    | some cleanup =>
      match core.foreign.markOwnerDead cleanup.record with
      | .error _ => core
      | .ok foreign => { core with foreign := foreign }
  | .sessions renewals collections =>
    { core with
      foreign := { core.foreign with renewals := renewals, collections := collections } }
  | _ => core

def step (s : DeathJournal ε) : Action ε → DeathJournal ε
  | .register nodes incarnation => { s with gcs := (s.gcs.register nodes incarnation).2 }
  | .report request => { s with gcs := (s.gcs.reportDeath request).2 }
  | .failNode death => { s with gcs := (s.gcs.failNode death).2 }
  | .begin => { s with core := s.core.begin }
  | .receive reply => { s with core := s.core.receive (reply.map (·.read s.gcs.deathJournal)) }
  | .advance => { s with core := s.core.advance }
  | .raise interrupt => { s with core := s.core.raise interrupt }
  | a => { s with core := other s.core a }

end DeathJournal

end MiniRay
