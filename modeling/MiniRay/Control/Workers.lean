import MiniRay.Control.Nodes
import Mathlib.Data.List.Sort

/-! Ordinary Workers are bound to registered Node incarnations, and their deaths form one journal
that every consumer reads from its own watermark. -/

namespace MiniRay

/-- One ordinary Worker incarnation and its immutable death fact. -/
structure WorkerSnapshot where
  incarnation : WorkerIncarnation
  state : WorkerMembershipState := .alive
  death : Option WorkerDeathRecord := none
  dead_record : state = .dead → ∃ d, death = some d ∧ d.incarnation = incarnation
  alive_record : state = .alive → death = none
  deriving DecidableEq

def WorkerSnapshot.registered (incarnation : WorkerIncarnation) : WorkerSnapshot where
  incarnation := incarnation
  dead_record := by simp
  alive_record := by simp

def WorkerSnapshot.killedBy (death : WorkerDeathRecord) : WorkerSnapshot where
  incarnation := death.incarnation
  state := .dead
  death := some death
  dead_record := by simp
  alive_record := by simp

structure RegisterWorkerIncarnationReply where
  incarnation : WorkerIncarnation
  accepted : Bool
  error : Option String := none

/-- A Node supervisor's proof about one exact ordinary Worker. -/
@[ext] structure ReportWorkerDeath where
  detectionId : String
  incarnation : WorkerIncarnation
  exitCode : Int
  reason : WorkerDeathReason
  detection_ne : detectionId ≠ ""

instance : DecidableEq ReportWorkerDeath := byFields ReportWorkerDeath.ext_iff

def ReportWorkerDeath.workerId (self : ReportWorkerDeath) : WorkerID := self.incarnation.workerId

def ReportWorkerDeath.record (self : ReportWorkerDeath) (epoch : Nat) (hepoch : 0 < epoch) :
    WorkerDeathRecord :=
  ⟨self.detectionId, self.incarnation, epoch, self.exitCode, self.reason, self.detection_ne,
    hepoch⟩

inductive WorkerDeathDisposition
  | applied
  | alreadyDead
  | unknown
  | conflict
  deriving DecidableEq

structure ReportWorkerDeathReply where
  detectionId : String
  workerId : WorkerID
  disposition : WorkerDeathDisposition
  watermark : Nat
  death : Option WorkerDeathRecord := none
  error : Option String := none

structure GetWorkerDeathsReply where
  afterEpoch : Nat
  watermark : Nat
  deaths : List WorkerDeathRecord

/-- The key of a workset: one exact dead Node and the detection of its death. -/
abbrev NodeDeathKey := NodeID × Nat × Nat × String

def NodeDeathRecord.key (death : NodeDeathRecord) : NodeDeathKey :=
  (death.nodeId, death.nodePid, death.registrationEpoch, death.detectionId)

/-- The Worker ran on exactly the dead Node incarnation. -/
def WorkerIncarnation.On (incarnation : WorkerIncarnation) (death : NodeDeathRecord) : Prop :=
  incarnation.nodeId = death.nodeId ∧ incarnation.nodePid = death.nodePid ∧
    incarnation.nodeRegistrationEpoch = death.registrationEpoch

instance (incarnation : WorkerIncarnation) (death : NodeDeathRecord) :
    Decidable (incarnation.On death) := inferInstanceAs (Decidable (_ ∧ _))

structure WorkerRegistry where
  workers : Dict WorkerID WorkerSnapshot := .empty
  deathDetections : Dict String (ReportWorkerDeath × WorkerDeathRecord) := .empty
  deathJournal : List WorkerDeathRecord := []
  nodeDeathWorksets : Dict NodeDeathKey (List WorkerDeathRecord) := .empty
  deathEpoch : Nat := 0

namespace WorkerRegistry

variable (self : WorkerRegistry)

/-- Insert or exactly replay one live ordinary Worker incarnation. -/
def register (nodes : NodeRegistry) (incarnation : WorkerIncarnation) :
    RegisterWorkerIncarnationReply × WorkerRegistry :=
  match nodes.get? incarnation.nodeId with
  | none => (⟨incarnation, false,
      some ("\"unknown node: " ++ incarnation.nodeId.repr ++ "\"")⟩, self)
  | some node =>
    if node.state ≠ .alive ∨ node.nodePid ≠ incarnation.nodePid ∨
        node.registrationEpoch ≠ incarnation.nodeRegistrationEpoch then
      (⟨incarnation, false, some "worker registration targets another Node incarnation"⟩, self)
    else match self.workers.get? incarnation.workerId with
      | none => (⟨incarnation, true, none⟩, { self with
          workers := self.workers.set incarnation.workerId (.registered incarnation) })
      | some old =>
        if old.incarnation ≠ incarnation then
          (⟨incarnation, false, some "WorkerID is already bound to another incarnation"⟩, self)
        else if old.state = .dead then
          (⟨incarnation, false, some "dead WorkerID cannot be registered again"⟩, self)
        else (⟨incarnation, true, none⟩, self)

def deathReply (request : ReportWorkerDeath) (disposition : WorkerDeathDisposition)
    (death : Option WorkerDeathRecord) (error : Option String) : ReportWorkerDeathReply :=
  ⟨request.detectionId, request.workerId, disposition, self.deathEpoch, death, error⟩

def exactReport (request : ReportWorkerDeath) (old : WorkerSnapshot) : Bool :=
  old.death.any fun death => death.detectionId = request.detectionId ∧
    death.incarnation = request.incarnation ∧ death.exitCode = request.exitCode ∧
    death.reason = request.reason

def commit (request : ReportWorkerDeath) : WorkerRegistry :=
  let death := request.record (self.deathEpoch + 1) (Nat.succ_pos _)
  { self with
    deathEpoch := self.deathEpoch + 1
    workers := self.workers.set request.workerId (.killedBy death)
    deathJournal := self.deathJournal ++ [death]
    deathDetections := self.deathDetections.set request.detectionId (request, death) }

/-- Reduce one exact supervisor proof and append at most one fact. -/
def reportDeath (request : ReportWorkerDeath) : ReportWorkerDeathReply × WorkerRegistry :=
  match self.deathDetections.get? request.detectionId with
  | some (priorRequest, priorDeath) =>
    if priorRequest = request then
      (self.deathReply request .alreadyDead (some priorDeath) none, self)
    else (self.deathReply request .conflict none
      (some "worker death detection_id was reused for another proof"), self)
  | none =>
    match self.workers.get? request.workerId with
    | none => (self.deathReply request .unknown none (some "unknown WorkerID"), self)
    | some old =>
      if old.state = .dead then
        if exactReport request old then
          (self.deathReply request .alreadyDead old.death none, self)
        else (self.deathReply request .conflict none
          (some "worker death report conflicts with the immutable tombstone"), self)
      else if old.incarnation ≠ request.incarnation then
        (self.deathReply request .conflict none
          (some "worker death report targets another incarnation"), self)
      else
        let death := request.record (self.deathEpoch + 1) (Nat.succ_pos _)
        ((self.commit request).deathReply request .applied (some death) none, self.commit request)

/-- The journal after a consumer's watermark; a cursor beyond the watermark raises. -/
def deathsAfter (afterEpoch : Nat) : Except String GetWorkerDeathsReply :=
  if self.deathEpoch < afterEpoch then
    .error "worker death cursor exceeds the current watermark"
  else .ok ⟨afterEpoch, self.deathEpoch, self.deathJournal.drop afterEpoch⟩

/-- The live Workers of one dead Node incarnation, in WorkerID order. -/
def candidates (self : WorkerRegistry) (death : NodeDeathRecord) : List WorkerIncarnation :=
  let snapshots := self.workers.values.insertionSort fun a b =>
    a.incarnation.workerId ≤ b.incarnation.workerId
  (snapshots.filter fun snapshot => snapshot.state = .alive ∧ snapshot.incarnation.On death).map
    WorkerSnapshot.incarnation

def nodeExitDetection (detectionId : String) (workerId : WorkerID) : String :=
  "node-exit:" ++ detectionId ++ ":" ++ workerId.value.hex

def nodeExit (death : NodeDeathRecord) (incarnation : WorkerIncarnation) : ReportWorkerDeath where
  detectionId := nodeExitDetection death.detectionId incarnation.workerId
  incarnation := incarnation
  exitCode := death.exitCode
  reason := .nodeExit
  detection_ne := by simp [nodeExitDetection, String.append_eq_empty_iff]

/-- Report the Workers one by one. A refusal raises and keeps what was committed before. -/
def failWorkers (self : WorkerRegistry) (death : NodeDeathRecord) :
    List WorkerIncarnation → List WorkerDeathRecord →
      Except String (List WorkerDeathRecord) × WorkerRegistry
  | [], committed => (.ok committed, self)
  | incarnation :: rest, committed =>
    match self.reportDeath (nodeExit death incarnation) with
    | (⟨_, _, .applied, _, some killed, _⟩, after) =>
      after.failWorkers death rest (committed ++ [killed])
    | (⟨_, _, .alreadyDead, _, some _, _⟩, after) => after.failWorkers death rest committed
    | (_, after) => (.error "committed Node death could not fence its live Worker", after)

/-- Commit NODE_EXIT for every live Worker on one dead Node. Expected Node finalization
deliberately produces no Worker deaths. -/
def failNode (death : NodeDeathRecord) :
    Except String (List WorkerDeathRecord) × WorkerRegistry :=
  if death.reason ≠ .processExit then (.ok [], self)
  else match self.nodeDeathWorksets.get? death.key with
    | some previous => (.ok previous, self)
    | none =>
      match self.failWorkers death (self.candidates death) [] with
      | (.error raised, after) => (.error raised, after)
      | (.ok committed, after) => (.ok committed, { after with
          nodeDeathWorksets := after.nodeDeathWorksets.set death.key committed })

end WorkerRegistry

end MiniRay
