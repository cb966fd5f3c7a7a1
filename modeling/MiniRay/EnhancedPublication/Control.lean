import MiniRay.Control.Workers
import MiniRay.EnhancedPublication.Authority
import MiniRay.OwnerFence.Registry

/-! The control plane's adapter between membership and the publication authority, and the outbox of
cleanup duties that dead owners leave behind. -/

namespace MiniRay

open Checked

structure FinalizeOutputOwnerDeath where
  manifest : OutputPublicationManifest
  ownerDeath : WorkerDeathRecord
  bounded : ownerDeath.OwnerDeath
  owner : ownerDeath.workerId = manifest.header.ownerWorkerId
  deriving DecidableEq

structure FinalizeOutputOwnerDeathReply where
  request : FinalizeOutputOwnerDeath
  cleaned : Bool
  closedHolds : Option ClosedContainedHolds
  closed : ∀ holds, closedHolds = some holds → cleaned = true ∧
    holds.reference.key = .output request.manifest.publicationId ∧
    holds.reference.digest = request.manifest.manifestDigest

/-- How a call ends: it raises, answers something else, or answers with a value. -/
inductive RpcOutcome (α : Type)
  | raised
  | malformed
  | replied (value : α)

/-! ## Duties -/

/-- Where the driver of a duty stands, between its locked sections and its calls. -/
inductive DrivePhase
  | inspecting
  | fencing (request : InstallOwnerDeathFence)
  | finalizing (request : FinalizeOutputOwnerDeath)
  | choosing
  | releasing (request : ReleaseContainedReference)
  | assembling
  | settling
  deriving DecidableEq

/-- The cleanup of a dead owner's publication, in flight while it has a phase. -/
structure DeathCleanup where
  publication : Publication
  death : WorkerDeathRecord
  valid : ValidFence publication (.death death)
  releases : Dict ReleaseContainedReference ReleaseContainedReferenceReply := .empty
  childDeaths : Dict WorkerID WorkerDeathRecord := .empty
  closedHolds : Option ClosedContainedHolds := none
  nodeFenced : Bool := false
  nodeFinalized : Bool := false
  finished : Bool := false
  phase : Option DrivePhase := none

/-- Both holds of every child, as release requests. -/
def Publication.releaseRequests (publication : Publication) : List ReleaseContainedReference :=
  publication.transfers.flatMap fun t =>
    [⟨t.containedObjectId, t.containedOwnerWorkerId, t.finalHold⟩,
      ⟨t.containedObjectId, t.containedOwnerWorkerId, t.provisionalHold⟩]

/-- The holds closed by releases and child deaths, as the constructor checks. -/
def ClosedContainedHolds.assemble (reference : PublicationRef)
    (releases : List ReleaseContainedReferenceReply) (childDeaths : List WorkerDeathRecord) :
    Except String ClosedContainedHolds := do
  let ⟨accepted⟩ ← certify (∀ r ∈ releases, r.accepted = true ∧ r.error = none)
    "closed holds require accepted exact Release replies"
  let ⟨releasedOnce⟩ ← certify
    (releases.map fun r => (r.objectId, r.ownerWorkerId, r.hold)).Nodup
    "releases must not contain duplicates"
  let ⟨confirmed⟩ ← certify (∀ d ∈ childDeaths, d.OwnerDeath ∧ d.ConfirmedExit)
    "cleanup requires confirmed owner death"
  let ⟨deathsOnce⟩ ← certify (childDeaths.map WorkerDeathRecord.workerId).Nodup
    "child deaths must not contain duplicates"
  return ⟨reference, releases, childDeaths, none, accepted, releasedOnce, confirmed, deathsOnce,
    by simp⟩

namespace DeathCleanup

variable (self : DeathCleanup)

/-- The duty has settled this hold, or knows that its owner is dead. -/
def resolves (request : ReleaseContainedReference) : Bool :=
  (self.releases.get? request).isSome || (self.childDeaths.get? request.ownerWorkerId).isSome

def reopens : DrivePhase := if self.closedHolds.isNone then .choosing else .settling

/-- What the driver does first: a Task's Node is asked before its children. -/
def firstPhase : DrivePhase :=
  if self.publication.isTask = true ∧ self.nodeFinalized = false then .inspecting
  else self.reopens

end DeathCleanup

/-! ## Membership checks -/

abbrev WorkerTable := Dict WorkerID WorkerSnapshot

def Failure.text : Failure → String
  | .publicationError _ message => message
  | .valueError message => message
  | .attributeError message => message

def copyOwnerDeath (death : WorkerDeathRecord) : Except String (PLift death.OwnerDeath) := do
  let ⟨nodePid⟩ ← certify (Uint64 death.incarnation.nodePid)
    "owner node_pid must be a positive uint64"
  let ⟨nodeEpoch⟩ ← certify (Uint64 death.incarnation.nodeRegistrationEpoch)
    "owner node epoch must be a positive uint64"
  let ⟨workerPid⟩ ← certify (Uint64 death.incarnation.workerPid)
    "owner worker_pid must be a positive uint64"
  let ⟨epoch⟩ ← certify (Uint64 death.deathEpoch) "owner death_epoch must be a positive uint64"
  return ⟨nodePid, nodeEpoch, workerPid, epoch⟩

def getWorker (workers : WorkerTable) (owner : WorkerID) : Except String WorkerSnapshot :=
  match workers.get? owner with
  | some worker => .ok worker
  | none => .error ("\"unknown WorkerID: " ++ owner.repr ++ "\"")

def getNode (nodes : NodeRegistry) (nodeId : NodeID) : Except String NodeSnapshot :=
  match nodes.get? nodeId with
  | some node => .ok node
  | none => .error ("\"unknown node: " ++ nodeId.repr ++ "\"")

/-- The death is exactly the one that membership has committed. -/
def validatedDeath (workers : WorkerTable) (death : WorkerDeathRecord) :
    Except String (PLift (death.OwnerDeath ∧ death.ConfirmedExit)) := do
  let ⟨bounded⟩ ← copyOwnerDeath death
  let worker ← getWorker workers death.workerId
  let ⟨committed⟩ ← certify (worker.state = .dead ∧
    worker.incarnation = death.incarnation ∧ worker.death = some death ∧ death.ConfirmedExit)
    "cleanup lacks an exact committed owner death"
  return ⟨bounded, committed.2.2.2⟩

/-- The committed unexpected death of an owner, if there is one. -/
def ownerDeath? (workers : WorkerTable) (owner : WorkerID) :
    Except String (Option WorkerDeathRecord) :=
  match (workers.get? owner).bind WorkerSnapshot.death with
  | none => .ok none
  | some death =>
    if death.ConfirmedExit then do
      let _ ← validatedDeath workers death
      return some death
    else .ok none

def requireNodeOpen (nodes : NodeRegistry) (incarnation : PublicationNodeIncarnation) :
    Except String Unit := do
  let node ← getNode nodes incarnation.nodeId
  raiseIf (node.state ≠ .alive ∨ (node.nodePid, node.registrationEpoch) ≠
      (incarnation.nodePid, incarnation.registrationEpoch))
    "publishing Node is not the exact live incarnation"

def requirePublisherOpen (nodes : NodeRegistry) (workers : WorkerTable)
    (header : OutputPublicationHeader) : Except String Unit := do
  requireNodeOpen nodes header.nodeIncarnation
  let worker ← getWorker workers header.executorWorkerId
  let node := header.nodeIncarnation
  raiseIf (worker.state ≠ .alive ∨
      (worker.incarnation.nodeId, worker.incarnation.nodePid,
        worker.incarnation.nodeRegistrationEpoch) ≠
        (node.nodeId, node.nodePid, node.registrationEpoch))
    "publisher is not the exact registered live Worker"

/-- An unmanaged endpoint is not a registered Worker, so it passes. -/
def requireOwnerOpen (nodes : NodeRegistry) (workers : WorkerTable) (owner : WorkerID) :
    Except String Unit :=
  match workers.get? owner with
  | none => .ok ()
  | some worker => do
      raiseIf (worker.state ≠ .alive) "publication owner is death-fenced"
      let node ← getNode nodes worker.incarnation.nodeId
      raiseIf (node.state ≠ .alive ∨ (node.nodePid, node.registrationEpoch) ≠
          (worker.incarnation.nodePid, worker.incarnation.nodeRegistrationEpoch))
        "publication owner Node is not alive"

/-! ## The adapter -/

structure EnhancedPublicationControl where
  authority : PublicationAuthority := .empty
  deaths : Dict PublicationRef DeathCleanup := .empty
  cursor : Nat := 0
  admissionClosed : Bool := false
  /-- The deaths for which `commit_owner_death` has returned. -/
  committed : List WorkerDeathRecord := []

namespace EnhancedPublicationControl

variable (self : EnhancedPublicationControl)

def update (key : PublicationRef) (work : DeathCleanup) : EnhancedPublicationControl :=
  { self with deaths := self.deaths.set key work }

/-! ### Owner deaths -/

/-- `snapshot.fence is None`, and the fence is rejected. -/
def fence (death : WorkerDeathRecord) (snapshot : PublicationSnapshot)
    (valid : ValidFence snapshot.publication (.death death)) :
    Except String Unit × EnhancedPublicationControl :=
  if snapshot.fence ≠ none then (.ok (), self)
  else match self.authority.apply (.fencePublication ⟨snapshot.publication, .death death, valid⟩)
    with
    | (.error failure, after) => (.error failure.text, { self with authority := after })
    | (.ok reply, after) =>
      if reply.accepted then (.ok (), { self with authority := after })
      else (.error (reply.error.getD "owner death fence was rejected"),
        { self with authority := after })

/-- Fence the records one by one and file their duties. -/
def fenceRecords (self : EnhancedPublicationControl) (death : WorkerDeathRecord) :
    List PublicationSnapshot → Except String Unit × EnhancedPublicationControl
  | [] => (.ok (), self)
  | snapshot :: rest =>
    if valid : ValidFence snapshot.publication (.death death) then
      match self.fence death snapshot valid with
      | (.error raised, after) => (.error raised, after)
      | (.ok (), after) =>
        match after.deaths.get? snapshot.reference with
        | none => (after.update snapshot.reference
            ⟨snapshot.publication, death, valid, .empty, .empty, snapshot.closedHolds, false,
              false, false, none⟩).fenceRecords death rest
        | some work =>
          if work.death ≠ death ∨ work.publication ≠ snapshot.publication then
            (.error "publication owner death was rebound", after)
          else after.fenceRecords death rest
    else (.error "death fence names another publication owner", self)

def forOwner (owner : WorkerID) : List PublicationSnapshot :=
  self.authority.records.values.filter fun snapshot => snapshot.publication.ownerWorkerId = owner

/-- Idempotent local admission of one owner death. -/
def commitOwnerDeath (workers : WorkerTable) (death : WorkerDeathRecord) :
    Except String Unit × EnhancedPublicationControl :=
  match validatedDeath workers death with
  | .error raised => (.error raised, self)
  | .ok _ =>
    match self.fenceRecords death (self.forOwner death.workerId) with
    | (.error raised, after) => (.error raised, after)
    | (.ok (), after) => (.ok (), { after with committed := after.committed ++ [death] })

/-! ### Requests -/

/-- The death of a late fence, whose record is already fenced by another proof. -/
def lateDeath (workers : WorkerTable) (snapshot : Option PublicationSnapshot) :
    PublicationRequest → Except String (Option WorkerDeathRecord)
  | .fencePublication ⟨publication, .death proof, _⟩ => do
      let _ ← validatedDeath workers proof
      raiseIf (proof.workerId ≠ publication.ownerWorkerId)
        "publication death names another owner"
      return if snapshot.any fun snapshot => snapshot.publication = publication ∧
        snapshot.fence ≠ none ∧ snapshot.fence ≠ some (.death proof) then some proof else none
  | _ => .ok none

/-- Stages that open a publication need its owner alive, and a Task's publisher too. -/
def gated : PublicationRequest → Bool
  | .beginPublication _ | .prepareGraph _ | .armTask _ => true
  | _ => false

/-- The membership checks before a mutation reaches the authority. -/
def checkOpen (nodes : NodeRegistry) (workers : WorkerTable)
    (snapshot : Option PublicationSnapshot) (request : PublicationRequest) :
    Except String Unit := do
  let publication := request.publication <|> snapshot.map PublicationSnapshot.publication
  let fresh := request.stage.all fun stage => snapshot.all fun s => s.receipt stage = none
  match request with
  | .retireGraph closedHolds =>
    checkAll (fun death => (validatedDeath workers death).map fun _ => ()) closedHolds.childDeaths
  | .commitGraph commit =>
    if fresh then do
      checkSome (fun p : Publication => requireOwnerOpen nodes workers p.ownerWorkerId)
        publication
      checkSome (requireNodeOpen nodes)
        (commit.putPrepared.bind fun p => p.materialization.nodeIncarnation)
    else pure ()
  | request =>
    if gated request ∧ fresh then
      checkSome (fun p : Publication => do
        requireOwnerOpen nodes workers p.ownerWorkerId
        match p with
        | .task task => requirePublisherOpen nodes workers task.manifest.header
        | .put _ => pure ()) publication
    else pure ()

def unavailable (request : PublicationRequest) (text : String) : PublicationReply :=
  .reject request none .unavailable text

/-- Serve one request under the membership lock. -/
def handle (nodes : NodeRegistry) (workers : WorkerTable) (request : PublicationRequest) :
    Except String PublicationReply × EnhancedPublicationControl :=
  match (self.authority.apply (.getPublication request.reference)).1 with
  | .error failure => (.error failure.text, self)
  | .ok query =>
    if query.accepted = false then
      (.ok { query with request := request, snapshot := none }, self)
    else
    let snapshot := query.snapshot
    if request.admitting = true ∧ self.admissionClosed = true ∧
        snapshot.all (fun s => s.receipt .intent = none) then
      (.ok (.reject request none .invalidState "GCS shutdown closed new publication admission"),
        self)
    else match lateDeath workers snapshot request with
    | .error raised => (.ok (unavailable request raised), self)
    | .ok (some death) =>
      -- a later death schedules cleanup without rebinding the first decision
      match self.commitOwnerDeath workers death with
      | (.error raised, after) => (.ok (unavailable request raised), after)
      | (.ok (), after) =>
        (.ok (.accept request snapshot (snapshot.bind fun s => s.receipt .fenced)), after)
    | .ok none =>
      match checkOpen nodes workers snapshot request with
      | .error raised => (.ok (unavailable request raised), self)
      | .ok () =>
        match self.authority.apply request with
        | (.error failure, next) => (.error failure.text, { self with authority := next })
        | (.ok reply, next) =>
          let after : EnhancedPublicationControl := { self with authority := next }
          match reply.accepted && request.stage.isSome, reply.snapshot with
          | true, some snapshot =>
            match ownerDeath? workers snapshot.publication.ownerWorkerId with
            | .error raised => (.error raised, after)
            | .ok none => (.ok reply, after)
            | .ok (some death) =>
              match after.commitOwnerDeath workers death with
              | (.error raised, later) => (.error raised, later)
              | (.ok (), later) => (.ok reply, later)
          | _, _ => (.ok reply, after)

/-- Permanently reject new publications. -/
def closeAdmission : EnhancedPublicationControl := { self with admissionClosed := true }

def pendingDeaths : List PublicationRef :=
  (self.deaths.items.filter fun item => item.2.finished = false).map Prod.fst

/-! ### The driver -/

/-- Pick the next idle duty, round robin. -/
def driveOne : EnhancedPublicationControl :=
  let pending := self.deaths.items.filter fun item =>
    item.2.finished = false ∧ item.2.phase = none
  match pending[self.cursor % pending.length]? with
  | none => self
  | some (key, work) => { self.update key { work with phase := some work.firstPhase } with
      cursor := self.cursor + 1 }

/-- The confirmed loss of a Task's publishing Node. -/
def nodeDeath (nodes : NodeRegistry) (manifest : OutputPublicationManifest) :
    Except String Bool := do
  let incarnation := manifest.header.nodeIncarnation
  let node ← getNode nodes incarnation.nodeId
  raiseIf ((node.nodePid, node.registrationEpoch) ≠
    (incarnation.nodePid, incarnation.registrationEpoch)) "publishing Node incarnation changed"
  if node.state = .dead then do
    raiseIf (node.death.all fun death => death.reason ≠ .processExit)
      "expected Node exit cannot hide publication cleanup"
    return true
  else return false

/-- A narrow fence closes late writes without completing the owner-wide sweep. -/
def publicationFence (work : DeathCleanup) (nodeId : NodeID) : InstallOwnerDeathFence where
  requestId := "publication-fence:" ++ work.publication.reference.digest ++ ":" ++
    work.death.detectionId
  ownerDeath := work.death
  nodeId := nodeId
  expectedReplicas := []
  scope := .publicationExact
  request_ne := by simp [String.append_eq_empty_iff]
  confirmed := work.valid.2.1
  own := by simp
  unique := List.nodup_nil
  sweep := fun _ => rfl

/-- The first locked section: a lost Node needs no calls. -/
def inspect (nodes : NodeRegistry) (work : DeathCleanup) : DeathCleanup :=
  match hpublication : work.publication with
  | .put _ => { work with phase := some work.reopens }
  | .task task =>
    match nodeDeath nodes task.manifest with
    | .error _ => { work with phase := none }
    | .ok true => { work with nodeFinalized := true, phase := some work.reopens }
    | .ok false => { work with phase := some (
        if work.nodeFenced then .finalizing ⟨task.manifest, work.death, work.valid.1, by
          have howner := work.valid.2.2
          rwa [hpublication] at howner⟩
        else .fencing (publicationFence work task.manifest.header.nodeIncarnation.nodeId)) }

/-- The next hold to settle: its owner's death is recorded, or its release is sent. -/
def choose (workers : WorkerTable) (work : DeathCleanup) : DeathCleanup :=
  match work.publication.releaseRequests.find? fun request => !work.resolves request with
  | none => { work with phase := some .assembling }
  | some request =>
    match ownerDeath? workers request.ownerWorkerId with
    | .error _ => { work with phase := none }
    | .ok (some death) => { work with
        childDeaths := work.childDeaths.set request.ownerWorkerId death, phase := none }
    | .ok none => { work with phase := some (.releasing request) }

/-- Every hold is settled, or the round ends. -/
def assemble (work : DeathCleanup) : DeathCleanup :=
  if work.publication.releaseRequests.any fun request => !work.resolves request then
    { work with phase := none }
  else match ClosedContainedHolds.assemble work.publication.reference work.releases.values
      work.childDeaths.values with
    | .error _ => { work with phase := none }
    | .ok closed => { work with closedHolds := some closed, phase := some .settling }

/-- Retire the record; the duty ends once the owner-wide sweep is complete as well. -/
def settle (fences : OwnerDeathFenceRegistry) (key : PublicationRef) (work : DeathCleanup) :
    EnhancedPublicationControl :=
  let idle := self.update key { work with phase := none }
  let finish (control : EnhancedPublicationControl) : EnhancedPublicationControl :=
    if fences.pendingForOwner work.death.workerId ≠ [] then control
    else control.update key { work with phase := none, finished := true }
  match (self.authority.apply (.getPublication work.publication.reference)).1 with
  | .error _ => idle
  | .ok query =>
    match query.snapshot, work.closedHolds with
    | none, _ => idle
    | some snapshot, closedHolds =>
      if (snapshot.receipt .retired).isSome then finish idle
      else match closedHolds with
        | none => idle
        | some closed =>
          match self.authority.apply (.retireGraph closed) with
          | (.error _, next) => { idle with authority := next }
          | (.ok reply, next) =>
            if reply.accepted then finish { idle with authority := next }
            else { idle with authority := next }

/-- The next locked section of a driver. -/
def advance (nodes : NodeRegistry) (workers : WorkerTable) (fences : OwnerDeathFenceRegistry)
    (key : PublicationRef) : EnhancedPublicationControl :=
  match self.deaths.get? key with
  | none => self
  | some work =>
    match work.phase with
    | some .inspecting => self.update key (inspect nodes work)
    | some .choosing => self.update key (choose workers work)
    | some .assembling => self.update key (assemble work)
    | some .settling => self.settle fences key work
    | _ => self

/-- What the Node or a child's owner answers. -/
inductive DriveReply
  | fence (outcome : RpcOutcome InstallOwnerDeathFenceReply)
  | finalize (outcome : RpcOutcome FinalizeOutputOwnerDeathReply)
  | release (outcome : RpcOutcome ReleaseContainedReferenceReply)

/-- The Node's receipt, if it is exact and its child deaths are committed. -/
def closedBy (workers : WorkerTable) (work : DeathCleanup) (request : FinalizeOutputOwnerDeath)
    (reply : FinalizeOutputOwnerDeathReply) : Option ClosedContainedHolds :=
  match reply.closedHolds with
  | none => none
  | some closed =>
    if reply.request ≠ request ∨ reply.cleaned = false ∨
        closed.reference ≠ work.publication.reference then none
    else match checkAll (fun death => (validatedDeath workers death).map fun _ => ())
        closed.childDeaths with
      | .error _ => none
      | .ok () => some closed

/-- The answer ends a round, except that an unsettled release is looked at again. -/
def receive (workers : WorkerTable) (work : DeathCleanup) : DriveReply → DeathCleanup
  | .fence outcome =>
    match work.phase, outcome with
    | some (.fencing request), .replied reply => { work with
        phase := none
        nodeFenced := work.nodeFenced || (reply.request = request && reply.accepted) }
    | some (.fencing _), _ => { work with phase := none }
    | _, _ => work
  | .finalize outcome =>
    match work.phase, outcome with
    | some (.finalizing request), .replied reply =>
      match closedBy workers work request reply with
      | none => { work with phase := none }
      | some closed => { work with
          closedHolds := some closed, nodeFinalized := true, phase := none }
    | some (.finalizing _), _ => { work with phase := none }
    | _, _ => work
  | .release outcome =>
    match work.phase, outcome with
    | some (.releasing _), .raised => { work with phase := none }
    | some (.releasing _), .malformed => { work with phase := some .assembling }
    | some (.releasing request), .replied reply =>
      if reply.accepted = false ∨ (reply.objectId, reply.ownerWorkerId, reply.hold) ≠
          (request.objectId, request.ownerWorkerId, request.hold) then
        { work with phase := some .assembling }
      else { work with releases := work.releases.set request reply, phase := none }
    | _, _ => work

def deliver (workers : WorkerTable) (key : PublicationRef) (reply : DriveReply) :
    EnhancedPublicationControl :=
  match self.deaths.get? key with
  | none => self
  | some work => self.update key (receive workers work reply)

end EnhancedPublicationControl

end MiniRay
