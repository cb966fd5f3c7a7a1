import MiniRay.Control.NodeLifetimes
import MiniRay.Control.WorkerLifetimes
import MiniRay.EnhancedPublication.Control
import MiniRay.Resources.Ledger

/-! The control plane's registries under one lock: Nodes, Workers, the fence outbox and the
publications of dead owners, with the driver of the outbox and the consumers of the journal. -/

namespace MiniRay

@[ext] structure RegisterNode where
  nodeId : NodeID
  nodePid : Nat
  address : Address
  pid_pos : 0 < nodePid

instance : DecidableEq RegisterNode := byFields RegisterNode.ext_iff

/-- A reader of the death journal: its watermark and everything it was given. -/
structure DeathConsumer where
  watermark : Nat := 0
  seen : List WorkerDeathRecord := []

structure GcsMembership where
  nodes : NodeRegistry := {}
  workers : WorkerRegistry := {}
  ownerDeathFences : OwnerDeathFenceRegistry := .empty
  publicationControl : EnhancedPublicationControl := {}
  ownerFenceProgressCursor : Nat := 0
  ownerDeathProgressCursor : Nat := 0
  /-- The effects that calls of the driver carry. -/
  driving : Dict Nat OwnerDeathFenceEffect := .empty
  consumers : Dict Nat DeathConsumer := .empty

namespace GcsMembership

variable (self : GcsMembership)

/-! ## Handlers -/

/-- `register_node`: whether the registration was accepted. -/
def registerNode (message : RegisterNode) : Except String Bool × GcsMembership :=
  match self.nodes.register message.nodeId message.address message.nodePid message.pid_pos with
  | none => (.ok false, self)
  | some (_, nodes) =>
    match nodes.get? message.nodeId with
    | none => (.error "registered node is missing", { self with nodes := nodes })
    | some node =>
      match self.ownerDeathFences.registerNode node.incarnation with
      | (.error failure, fences) =>
        (.error failure.message, { self with nodes := nodes, ownerDeathFences := fences })
      | (.ok _, fences) =>
        (.ok true, { self with nodes := nodes, ownerDeathFences := fences })

/-- `unregister_node`, which leaves the fence outbox alone. -/
def unregisterNode (message : UnregisterNode) : ReportNodeDeathReply × GcsMembership :=
  let (reply, nodes) := self.nodes.reportDeath message.report
  (reply, { self with nodes := nodes })

def commitOwnerDeath (death : WorkerDeathRecord) : Except String Unit × GcsMembership :=
  match self.ownerDeathFences.commitOwnerDeath death with
  | (.error failure, fences) =>
    (.error failure.message, { self with ownerDeathFences := fences })
  | (.ok _, fences) =>
    let (result, control) := self.publicationControl.commitOwnerDeath self.workers.workers death
    (result, { self with ownerDeathFences := fences, publicationControl := control })

def commitOwnerDeaths (self : GcsMembership) :
    List WorkerDeathRecord → Except String Unit × GcsMembership
  | [] => (.ok (), self)
  | death :: rest =>
    match self.commitOwnerDeath death with
    | (.error raised, after) => (.error raised, after)
    | (.ok (), after) => after.commitOwnerDeaths rest

/-- Only a confirmed process exit discharges the Node's effects. -/
def markNodeDead (death : NodeDeathRecord) : Except String Unit × GcsMembership :=
  if death.reason = .processExit ∧ (self.ownerDeathFences.liveNodes.get? death.nodeId).isSome then
    let (result, fences) := self.ownerDeathFences.markNodeDead death
    ((result.map fun _ => ()).mapError OwnerDeathFenceError.message,
      { self with ownerDeathFences := fences })
  else (.ok (), self)

def reportNodeDeath (message : ReportNodeDeath) :
    Except String ReportNodeDeathReply × GcsMembership :=
  let (reply, nodes) := self.nodes.reportDeath message
  let self := { self with nodes := nodes }
  match reply.death with
  | none => (.ok reply, self)
  | some death =>
    match self.workers.failNode death with
    | (.error raised, workers) => (.error raised, { self with workers := workers })
    | (.ok committed, workers) =>
      match ({ self with workers := workers } : GcsMembership).commitOwnerDeaths committed with
      | (.error raised, after) => (.error raised, after)
      | (.ok (), after) =>
        let (result, after) := after.markNodeDead death
        (result.map fun _ => reply, after)

def registerWorkerIncarnation (incarnation : WorkerIncarnation) :
    RegisterWorkerIncarnationReply × GcsMembership :=
  let (reply, workers) := self.workers.register self.nodes incarnation
  (reply, { self with workers := workers })

def reportWorkerDeath (message : ReportWorkerDeath) :
    Except String ReportWorkerDeathReply × GcsMembership :=
  let (reply, workers) := self.workers.reportDeath message
  let self := { self with workers := workers }
  match reply.death with
  | none => (.ok reply, self)
  | some death =>
    if death.ConfirmedExit then
      let (result, after) := self.commitOwnerDeath death
      (result.map fun _ => reply, after)
    else (.ok reply, self)

/-! ## The driver -/

/-- `_drive_owner_death_fence_once`: take the next effect, or leave the turn to a publication. A
dead target has no address, so its call ends before it is sent. -/
def driveOnce (tid : Nat) : GcsMembership :=
  if (self.driving.get? tid).isSome then self else
  let pending := self.ownerDeathFences.pending
  let self := { self with ownerDeathProgressCursor := self.ownerDeathProgressCursor + 1 }
  if self.publicationControl.pendingDeaths ≠ [] ∧
      (pending = [] ∨ (self.ownerDeathProgressCursor - 1) % 2 = 1) then
    { self with publicationControl := self.publicationControl.driveOne }
  else match pending[self.ownerFenceProgressCursor % pending.length]? with
    | none => self
    | some effect =>
      let self := { self with ownerFenceProgressCursor := self.ownerFenceProgressCursor + 1 }
      if (self.nodes.get? effect.key.target.nodeId).any fun node => node.state = .alive then
        { self with driving := self.driving.set tid effect }
      else self

/-- Only an exact, accepted and complete echo is acknowledged. -/
def deliver (tid : Nat) (outcome : RpcOutcome InstallOwnerDeathFenceReply) : GcsMembership :=
  match self.driving.get? tid with
  | none => self
  | some effect =>
    let idle := { self with driving := self.driving.erase tid }
    match outcome with
    | .raised => idle
    | .malformed => idle
    | .replied reply =>
      if reply.request ≠ effect.request ∨ reply.accepted = false ∨ reply.complete = false then
        idle
      else { idle with
        ownerDeathFences := (self.ownerDeathFences.acknowledge effect reply).2 }

/-- One read of the journal from the consumer's watermark; the reply may get lost. -/
def poll (consumer : Nat) (lost : Bool) : GcsMembership :=
  let reader := (self.consumers.get? consumer).getD {}
  match self.workers.deathsAfter reader.watermark with
  | .error _ => self
  | .ok reply =>
    if lost then self
    else { self with
      consumers := self.consumers.set consumer ⟨reply.watermark, reader.seen ++ reply.deaths⟩ }

end GcsMembership

/-! ## Steps -/

inductive MembershipAction
  | registerNode (message : RegisterNode)
  | unregisterNode (message : UnregisterNode)
  | reportNodeDeath (message : ReportNodeDeath)
  | registerWorkerIncarnation (incarnation : WorkerIncarnation)
  | reportWorkerDeath (message : ReportWorkerDeath)
  | enhancedPublication (request : PublicationRequest)
  | driveOnce (tid : Nat)
  | deliver (tid : Nat) (outcome : RpcOutcome InstallOwnerDeathFenceReply)
  /-- The next section of a publication's cleanup, and what its call brings. -/
  | advancePublication (key : PublicationRef)
  | deliverPublication (key : PublicationRef) (reply : EnhancedPublicationControl.DriveReply)
  | poll (consumer : Nat) (lost : Bool)

def GcsMembership.step (s : GcsMembership) : MembershipAction → GcsMembership
  | .registerNode message => (s.registerNode message).2
  | .unregisterNode message => (s.unregisterNode message).2
  | .reportNodeDeath message => (s.reportNodeDeath message).2
  | .registerWorkerIncarnation incarnation => (s.registerWorkerIncarnation incarnation).2
  | .reportWorkerDeath message => (s.reportWorkerDeath message).2
  | .enhancedPublication request => { s with
      publicationControl :=
        (s.publicationControl.handle s.nodes s.workers.workers request).2 }
  | .driveOnce tid => s.driveOnce tid
  | .deliver tid outcome => s.deliver tid outcome
  | .advancePublication key => { s with
      publicationControl :=
        s.publicationControl.advance s.nodes s.workers.workers s.ownerDeathFences key }
  | .deliverPublication key reply => { s with
      publicationControl := s.publicationControl.deliver s.workers.workers key reply }
  | .poll consumer lost => s.poll consumer lost

end MiniRay

/-! ## Views of the cluster

The lists of Nodes that the control plane hands out: every live Node with a Node's death, and
the fenced ones among them to a reader. -/

namespace MiniRay

/-- One live physical Node incarnation used only as a scheduling hint. -/
structure NodeInfo where
  nodeId : NodeID
  nodePid : Nat
  registrationEpoch : Nat
  address : Address
  totalResources : ResourceVector
  availableResources : ResourceVector
  deriving DecidableEq

structure NodeRegistration extends RegisterNode where
  totalResources : ResourceVector
  availableResources : ResourceVector
  fits : availableResources.fitsIn totalResources = true

/-- A membership epoch and the Nodes listed with it. -/
structure MembershipView where
  membershipEpoch : Nat
  nodes : List NodeInfo

namespace OwnerDeathFenceRegistry

/-- Return live Nodes whose historical fence bootstrap is complete. -/
def cleanupSafeNodeIds (self : OwnerDeathFenceRegistry) : List NodeID :=
  (self.orderedLiveNodes.filter fun target => (self.pendingForNode target).isEmpty).map
    OwnerFenceNodeIncarnation.nodeId

end OwnerDeathFenceRegistry

/-- The membership with the capacities and detections that its replies carry. -/
structure ClusterMembership where
  gcs : GcsMembership := {}
  resources : Dict NodeID (ResourceVector × ResourceVector) := .empty
  deathReplies : Dict String MembershipView := .empty

namespace ClusterMembership

variable (self : ClusterMembership)

def nodeInfo (node : NodeSnapshot) : NodeInfo :=
  let (total, available) := (self.resources.get? node.nodeId).getD (.empty, .empty)
  ⟨node.nodeId, node.nodePid, node.registrationEpoch, node.address, total, available⟩

def liveNodeInfos : List NodeInfo :=
  let ordered := self.gcs.nodes.nodes.values.insertionSort fun a b => a.nodeId ≤ b.nodeId
  (ordered.filter fun node => node.state = .alive).map self.nodeInfo

def liveSnapshot : MembershipView := ⟨self.gcs.nodes.membershipEpoch, self.liveNodeInfos⟩

/-- `get_nodes`: the live Nodes that have every owner fence. -/
def getNodes : MembershipView :=
  let safe := self.gcs.ownerDeathFences.cleanupSafeNodeIds
  { self.liveSnapshot with
    nodes := self.liveNodeInfos.filter fun node => node.nodeId ∈ safe }

/-- Another capacity is a conflict like another address. -/
def registerNode (message : NodeRegistration) : ClusterMembership :=
  match self.gcs.nodes.get? message.nodeId with
  | some _ =>
    if (self.resources.get? message.nodeId).map Prod.fst ≠ some message.totalResources then self
    else { self with gcs := (self.gcs.registerNode message.toRegisterNode).2 }
  | none => { self with
      gcs := (self.gcs.registerNode message.toRegisterNode).2
      resources := self.resources.set message.nodeId
        (message.totalResources, message.availableResources) }

def reported (message : ReportNodeDeath) : ClusterMembership :=
  { self with gcs := { self.gcs with nodes := (self.gcs.nodes.reportDeath message).2 } }

/-- A detection is answered with the reply that it was given first. -/
def deathView (message : ReportNodeDeath) : MembershipView :=
  match self.gcs.nodes.deathDetections.get? message.detectionId with
  | some (prior, _) =>
    if prior = message then
      (self.deathReplies.get? message.detectionId).getD (self.reported message).liveSnapshot
    else (self.reported message).liveSnapshot
  | none => (self.reported message).liveSnapshot

def keptReplies (message : ReportNodeDeath) : Dict String MembershipView :=
  if (self.gcs.nodes.reportDeath message).1.disposition = .applied then
    self.deathReplies.set message.detectionId (self.deathView message)
  else self.deathReplies

def unregisterNode (message : UnregisterNode) : ClusterMembership :=
  { self with
    gcs := (self.gcs.unregisterNode message).2
    deathReplies := self.keptReplies message.report }

def reportNodeDeath (message : ReportNodeDeath) :
    Except String MembershipView × ClusterMembership :=
  let (result, gcs) := self.gcs.reportNodeDeath message
  (result.map fun _ => self.deathView message,
    { self with gcs := gcs, deathReplies := self.keptReplies message })

end ClusterMembership

/-! ## Steps -/

inductive ClusterAction
  | registerNode (message : NodeRegistration)
  | unregisterNode (message : UnregisterNode)
  | reportNodeDeath (message : ReportNodeDeath)
  | registerWorkerIncarnation (incarnation : WorkerIncarnation)
  | reportWorkerDeath (message : ReportWorkerDeath)
  | enhancedPublication (request : PublicationRequest)
  | driveOnce (tid : Nat)
  | deliver (tid : Nat) (outcome : RpcOutcome InstallOwnerDeathFenceReply)
  | advancePublication (key : PublicationRef)
  | deliverPublication (key : PublicationRef) (reply : EnhancedPublicationControl.DriveReply)
  | poll (consumer : Nat) (lost : Bool)
  | getNodes

def ClusterMembership.step (s : ClusterMembership) : ClusterAction → ClusterMembership
  | .registerNode message => s.registerNode message
  | .unregisterNode message => s.unregisterNode message
  | .reportNodeDeath message => (s.reportNodeDeath message).2
  | .registerWorkerIncarnation i => { s with gcs := s.gcs.step (.registerWorkerIncarnation i) }
  | .reportWorkerDeath message => { s with gcs := s.gcs.step (.reportWorkerDeath message) }
  | .enhancedPublication request => { s with gcs := s.gcs.step (.enhancedPublication request) }
  | .driveOnce tid => { s with gcs := s.gcs.step (.driveOnce tid) }
  | .deliver tid outcome => { s with gcs := s.gcs.step (.deliver tid outcome) }
  | .advancePublication key => { s with gcs := s.gcs.step (.advancePublication key) }
  | .deliverPublication key reply => { s with gcs := s.gcs.step (.deliverPublication key reply) }
  | .poll consumer lost => { s with gcs := s.gcs.step (.poll consumer lost) }
  | .getNodes => s

/-- A view as it is handed out, with the live Nodes of its epoch and those it may list. -/
structure HandedOut where
  view : MembershipView
  live : List NodeInfo
  shown : NodeID → Bool

def ClusterMembership.views (s : ClusterMembership) : ClusterAction → List HandedOut
  | .reportNodeDeath message =>
    match (s.reportNodeDeath message).1 with
    | .ok view => [⟨view, view.nodes, fun _ => true⟩]
    | .error _ => []
  | .getNodes => [⟨s.getNodes, s.liveNodeInfos,
      fun id => id ∈ s.gcs.ownerDeathFences.cleanupSafeNodeIds⟩]
  | _ => []

end MiniRay
