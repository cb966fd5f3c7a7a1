import Mathlib.Data.List.Sort
import MiniRay.Library.Checked
import MiniRay.Library.Dict
import MiniRay.Library.Run
import MiniRay.PublicationSources

/-! The request that closes the late writes of a dead owner on one live Node, the Node's reply, and
the outbox item between them. -/

namespace MiniRay

open Checked

/-! ## The wire -/

/-- A publication fence observes its own replicas; an owner-wide one sweeps what it finds. -/
inductive OwnerDeathFenceScope
  | publicationExact
  | ownerWideSweep
  deriving DecidableEq

/-- Install one permanent Worker-owner fence and process its scope. -/
@[ext] structure InstallOwnerDeathFence where
  requestId : String
  ownerDeath : WorkerDeathRecord
  nodeId : NodeID
  expectedReplicas : List ObjectStoreDescriptor
  scope : OwnerDeathFenceScope
  request_ne : requestId ≠ ""
  confirmed : ownerDeath.ConfirmedExit
  own : ∀ d ∈ expectedReplicas, d.ownerWorkerId = ownerDeath.workerId ∧ d.nodeId = nodeId
  unique : (expectedReplicas.map ObjectStoreDescriptor.objectId).Nodup
  sweep : scope = .ownerWideSweep → expectedReplicas = []

instance : DecidableEq InstallOwnerDeathFence := byFields InstallOwnerDeathFence.ext_iff

inductive OwnerDeathReplicaStatus
  | present
  | absent
  | conflict
  | pinned
  deriving DecidableEq

structure OwnerDeathReplicaObservation where
  descriptor : ObjectStoreDescriptor
  status : OwnerDeathReplicaStatus
  pinCount : Nat
  pins : status = .pinned ↔ pinCount ≠ 0
  deriving DecidableEq

inductive OwnerDeathFenceDisposition
  | fenced
  | conflict
  deriving DecidableEq

def InstallOwnerDeathFence.Observes (request : InstallOwnerDeathFence)
    (observed : List ObjectStoreDescriptor) : Prop :=
  match request.scope with
  | .publicationExact => observed = request.expectedReplicas
  | .ownerWideSweep =>
    (∀ d ∈ observed, d.ownerWorkerId = request.ownerDeath.workerId ∧
      d.nodeId = request.nodeId) ∧
      (observed.map ObjectStoreDescriptor.objectId).Pairwise (· < ·)

instance (request : InstallOwnerDeathFence) (observed : List ObjectStoreDescriptor) :
    Decidable (request.Observes observed) := by
  unfold InstallOwnerDeathFence.Observes
  cases request.scope <;> exact inferInstance

/-- Exact cached fence result, including its atomic replica witness. -/
structure InstallOwnerDeathFenceReply where
  request : InstallOwnerDeathFence
  disposition : OwnerDeathFenceDisposition
  observations : List OwnerDeathReplicaObservation
  error : Option String
  fenced : disposition = .fenced → error = none ∧
    request.Observes (observations.map OwnerDeathReplicaObservation.descriptor)
  conflicting : disposition = .conflict → observations = [] ∧ error ≠ none ∧ error ≠ some ""
  deriving DecidableEq

namespace InstallOwnerDeathFenceReply

def accepted (self : InstallOwnerDeathFenceReply) : Bool := self.disposition = .fenced

/-- A sweep is terminal only after every candidate is proven absent. -/
def complete (self : InstallOwnerDeathFenceReply) : Bool :=
  self.accepted && match self.request.scope with
    | .publicationExact => true
    | .ownerWideSweep => self.observations.all fun observation => observation.status = .absent

end InstallOwnerDeathFenceReply

/-! ## The outbox -/

inductive OwnerDeathFenceErrorKind
  | conflict
  | state
  | unknownEffect
  deriving DecidableEq

structure OwnerDeathFenceError where
  kind : OwnerDeathFenceErrorKind
  message : String

/-- Exact live Node target retained across outbox replay. -/
@[ext] structure OwnerFenceNodeIncarnation where
  nodeId : NodeID
  nodePid : Nat
  registrationEpoch : Nat
  positive : 0 < nodePid ∧ 0 < registrationEpoch

instance : DecidableEq OwnerFenceNodeIncarnation := byFields OwnerFenceNodeIncarnation.ext_iff

instance : LinearOrder OwnerFenceNodeIncarnation :=
  LinearOrder.lift' (fun t => toLex (t.nodeId, toLex (t.nodePid, t.registrationEpoch)))
    fun a b h => by cases a; cases b; simp_all

/-- One owner death crossed with one exact live Node incarnation. -/
structure OwnerDeathFenceKey where
  ownerWorkerId : WorkerID
  target : OwnerFenceNodeIncarnation
  deriving DecidableEq

def decimal (n : Int) : List UInt8 := utf8 (toString n)

/-- The request ID spells out both identities. -/
def fenceRequestId (death : WorkerDeathRecord) (target : OwnerFenceNodeIncarnation) : String :=
  "owner-death-global-fence:" ++ Sha256.hexdigest
    (utf8 "miniray-owner-death-global-fence-v1" ++ [0] ++ [utf8 death.detectionId,
      death.workerId.value.bytes, death.incarnation.nodeId.value.bytes,
      decimal death.incarnation.nodePid, decimal death.incarnation.nodeRegistrationEpoch,
      decimal death.incarnation.workerPid, decimal death.deathEpoch, decimal death.exitCode,
      utf8 death.reason.value, target.nodeId.value.bytes, decimal target.nodePid,
      decimal target.registrationEpoch].flatMap framed)

theorem append_ne_empty {head : String} (hhead : head.length ≠ 0) (tail : String) :
    head ++ tail ≠ "" := by
  intro hempty
  have hlength := congrArg String.length hempty
  rw [String.length_append, String.length_empty] at hlength
  omega

theorem fenceRequestId_ne (death : WorkerDeathRecord) (target : OwnerFenceNodeIncarnation) :
    fenceRequestId death target ≠ "" := by
  unfold fenceRequestId
  exact append_ne_empty (by decide) _

def ownerWideFence (death : WorkerDeathRecord) (target : OwnerFenceNodeIncarnation)
    (confirmed : death.ConfirmedExit) : InstallOwnerDeathFence where
  requestId := fenceRequestId death target
  ownerDeath := death
  nodeId := target.nodeId
  expectedReplicas := []
  scope := .ownerWideSweep
  request_ne := fenceRequestId_ne death target
  confirmed := confirmed
  own := by simp
  unique := by simp
  sweep := fun _ => rfl

/-- Immutable outbox item for one owner/Node cross product entry. -/
@[ext] structure OwnerDeathFenceEffect where
  key : OwnerDeathFenceKey
  ownerDeath : WorkerDeathRecord
  request : InstallOwnerDeathFence
  confirmed : ownerDeath.ConfirmedExit
  owner : ownerDeath.workerId = key.ownerWorkerId
  request_eq : request = ownerWideFence ownerDeath key.target confirmed

instance : DecidableEq OwnerDeathFenceEffect := byFields OwnerDeathFenceEffect.ext_iff

def checkOwnerDeath (death : WorkerDeathRecord) :
    Except OwnerDeathFenceError (PLift death.ConfirmedExit) :=
  certify death.ConfirmedExit ⟨.state, "owner fence requires PROCESS_EXIT or NODE_EXIT"⟩

def OwnerDeathFenceEffect.create (death : WorkerDeathRecord)
    (target : OwnerFenceNodeIncarnation) : Except OwnerDeathFenceError OwnerDeathFenceEffect := do
  let ⟨confirmed⟩ ← checkOwnerDeath death
  return ⟨⟨death.workerId, target⟩, death, ownerWideFence death target confirmed, confirmed, rfl,
    rfl⟩

/-! ## Completions -/

inductive OwnerDeathFenceTerminal
  | acknowledged
  | nodeDead
  deriving DecidableEq

/-- The reply cleans the exact effect for good. -/
def OwnerDeathFenceEffect.CleanedBy (effect : OwnerDeathFenceEffect)
    (reply : InstallOwnerDeathFenceReply) : Prop :=
  reply.request = effect.request ∧ reply.accepted = true ∧ reply.complete = true

instance (effect : OwnerDeathFenceEffect) (reply : InstallOwnerDeathFenceReply) :
    Decidable (effect.CleanedBy reply) := inferInstanceAs (Decidable (_ ∧ _))

/-- The death record names the exact target. -/
def OwnerFenceNodeIncarnation.DiedBy (target : OwnerFenceNodeIncarnation)
    (death : NodeDeathRecord) : Prop :=
  death.nodeId = target.nodeId ∧ death.nodePid = target.nodePid ∧
    death.registrationEpoch = target.registrationEpoch

instance (target : OwnerFenceNodeIncarnation) (death : NodeDeathRecord) :
    Decidable (target.DiedBy death) := inferInstanceAs (Decidable (_ ∧ _))

/-- Terminal proof for one exact owner-level fence effect. -/
structure OwnerDeathFenceCompletion where
  effect : OwnerDeathFenceEffect
  terminal : OwnerDeathFenceTerminal
  reply : Option InstallOwnerDeathFenceReply
  nodeDeath : Option NodeDeathRecord
  acknowledged : terminal = .acknowledged → nodeDeath = none ∧ reply ≠ none
  node_dead : terminal = .nodeDead → reply = none ∧ nodeDeath ≠ none
  cleaned : ∀ r, reply = some r → effect.CleanedBy r
  died : ∀ d, nodeDeath = some d → effect.key.target.DiedBy d ∧ d.reason = .processExit
  deriving DecidableEq

namespace OwnerDeathFenceCompletion

def ofReply (effect : OwnerDeathFenceEffect) (reply : InstallOwnerDeathFenceReply) :
    Except OwnerDeathFenceError OwnerDeathFenceCompletion := do
  let ⟨cleaned⟩ ← certify (effect.CleanedBy reply)
    ⟨.state, "fence acknowledgement did not terminally clean the exact effect"⟩
  return ⟨effect, .acknowledged, some reply, none, by simp, by simp, by simpa using cleaned,
    by simp⟩

def checkNodeDeath (death : NodeDeathRecord) :
    Except OwnerDeathFenceError (PLift (death.reason = .processExit)) :=
  certify (death.reason = .processExit)
    ⟨.state, "owner fence Node-loss proof requires PROCESS_EXIT"⟩

def ofNodeDeath (effect : OwnerDeathFenceEffect) (death : NodeDeathRecord) :
    Except OwnerDeathFenceError OwnerDeathFenceCompletion := do
  let ⟨exited⟩ ← checkNodeDeath death
  let ⟨died⟩ ← certify (effect.key.target.DiedBy death)
    ⟨.conflict, "Node death proof names another fence target incarnation"⟩
  return ⟨effect, .nodeDead, none, some death, by simp, by simp, by simp,
    by simpa using ⟨died, exited⟩⟩

end OwnerDeathFenceCompletion

end MiniRay

/-! ## The owner-death fence registry

An outbox for cluster-wide owner-death sweeps: every owner death is crossed with every live
Node, in whichever order the two arrive. -/

namespace MiniRay

def OwnerDeathFenceEffect.order (effect : OwnerDeathFenceEffect) :
    Nat ×ₗ WorkerID ×ₗ NodeID ×ₗ Nat :=
  toLex (effect.ownerDeath.deathEpoch, toLex (effect.key.ownerWorkerId,
    toLex (effect.key.target.nodeId, effect.key.target.registrationEpoch)))

def WorkerDeathRecord.order (death : WorkerDeathRecord) : Nat ×ₗ WorkerID :=
  toLex (death.deathEpoch, death.workerId)

structure OwnerDeathFenceRegistry where
  liveNodes : Dict NodeID OwnerFenceNodeIncarnation
  nodeDeaths : Dict NodeID NodeDeathRecord
  ownerDeaths : Dict WorkerID WorkerDeathRecord
  detectionIds : Dict String WorkerDeathRecord
  deathEpochs : Dict Nat WorkerDeathRecord
  effects : Dict OwnerDeathFenceKey OwnerDeathFenceEffect
  completions : Dict OwnerDeathFenceKey OwnerDeathFenceCompletion

namespace OwnerDeathFenceRegistry

def empty : OwnerDeathFenceRegistry := ⟨.empty, .empty, .empty, .empty, .empty, .empty, .empty⟩

/-! ## Views -/

def orderedLiveNodes (self : OwnerDeathFenceRegistry) : List OwnerFenceNodeIncarnation :=
  self.liveNodes.values.insertionSort fun a b => a ≤ b

def orderedOwnerDeaths (self : OwnerDeathFenceRegistry) : List WorkerDeathRecord :=
  self.ownerDeaths.values.insertionSort fun a b => a.order ≤ b.order

def orderedEffects (self : OwnerDeathFenceRegistry) : List OwnerDeathFenceEffect :=
  self.effects.values.insertionSort fun a b => a.order ≤ b.order

def orderedCompletions (self : OwnerDeathFenceRegistry) : List OwnerDeathFenceCompletion :=
  self.orderedEffects.filterMap fun effect => self.completions.get? effect.key

def pending (self : OwnerDeathFenceRegistry) : List OwnerDeathFenceEffect :=
  self.orderedEffects.filter fun effect => (self.completions.get? effect.key).isNone

def pendingForNode (self : OwnerDeathFenceRegistry) (target : OwnerFenceNodeIncarnation) :
    List OwnerDeathFenceEffect :=
  self.orderedEffects.filter fun effect =>
    effect.key.target = target && (self.completions.get? effect.key).isNone

def pendingForOwner (self : OwnerDeathFenceRegistry) (ownerWorkerId : WorkerID) :
    List OwnerDeathFenceEffect :=
  self.orderedEffects.filter fun effect =>
    effect.key.ownerWorkerId = ownerWorkerId && (self.completions.get? effect.key).isNone

/-- Whether this live incarnation has every historical owner fence. -/
def nodeBootstrapComplete (self : OwnerDeathFenceRegistry)
    (target : OwnerFenceNodeIncarnation) : Bool :=
  if self.liveNodes.get? target.nodeId ≠ some target then false
  else (self.pendingForNode target).isEmpty

/-! ## Calls -/

def installEffect (self : OwnerDeathFenceRegistry) (death : WorkerDeathRecord)
    (target : OwnerFenceNodeIncarnation) :
    Except OwnerDeathFenceError OwnerDeathFenceEffect × OwnerDeathFenceRegistry :=
  match OwnerDeathFenceEffect.create death target with
  | .error raised => (.error raised, self)
  | .ok effect =>
    match self.effects.get? effect.key with
    | some previous =>
      if previous ≠ effect then
        (.error ⟨.conflict, "owner/Node fence identity changed on replay"⟩, self)
      else (.ok previous, self)
    | none => (.ok effect, { self with effects := self.effects.set effect.key effect })

def installEffects (self : OwnerDeathFenceRegistry) :
    List (WorkerDeathRecord × OwnerFenceNodeIncarnation) →
      Except OwnerDeathFenceError Unit × OwnerDeathFenceRegistry
  | [] => (.ok (), self)
  | (death, target) :: rest =>
    match self.installEffect death target with
    | (.error raised, after) => (.error raised, after)
    | (.ok _, after) => after.installEffects rest

def addNode (self : OwnerDeathFenceRegistry) (target : OwnerFenceNodeIncarnation) :
    OwnerDeathFenceRegistry :=
  { self with liveNodes := self.liveNodes.set target.nodeId target }

def addOwnerDeath (self : OwnerDeathFenceRegistry) (death : WorkerDeathRecord) :
    OwnerDeathFenceRegistry :=
  { self with
    ownerDeaths := self.ownerDeaths.set death.workerId death
    detectionIds := self.detectionIds.set death.detectionId death
    deathEpochs := self.deathEpochs.set death.deathEpoch death }

def dropNode (self : OwnerDeathFenceRegistry) (death : NodeDeathRecord) :
    OwnerDeathFenceRegistry :=
  { self with
    liveNodes := self.liveNodes.erase death.nodeId
    nodeDeaths := self.nodeDeaths.set death.nodeId death }

def complete (self : OwnerDeathFenceRegistry) (completion : OwnerDeathFenceCompletion) :
    OwnerDeathFenceRegistry :=
  { self with completions := self.completions.set completion.effect.key completion }

/-- Register a live Node and enqueue historical fences; returns its remaining work. -/
def registerNode (self : OwnerDeathFenceRegistry) (target : OwnerFenceNodeIncarnation) :
    Except OwnerDeathFenceError (List OwnerDeathFenceEffect) × OwnerDeathFenceRegistry :=
  if (self.liveNodes.get? target.nodeId).any (· ≠ target) then
    (.error ⟨.conflict, "live NodeID is already bound to another incarnation"⟩, self)
  else if (self.nodeDeaths.get? target.nodeId).isSome then
    (.error ⟨.conflict, "dead NodeID cannot be registered again"⟩, self)
  else
    match (self.addNode target).installEffects
        ((self.addNode target).orderedOwnerDeaths.map (·, target)) with
    | (.error raised, after) => (.error raised, after)
    | (.ok _, after) => (.ok (after.pendingForNode target), after)

/-- Freeze one owner death and enqueue every current live Node. -/
def commitOwnerDeath (self : OwnerDeathFenceRegistry) (death : WorkerDeathRecord) :
    Except OwnerDeathFenceError (List OwnerDeathFenceEffect) × OwnerDeathFenceRegistry :=
  match checkOwnerDeath death with
  | .error raised => (.error raised, self)
  | .ok _ =>
    match self.ownerDeaths.get? death.workerId with
    | some previous =>
      if previous ≠ death then
        (.error ⟨.conflict, "owner Worker is already bound to another death proof"⟩, self)
      else (.ok (self.pendingForOwner death.workerId), self)
    | none =>
      if (self.detectionIds.get? death.detectionId).any (· ≠ death) then
        (.error ⟨.conflict, "Worker death detection_id was rebound"⟩, self)
      else if (self.deathEpochs.get? death.deathEpoch).any (· ≠ death) then
        (.error ⟨.conflict, "Worker death epoch was rebound"⟩, self)
      else
        match (self.addOwnerDeath death).installEffects
            ((self.addOwnerDeath death).orderedLiveNodes.map (death, ·)) with
        | (.error raised, after) => (.error raised, after)
        | (.ok _, after) => (.ok (after.pendingForOwner death.workerId), after)

/-- Acknowledge only the exact canonical effect and echoed reply. -/
def acknowledge (self : OwnerDeathFenceRegistry) (effect : OwnerDeathFenceEffect)
    (reply : InstallOwnerDeathFenceReply) :
    Except OwnerDeathFenceError OwnerDeathFenceCompletion × OwnerDeathFenceRegistry :=
  match self.effects.get? effect.key with
  | none => (.error ⟨.unknownEffect, "owner-death fence effect was not admitted"⟩, self)
  | some canonical =>
    if canonical ≠ effect then
      (.error ⟨.conflict, "owner-death fence effect changed on acknowledgement"⟩, self)
    else match OwnerDeathFenceCompletion.ofReply canonical reply with
      | .error raised => (.error raised, self)
      | .ok completion =>
        match self.completions.get? effect.key with
        | some previous =>
          -- a late acknowledgement does not rebind the death-bound terminal
          if previous.terminal = .nodeDead then (.ok previous, self)
          else if previous ≠ completion then
            (.error ⟨.conflict, "owner-death fence terminal proof changed on replay"⟩, self)
          else (.ok previous, self)
        | none => (.ok completion, self.complete completion)

def completeEffects (self : OwnerDeathFenceRegistry) (target : OwnerFenceNodeIncarnation)
    (death : NodeDeathRecord) : List OwnerDeathFenceEffect →
      Except OwnerDeathFenceError (List OwnerDeathFenceCompletion) × OwnerDeathFenceRegistry
  | [] => (.ok [], self)
  | effect :: rest =>
    if effect.key.target ≠ target ∨ (self.completions.get? effect.key).isSome then
      self.completeEffects target death rest
    else match OwnerDeathFenceCompletion.ofNodeDeath effect death with
      | .error raised => (.error raised, self)
      | .ok completion =>
        match (self.complete completion).completeEffects target death rest with
        | (.error raised, after) => (.error raised, after)
        | (.ok later, after) => (.ok (completion :: later), after)

/-- Discharge unreachable target effects with exact Node death. -/
def markNodeDead (self : OwnerDeathFenceRegistry) (death : NodeDeathRecord) :
    Except OwnerDeathFenceError (List OwnerDeathFenceCompletion) × OwnerDeathFenceRegistry :=
  match OwnerDeathFenceCompletion.checkNodeDeath death with
  | .error raised => (.error raised, self)
  | .ok _ =>
    match self.nodeDeaths.get? death.nodeId with
    | some previous =>
      if previous ≠ death then
        (.error ⟨.conflict, "NodeID is already bound to another death proof"⟩, self)
      else (.ok (self.orderedCompletions.filter fun completion =>
        completion.effect.key.target.nodeId = death.nodeId &&
          completion.terminal = .nodeDead), self)
    | none =>
      match self.liveNodes.get? death.nodeId with
      | none =>
        (.error ⟨.state, "Node death does not name a registered live target"⟩, self)
      | some target =>
        if death.nodePid ≠ target.nodePid ∨
            death.registrationEpoch ≠ target.registrationEpoch then
          (.error ⟨.conflict, "Node death proof names another registered incarnation"⟩, self)
        else
          (self.dropNode death).completeEffects target death
            (self.dropNode death).orderedEffects

/-! ## Runs -/

inductive Op
  | registerNode (target : OwnerFenceNodeIncarnation)
  | commitOwnerDeath (death : WorkerDeathRecord)
  | acknowledge (effect : OwnerDeathFenceEffect) (reply : InstallOwnerDeathFenceReply)
  | markNodeDead (death : NodeDeathRecord)

inductive Reply
  | effects (effects : List OwnerDeathFenceEffect)
  | completions (completions : List OwnerDeathFenceCompletion)

def call (self : OwnerDeathFenceRegistry) :
    Op → Except OwnerDeathFenceError Reply × OwnerDeathFenceRegistry
  | .registerNode target =>
    let (result, after) := self.registerNode target
    (result.map .effects, after)
  | .commitOwnerDeath death =>
    let (result, after) := self.commitOwnerDeath death
    (result.map .effects, after)
  | .acknowledge effect reply =>
    let (result, after) := self.acknowledge effect reply
    (result.map fun completion => .completions [completion], after)
  | .markNodeDead death =>
    let (result, after) := self.markNodeDead death
    (result.map .completions, after)

def step (self : OwnerDeathFenceRegistry) (op : Op) : OwnerDeathFenceRegistry := (self.call op).2

end OwnerDeathFenceRegistry

end MiniRay
