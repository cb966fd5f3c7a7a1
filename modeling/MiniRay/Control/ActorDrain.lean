import MiniRay.Control.ActorRuns

/-! A drain closes admission, drives every active Actor once, retries the queued owner installs and
reports what is still active. Each of its reads is a section of its own. -/

namespace MiniRay

open Run

inductive DrainCall
  | listing
  | flushing (publications : List (ActorID × ActorSnapshot)) (draining : Bool)
  | reading
  | read (active : List ActorID)

structure ActorDrain where
  coordinator : ActorCoordinator := {}
  calls : Dict Nat DrainCall := .empty
  /-- What `drain_once` returned, latest first. -/
  returns : List (List ActorID) := []

inductive DrainAction
  | act (action : ActorAction)
  | closeAdmission
  | drainOnce (tid : Nat)
  /-- The next section of a call; `installed` is the answer of the owner it asks. -/
  | proceed (tid : Nat) (installed : Bool)

/-- The thread that an action starts or moves. -/
def ActorAction.tid : ActorAction → Option Nat
  | .registerNode _ _ _ _ => none
  | .create tid _ | .reportWorkerExit tid _ | .drainOnce tid | .reportNodeDeath tid _ |
    .unregisterNode tid _ | .advance tid _ => some tid

/-- The visits are over, and the queued owner installs come next; `some true` for a drain. -/
def ActorThread.flushes (self : ActorThread) : Option Bool :=
  match self with
  | ⟨none, .draining []⟩ => some true
  | ⟨none, .failing _ _ true []⟩ => some false
  | _ => none

namespace ActorDrain

variable (self : ActorDrain)

/-- `active_operation_ids`, from its two reads. -/
def activeOperationIds (active : List ActorID) (publications : Dict ActorID ActorSnapshot) :
    List ActorID :=
  (active ++ publications.keys).dedup.mergeSort fun a b => a.value ≤ b.value

/-- The action is none of the sections below, and its thread is in none of them. -/
def acts (action : ActorAction) : Bool :=
  match action with
  | .drainOnce _ => false
  | .advance tid _ => ((self.coordinator.threads.get? tid).bind ActorThread.flushes).isNone
  | action => action.tid.all fun tid => (self.calls.get? tid).isNone

def closeAdmission : ActorDrain :=
  { self with coordinator := { self.coordinator with admissionOpen := false } }

/-- An exact acknowledgement retires the queued install that it is about. -/
def acknowledge (actorId : ActorID) (snapshot : ActorSnapshot) : ActorCoordinator :=
  if self.coordinator.nodeFailurePublications.get? actorId = some snapshot then
    { self.coordinator with
      nodeFailurePublications := self.coordinator.nodeFailurePublications.erase actorId }
  else self.coordinator

/-- Take the queued installs to retry, once all visits are over. -/
def beginFlush (tid : Nat) : ActorDrain :=
  match (self.coordinator.threads.get? tid).bind ActorThread.flushes with
  | none => self
  | some draining => { self with
      coordinator := self.coordinator.resume tid {}
      calls := self.calls.set tid
        (.flushing self.coordinator.nodeFailurePublications.items draining) }

def proceed (tid : Nat) (installed : Bool) : ActorDrain :=
  match self.calls.get? tid with
  | none => self.beginFlush tid
  | some .listing => { self with
      coordinator :=
        self.coordinator.resume tid ⟨none, .draining self.coordinator.actors.activeActorIds⟩
      calls := self.calls.erase tid }
  | some (.flushing ((actorId, snapshot) :: later) draining) => { self with
      coordinator := if installed then self.acknowledge actorId snapshot else self.coordinator
      calls := self.calls.set tid (.flushing later draining) }
  | some (.flushing [] draining) => { self with
      calls := if draining then self.calls.set tid .reading else self.calls.erase tid }
  | some .reading => { self with
      calls := self.calls.set tid (.read self.coordinator.actors.activeActorIds) }
  | some (.read active) => { self with
      calls := self.calls.erase tid
      returns :=
        activeOperationIds active self.coordinator.nodeFailurePublications :: self.returns }

def step : DrainAction → ActorDrain
  | .act action =>
    if self.acts action then { self with coordinator := self.coordinator.step action } else self
  | .closeAdmission => self.closeAdmission
  | .drainOnce tid =>
    if self.calls.get? tid ≠ none ∨ self.coordinator.threads.get? tid ≠ none then self
    else { self.closeAdmission with calls := self.calls.set tid .listing }
  | .proceed tid installed => self.proceed tid installed

end ActorDrain

end MiniRay
