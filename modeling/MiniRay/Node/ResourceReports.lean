import MiniRay.Blocking.Lease
import MiniRay.Control.Nodes
import MiniRay.Placement.Capacity

/-! A Node reports the availability of its root ledger under a version that most of its sections
advance, and the control plane takes one payload for each version. -/

namespace MiniRay

/-! ## The control plane -/

/-- One report; `readAt` is when its payload was read. -/
structure UpdateNodeResources where
  nodePid : Nat
  registrationEpoch : Nat
  reportSeq : Nat
  availableResources : ResourceVector
  readAt : Nat
  deriving DecidableEq

/-- What the control plane records of a Node's resources. -/
structure NodeResources where
  nodePid : Nat
  registrationEpoch : Nat
  totalResources : ResourceVector
  availableResources : ResourceVector
  state : NodeMembershipState := .alive
  resourceReportSeq : Nat := 0
  readAt : Nat

namespace NodeResources

def staleSequence : String := "resource report sequence is stale"

def reusedSequence : String := "resource report sequence was reused with another payload"

/-- Apply or exactly replay one incarnation-fenced resource report. -/
def updateResources (record : Option NodeResources) (report : UpdateNodeResources) :
    Except String Bool × Option NodeResources :=
  match record with
  | none => (.error "unknown node", record)
  | some old =>
    if old.state = .dead then (.error "node is dead", record)
    else if old.nodePid ≠ report.nodePid ∨ old.registrationEpoch ≠ report.registrationEpoch then
      (.error "resource report does not match the registered Node incarnation", record)
    else if ¬ report.availableResources.fitsIn old.totalResources then
      (.error "available resources cannot exceed total resources", record)
    else if report.reportSeq < old.resourceReportSeq then (.error staleSequence, record)
    else if report.reportSeq = old.resourceReportSeq then
      if report.availableResources ≠ old.availableResources then (.error reusedSequence, record)
      else (.ok false, record)
    else (.ok true, some { old with
      availableResources := report.availableResources
      resourceReportSeq := report.reportSeq
      readAt := report.readAt })

end NodeResources

/-! ## The Node -/

/-- The ledger of an allocation: the root, or the ledger of one bundle. -/
abbrev LedgerRef := Option (ReservationKey × Nat)

/-- A lease and its ledger, of which the record's copy is current in sections only. -/
structure ReportingLease where
  allocationLedger : LedgerRef
  record : BlockingLease

structure ReportingNode where
  nodePid : Nat
  bundleReservations : BundleReservationLedger
  registrationEpoch : Nat := 0
  registeredWithGcs : Bool := false
  placementGroups : List ReservationKey := []
  leases : Dict LeaseID ReportingLease := .empty
  actorTokens : List AllocationToken := []
  resourceReportVersion : Nat := 0
  resourceReportedVersion : Nat := 0

namespace ReportingNode

variable (self : ReportingNode)

def new (nodePid : Nat) (total : ResourceVector) : ReportingNode :=
  { nodePid := nodePid, bundleReservations := .new (.new total) }

def root : ResourceLedger := self.bundleReservations.resources

def available : ResourceVector := self.root.publicAvailable

def markPending : ReportingNode :=
  { self with resourceReportVersion := self.resourceReportVersion + 1 }

def markIf (condition : Bool) : ReportingNode :=
  if condition then self.markPending else self

def setRoot (ledger : ResourceLedger) : ReportingNode :=
  { self with bundleReservations := { self.bundleReservations with resources := ledger } }

def setReservations (reservations : BundleReservationLedger) : ReportingNode :=
  { self with bundleReservations := reservations }

def ledger (ref : LedgerRef) : ResourceLedger :=
  match ref with
  | none => self.root
  | some key => (self.bundleReservations.children.get? key).getD (.new .empty)

def setLedger (ref : LedgerRef) (ledger : ResourceLedger) : ReportingNode :=
  match ref with
  | none => self.setRoot ledger
  | some key => self.setReservations { self.bundleReservations with
      children := self.bundleReservations.children.set key ledger }

/-- The ledger that a new lease may use. -/
def grantLedger (ref : LedgerRef) : Option ResourceLedger :=
  match ref with
  | none => some self.root
  | some (key, index) => (self.bundleReservations.ledgerFor key index).toOption

/-! ### Leases -/

/-- The grant's transaction; a fault before its commit gives the allocation back. -/
def grant (leaseId : LeaseID) (identity : BlockingIdentity) (ref : LedgerRef)
    (resources : ResourceVector) (token : AllocationToken) (fault : Bool) : ReportingNode :=
  if (self.leases.get? leaseId).isSome then self else
  match self.grantLedger ref with
  | none => self
  | some ledger =>
    if ¬ resources.fitsIn ledger.total then self else
    match ledger.tryAllocate resources (some token) token with
    | (.ok (some allocated), charged) =>
      if fault then self.setLedger ref (charged.release allocated).2
      else
        let lease : ReportingLease := ⟨ref, {
          identity := identity, resources := resources, allocationToken := allocated,
          ledger := charged }⟩
        let granted := self.setLedger ref charged
        { granted with leases := granted.leases.set leaseId lease }.markIf (ref = none)
    | (_, charged) => self.setLedger ref charged

def start (leaseId : LeaseID) : ReportingNode :=
  match self.leases.get? leaseId with
  | none => self
  | some lease => { self with
      leases := self.leases.set leaseId { lease with record := lease.record.start } }

/-- A block or unblock notification yields or takes back CPU and marks nothing. -/
def notify (leaseId : LeaseID) (request : BlockingNotification) : ReportingNode :=
  match self.leases.get? leaseId with
  | none => self
  | some lease =>
    let loaded := { lease.record with ledger := self.ledger lease.allocationLedger }
    let record := (loaded.notify request).2
    let after := self.setLedger lease.allocationLedger record.ledger
    { after with leases := after.leases.set leaseId { lease with record := record } }

/-- Finalize the removing groups whose child leases are all terminal, and count them. -/
def finalizeRemoving : List ReservationKey → BundleReservationLedger →
    Except ReservationError Nat × BundleReservationLedger
  | [], reservations => (.ok 0, reservations)
  | key :: rest, reservations =>
    match reservations.transactions.get? key with
    | none => finalizeRemoving rest reservations
    | some transaction =>
      if transaction.state ≠ .removing then finalizeRemoving rest reservations
      else match reservations.finalizeRemove key with
        | (.error raised, after) => (.error raised, after)
        | (.ok done, after) =>
          let (count, last) := finalizeRemoving rest after
          (count.map (· + done.toNat), last)

def finalizeRemovingPlacementGroups : ReportingNode :=
  match finalizeRemoving self.placementGroups self.bundleReservations with
  | (.error _, reservations) => self.setReservations reservations
  | (.ok finalized, reservations) =>
    (self.setReservations reservations).markIf (0 < finalized)

def releaseRecord (leaseId : LeaseID) (state : LeaseExecutionState) : ReportingNode :=
  match self.leases.get? leaseId with
  | none => self
  | some lease =>
    if ¬ (lease.record.state.Live ∧ ¬ state.Live) then self
    else
      let loaded := { lease.record with ledger := self.ledger lease.allocationLedger }
      match loaded.ledger.release loaded.allocationToken with
      | (.error _, ledger) => self.setLedger lease.allocationLedger ledger
      | (.ok released, ledger) =>
        let after := (self.setLedger lease.allocationLedger ledger).markIf
          (released ∧ lease.allocationLedger = none)
        let closed := { lease with record := loaded.releaseRecord state }
        let leases := after.leases.set leaseId closed
        { after with leases := leases }.finalizeRemovingPlacementGroups

/-! ### Placement groups -/

def remember (key : ReservationKey) : ReportingNode :=
  if key ∈ self.placementGroups then self
  else { self with placementGroups := self.placementGroups ++ [key] }

def preparePlacementGroup (key : ReservationKey) (items : List BundleItem)
    (random : AllocationToken) : ReportingNode :=
  match self.bundleReservations.prepare key items random with
  | (.error _, reservations) => self.setReservations reservations
  | (.ok _, reservations) =>
    let after := (self.setReservations reservations).remember key
    after.markIf (after.available ≠ self.available)

def commitPlacementGroup (key : ReservationKey) : ReportingNode :=
  if key ∉ self.placementGroups then self
  else self.setReservations (self.bundleReservations.commit key).2

def abortPlacementGroup (key : ReservationKey) : ReportingNode :=
  match self.bundleReservations.abort key with
  | (.error _, reservations) => (self.setReservations reservations).remember key
  | (.ok removed, reservations) =>
    let after := (self.setReservations reservations).remember key
    after.markIf (removed ∧ after.available ≠ self.available)

def beginRemoveEach : List ReservationKey → BundleReservationLedger →
    Bool × BundleReservationLedger
  | [], reservations => (true, reservations)
  | key :: rest, reservations =>
    match reservations.beginRemove key with
    | (.error _, after) => (false, after)
    | (.ok _, after) => beginRemoveEach rest after

/-- `_begin_remove_all_placement_groups_locked`. -/
def beginRemoveAll : ReportingNode :=
  match beginRemoveEach self.placementGroups self.bundleReservations with
  | (false, reservations) => self.setReservations reservations
  | (true, reservations) =>
    let after := (self.setReservations reservations).finalizeRemovingPlacementGroups
    after.markIf (after.available ≠ self.available)

/-! ### Actors -/

/-- An actor's reservation reports only after its Worker has started. -/
def reserveActor (resources : ResourceVector) (token : AllocationToken) : ReportingNode :=
  match self.root.tryAllocate resources (some token) token with
  | (.ok (some allocated), root) =>
    { self.setRoot root with actorTokens := self.actorTokens ++ [allocated] }
  | (_, root) => self.setRoot root

def releaseActor (token : AllocationToken) (exited : Bool) : ReportingNode :=
  if token ∉ self.actorTokens then self
  else match self.root.release token with
    | (.error _, root) => self.setRoot root
    | (.ok _, root) =>
      { self.setRoot root with actorTokens := self.actorTokens.erase token }.markIf exited

/-! ### Sections -/

/-- The sections of the Node under its state lock. -/
inductive Section
  | grant (leaseId : LeaseID) (identity : BlockingIdentity) (ref : LedgerRef)
      (resources : ResourceVector) (token : AllocationToken) (fault : Bool)
  | start (leaseId : LeaseID)
  | notify (leaseId : LeaseID) (request : BlockingNotification)
  | releaseRecord (leaseId : LeaseID) (state : LeaseExecutionState)
  | preparePlacementGroup (key : ReservationKey) (items : List BundleItem)
      (random : AllocationToken)
  | commitPlacementGroup (key : ReservationKey)
  | abortPlacementGroup (key : ReservationKey)
  | beginRemoveAll
  | reserveActor (resources : ResourceVector) (token : AllocationToken)
  | releaseActor (token : AllocationToken) (exited : Bool)
  | markPending

def enter (self : ReportingNode) : Section → ReportingNode
  | .grant leaseId identity ref resources token fault =>
    self.grant leaseId identity ref resources token fault
  | .start leaseId => self.start leaseId
  | .notify leaseId request => self.notify leaseId request
  | .releaseRecord leaseId state => self.releaseRecord leaseId state
  | .preparePlacementGroup key items random => self.preparePlacementGroup key items random
  | .commitPlacementGroup key => self.commitPlacementGroup key
  | .abortPlacementGroup key => self.abortPlacementGroup key
  | .beginRemoveAll => self.beginRemoveAll
  | .reserveActor resources token => self.reserveActor resources token
  | .releaseActor token exited => self.releaseActor token exited
  | .markPending => self.markPending

end ReportingNode

/-! ## The two together -/

/-- A flush between its snapshot and its return, with the reply once it is on its way. -/
structure ReportFlight where
  report : UpdateNodeResources
  reply : Option Bool := none

structure ResourceReporting where
  node : ReportingNode
  record : Option NodeResources := none
  /-- Every request that was sent; it may be served later or again. -/
  sent : List UpdateNodeResources := []
  flight : Option ReportFlight := none
  time : Nat := 0

namespace ResourceReporting

variable (self : ResourceReporting)

def new (nodePid : Nat) (total : ResourceVector) : ResourceReporting :=
  { node := .new nodePid total }

/-- Register with the control plane; a lost reply is asked for again. -/
def register (registrationEpoch : Nat) (lost : Bool) : ResourceReporting :=
  if self.node.registeredWithGcs ∨ self.flight.isSome then self
  else
    let record := self.record.getD {
      nodePid := self.node.nodePid, registrationEpoch := registrationEpoch,
      totalResources := self.node.root.total, availableResources := self.node.available,
      readAt := self.time }
    let registered := { self with record := some record }
    if lost then registered
    else { registered with node := { self.node with
      registrationEpoch := record.registrationEpoch, registeredWithGcs := true } }

/-- The snapshot of `_flush_pending_resource_report`, if there is something to report. -/
def beginFlush : ResourceReporting :=
  let node := self.node
  if self.flight.isSome ∨ node.resourceReportVersion ≤ node.resourceReportedVersion ∨
      node.registeredWithGcs = false then self
  else
    let report : UpdateNodeResources := {
      nodePid := node.nodePid, registrationEpoch := node.registrationEpoch,
      reportSeq := node.resourceReportVersion, availableResources := node.available,
      readAt := self.time }
    { self with flight := some ⟨report, none⟩, sent := self.sent ++ [report] }

/-- The control plane serves a copy of a request; the open flush may be waiting for it. -/
def serve (index : Nat) : ResourceReporting :=
  match self.sent[index]? with
  | none => self
  | some report =>
    let (result, record) := NodeResources.updateResources self.record report
    let updated := match result with
      | .ok _ => true
      | .error _ => false
    { self with
      record := record
      flight := self.flight.map fun flight =>
        if flight.report = report ∧ flight.reply = none then
          { flight with reply := some updated }
        else flight }

/-- The flush returns, with a reply or without one. -/
def endFlush (lost : Bool) : ResourceReporting :=
  match self.flight with
  | none => self
  | some flight =>
    let idle := { self with flight := none }
    match flight.reply with
    | some true =>
      if lost then idle
      else { idle with node := { self.node with
        resourceReportedVersion :=
          max self.node.resourceReportedVersion flight.report.reportSeq } }
    | _ => idle

inductive Action
  | register (registrationEpoch : Nat) (lost : Bool)
  | enter (entry : ReportingNode.Section)
  | beginFlush
  | serve (index : Nat)
  | endFlush (lost : Bool)

def tick : ResourceReporting := { self with time := self.time + 1 }

def step (s : ResourceReporting) : Action → ResourceReporting
  | .register registrationEpoch lost => (s.register registrationEpoch lost).tick
  | .enter entry => { s with node := s.node.enter entry }.tick
  | .beginFlush => s.beginFlush.tick
  | .serve index => (s.serve index).tick
  | .endFlush lost => (s.endFlush lost).tick

end ResourceReporting

end MiniRay
