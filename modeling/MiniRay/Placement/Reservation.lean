import MiniRay.Ids
import MiniRay.Resources.Conservation

/-! The idempotent participant in two-phase reservation. Capacity is charged once to the root ledger
when a transaction is prepared, and consumed through the ledgers of its bundles. -/

namespace MiniRay

inductive ReservationState
  | prepared
  | committed
  | removing
  | aborted
  deriving DecidableEq

structure Bundle where
  index : Nat
  resources : ResourceVector
  deriving DecidableEq

/-- What a caller may pass for a bundle; a mapping stands for its resource vector. -/
inductive BundleItem
  | bundle (bundle : Bundle)
  | resources (resources : ResourceVector)

/-- One atomic node-local allocation covering a set of bundles. -/
structure BundleAllocation where
  bundleIndexes : List Nat
  resources : ResourceVector
  token : AllocationToken

inductive ReservationError
  | valueError (message : String)
  | reservationConflict (message : String)
  | keyError
  | runtimeError (message : String)
  | resource (error : ResourceError)
  deriving DecidableEq

def BundleItem.normalize (position : Nat) : BundleItem → Bundle
  | .bundle b => b
  | .resources r => ⟨position, r⟩

def normalizeBundles (items : List BundleItem) : Except ReservationError (List Bundle) :=
  if ¬ (1 ≤ items.length ∧ items.length ≤ 2) then
    .error (.valueError "placement groups require one or two bundles")
  else
    let normalized := items.mapIdx BundleItem.normalize
    if ¬ (normalized.map Bundle.index).Nodup then
      .error (.valueError "bundle indexes must be unique")
    else .ok (normalized.insertionSort fun a b => a.index ≤ b.index)

def sumResources (bundles : List Bundle) : ResourceVector :=
  bundles.foldl (fun total bundle => total.add bundle.resources) .empty

/-- A transaction is one attempt of one placement group. -/
structure ReservationKey where
  placementGroupId : PlacementGroupID
  attempt : Int
  deriving DecidableEq

/-- `childLedgers` names the bundles whose ledgers are attached. -/
structure Reservation where
  bundles : List Bundle
  allocations : List BundleAllocation
  state : ReservationState
  childLedgers : List Nat

/-- A tombstone, also of an attempt that was never prepared. -/
def Reservation.tombstone (bundles : List Bundle) : Reservation := ⟨bundles, [], .aborted, []⟩

/-- Child ledgers outlive their transaction with those who looked them up. -/
structure BundleReservationLedger where
  resources : ResourceLedger
  transactions : Dict ReservationKey Reservation
  children : Dict (ReservationKey × Nat) ResourceLedger

/-- Whether any child allocation has not reached its terminal state. -/
def ledgerHasLiveAllocations (ledger : ResourceLedger) : Bool :=
  ledger.records.values.any fun record => record.state ≠ .released

namespace BundleReservationLedger

def new (resources : ResourceLedger) : BundleReservationLedger := ⟨resources, .empty, .empty⟩

def setTransaction (self : BundleReservationLedger) (key : ReservationKey)
    (transaction : Reservation) : BundleReservationLedger :=
  { self with transactions := self.transactions.set key transaction }

/-- Charge the root for all bundles at once, under a random token. -/
def charge (self : BundleReservationLedger) (key : ReservationKey) (bundles : List Bundle)
    (random : AllocationToken) : Except ReservationError Bool × BundleReservationLedger :=
  let requested := sumResources bundles
  match self.resources.tryAllocate requested none random with
  | (.error raised, root) => (.error (.resource raised), { self with resources := root })
  | (.ok none, root) =>
    (.ok false, { self with resources := root }.setTransaction key (.tombstone bundles))
  | (.ok (some token), root) =>
    (.ok true, { self with resources := root }.setTransaction key
      ⟨bundles, [⟨bundles.map Bundle.index, requested, token⟩], .prepared, []⟩)

def prepare (self : BundleReservationLedger) (key : ReservationKey) (items : List BundleItem)
    (random : AllocationToken) : Except ReservationError Bool × BundleReservationLedger :=
  if key.attempt < 0 then (.error (.valueError "attempt must be non-negative"), self)
  else match normalizeBundles items with
    | .error raised => (.error raised, self)
    | .ok normalized =>
      match self.transactions.get? key with
      | some previous =>
        if previous.bundles ≠ [] ∧ previous.bundles ≠ normalized then
          (.error (.reservationConflict
            "transaction key reused with different bundle resources"), self)
        else (.ok (previous.state ≠ .aborted), self)
      | none => self.charge key normalized random

def attachLedgers (key : ReservationKey) (bundles : List Bundle)
    (children : Dict (ReservationKey × Nat) ResourceLedger) :
    Dict (ReservationKey × Nat) ResourceLedger :=
  bundles.foldl (fun children b => children.set (key, b.index) (.new b.resources)) children

def commit (self : BundleReservationLedger) (key : ReservationKey) :
    Bool × BundleReservationLedger :=
  match self.transactions.get? key with
  | none => (false, self)
  | some transaction =>
    match transaction.state with
    | .aborted => (false, self)
    | .removing => (false, self)
    | .committed => (true, self)
    | .prepared => (true, { self with
        children := attachLedgers key transaction.bundles self.children }.setTransaction key
          { transaction with
            childLedgers := transaction.bundles.map Bundle.index, state := .committed })

/-- One committed bundle's allocation authority. -/
def ledgerFor (self : BundleReservationLedger) (key : ReservationKey) (bundleIndex : Nat) :
    Except ReservationError ResourceLedger :=
  match self.transactions.get? key with
  | none => .error .keyError
  | some transaction =>
    if transaction.state ≠ .committed then
      .error (.runtimeError "bundle ledger is available only for a committed reservation")
    else if bundleIndex ∉ transaction.childLedgers then .error .keyError
    else match self.children.get? (key, bundleIndex) with
      | none => .error .keyError
      | some ledger => .ok ledger

/-- Give allocations back to the root, one by one. -/
def releaseAll (root : ResourceLedger) :
    List BundleAllocation → Except ReservationError Unit × ResourceLedger
  | [] => (.ok (), root)
  | allocation :: rest =>
    match root.release allocation.token with
    | (.error raised, after) => (.error (.resource raised), after)
    | (.ok _, after) => releaseAll after rest

/-- Release the root capacity of a transaction and leave a tombstone. -/
def releaseRoot (self : BundleReservationLedger) (key : ReservationKey)
    (transaction : Reservation) : Except ReservationError Bool × BundleReservationLedger :=
  match releaseAll self.resources transaction.allocations.reverse with
  | (.error raised, root) => (.error raised, { self with resources := root })
  | (.ok _, root) => (.ok true, { self with resources := root }.setTransaction key
      { transaction with allocations := [], childLedgers := [], state := .aborted })

/-- Fence child-ledger lookup without releasing reserved root capacity. -/
def beginRemove (self : BundleReservationLedger) (key : ReservationKey) :
    Except ReservationError Bool × BundleReservationLedger :=
  match self.transactions.get? key with
  | none => (.ok true, self.setTransaction key (.tombstone []))
  | some transaction =>
    match transaction.state with
    | .aborted => (.ok true, self)
    | .prepared => self.releaseRoot key transaction
    | _ => (.ok true, self.setTransaction key { transaction with state := .removing })

def hasLiveChildren (self : BundleReservationLedger) (key : ReservationKey)
    (transaction : Reservation) : Bool :=
  transaction.childLedgers.any fun index =>
    (self.children.get? (key, index)).any ledgerHasLiveAllocations

/-- Release the root reservation only after every child allocation is terminal. -/
def finalizeRemove (self : BundleReservationLedger) (key : ReservationKey) :
    Except ReservationError Bool × BundleReservationLedger :=
  match self.transactions.get? key with
  | none => (.ok false, self)
  | some transaction =>
    match transaction.state with
    | .aborted => (.ok true, self)
    | .removing =>
      if self.hasLiveChildren key transaction then (.ok false, self)
      else self.releaseRoot key transaction
    | _ => (.ok false, self)

/-- An early abort leaves a tombstone, which a delayed prepare cannot outlive. -/
def abort (self : BundleReservationLedger) (key : ReservationKey) :
    Except ReservationError Bool × BundleReservationLedger :=
  match self.transactions.get? key with
  | none => (.ok true, self.setTransaction key (.tombstone []))
  | some transaction =>
    match transaction.state with
    | .aborted => (.ok true, self)
    | .prepared => self.releaseRoot key transaction
    | _ => (self.setTransaction key { transaction with state := .removing }).finalizeRemove key

/-! ## Runs -/

/-- A call of the participant, or of a user of the root or of a child ledger. -/
inductive Op
  | prepare (key : ReservationKey) (items : List BundleItem) (random : AllocationToken)
  | commit (key : ReservationKey)
  | beginRemove (key : ReservationKey)
  | finalizeRemove (key : ReservationKey)
  | abort (key : ReservationKey)
  | root (op : ResourceLedger.Op)
  | child (key : ReservationKey) (bundleIndex : Nat) (op : ResourceLedger.Op)

/-- A child ledger answers whoever looked it up, also after its transaction is gone. -/
def stepChild (self : BundleReservationLedger) (key : ReservationKey) (bundleIndex : Nat)
    (op : ResourceLedger.Op) : BundleReservationLedger :=
  match self.children.get? (key, bundleIndex) with
  | none => self
  | some ledger =>
    { self with children := self.children.set (key, bundleIndex) (ledger.step op) }

def step (self : BundleReservationLedger) : Op → BundleReservationLedger
  | .prepare key items random => (self.prepare key items random).2
  | .commit key => (self.commit key).2
  | .beginRemove key => (self.beginRemove key).2
  | .finalizeRemove key => (self.finalizeRemove key).2
  | .abort key => (self.abort key).2
  | .root op => { self with resources := self.resources.step op }
  | .child key bundleIndex op => self.stepChild key bundleIndex op

end BundleReservationLedger

end MiniRay
