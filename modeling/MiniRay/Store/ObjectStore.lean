import MiniRay.Library.Checked
import MiniRay.Library.Dict
import MiniRay.Library.Run
import MiniRay.Library.Intervals
import MiniRay.Library.Buffer
import MiniRay.Ids

/-! Physical bytes on one node. A replica is reserved, written in pieces, sealed, and from then on
immutable until it is deleted. -/

namespace MiniRay

open Checked

inductive ObjectStoreError
  | objectAlreadyExists (message : String)
  | objectStoreFull (message : String)
  | objectNotFound (message : String)
  | objectAlreadySealed (message : String)
  | objectNotSealed (message : String)
  | incompleteObject (message : String)
  | invalidWrite (message : String)
  | valueError (message : String)
  | assertion
  deriving DecidableEq

def ObjectStoreError.message : ObjectStoreError → String
  | .objectAlreadyExists m | .objectStoreFull m | .objectNotFound m | .objectAlreadySealed m
  | .objectNotSealed m | .incompleteObject m | .invalidWrite m | .valueError m => m
  | .assertion => ""

/-! ## Entries -/

/-- `_StoreEntry`; the pin tokens are a set. -/
structure StoreEntry (τ : Type) where
  sizeBytes : Nat
  buffer : Option (List UInt8)
  sealedData : Option (List UInt8)
  writtenRanges : List (Nat × Nat)
  pinTokens : List τ

variable {τ : Type}

namespace StoreEntry

def created (sizeBytes : Nat) : StoreEntry τ :=
  ⟨sizeBytes, some (List.replicate sizeBytes 0), none, [], []⟩

def isSealed (e : StoreEntry τ) : Bool := e.sealedData.isSome

def recordWrite (e : StoreEntry τ) (start stop : Nat) : StoreEntry τ :=
  { e with writtenRanges := Intervals.insert e.writtenRanges start stop }

def completelyWritten (e : StoreEntry τ) : Bool :=
  e.sizeBytes = 0 ∨ e.writtenRanges = [(0, e.sizeBytes)]

end StoreEntry

def reprRanges (ranges : List (Nat × Nat)) : String :=
  "[" ++ String.intercalate ", " (ranges.map fun (start, stop) =>
    "(" ++ toString start ++ ", " ++ toString stop ++ ")") ++ "]"

/-! ## The store -/

/-- A capacity-bounded store; `create` reserves the complete size of a replica. -/
structure ObjectStore (τ : Type) where
  capacityBytes : Nat
  usedBytes : Int
  entries : Dict ObjectID (StoreEntry τ)

namespace ObjectStore

variable [DecidableEq τ]

def empty (capacityBytes : Nat) : ObjectStore τ := ⟨capacityBytes, 0, .empty⟩

def entry (self : ObjectStore τ) (o : ObjectID) : Except ObjectStoreError (StoreEntry τ) :=
  match self.entries.get? o with
  | none => .error (.objectNotFound ("unknown object: " ++ o.repr))
  | some e => .ok e

/-- Reserve space for an unsealed replica. -/
def create (self : ObjectStore τ) (o : ObjectID) (sizeBytes : Int) :
    Except ObjectStoreError (ObjectStore τ) := do
  raiseIf (sizeBytes < 0) (.valueError "size_bytes must be a non-negative integer")
  raiseIf (self.entries.get? o ≠ none) (.objectAlreadyExists ("object already exists: " ++ o.repr))
  raiseIf (self.capacityBytes < self.usedBytes + sizeBytes)
    (.objectStoreFull ("cannot reserve " ++ toString sizeBytes ++ " bytes; only " ++
      toString (self.capacityBytes - self.usedBytes) ++ " available"))
  return { self with
    entries := self.entries.set o (.created sizeBytes.toNat)
    usedBytes := self.usedBytes + sizeBytes }

/-- Write one chunk into an unsealed replica. -/
def write (self : ObjectStore τ) (o : ObjectID) (data : List UInt8) (offset : Int) :
    Except ObjectStoreError (ObjectStore τ) := do
  raiseIf (offset < 0) (.invalidWrite "offset must be a non-negative integer")
  let e ← self.entry o
  raiseIf (e.isSealed = true) (.objectAlreadySealed ("object is already sealed: " ++ o.repr))
  let start := offset.toNat
  let stop := start + data.length
  raiseIf (e.sizeBytes < stop)
    (.invalidWrite ("write [" ++ toString offset ++ ", " ++ toString stop ++
      ") exceeds object size " ++ toString e.sizeBytes))
  match e.buffer with
  | none => throw .assertion
  | some buffer =>
    let written := { e with buffer := some (Buffer.splice buffer start data) }
    return { self with entries := self.entries.set o (written.recordWrite start stop) }

/-- Atomically make a completely written replica readable. -/
def seal_ (self : ObjectStore τ) (o : ObjectID) : Except ObjectStoreError (ObjectStore τ) := do
  let e ← self.entry o
  raiseIf (e.isSealed = true) (.objectAlreadySealed ("object is already sealed: " ++ o.repr))
  raiseIf (e.completelyWritten = false)
    (.incompleteObject ("object has unwritten bytes: " ++ o.repr ++ "; written ranges=" ++
      reprRanges e.writtenRanges))
  match e.buffer with
  | none => throw .assertion
  | some buffer =>
    return { self with
      entries := self.entries.set o
        { e with sealedData := some buffer, buffer := none, writtenRanges := [] } }

def get (self : ObjectStore τ) (o : ObjectID) : Except ObjectStoreError (List UInt8) := do
  let e ← self.entry o
  match e.sealedData with
  | none => throw (.objectNotSealed ("object is not sealed: " ++ o.repr))
  | some data => return data

def contains (self : ObjectStore τ) (o : ObjectID) (sealedOnly : Bool) : Bool :=
  (self.entries.get? o).any fun e => e.isSealed || !sealedOnly

/-- Pin a sealed replica; the token makes the pin idempotent. -/
def pin (self : ObjectStore τ) (o : ObjectID) (token : τ) :
    Except ObjectStoreError (ObjectStore τ) := do
  let e ← self.entry o
  raiseIf (e.isSealed = false) (.objectNotSealed ("object is not sealed: " ++ o.repr))
  return { self with
    entries := self.entries.set o { e with pinTokens := e.pinTokens.insert token } }

/-- Release a pin; duplicate releases return `false`. -/
def unpin (self : ObjectStore τ) (o : ObjectID) (token : τ) :
    Except ObjectStoreError (Bool × ObjectStore τ) := do
  let e ← self.entry o
  return (token ∈ e.pinTokens, { self with
    entries := self.entries.set o { e with pinTokens := e.pinTokens.erase token } })

/-- `_remove_entry`: the assertion follows the removal. -/
def removeEntry (self : ObjectStore τ) (o : ObjectID) (e : StoreEntry τ) :
    Except ObjectStoreError Bool × ObjectStore τ :=
  let removed : ObjectStore τ := { self with
    entries := self.entries.erase o
    usedBytes := self.usedBytes - e.sizeBytes }
  if 0 ≤ removed.usedBytes then (.ok true, removed) else (.error .assertion, removed)

/-- Delete an unpinned replica, returning whether it was removed. -/
def delete (self : ObjectStore τ) (o : ObjectID) :
    Except ObjectStoreError Bool × ObjectStore τ :=
  match self.entries.get? o with
  | none => (.ok false, self)
  | some e => if e.pinTokens ≠ [] then (.ok false, self) else self.removeEntry o e

/-- Discard an incomplete create and release its reservation. -/
def abort (self : ObjectStore τ) (o : ObjectID) : Except ObjectStoreError Bool × ObjectStore τ :=
  match self.entries.get? o with
  | none => (.ok false, self)
  | some e =>
    if e.isSealed = true then
      (.error (.objectAlreadySealed ("cannot abort sealed object: " ++ o.repr)), self)
    else self.removeEntry o e

/-- One-shot create, write and seal; a failure aborts the entry that the call created. -/
def put (self : ObjectStore τ) (o : ObjectID) (data : List UInt8) :
    Except ObjectStoreError Unit × ObjectStore τ :=
  match self.create o data.length with
  | .error e => (.error e, self)
  | .ok created =>
    let rollback (raised : ObjectStoreError) (s : ObjectStore τ) :
        Except ObjectStoreError Unit × ObjectStore τ :=
      match s.abort o with
      | (.ok _, aborted) => (.error raised, aborted)
      | (.error e, aborted) => (.error e, aborted)
    match created.write o data 0 with
    | .error e => rollback e created
    | .ok written =>
      match written.seal_ o with
      | .error e => rollback e written
      | .ok ready => (.ok (), ready)

/-! ## Calls -/

inductive Op (τ : Type)
  | create (o : ObjectID) (sizeBytes : Int)
  | write (o : ObjectID) (data : List UInt8) (offset : Int)
  | seal_ (o : ObjectID)
  | put (o : ObjectID) (data : List UInt8)
  | get (o : ObjectID)
  | pin (o : ObjectID) (token : τ)
  | unpin (o : ObjectID) (token : τ)
  | delete (o : ObjectID)
  | abort (o : ObjectID)

inductive Reply
  | done
  | bytes (data : List UInt8)
  | changed (changed : Bool)

/-- A call that changes nothing when it raises. -/
def atomic (self : ObjectStore τ) (result : Except ObjectStoreError (ObjectStore τ)) :
    Except ObjectStoreError Reply × ObjectStore τ :=
  match result with
  | .ok next => (.ok .done, next)
  | .error e => (.error e, self)

def call (self : ObjectStore τ) : Op τ → Except ObjectStoreError Reply × ObjectStore τ
  | .create o sizeBytes => self.atomic (self.create o sizeBytes)
  | .write o data offset => self.atomic (self.write o data offset)
  | .seal_ o => self.atomic (self.seal_ o)
  | .put o data => ((self.put o data).1.map fun _ => .done, (self.put o data).2)
  | .get o => ((self.get o).map .bytes, self)
  | .pin o token => self.atomic (self.pin o token)
  | .unpin o token =>
    match self.unpin o token with
    | .ok (existed, next) => (.ok (.changed existed), next)
    | .error e => (.error e, self)
  | .delete o => ((self.delete o).1.map .changed, (self.delete o).2)
  | .abort o => ((self.abort o).1.map .changed, (self.abort o).2)

def step (self : ObjectStore τ) (op : Op τ) : ObjectStore τ := (self.call op).2

end ObjectStore

end MiniRay
