import MiniRay.Library.Dict
import MiniRay.Library.RefTree
import MiniRay.Protocol

/-! A reference inside an argument value is pickled as an index into a manifest of transfers. The
worker imports the transfers again through one session for the whole call. Pickle visits the parts
of a value in one order when it saves and when it loads them. -/

namespace MiniRay

namespace NestedArguments

structure ContainedRef where
  objectId : ObjectID
  ownerWorkerId : WorkerID

/-- What stands in a pickle for a reference. -/
inductive PersistentId
  | index (index : Int)
  | notInteger
  | unsupported

/-! ## Pickling -/

inductive EncodingError (E : Type)
  | conflictingOwners
  | exportMissing
  | identityChanged
  | notSerializable
  | exporter (e : E)

/-- An exporter may depend on what was exported before; `none` is no exporter at all. -/
abbrev Exporter (E : Type) :=
  Option (List NestedReferenceTransfer → ContainedRef → Except E NestedReferenceTransfer)

structure NestedManifestBuilder where
  indexes : Dict (ObjectID × WorkerID) Nat
  owners : Dict ObjectID WorkerID
  manifest : List NestedReferenceTransfer

namespace NestedManifestBuilder

def empty : NestedManifestBuilder := ⟨.empty, .empty, []⟩

variable {E : Type}

def persistentId (exporter : Exporter E) (reference : ContainedRef) (b : NestedManifestBuilder) :
    Except (EncodingError E) PersistentId × NestedManifestBuilder :=
  let b := { b with owners := b.owners.setDefault reference.objectId reference.ownerWorkerId }
  if b.owners.get? reference.objectId ≠ some reference.ownerWorkerId then
    (.error .conflictingOwners, b)
  else
    let key := (reference.objectId, reference.ownerWorkerId)
    match b.indexes.get? key with
    | some index => (.ok (.index index), b)
    | none =>
      match exporter with
      | none => (.error .exportMissing, b)
      | some exportRef =>
        match exportRef b.manifest reference with
        | .error e => (.error (.exporter e), b)
        | .ok transfer =>
          if transfer.objectId ≠ reference.objectId ∨
              transfer.ownerWorkerId ≠ reference.ownerWorkerId then
            (.error .identityChanged, b)
          else
            (.ok (.index b.manifest.length),
              { b with
                indexes := b.indexes.set key b.manifest.length
                manifest := b.manifest ++ [transfer] })

end NestedManifestBuilder

/-- The inline argument of a value that is no reference itself. -/
structure InlineArg where
  data : RefTree PersistentId
  trailing : Bool
  nestedRefs : List NestedReferenceTransfer

def encodeTaskArgument {E : Type} (exporter : Exporter E) (value : RefTree ContainedRef) :
    Except (EncodingError E) InlineArg :=
  match value.traverse (NestedManifestBuilder.persistentId exporter) .notSerializable .empty with
  | (.ok data, b) => .ok ⟨data, false, b.manifest⟩
  | (.error e, _) => .error e

/-! ## The import session -/

inductive LoadError (E : Type)
  | unpickling (message : String)
  | notOpen
  | importMissing
  | importer (e : E)

/-- The original hold of a child in a materialized dependency. -/
structure ExportedReference where
  objectId : ObjectID
  ownerWorkerId : WorkerID
  ownerAddress : Address
  hold : ContainedReferenceHold
  deriving DecidableEq

/-- What the callbacks of a session do; they may depend on all handles imported before. -/
structure Callbacks (H E : Type) where
  importNested : List H → NestedReferenceTransfer → Except E H
  importExported : Option (List H → ExportedReference → Except E H)
  /-- `true` where the release raises an ordinary exception. -/
  release : List H → H → Bool

/-- `imported` and `released` list the handles that callbacks returned and were given. -/
structure ImportSession (H : Type) where
  values : Dict NestedReferenceTransfer H
  exportedValues : Dict ExportedReference H
  acquired : List H
  committed : Bool
  rolledBack : Bool
  closed : Bool
  imported : List H
  released : List H

namespace ImportSession

variable {H E : Type}

def new : ImportSession H := ⟨.empty, .empty, [], false, false, false, [], []⟩

def isOpen (s : ImportSession H) : Bool := !s.committed && !s.rolledBack && !s.closed

def resolve (c : Callbacks H E) (transfer : NestedReferenceTransfer) (s : ImportSession H) :
    Except (LoadError E) H × ImportSession H :=
  if !s.isOpen then (.error .notOpen, s)
  else match s.values.get? transfer with
  | some value => (.ok value, s)
  | none =>
    match c.importNested s.imported transfer with
    | .error e => (.error (.importer e), s)
    | .ok value =>
      (.ok value, { s with
        values := s.values.set transfer value
        acquired := s.acquired ++ [value]
        imported := s.imported ++ [value] })

def resolveExported (c : Callbacks H E) (key : ExportedReference) (s : ImportSession H) :
    Except (LoadError E) H × ImportSession H :=
  if !s.isOpen then (.error .notOpen, s)
  else match c.importExported with
  | none => (.error .importMissing, s)
  | some importExported =>
    match s.exportedValues.get? key with
    | some value => (.ok value, s)
    | none =>
      match importExported s.imported key with
      | .error e => (.error (.importer e), s)
      | .ok value =>
        (.ok value, { s with
          exportedValues := s.exportedValues.set key value
          acquired := s.acquired ++ [value]
          imported := s.imported ++ [value] })

/-- The loop of `_release_all` over what it pops; an ordinary exception is passed over. -/
def releaseLoop (c : Callbacks H E) : List H → List H → List H
  | [], released => released
  | value :: rest, released =>
    match c.release released value with
    | true | false => releaseLoop c rest (released ++ [value])

def releaseAll (c : Callbacks H E) (s : ImportSession H) : ImportSession H :=
  { s with
    released := releaseLoop c s.acquired.reverse s.released
    acquired := []
    values := .empty
    exportedValues := .empty }

def commit (s : ImportSession H) : ImportSession H :=
  if s.rolledBack || s.closed then s else { s with committed := true }

def rollback (c : Callbacks H E) (s : ImportSession H) : ImportSession H :=
  if !s.isOpen then s else releaseAll c { s with rolledBack := true }

def close (c : Callbacks H E) (s : ImportSession H) : ImportSession H :=
  if s.closed then s else releaseAll c { s with closed := true }

end ImportSession

/-! ## Unpickling -/

/-- The uses that an unpickler has seen, and the session it imports with. -/
structure Unpickler (H : Type) where
  firstUse : List Nat
  seen : Finset Nat
  session : ImportSession H

section Load

variable {H E : Type} (c : Callbacks H E) (manifest : List NestedReferenceTransfer)

def persistentLoad (id : PersistentId) (u : Unpickler H) :
    Except (LoadError E) H × Unpickler H :=
  match id with
  | .unsupported => (.error (.unpickling "unsupported mini-Ray persistent ID"), u)
  | .notInteger =>
    (.error (.unpickling "nested-reference manifest index must be an integer"), u)
  | .index index =>
    if h : index < 0 ∨ manifest.length ≤ index.toNat then
      (.error (.unpickling "nested-reference manifest index is out of range"), u)
    else if index.toNat ∉ u.seen ∧ index.toNat ≠ u.firstUse.length then
      (.error (.unpickling "nested-reference manifest indexes are not in first-use order"), u)
    else
      let used : Unpickler H :=
        if index.toNat ∈ u.seen then u
        else { u with
          seen := insert index.toNat u.seen
          firstUse := u.firstUse ++ [index.toNat] }
      let resolved := used.session.resolve c (manifest.get ⟨index.toNat, by omega⟩)
      (resolved.1, { used with session := resolved.2 })

def load (argument : InlineArg) (s : ImportSession H) :
    Except (LoadError E) (RefTree H) × Unpickler H :=
  match argument.data.traverse (persistentLoad c argument.nestedRefs)
      (.unpickling "pickle data was truncated") ⟨[], ∅, s⟩ with
  | (.error e, u) => (.error e, u)
  | (.ok value, u) =>
    if argument.trailing then
      (.error (.unpickling "inline argument contains trailing serialized data"), u)
    else if u.firstUse ≠ List.range argument.nestedRefs.length then
      (.error (.unpickling
        "inline argument did not reference its complete nested manifest"), u)
    else (.ok value, u)

/-- `decode_inline_argument` with a shared session: every failure rolls it back. -/
def decodeInlineArgument (argument : InlineArg) (s : ImportSession H) :
    Except (LoadError E) (RefTree H) × ImportSession H :=
  match load c argument s with
  | (.ok value, u) => (.ok value, u.session)
  | (.error e, u) => (.error e, u.session.rollback c)

end Load

end NestedArguments

end MiniRay
