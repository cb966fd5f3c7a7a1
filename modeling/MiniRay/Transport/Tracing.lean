import MiniRay.Library.Checked
import MiniRay.Transport.Frames

/-! Both ends of a call tell an event sink what they do and carry the id of their last event in the
metadata of the frame. The sink, the cursor and the peer's metadata are not trusted. -/

namespace MiniRay

namespace Transport

open Checked

/-! ## Events -/

/-- A Python string: a text, or code points that UTF-8 cannot encode. -/
inductive EventId
  | text (value : String)
  | unencodable (points : List Nat)
  deriving DecidableEq

def EventId.isEmpty : EventId → Bool
  | .text value => value = ""
  | .unencodable _ => false

inductive Attribute
  | text (value : String)
  | flag (value : Bool)
  deriving DecidableEq

structure Emission where
  name : String
  component : String
  causeId : Option EventId
  attributes : List (String × Attribute)
  deriving DecidableEq

inductive SinkResult
  | raised
  | nothing
  | event (id : EventId)
  deriving DecidableEq

/-- `mark` is where the sink itself moved the cursor. -/
structure SinkAnswer where
  mark : Option EventId
  result : SinkResult

/-- An answer may depend on everything the sink was told, the last emission at the end. -/
abbrev EventSink := List Emission → SinkAnswer

inductive Cursor
  | inactive
  | active (id : Option EventId)
  deriving DecidableEq

/-- The context of one thread, and what its sink was told. -/
structure Tracer where
  cursor : Cursor
  emissions : List Emission

namespace Tracer

/-- Only an active scope has a cursor to move. -/
def advance (t : Tracer) (id : EventId) : Tracer :=
  match t.cursor with
  | .inactive => t
  | .active _ => { t with cursor := .active (some id) }

def currentCauseId (t : Tracer) : Option EventId :=
  match t.cursor with
  | .active (some id) => if id.isEmpty then none else some id
  | _ => none

/-- `_safe_emit`: whatever the sink does, this returns. -/
def safeEmit (sink : Option EventSink) (emission : Emission) (t : Tracer) :
    Option EventId × Tracer :=
  match sink with
  | none => (none, t)
  | some sink =>
    let emissions := t.emissions ++ [emission]
    let answer := sink emissions
    let told : Tracer := { t with emissions := emissions }
    let marked := match answer.mark with
      | some id => told.advance id
      | none => told
    match answer.result with
    | .event id => if id.isEmpty then (none, marked) else (some id, marked.advance id)
    | _ => (none, marked)

end Tracer

/-! ## Sidecars -/

/-- `_WireTraceSidecar.__post_init__`. -/
def newSidecar (rpcId : String) (predecessor : Option EventId) :
    Except String WireTraceSidecar := do
  raiseIf (rpcId = "") "rpc_id must be a non-empty string"
  raiseIf (128 < rpcId.utf8ByteSize) "rpc_id is too long"
  match predecessor with
  | none => return ⟨rpcId, none⟩
  | some (.unencodable _) => throw "surrogates not allowed"
  | some (.text value) => do
      raiseIf (value = "") "predecessor_event_id must be a non-empty string or None"
      raiseIf (1024 < value.utf8ByteSize) "predecessor_event_id is too long"
      return ⟨rpcId, some value⟩

/-- The constructor of a sidecar takes the id. -/
def EventId.Fits : EventId → Prop
  | .text value => value ≠ "" ∧ value.utf8ByteSize ≤ 1024
  | .unencodable _ => False

/-- The checks that `__post_init__` makes, on metadata that did not pass through it. -/
def WireTraceSidecar.Valid (trace : WireTraceSidecar) : Prop :=
  trace.rpcId ≠ "" ∧ trace.rpcId.utf8ByteSize ≤ 128 ∧
    ∀ value ∈ trace.predecessorEventId, (EventId.text value).Fits

instance (id : EventId) : Decidable id.Fits :=
  match id with
  | .text value => inferInstanceAs (Decidable (value ≠ "" ∧ value.utf8ByteSize ≤ 1024))
  | .unencodable _ => inferInstanceAs (Decidable False)

instance (trace : WireTraceSidecar) : Decidable trace.Valid :=
  inferInstanceAs (Decidable (_ ∧ _ ∧ ∀ value ∈ trace.predecessorEventId,
    (EventId.text value).Fits))

/-- `_trace_sidecar`: invalid metadata is no metadata. -/
def traceSidecar {Obj : Type} (value : WireValue Obj) : Option WireTraceSidecar :=
  value.trace.filter fun trace => decide trace.Valid

def tracePredecessor (sidecar : Option WireTraceSidecar) : Option EventId :=
  sidecar.bind fun trace => trace.predecessorEventId.map EventId.text

/-- `_reply_with_predecessor`, which the client does in place. -/
def withPredecessor {Obj : Type} (value : Obj) (rpcId : Option String)
    (predecessor : Option EventId) : Except String (WireValue Obj) :=
  match rpcId with
  | none => .ok (.plain value)
  | some rpcId => do
      let trace ← newSidecar rpcId predecessor
      return .traced value trace

/-! ## Envelopes -/

structure WireRequest (Obj : Type) where
  handler : String
  payload : Obj

/-- A reply that is not `ok` is described by texts. -/
inductive WireReply (Obj : Type)
  | value (value : Obj)
  | failed (errorType errorMessage tracebackText : String)

def WireReply.isOk {Obj : Type} : WireReply Obj → Bool
  | .value _ => true
  | .failed .. => false

structure Failure where
  typeName : String
  message : String
  traceback : String
  deriving DecidableEq

def failureReply {Obj : Type} (failure : Failure) : WireReply Obj :=
  .failed failure.typeName failure.message failure.traceback

structure Envelope (Obj : Type) where
  request : WireRequest Obj → Obj
  reply : WireReply Obj → Obj
  /-- `isinstance(value, _WireReply)`. -/
  asReply : Obj → Option (WireReply Obj)

def TransportError.typeName : TransportError → String
  | .transport _ => "TransportError"
  | .frameTooLarge _ => "FrameTooLarge"
  | .connectionClosed _ => "ConnectionClosed"
  | .timeout _ => "TransportTimeout"

def TransportError.message : TransportError → String
  | .transport message | .frameTooLarge message | .connectionClosed message | .timeout message =>
    message

end Transport

end MiniRay
