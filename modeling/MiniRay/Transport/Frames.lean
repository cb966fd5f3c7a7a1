import MiniRay.Library.BigEndian

/-! A frame is a four-byte length and a pickle. A zero length announces one frame of trace metadata
before the frame of the business value. -/

namespace MiniRay

namespace Transport

inductive TransportError
  | transport (message : String)
  | frameTooLarge (message : String)
  | connectionClosed (message : String)
  | timeout (message : String)
  deriving DecidableEq

def maxTraceSidecarBytes : Nat := 4096

/-- Private causal metadata, separate from business values. -/
structure WireTraceSidecar where
  rpcId : String
  predecessorEventId : Option String
  deriving DecidableEq

/-- What the transport relies on of pickle. A value is pickled by calls that may each raise, or
spell the value in another way. -/
structure Pickler (Obj : Type) where
  dumps : Nat → Obj → Option (List UInt8)
  loads : List UInt8 → Option Obj
  sidecar : WireTraceSidecar → Obj
  /-- `isinstance(value, _WireTraceSidecar)`. -/
  asSidecar : Obj → Option WireTraceSidecar
  loads_dumps : ∀ call value bytes, dumps call value = some bytes → loads bytes = some value
  dumps_ne_nil : ∀ call value bytes, dumps call value = some bytes → bytes ≠ []
  asSidecar_sidecar : ∀ trace, asSidecar (sidecar trace) = some trace

/-- A business value, with the metadata of its wire frame or without. -/
inductive WireValue (Obj : Type)
  | plain (value : Obj)
  | traced (value : Obj) (trace : WireTraceSidecar)

def WireValue.business {Obj : Type} : WireValue Obj → Obj
  | .plain value => value
  | .traced value _ => value

def WireValue.trace {Obj : Type} : WireValue Obj → Option WireTraceSidecar
  | .plain _ => none
  | .traced _ trace => some trace

def packLength (n : Nat) : List UInt8 := Sha256.bigEndian 4 n

variable {Obj : Type} (pickler : Pickler Obj)

/-! ## Sending -/

/-- The sidecar if it can be sent. It never makes a value fail. -/
def sendableSidecar : WireValue Obj → Option WireTraceSidecar
  | .plain _ => none
  | .traced _ trace =>
    match pickler.dumps 0 (pickler.sidecar trace) with
    | some candidate => if candidate.length ≤ maxTraceSidecarBytes then some trace else none
    | none => none

def encode (value : WireValue Obj) (maxFrameBytes : Nat) :
    Except TransportError (List UInt8) :=
  match pickler.dumps 1 value.business with
  | none => .error (.transport "could not serialize transport value")
  | some payload =>
    if payload.length > maxFrameBytes then
      .error (.frameTooLarge ("outgoing frame is " ++ toString payload.length ++
        " bytes; limit is " ++ toString maxFrameBytes))
    else
      let businessFrame := packLength payload.length ++ payload
      match sendableSidecar pickler value with
      | none => .ok businessFrame
      | some trace =>
        match pickler.dumps 2 (pickler.sidecar trace) with
        | none => .ok businessFrame
        | some sidecarPayload =>
          if sidecarPayload.length > maxTraceSidecarBytes then .ok businessFrame
          else .ok (packLength 0 ++ packLength sidecarPayload.length ++ sidecarPayload ++
            businessFrame)

/-! ## Receiving -/

/-- How a connection ends after the bytes that arrived. -/
inductive Fate
  | closed
  | timedOut
  | failed

/-- One buffer of exact size that the receiver fills. -/
inductive Buffer
  | header
  | payload (limit size : Nat)

/-- What the peer sent, in the pieces that arrive, and the buffers filled so far. -/
structure Connection where
  chunks : List (List UInt8)
  fate : Fate := .closed
  buffers : List Buffer := []

/-- A receiver moves along its connection even when it raises. -/
abbrev Receiver := ExceptT TransportError (StateM Connection)

/-- `connection.recv`: at most `size` bytes of what arrived, nothing when the peer closed. -/
def recv (size : Nat) : Receiver (List UInt8) := do
  let conn ← get
  match conn.chunks with
  | [] =>
    match conn.fate with
    | .closed => return []
    | .timedOut => throw (.timeout "timed out while receiving a frame")
    | .failed => throw (.transport "failed while receiving a frame")
  | chunk :: rest =>
    if chunk.length ≤ size then do
      set { conn with chunks := rest }
      return chunk
    else do
      set { conn with chunks := chunk.drop size :: rest }
      return chunk.take size

/-- The loop of `_recv_exact`. -/
def recvLoop (size : Nat) (chunks : List UInt8) : Receiver (List UInt8) :=
  if _ : chunks.length < size then do
    let chunk ← recv (size - chunks.length)
    if _ : chunk = [] then
      throw (.connectionClosed ("peer closed the connection after " ++ toString chunks.length ++
        " of " ++ toString size ++ " bytes"))
    else recvLoop size (chunks ++ chunk)
  else return chunks
termination_by size - chunks.length
decreasing_by
  have := List.length_pos_of_ne_nil ‹¬ chunk = []›
  rw [List.length_append]
  omega

def recvExact (buffer : Buffer) (size : Nat) : Receiver (List UInt8) := do
  modify fun conn => { conn with buffers := conn.buffers ++ [buffer] }
  recvLoop size []

def recvLength : Receiver Nat := do
  let header ← recvExact .header 4
  return BigEndian.value header

def receivePayload (size maxFrameBytes : Nat) : Receiver Obj :=
  if size = 0 then throw (.transport "empty transport frame")
  else if size > maxFrameBytes then
    throw (.frameTooLarge ("incoming frame declares " ++ toString size ++ " bytes; limit is " ++
      toString maxFrameBytes))
  else do
    let payload ← recvExact (.payload maxFrameBytes size) size
    match pickler.loads payload with
    | some value => return value
    | none => throw (.transport "could not deserialize transport value")

def receive (maxFrameBytes : Nat) : Receiver (WireValue Obj) := do
  let size ← recvLength
  if size ≠ 0 then do
    let value ← receivePayload pickler size maxFrameBytes
    return .plain value
  else do
    let sidecarSize ← recvLength
    let sidecar ← receivePayload pickler sidecarSize maxTraceSidecarBytes
    match pickler.asSidecar sidecar with
    | none => throw (.transport "expected a trace sidecar envelope")
    | some trace => do
        let businessSize ← recvLength
        let value ← receivePayload pickler businessSize maxFrameBytes
        return .traced value trace

end Transport

end MiniRay
