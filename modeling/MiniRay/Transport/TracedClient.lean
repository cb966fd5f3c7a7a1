import MiniRay.Transport.Tracing

/-! # The client side of a traced call -/

namespace MiniRay

namespace Transport

inductive RequestError
  | value (message : String)
  | transport (e : TransportError)
  | connectionTimeout (message : String)
  | connection (message : String)
  | remoteCall (handler remoteType message traceback : String)
  deriving DecidableEq

inductive SocketFate
  | done
  | timedOut
  | failed

/-- What the clock, the socket and the peer do to a call's business value. -/
structure Network (Obj : Type) where
  connectExpired : Bool
  connect : SocketFate
  sendExpired : Bool
  sendall : SocketFate
  receive : Except TransportError Obj

/-- Everything about a call that tracing can differ in. -/
structure ClientTracing where
  sink : Option EventSink
  tracer : Tracer
  component : String
  peer : String
  freshRpcId : String
  replyTrace : Option WireTraceSidecar
  /-- `uuid.uuid4().hex`. -/
  fresh : freshRpcId.length = 32 ∧ freshRpcId.utf8ByteSize = 32

/-- What a call did: the frame it gave to the socket, and how it ended. -/
structure Exchange (Obj : Type) where
  sent : Option (List UInt8)
  result : Except RequestError Obj
  tracer : Tracer

namespace ClientTracing

variable (c : ClientTracing)

def rpcId : Option String :=
  if c.sink.isSome ∨ c.tracer.currentCauseId.isSome then some c.freshRpcId else none

def emission (name : String) (causeId : Option EventId) (handler : String)
    (attributes : List (String × Attribute)) : Emission :=
  ⟨name, c.component, causeId, [("handler", .text handler), ("peer", .text c.peer),
    ("rpc_id", .text (c.rpcId.getD ""))] ++ attributes⟩

def emitSent (handler : String) : Option EventId × Tracer :=
  c.tracer.safeEmit c.sink (c.emission "rpc_request_sent" c.tracer.currentCauseId handler
    [("delivery", .text "unknown")])

/-- `sent_event_id or caller_predecessor`. -/
def predecessor (handler : String) : Option EventId :=
  (c.emitSent handler).1 <|> c.tracer.currentCauseId

/-- Tell the sink of a failure, then raise it. -/
def fail {Obj : Type} (handler stage errorType delivery : String) (sent : Option (List UInt8))
    (e : RequestError) : Exchange Obj :=
  ⟨sent, .error e, ((c.emitSent handler).2.safeEmit c.sink
    (c.emission "rpc_request_failed" (c.predecessor handler) handler
      [("stage", .text stage), ("error_type", .text errorType), ("delivery", .text delivery)])).2⟩

/-- The reply of the peer as the call's end. -/
def finish {Obj : Type} (handler : String) (sent : Option (List UInt8)) (reply : WireReply Obj) :
    Exchange Obj :=
  let sidecar := (c.replyTrace.filter fun trace => decide trace.Valid).filter fun trace =>
    c.rpcId.all (· = trace.rpcId)
  let received := fun isOk errorType => ((c.emitSent handler).2.safeEmit c.sink
    (c.emission "rpc_reply_received" (tracePredecessor sidecar <|> c.predecessor handler) handler
      [("ok", .flag isOk), ("error_type", .text errorType)])).2
  match reply with
  | .value value => ⟨sent, .ok value, received true ""⟩
  | .failed errorType errorMessage tracebackText =>
    ⟨sent, .error (.remoteCall handler errorType errorMessage tracebackText),
      received false errorType⟩

end ClientTracing

variable {Obj : Type} (pickler : Pickler Obj) (envelope : Envelope Obj) (maxFrameBytes : Nat)

def exchange (network : Network Obj) (c : ClientTracing) (handler : String) (frame : List UInt8) :
    Exchange Obj :=
  if network.connectExpired then
    c.fail handler "connect" "TransportConnectionTimeout" "not_sent" none
      (.transport (.timeout "RPC deadline expired"))
  else match network.connect with
  | .timedOut =>
    c.fail handler "connect" "TransportConnectionTimeout" "not_sent" none
      (.connectionTimeout "timed out while connecting to server")
  | .failed =>
    c.fail handler "connect" "TransportConnectionError" "not_sent" none
      (.connection "could not connect to server")
  | .done =>
    if network.sendExpired then
      c.fail handler "request_send" "TransportTimeout" "not_sent" none
        (.transport (.timeout "RPC deadline expired"))
    else match network.sendall with
    | .timedOut =>
      c.fail handler "request_send" "TransportTimeout" "unknown" (some frame)
        (.transport (.timeout "timed out while sending request"))
    | .failed =>
      c.fail handler "request_send" "TransportError" "unknown" (some frame)
        (.transport (.transport "failed while sending request"))
    | .done =>
      match network.receive with
      | .error e =>
        let stage := if e.message.startsWith "could not deserialize" then "reply_decode"
          else "reply_receive"
        c.fail handler stage e.typeName "unknown" (some frame) (.transport e)
      | .ok value =>
        match envelope.asReply value with
        | none =>
          c.fail handler "reply_envelope" "TransportError" "unknown" (some frame)
            (.transport (.transport "expected a reply envelope"))
        | some reply => c.finish handler (some frame) reply

def request (network : Network Obj) (c : ClientTracing) (handler : String) (payload : Obj) :
    Exchange Obj :=
  if handler = "" then
    ⟨none, .error (.value "handler must be a non-empty string"), c.tracer⟩
  else
    match withPredecessor (envelope.request ⟨handler, payload⟩) c.rpcId (c.predecessor handler) with
    | .error message => ⟨none, .error (.value message), (c.emitSent handler).2⟩
    | .ok value =>
      match encode pickler value maxFrameBytes with
      | .error e =>
        c.fail handler "request_encode" e.typeName "not_sent" none (.transport e)
      | .ok frame => exchange envelope network c handler frame

end Transport

end MiniRay
