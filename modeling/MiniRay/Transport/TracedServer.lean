import MiniRay.Transport.Tracing

/-! # The server side of a traced call -/

namespace MiniRay

namespace Transport

/-! ## What surrounds a request -/

/-- How an exception leaves: `KeyboardInterrupt` and `SystemExit` pass through. -/
inductive Raised
  | ordinary (failure : Failure)
  | processControl (typeName : String)
  deriving DecidableEq

inductive Handled (Obj : Type)
  | value (value : Obj)
  | raised (raised : Raised)

/-- `handlers.get`, and the traceback of the `KeyError` when there is none. -/
inductive Lookup (Obj : Type)
  | found (handler : Obj → Handled Obj)
  | missing (failure : Failure)
  | raised (raised : Raised)

inductive SendOutcome
  | sent
  /-- `_PreSendTransportError`: nothing was written. -/
  | preSend (original : Failure)
  | transport (failure : Failure)
  /-- Anything else than a `TransportError`. -/
  | raised (failure : Failure)

inductive ServeError
  | transport (message : String)
  | processControl (typeName : String)
  | value (message : String)
  | sender (failure : Failure)

/-- A sender may depend on the attempts before, and on the metadata. -/
abbrev Sender (Obj : Type) :=
  List (WireValue (WireReply Obj)) → WireValue (WireReply Obj) → SendOutcome

/-- Everything about serving that tracing can differ in. -/
structure ServerTracing where
  sink : Option EventSink
  tracer : Tracer
  component : String
  peer : String
  freshRpcId : String
  /-- What the handler itself emits, and where it leaves the cursor. -/
  handlerTrace : Tracer → Tracer
  fresh : freshRpcId.length = 32 ∧ freshRpcId.utf8ByteSize = 32

/-- The payloads given to handlers, the replies given to the sender, and the end. -/
structure Served (Obj : Type) where
  calls : List Obj
  attempts : List (WireValue (WireReply Obj))
  result : Except ServeError Unit

namespace ServerTracing

variable (s : ServerTracing) {Obj : Type}

def rpcId (sidecar : Option WireTraceSidecar) : Option String :=
  match sidecar with
  | some trace => some trace.rpcId
  | none => if s.sink.isSome then some s.freshRpcId else none

def scope (incoming : Option EventId) : Tracer :=
  if s.sink.isNone ∧ incoming.isNone then s.tracer
  else { s.tracer with cursor := .active incoming }

/-- Emit with the attributes all events of a request share, returning the cause. -/
def emit (handler : String) (rpcId : Option String) (name : String) (causeId : Option EventId)
    (attributes : List (String × Attribute)) (t : Tracer) : Option EventId × Tracer :=
  let emitted := t.safeEmit s.sink ⟨name, s.component, causeId, [("handler", .text handler),
    ("peer", .text s.peer), ("rpc_id", .text (rpcId.getD ""))] ++ attributes⟩
  (emitted.1 <|> causeId, emitted.2)

/-! ## Dispatch -/

def failed (handler : String) (rpcId : Option String) (stage : String)
    (causeId : Option EventId) (raised : Raised) (t : Tracer) :
    Except ServeError (WireReply Obj) × Tracer :=
  match raised with
  | .processControl typeName => (.error (.processControl typeName), t)
  | .ordinary failure =>
    (.ok (failureReply failure), (s.emit handler rpcId "rpc_handler_failed" causeId
      [("stage", .text stage), ("error_type", .text failure.typeName)] t).2)

/-- Look the handler up and call it; the first component lists its calls. -/
def dispatch (handlers : String → Lookup Obj) (request : WireRequest Obj)
    (rpcId : Option String) (incoming : Option EventId) (t : Tracer) :
    List Obj × Except ServeError (WireReply Obj) × Tracer :=
  let received := s.emit request.handler rpcId "rpc_request_received" incoming [] t
  match handlers request.handler with
  | .raised raised => ([], s.failed request.handler rpcId "dispatch" received.1 raised received.2)
  | .missing failure =>
    ([], s.failed request.handler rpcId "dispatch" received.1 (.ordinary failure) received.2)
  | .found handler =>
    let started := s.emit request.handler rpcId "rpc_handler_started" received.1 [] received.2
    let left := s.handlerTrace started.2
    let causeId := left.currentCauseId <|> started.1
    match handler request.payload with
    | .raised raised =>
      ([request.payload], s.failed request.handler rpcId "handler" causeId raised left)
    | .value value =>
      ([request.payload], .ok (.value value),
        (s.emit request.handler rpcId "rpc_handler_finished" causeId [] left).2)

/-! ## Replies -/

def announce (handler : String) (rpcId : Option String) (isOk : Bool) (causeId : Option EventId)
    (t : Tracer) : Option EventId × Tracer :=
  s.emit handler rpcId "rpc_reply_sent" causeId
    [("ok", .flag isOk), ("delivery", .text "unknown")] t

def replyFailed (handler : String) (rpcId : Option String) (isOk : Bool)
    (stage errorType delivery : String) (causeId : Option EventId) (t : Tracer) :
    Option EventId × Tracer :=
  s.emit handler rpcId "rpc_reply_failed" causeId [("ok", .flag isOk), ("stage", .text stage),
    ("error_type", .text errorType), ("delivery", .text delivery)] t

/-- The error reply in place of a value that could not be encoded. -/
def sendFallback (handler : String) (rpcId : Option String) (sender : Sender Obj)
    (first : WireValue (WireReply Obj)) (original : Failure) (causeId : Option EventId)
    (t : Tracer) : List (WireValue (WireReply Obj)) × Except ServeError Unit × Tracer :=
  let announced := s.announce handler rpcId false causeId t
  match withPredecessor (failureReply original) rpcId announced.1 with
  | .error message => ([first], .error (.value message), announced.2)
  | .ok second =>
    match sender [first] second with
    | .sent => ([first, second], .ok (), announced.2)
    | .raised failure => ([first, second], .error (.sender failure), announced.2)
    | .preSend failure =>
      ([first, second], .ok (), (s.replyFailed handler rpcId false "reply_encode"
        failure.typeName "unknown" announced.1 announced.2).2)
    | .transport failure =>
      ([first, second], .ok (), (s.replyFailed handler rpcId false "reply_send"
        failure.typeName "unknown" announced.1 announced.2).2)

def sendServerReply (handler : String) (rpcId : Option String) (sender : Sender Obj)
    (reply : WireReply Obj) (t : Tracer) :
    List (WireValue (WireReply Obj)) × Except ServeError Unit × Tracer :=
  let announced := s.announce handler rpcId reply.isOk t.currentCauseId t
  match withPredecessor reply rpcId announced.1 with
  | .error message => ([], .error (.value message), announced.2)
  | .ok first =>
    match sender [] first with
    | .sent => ([first], .ok (), announced.2)
    | .raised failure => ([first], .error (.sender failure), announced.2)
    | .transport failure =>
      ([first], .ok (), (s.replyFailed handler rpcId reply.isOk "reply_send" failure.typeName
        "unknown" announced.1 announced.2).2)
    | .preSend original =>
      let reported := s.replyFailed handler rpcId reply.isOk "reply_encode" original.typeName
        "not_sent" announced.1 announced.2
      if reply.isOk then
        s.sendFallback handler rpcId sender first original reported.1 reported.2
      else ([first], .ok (), reported.2)

end ServerTracing

variable {Obj : Type}

/-- `_serve_wire_request`; a value that is no request envelope is `none`. -/
def serveWireRequest (s : ServerTracing) (handlers : String → Lookup Obj) (sender : Sender Obj)
    (value : WireValue (Option (WireRequest Obj))) : Served Obj :=
  let sidecar := traceSidecar value
  match value.business with
  | none => ⟨[], [], .error (.transport "expected a request envelope")⟩
  | some request =>
    let incoming := tracePredecessor sidecar
    let rpcId := s.rpcId sidecar
    match s.dispatch handlers request rpcId incoming (s.scope incoming) with
    | (calls, .error e, _) => ⟨calls, [], .error e⟩
    | (calls, .ok reply, t) =>
      let sent := s.sendServerReply request.handler rpcId sender reply t
      ⟨calls, sent.1, sent.2.1⟩

/-! ## The socket as a sender -/

def WireValue.map {α β : Type} (f : α → β) : WireValue α → WireValue β
  | .plain value => .plain (f value)
  | .traced value trace => .traced (f value) trace

/-- `_send`: nothing reaches the socket unless the whole frame was encoded. -/
def send (pickler : Pickler Obj) (envelope : Envelope Obj) (maxFrameBytes : Nat)
    (traceback : TransportError → String) (sendall : List UInt8 → Option TransportError)
    (value : WireValue (WireReply Obj)) : SendOutcome :=
  match encode pickler (value.map envelope.reply) maxFrameBytes with
  | .error e => .preSend ⟨e.typeName, e.message, traceback e⟩
  | .ok frame =>
    match sendall frame with
    | none => .sent
    | some e => .transport ⟨e.typeName, e.message, traceback e⟩

end Transport

end MiniRay
