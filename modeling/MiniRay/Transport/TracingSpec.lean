import MiniRay.Transport.StreamSpec
import MiniRay.Transport.TracedClient
import MiniRay.Transport.TracedServer

/-! A call with any sink does to its business values what it does without one, unless an event id
that is put into a sidecar does not fit there. -/

namespace MiniRay

namespace Transport

open Checked

variable {Obj : Type}

/-! ## Sidecars -/

/-- The ids that a sidecar accepts as predecessors. -/
def Fitting (predecessor : Option EventId) : Prop := ∀ id ∈ predecessor, id.Fits

variable {predecessor : Option EventId}

theorem newSidecar_ok {rpcId : String} (hne : rpcId ≠ "") (hsize : rpcId.utf8ByteSize ≤ 128)
    (h : Fitting predecessor) : ∃ trace, newSidecar rpcId predecessor = .ok trace := by
  have hrpc : raiseIf (128 < rpcId.utf8ByteSize) "rpc_id is too long" = .ok () :=
    raiseIf_ok (not_lt.mpr hsize)
  unfold newSidecar
  rw [raiseIf_ok hne, hrpc]
  cases predecessor with
  | none => exact ⟨_, rfl⟩
  | some id =>
    cases id with
    | unencodable points => exact (h _ rfl).elim
    | text value =>
      obtain ⟨hempty, hlong⟩ := h _ rfl
      have hvalue : raiseIf (1024 < value.utf8ByteSize) "predecessor_event_id is too long" =
          .ok () := raiseIf_ok (not_lt.mpr hlong)
      refine ⟨⟨rpcId, some value⟩, ?_⟩
      change (raiseIf (value = "") _ >>= fun _ => raiseIf (1024 < value.utf8ByteSize) _ >>= _) = _
      rw [raiseIf_ok hempty, hvalue]
      rfl

theorem fitting_of_newSidecar {rpcId : String} {trace : WireTraceSidecar}
    (h : newSidecar rpcId predecessor = .ok trace) : Fitting predecessor := by
  obtain ⟨_, -, h⟩ := bind_eq_ok.mp h
  obtain ⟨_, -, h⟩ := bind_eq_ok.mp h
  cases predecessor with
  | none => exact nofun
  | some id =>
    cases id with
    | unencodable points => cases h
    | text value =>
      obtain ⟨_, hempty, h⟩ := bind_eq_ok.mp h
      obtain ⟨_, hlong, -⟩ := bind_eq_ok.mp h
      intro id hid
      cases hid
      exact ⟨raiseIf_eq_ok.mp hempty, not_lt.mp (raiseIf_eq_ok.mp hlong)⟩

variable {rpcId : Option String}

/-- Without an RPC id there is no sidecar; with one, its predecessor has to fit. -/
theorem withPredecessor_cases (value : Obj) (predecessor : Option EventId)
    (hrpc : ∀ id ∈ rpcId, id ≠ "" ∧ id.utf8ByteSize ≤ 128) :
    (rpcId = none ∨ Fitting predecessor) ∧
        (∃ wire, withPredecessor value rpcId predecessor = .ok wire) ∨
      ¬(rpcId = none ∨ Fitting predecessor) ∧
        ∃ message, withPredecessor value rpcId predecessor = .error message := by
  cases rpcId with
  | none => exact .inl ⟨.inl rfl, _, rfl⟩
  | some rpcId =>
    obtain ⟨hne, hsize⟩ := hrpc _ rfl
    by_cases hfits : Fitting predecessor
    · obtain ⟨trace, htrace⟩ := newSidecar_ok hne hsize hfits
      exact .inl ⟨.inr hfits, _, by rw [withPredecessor, htrace]; rfl⟩
    · refine .inr ⟨fun h => h.elim nofun hfits, ?_⟩
      cases hsidecar : newSidecar rpcId predecessor with
      | error message => exact ⟨message, by rw [withPredecessor, hsidecar]; rfl⟩
      | ok trace => exact absurd (fitting_of_newSidecar hsidecar) hfits

theorem withPredecessor_business {value : Obj} {wire : WireValue Obj}
    (h : withPredecessor value rpcId predecessor = .ok wire) : wire.business = value := by
  cases rpcId with
  | none =>
    cases h
    rfl
  | some rpcId =>
    obtain ⟨trace, -, hwire⟩ := bind_eq_ok.mp h
    cases hwire
    rfl

/-! ## Frames -/

theorem encode_business (pickler : Pickler Obj) (maxFrameBytes : Nat) (value : WireValue Obj) :
    (∃ e, encode pickler value maxFrameBytes = .error e ∧
        encode pickler (.plain value.business) maxFrameBytes = .error e) ∨
      ∃ frame plain, encode pickler value maxFrameBytes = .ok frame ∧
        encode pickler (.plain value.business) maxFrameBytes = .ok plain := by
  have hsame : (WireValue.plain value.business).business = value.business := rfl
  unfold encode
  rw [hsame]
  cases pickler.dumps 1 value.business with
  | none => exact .inl ⟨_, rfl, rfl⟩
  | some payload =>
    by_cases hlong : payload.length > maxFrameBytes
    · simp only [if_pos hlong]
      exact .inl ⟨_, rfl, rfl⟩
    · simp only [if_neg hlong]
      refine .inr ?_
      cases sendableSidecar pickler value with
      | none => exact ⟨_, _, rfl, rfl⟩
      | some trace =>
        cases hdumps : pickler.dumps 2 (pickler.sidecar trace) with
        | none => exact ⟨_, _, by simp only [hdumps]; rfl, rfl⟩
        | some sidecar =>
          by_cases hsize : sidecar.length > maxTraceSidecarBytes
          · exact ⟨_, _, by simp only [hdumps, if_pos hsize]; rfl, rfl⟩
          · exact ⟨_, _, by simp only [hdumps, if_neg hsize]; rfl, rfl⟩

/-! ## The client -/

/-- How a call looks to its caller. -/
def Exchange.outcome (x : Exchange Obj) : Bool × Except RequestError Obj :=
  (x.sent.isSome, x.result)

def ClientTracing.off (c : ClientTracing) : ClientTracing :=
  { c with sink := none, tracer := ⟨.inactive, []⟩, replyTrace := none }

namespace ClientTracing

variable (c : ClientTracing)

theorem rpcId_bounds : ∀ id ∈ c.rpcId, id ≠ "" ∧ id.utf8ByteSize ≤ 128 := by
  intro id hid
  have hsame : c.freshRpcId = id := by
    unfold rpcId at hid
    by_cases hactive : c.sink.isSome ∨ c.tracer.currentCauseId.isSome
    · rw [if_pos hactive] at hid
      exact Option.some.inj hid
    · rw [if_neg hactive] at hid
      cases hid
  obtain ⟨hlength, hsize⟩ := c.fresh
  rw [hsame] at hlength hsize
  constructor
  · rintro rfl
    simp at hlength
  · omega

theorem predecessor_of_rpcId {handler : String} (h : c.rpcId = none) :
    c.predecessor handler = none := by
  unfold rpcId at h
  have hquiet : ¬(c.sink.isSome ∨ c.tracer.currentCauseId.isSome) := fun hactive => by
    rw [if_pos hactive] at h
    cases h
  rw [not_or, Bool.not_eq_true, Bool.not_eq_true, Option.isSome_eq_false_iff,
    Option.isSome_eq_false_iff, Option.isNone_iff_eq_none, Option.isNone_iff_eq_none] at hquiet
  rw [predecessor, emitSent, hquiet.1, hquiet.2]
  rfl

theorem off_rpcId : c.off.rpcId = none := rfl

end ClientTracing

theorem exchange_ends (envelope : Envelope Obj) (network : Network Obj) (handler : String) :
    ∃ sends result, (∀ c frame,
      (exchange envelope network c handler frame).sent =
        (if sends = true then some frame else none) ∧
        (exchange envelope network c handler frame).result = result) ∧
      ∀ message, result ≠ .error (.value message) := by
  unfold exchange
  cases network.connectExpired with
  | true => exact ⟨false, _, fun _ _ => ⟨rfl, rfl⟩, nofun⟩
  | false =>
    cases network.connect with
    | timedOut => exact ⟨false, _, fun _ _ => ⟨rfl, rfl⟩, nofun⟩
    | failed => exact ⟨false, _, fun _ _ => ⟨rfl, rfl⟩, nofun⟩
    | done =>
      cases network.sendExpired with
      | true => exact ⟨false, _, fun _ _ => ⟨rfl, rfl⟩, nofun⟩
      | false =>
        cases network.sendall with
        | timedOut => exact ⟨true, _, fun _ _ => ⟨rfl, rfl⟩, nofun⟩
        | failed => exact ⟨true, _, fun _ _ => ⟨rfl, rfl⟩, nofun⟩
        | done =>
          cases network.receive with
          | error e => exact ⟨true, _, fun _ _ => ⟨rfl, rfl⟩, nofun⟩
          | ok value =>
            cases henvelope : envelope.asReply value with
            | none =>
              simp only [henvelope]
              exact ⟨true, _, fun _ _ => ⟨rfl, rfl⟩, nofun⟩
            | some reply =>
              simp only [henvelope]
              cases reply with
              | value value => exact ⟨true, _, fun _ _ => ⟨rfl, rfl⟩, nofun⟩
              | failed => exact ⟨true, _, fun _ _ => ⟨rfl, rfl⟩, nofun⟩

section Client

variable (pickler : Pickler Obj) (envelope : Envelope Obj) (maxFrameBytes : Nat)
  (network : Network Obj) (c : ClientTracing) (handler : String) (payload : Obj)

theorem request_off (h : handler ≠ "") :
    request pickler envelope maxFrameBytes network c.off handler payload =
      match encode pickler (.plain (envelope.request ⟨handler, payload⟩)) maxFrameBytes with
      | .error e =>
        c.off.fail handler "request_encode" e.typeName "not_sent" none (.transport e)
      | .ok frame => exchange envelope network c.off handler frame := by
  rw [request, if_neg h, c.off_rpcId]
  rfl

theorem request_outcome_iff :
    (request pickler envelope maxFrameBytes network c handler payload).outcome =
        (request pickler envelope maxFrameBytes network c.off handler payload).outcome ↔
      handler = "" ∨ Fitting (c.predecessor handler) := by
  by_cases hname : handler = ""
  · rw [request, request, if_pos hname, if_pos hname]
    exact ⟨fun _ => .inl hname, fun _ => rfl⟩
  rw [request_off pickler envelope maxFrameBytes network c handler payload hname, request,
    if_neg hname, or_iff_right hname]
  obtain ⟨hfits, wire, hwire⟩ | ⟨hfits, message, hmessage⟩ := withPredecessor_cases
    (envelope.request ⟨handler, payload⟩) (c.predecessor handler) c.rpcId_bounds
  · have hfitting : Fitting (c.predecessor handler) := by
      refine hfits.elim (fun hnone => ?_) id
      rw [c.predecessor_of_rpcId hnone]
      exact nofun
    refine iff_of_true ?_ hfitting
    have hbusiness := withPredecessor_business hwire
    simp only [hwire]
    obtain ⟨e, he, he'⟩ | ⟨frame, plain, hframe, hplain⟩ :=
      encode_business pickler maxFrameBytes wire
    · rw [hbusiness] at he'
      simp only [he, he']
      rfl
    · rw [hbusiness] at hplain
      simp only [hframe, hplain]
      obtain ⟨sends, result, hends, hne⟩ := exchange_ends envelope network handler
      rw [Exchange.outcome, Exchange.outcome, (hends _ _).1, (hends _ _).1, (hends _ _).2,
        (hends _ _).2]
      cases sends <;> rfl
  · refine iff_of_false ?_ fun hfitting => hfits (.inr hfitting)
    simp only [hmessage]
    intro hsame
    have hresult := congrArg Prod.snd hsame
    simp only [Exchange.outcome] at hresult
    cases hplain : encode pickler (.plain (envelope.request ⟨handler, payload⟩))
        maxFrameBytes with
    | error e =>
      simp only [hplain, ClientTracing.fail] at hresult
      cases hresult
    | ok frame =>
      simp only [hplain] at hresult
      obtain ⟨sends, result, hends, hne⟩ := exchange_ends envelope network handler
      rw [(hends _ _).2] at hresult
      exact hne message hresult.symm

/-- Whatever the metadata, the peer reads the business request. -/
theorem request_delivers (hlimit : maxFrameBytes < 2 ^ 32) :
    ∀ frame ∈ (request pickler envelope maxFrameBytes network c handler payload).sent,
      ∃ result, result.business = envelope.request ⟨handler, payload⟩ ∧
        ∀ rest, decode pickler maxFrameBytes (frame ++ rest) = some (result, rest) := by
  intro sent hsent
  by_cases hname : handler = ""
  · rw [request, if_pos hname] at hsent
    cases hsent
  rw [request, if_neg hname] at hsent
  cases hwire : withPredecessor (envelope.request ⟨handler, payload⟩) c.rpcId
      (c.predecessor handler) with
  | error message =>
    simp only [hwire] at hsent
    cases hsent
  | ok wire =>
    simp only [hwire] at hsent
    cases hframe : encode pickler wire maxFrameBytes with
    | error e =>
      simp only [hframe] at hsent
      cases hsent
    | ok frame =>
      simp only [hframe] at hsent
      obtain ⟨sends, result, hends, hne⟩ := exchange_ends envelope network handler
      have hframe' : frame = sent := by
        rw [(hends _ _).1] at hsent
        cases sends with
        | true => exact Option.some.inj hsent
        | false => cases hsent
      rw [hframe'] at hframe
      obtain ⟨result, hdelivers, hdecode⟩ := decode_encode hlimit hframe
      exact ⟨result, hdelivers.1.trans (withPredecessor_business hwire), hdecode⟩

end Client

end Transport

end MiniRay
