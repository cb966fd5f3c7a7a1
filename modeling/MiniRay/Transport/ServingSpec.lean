import MiniRay.Transport.TracingSpec

/-! The handler is called at most once, a second reply follows only an encoding failure, and tracing
changes nothing but through an id that does not fit its sidecar. -/

namespace MiniRay

namespace Transport

variable {Obj : Type}

/-- How serving looks to the handler and to the client. -/
def Served.outcome (x : Served Obj) : List Obj × List (WireReply Obj) × Except ServeError Unit :=
  (x.calls, x.attempts.map WireValue.business, x.result)

/-- A sender that does not look at the metadata. -/
def Sender.Blind (sender : Sender Obj) : Prop :=
  ∀ {before before' : List (WireValue (WireReply Obj))} {value value' : WireValue (WireReply Obj)},
    before.map WireValue.business = before'.map WireValue.business →
      value.business = value'.business → sender before value = sender before' value'

namespace ServerTracing

variable (s : ServerTracing)

def off : ServerTracing := { s with sink := none, tracer := ⟨.inactive, []⟩ }

/-! ## Dispatch -/

theorem failed_outcome (s s' : ServerTracing) (handler handler' : String)
    (rpcId rpcId' : Option String) (stage : String) (causeId causeId' : Option EventId)
    (raised : Raised) (t t' : Tracer) :
    ((s.failed handler rpcId stage causeId raised t).1 : Except ServeError (WireReply Obj)) =
      (s'.failed handler' rpcId' stage causeId' raised t').1 := by
  cases raised <;> rfl

theorem dispatch_outcome (s s' : ServerTracing) (handlers : String → Lookup Obj)
    (request : WireRequest Obj) (rpcId rpcId' : Option String)
    (incoming incoming' : Option EventId) (t t' : Tracer) :
    (s.dispatch handlers request rpcId incoming t).1 =
        (s'.dispatch handlers request rpcId' incoming' t').1 ∧
      (s.dispatch handlers request rpcId incoming t).2.1 =
        (s'.dispatch handlers request rpcId' incoming' t').2.1 := by
  unfold dispatch
  cases handlers request.handler with
  | raised raised => exact ⟨rfl, failed_outcome ..⟩
  | missing failure => exact ⟨rfl, rfl⟩
  | found handler =>
    cases hhandled : handler request.payload with
    | raised raised =>
      simp only [hhandled]
      exact ⟨trivial, failed_outcome ..⟩
    | value value =>
      simp only [hhandled]
      exact ⟨trivial, trivial⟩

theorem dispatch_calls (handlers : String → Lookup Obj) (request : WireRequest Obj)
    (rpcId : Option String) (incoming : Option EventId) (t : Tracer) :
    (s.dispatch handlers request rpcId incoming t).1.length ≤ 1 := by
  unfold dispatch
  cases handlers request.handler with
  | raised raised => exact Nat.zero_le _
  | missing failure => exact Nat.zero_le _
  | found handler =>
    cases hhandled : handler request.payload with
    | raised raised =>
      simp only [hhandled]
      exact Nat.le_refl _
    | value value =>
      simp only [hhandled]
      exact Nat.le_refl _

variable {handlers : String → Lookup Obj} {request : WireRequest Obj}

theorem dispatch_error {s : ServerTracing} {rpcId : Option String} {incoming : Option EventId}
    {t : Tracer} {e : ServeError}
    (h : (s.dispatch handlers request rpcId incoming t).2.1 = .error e) :
    ∃ typeName, e = .processControl typeName := by
  have hfailed : ∀ {stage : String} {causeId : Option EventId} {raised : Raised} {u : Tracer},
      ((s.failed request.handler rpcId stage causeId raised u).1 :
          Except ServeError (WireReply Obj)) = .error e →
        ∃ typeName, e = .processControl typeName := by
    intro stage causeId raised u hraised
    cases raised with
    | ordinary failure => cases hraised
    | processControl typeName => exact ⟨typeName, (Except.error.inj hraised).symm⟩
  unfold dispatch at h
  cases hlookup : handlers request.handler with
  | raised raised =>
    simp only [hlookup] at h
    exact hfailed h
  | missing failure =>
    simp only [hlookup] at h
    exact hfailed h
  | found handler =>
    cases hhandled : handler request.payload with
    | raised raised =>
      simp only [hlookup, hhandled] at h
      exact hfailed h
    | value value =>
      simp only [hlookup, hhandled] at h
      cases h

theorem dispatch_value {handler : Obj → Handled Obj} {value : Obj}
    (hlookup : handlers request.handler = .found handler)
    (hvalue : handler request.payload = .value value) (rpcId : Option String)
    (incoming : Option EventId) (t : Tracer) :
    (s.dispatch handlers request rpcId incoming t).2.1 = .ok (.value value) := by
  simp [dispatch, hlookup, hvalue]

theorem rpcId_bounds (value : WireValue (Option (WireRequest Obj))) :
    ∀ id ∈ s.rpcId (traceSidecar value), id ≠ "" ∧ id.utf8ByteSize ≤ 128 := by
  intro id hid
  unfold rpcId at hid
  cases hsidecar : traceSidecar value with
  | some trace =>
    rw [hsidecar] at hid
    obtain rfl := Option.some.inj hid
    have hvalid := of_decide_eq_true (Option.mem_filter_iff.mp hsidecar).2
    exact ⟨hvalid.1, hvalid.2.1⟩
  | none =>
    rw [hsidecar] at hid
    by_cases hsink : s.sink.isSome
    · obtain rfl := Option.some.inj ((if_pos hsink).symm.trans hid)
      obtain ⟨hlength, hsize⟩ := s.fresh
      refine ⟨?_, by omega⟩
      intro hempty
      rw [hempty] at hlength
      simp at hlength
    · simp [hsink] at hid

/-! ## Replies -/

section Reply

variable (handler : String) (rpcId : Option String) (sender : Sender Obj) (reply : WireReply Obj)
  (t : Tracer)

/-- The id that the sidecar of the first reply takes. -/
def replyPredecessor : Option EventId :=
  (s.announce handler rpcId reply.isOk t.currentCauseId t).1

/-- The id that the sidecar of the error reply takes, when the first was not encoded. -/
def fallbackPredecessor (original : Failure) : Option EventId :=
  let announced := s.announce handler rpcId reply.isOk t.currentCauseId t
  let reported := s.replyFailed handler rpcId reply.isOk "reply_encode" original.typeName
    "not_sent" announced.1 announced.2
  (s.announce handler rpcId false reported.1 reported.2).1

/-- The ids that go into sidecars fit there. -/
def ReplyFits : Prop :=
  rpcId = none ∨ Fitting (s.replyPredecessor handler rpcId reply t) ∧
    ∀ wire original, withPredecessor reply rpcId (s.replyPredecessor handler rpcId reply t) =
      .ok wire → sender [] wire = .preSend original → reply.isOk = true →
        Fitting (s.fallbackPredecessor handler rpcId reply t original)

/-- What a sender leaves of a reply attempt. -/
def ended : SendOutcome → Except ServeError Unit
  | .raised failure => .error (.sender failure)
  | _ => .ok ()

/-- The one case analysis of a reply: the attempts, and how they end. -/
inductive Replied : List (WireValue (WireReply Obj)) → Except ServeError Unit → Prop
  | unsent (message : String) :
      ¬(rpcId = none ∨ Fitting (s.replyPredecessor handler rpcId reply t)) →
        Replied [] (.error (.value message))
  | once (first : WireValue (WireReply Obj)) : first.business = reply →
      (rpcId = none ∨ Fitting (s.replyPredecessor handler rpcId reply t)) →
        withPredecessor reply rpcId (s.replyPredecessor handler rpcId reply t) = .ok first →
          (∀ original, sender [] first = .preSend original → reply.isOk = false) →
            Replied [first] (ended (sender [] first))
  | noFallback (first : WireValue (WireReply Obj)) (original : Failure) (message : String) :
      first.business = reply →
        withPredecessor reply rpcId (s.replyPredecessor handler rpcId reply t) = .ok first →
          reply.isOk = true → sender [] first = .preSend original →
            ¬(rpcId = none ∨ Fitting (s.fallbackPredecessor handler rpcId reply t original)) →
              Replied [first] (.error (.value message))
  | fallback (first second : WireValue (WireReply Obj)) (original : Failure) :
      first.business = reply → second.business = failureReply original →
        (rpcId = none ∨ Fitting (s.replyPredecessor handler rpcId reply t)) →
          withPredecessor reply rpcId (s.replyPredecessor handler rpcId reply t) = .ok first →
            reply.isOk = true → sender [] first = .preSend original →
              (rpcId = none ∨ Fitting (s.fallbackPredecessor handler rpcId reply t original)) →
                Replied [first, second] (ended (sender [first] second))

variable {original : Failure} {causeId : Option EventId}

theorem sendFallback_eq_ok (first : WireValue (WireReply Obj)) {second : WireValue (WireReply Obj)}
    (h : withPredecessor (failureReply original) rpcId
      (s.announce handler rpcId false causeId t).1 = .ok second) :
    (s.sendFallback handler rpcId sender first original causeId t).1 = [first, second] ∧
      (s.sendFallback handler rpcId sender first original causeId t).2.1 =
        ended (sender [first] second) := by
  unfold sendFallback
  simp only [h]
  cases sender [first] second <;> exact ⟨rfl, rfl⟩

theorem sendFallback_eq_error (first : WireValue (WireReply Obj)) {message : String}
    (h : withPredecessor (failureReply original : WireReply Obj) rpcId
      (s.announce handler rpcId false causeId t).1 = .error message) :
    (s.sendFallback handler rpcId sender first original causeId t).1 = [first] ∧
      (s.sendFallback handler rpcId sender first original causeId t).2.1 =
        .error (.value message) := by
  unfold sendFallback
  simp only [h]
  exact ⟨trivial, trivial⟩

theorem sendServerReply_replied (hrpc : ∀ id ∈ rpcId, id ≠ "" ∧ id.utf8ByteSize ≤ 128) :
    s.Replied handler rpcId sender reply t (s.sendServerReply handler rpcId sender reply t).1
      (s.sendServerReply handler rpcId sender reply t).2.1 := by
  obtain ⟨hfits, first, hfirst⟩ | ⟨hfits, message, hmessage⟩ :=
    withPredecessor_cases reply (s.replyPredecessor handler rpcId reply t) hrpc
  · have hbusiness := withPredecessor_business hfirst
    have hannounced := hfirst
    unfold replyPredecessor at hannounced
    unfold sendServerReply
    simp only [hannounced]
    have honce (hfinal : ∀ original, sender [] first = .preSend original → reply.isOk = false) :
        s.Replied handler rpcId sender reply t [first] (ended (sender [] first)) :=
      .once first hbusiness hfits hfirst hfinal
    cases hsender : sender [] first with
    | sent =>
      rw [hsender] at honce
      exact honce (fun _ h => by cases h)
    | transport failure =>
      rw [hsender] at honce
      exact honce (fun _ h => by cases h)
    | raised failure =>
      rw [hsender] at honce
      exact honce (fun _ h => by cases h)
    | preSend original =>
      cases hok : reply.isOk with
      | false =>
        rw [hsender] at honce
        exact honce (fun _ _ => hok)
      | true =>
        simp only [if_true]
        obtain ⟨hfits', second, hsecond⟩ | ⟨hfits', message, hmessage⟩ :=
          withPredecessor_cases (failureReply original : WireReply Obj)
            (s.fallbackPredecessor handler rpcId reply t original) hrpc
        · have hsent := s.sendFallback_eq_ok handler rpcId sender _ first hsecond
          have hsecondBusiness := withPredecessor_business hsecond
          have hfallback := Replied.fallback (s := s) first second original hbusiness
            hsecondBusiness hfits hfirst hok hsender hfits'
          rw [← hsent.1, ← hsent.2] at hfallback
          simpa only [hok] using hfallback
        · have hsent := s.sendFallback_eq_error handler rpcId sender _ first hmessage
          have hnone := Replied.noFallback (s := s) first original message hbusiness hfirst hok
            hsender hfits'
          rw [← hsent.1, ← hsent.2] at hnone
          simpa only [hok] using hnone
  · have hunsent : s.Replied handler rpcId sender reply t [] _ := .unsent message hfits
    unfold replyPredecessor at hmessage
    unfold sendServerReply
    simp only [hmessage]
    exact hunsent

variable {attempts : List (WireValue (WireReply Obj))} {result : Except ServeError Unit}

/-- The ids fit as long as no attempt was given up for its sidecar. -/
theorem replied_fits_iff (h : s.Replied handler rpcId sender reply t attempts result) :
    s.ReplyFits handler rpcId sender reply t ↔ ∀ message, result ≠ .error (.value message) := by
  have hended : ∀ outcome message, ended outcome ≠ .error (.value message) := by
    intro outcome message
    cases outcome <;> exact nofun
  cases h with
  | unsent message hfits =>
    refine iff_of_false ?_ fun hnone => hnone message rfl
    exact fun hfit => hfits (hfit.imp_right And.left)
  | once first hbusiness hfits hfirst hsender =>
    refine iff_of_true (hfits.imp_right fun hfit => ⟨hfit, ?_⟩) (hended _)
    intro wire original hwire horiginal hok
    obtain rfl := Except.ok.inj (hfirst.symm.trans hwire)
    exact absurd (hsender original horiginal) (by simp [hok])
  | noFallback first original message hbusiness hfirst hok hsender hfits =>
    refine iff_of_false ?_ fun hnone => hnone message rfl
    intro hfit
    exact hfits (hfit.imp_right fun hboth => hboth.2 first original hfirst hsender hok)
  | fallback first second original hbusiness hsecond hfits hfirst hok hsender hfits' =>
    refine iff_of_true ?_ (hended _)
    by_cases hnone : rpcId = none
    · exact .inl hnone
    refine .inr ⟨hfits.resolve_left hnone, ?_⟩
    intro wire original' hwire horiginal _
    obtain rfl := Except.ok.inj (hfirst.symm.trans hwire)
    obtain rfl := SendOutcome.preSend.inj (hsender.symm.trans horiginal)
    exact hfits'.resolve_left hnone

theorem replied_agree {s s' : ServerTracing} {handler handler' : String}
    {rpcId rpcId' : Option String} {sender : Sender Obj} {reply : WireReply Obj} {t t' : Tracer}
    {attempts' : List (WireValue (WireReply Obj))} {result' : Except ServeError Unit}
    (hblind : sender.Blind) (h : s.Replied handler rpcId sender reply t attempts result)
    (h' : s'.Replied handler' rpcId' sender reply t' attempts' result')
    (hfits : ∀ message, result ≠ .error (.value message))
    (hfits' : ∀ message, result' ≠ .error (.value message)) :
    attempts.map WireValue.business = attempts'.map WireValue.business ∧ result = result' := by
  cases h with
  | unsent message => exact absurd rfl (hfits message)
  | noFallback first original message => exact absurd rfl (hfits message)
  | once first hbusiness _ _ hsender =>
    cases h' with
    | unsent message => exact absurd rfl (hfits' message)
    | noFallback _ _ message => exact absurd rfl (hfits' message)
    | once first' hbusiness' =>
      have hsame : sender [] first = sender [] first' :=
        hblind rfl (hbusiness.trans hbusiness'.symm)
      rw [hsame]
      exact ⟨by simp [hbusiness, hbusiness'], rfl⟩
    | fallback first' second' original hbusiness' _ _ _ hok hsender' =>
      have hsame : sender [] first = sender [] first' :=
        hblind rfl (hbusiness.trans hbusiness'.symm)
      have hfalse := hsender original (hsame.trans hsender')
      rw [hok] at hfalse
      cases hfalse
  | fallback first second original hbusiness hsecond _ _ hok hsender =>
    cases h' with
    | unsent message => exact absurd rfl (hfits' message)
    | noFallback _ _ message => exact absurd rfl (hfits' message)
    | once first' hbusiness' _ _ hsender' =>
      have hsame : sender [] first' = sender [] first :=
        hblind rfl (hbusiness'.trans hbusiness.symm)
      have hfalse := hsender' original (hsame.trans hsender)
      rw [hok] at hfalse
      cases hfalse
    | fallback first' second' original' hbusiness' hsecond' _ _ _ hsender' =>
      have hsame : sender [] first = sender [] first' :=
        hblind rfl (hbusiness.trans hbusiness'.symm)
      have horiginal : original = original' :=
        SendOutcome.preSend.inj ((hsender.symm.trans hsame).trans hsender')
      have hseconds : second.business = second'.business := by
        rw [hsecond, hsecond', horiginal]
      have hended : sender [first] second = sender [first'] second' :=
        hblind (by simp [hbusiness, hbusiness']) hseconds
      rw [hended]
      exact ⟨by simp [hbusiness, hbusiness', hseconds], rfl⟩

end Reply

def dispatched (handlers : String → Lookup Obj) (value : WireValue (Option (WireRequest Obj)))
    (request : WireRequest Obj) : List Obj × Except ServeError (WireReply Obj) × Tracer :=
  s.dispatch handlers request (s.rpcId (traceSidecar value)) (tracePredecessor (traceSidecar value))
    (s.scope (tracePredecessor (traceSidecar value)))

/-- The ids that serving the request puts into sidecars fit there. -/
def ServeFits (handlers : String → Lookup Obj) (sender : Sender Obj)
    (value : WireValue (Option (WireRequest Obj))) : Prop :=
  ∀ request reply, value.business = some request →
    (s.dispatched handlers value request).2.1 = .ok reply →
      s.ReplyFits request.handler (s.rpcId (traceSidecar value)) sender reply
        (s.dispatched handlers value request).2.2

end ServerTracing

open ServerTracing

section Serve

variable (s : ServerTracing) (handlers : String → Lookup Obj) (sender : Sender Obj)
  (value : WireValue (Option (WireRequest Obj)))

inductive Serves : Served Obj → Prop
  | noEnvelope : value.business = none →
      Serves ⟨[], [], .error (.transport "expected a request envelope")⟩
  | interrupted (request : WireRequest Obj) (typeName : String) : value.business = some request →
      (s.dispatched handlers value request).2.1 = .error (.processControl typeName) →
        Serves ⟨(s.dispatched handlers value request).1, [], .error (.processControl typeName)⟩
  | replied (request : WireRequest Obj) (reply : WireReply Obj)
      (attempts : List (WireValue (WireReply Obj))) (result : Except ServeError Unit) :
      value.business = some request → (s.dispatched handlers value request).2.1 = .ok reply →
        s.Replied request.handler (s.rpcId (traceSidecar value)) sender reply
            (s.dispatched handlers value request).2.2 attempts result →
          Serves ⟨(s.dispatched handlers value request).1, attempts, result⟩

theorem serveWireRequest_serves :
    Serves s handlers sender value (serveWireRequest s handlers sender value) := by
  unfold serveWireRequest
  cases hbusiness : value.business with
  | none => exact .noEnvelope hbusiness
  | some request =>
    cases hdispatch : s.dispatched handlers value request with
    | mk calls rest =>
      obtain ⟨result, t⟩ := rest
      have hsource := hdispatch
      unfold dispatched at hsource
      simp only [hsource]
      cases result with
      | error e =>
        obtain ⟨typeName, rfl⟩ := dispatch_error (e := e) (by rw [hsource])
        have hserves : Serves s handlers sender value _ :=
          .interrupted request typeName hbusiness (by rw [hdispatch])
        rwa [hdispatch] at hserves
      | ok reply =>
        have hreplied := s.sendServerReply_replied request.handler
          (s.rpcId (traceSidecar value)) sender reply t (s.rpcId_bounds value)
        have hserves : Serves s handlers sender value _ :=
          .replied request reply _ _ hbusiness (by rw [hdispatch])
            (by rw [hdispatch]; exact hreplied)
        rwa [hdispatch] at hserves

theorem serveFits_iff : s.ServeFits handlers sender value ↔
    ∀ message, (serveWireRequest s handlers sender value).result ≠ .error (.value message) := by
  have hserves := serveWireRequest_serves s handlers sender value
  unfold ServeFits
  cases hserved : serveWireRequest s handlers sender value with
  | mk calls attempts result =>
    rw [hserved] at hserves
    cases hserves with
    | noEnvelope hnone =>
      refine iff_of_true ?_ nofun
      intro request reply hrequest
      rw [hnone] at hrequest
      cases hrequest
    | interrupted request typeName hrequest herror =>
      refine iff_of_true ?_ nofun
      intro request' reply hrequest' hreply
      obtain rfl := Option.some.inj (hrequest.symm.trans hrequest')
      rw [herror] at hreply
      cases hreply
    | replied request reply _ _ hrequest hreply hreplied =>
      rw [← replied_fits_iff s request.handler _ sender reply _ hreplied]
      constructor
      · intro h
        exact h request reply hrequest hreply
      · intro h request' reply' hrequest' hreply'
        obtain rfl := Option.some.inj (hrequest.symm.trans hrequest')
        obtain rfl := Except.ok.inj (hreply.symm.trans hreply')
        exact h

theorem dispatched_outcome (s s' : ServerTracing) (value' : WireValue (Option (WireRequest Obj)))
    (request : WireRequest Obj) :
    (s.dispatched handlers value request).1 = (s'.dispatched handlers value' request).1 ∧
      (s.dispatched handlers value request).2.1 = (s'.dispatched handlers value' request).2.1 :=
  dispatch_outcome ..

theorem serve_agree {s s' : ServerTracing} {handlers : String → Lookup Obj} {sender : Sender Obj}
    {value value' : WireValue (Option (WireRequest Obj))} (hblind : sender.Blind)
    (hbusiness : value.business = value'.business) (hfits : s.ServeFits handlers sender value)
    (hfits' : s'.ServeFits handlers sender value') :
    (serveWireRequest s handlers sender value).outcome =
      (serveWireRequest s' handlers sender value').outcome := by
  rw [serveFits_iff] at hfits hfits'
  have hserves := serveWireRequest_serves s handlers sender value
  have hserves' := serveWireRequest_serves s' handlers sender value'
  revert hfits hfits' hserves hserves'
  generalize serveWireRequest s handlers sender value = served
  generalize serveWireRequest s' handlers sender value' = served'
  intro hfits hfits' hserves hserves'
  cases hserves with
  | noEnvelope hnone =>
    cases hserves' with
    | noEnvelope => rfl
    | interrupted _ _ hrequest =>
      rw [← hbusiness, hnone] at hrequest
      cases hrequest
    | replied _ _ _ _ hrequest =>
      rw [← hbusiness, hnone] at hrequest
      cases hrequest
  | interrupted request typeName hrequest herror =>
    have hsame := dispatched_outcome handlers value s s' value' request
    cases hserves' with
    | noEnvelope hnone =>
      rw [hbusiness, hnone] at hrequest
      cases hrequest
    | interrupted request' typeName' hrequest' herror' =>
      obtain rfl := Option.some.inj ((hbusiness ▸ hrequest).symm.trans hrequest')
      rw [hsame.2, herror'] at herror
      cases herror
      rw [Served.outcome, Served.outcome, hsame.1]
    | replied request' reply' _ _ hrequest' hreply' =>
      obtain rfl := Option.some.inj ((hbusiness ▸ hrequest).symm.trans hrequest')
      rw [hsame.2, hreply'] at herror
      cases herror
  | replied request reply attempts result hrequest hreply hreplied =>
    have hsame := dispatched_outcome handlers value s s' value' request
    cases hserves' with
    | noEnvelope hnone =>
      rw [hbusiness, hnone] at hrequest
      cases hrequest
    | interrupted request' typeName' hrequest' herror' =>
      obtain rfl := Option.some.inj ((hbusiness ▸ hrequest).symm.trans hrequest')
      rw [hsame.2, herror'] at hreply
      cases hreply
    | replied request' reply' attempts' result' hrequest' hreply' hreplied' =>
      obtain rfl := Option.some.inj ((hbusiness ▸ hrequest).symm.trans hrequest')
      rw [hsame.2, hreply'] at hreply
      cases hreply
      obtain ⟨hattempts, hresult⟩ := replied_agree hblind hreplied hreplied' hfits hfits'
      rw [Served.outcome, Served.outcome, hsame.1, hattempts, hresult]

theorem off_fits (value : Option (WireRequest Obj)) :
    s.off.ServeFits handlers sender (.plain value) := fun _ _ _ _ => .inl rfl

theorem serve_outcome_iff (hblind : sender.Blind) :
    (serveWireRequest s handlers sender value).outcome =
        (serveWireRequest s.off handlers sender (.plain value.business)).outcome ↔
      s.ServeFits handlers sender value := by
  have hoff := off_fits s handlers sender value.business
  constructor
  · intro hsame
    rw [serveFits_iff]
    intro message hresult
    have hresults := congrArg (fun outcome => outcome.2.2) hsame
    simp only [Served.outcome] at hresults
    exact (serveFits_iff _ _ _ _).mp hoff message (hresults.symm.trans hresult)
  · intro hfits
    exact serve_agree hblind rfl hfits hoff

theorem serve_calls (s s' : ServerTracing) (value' : WireValue (Option (WireRequest Obj)))
    (hbusiness : value.business = value'.business) :
    (serveWireRequest s handlers sender value).calls =
      (serveWireRequest s' handlers sender value').calls := by
  have hserves := serveWireRequest_serves s handlers sender value
  have hserves' := serveWireRequest_serves s' handlers sender value'
  revert hserves hserves'
  generalize serveWireRequest s handlers sender value = served
  generalize serveWireRequest s' handlers sender value' = served'
  intro hserves hserves'
  have hcalls : ∀ {s : ServerTracing} {value : WireValue (Option (WireRequest Obj))}
      {served : Served Obj}, Serves s handlers sender value served → served.calls =
        (value.business.map fun request => (s.dispatched handlers value request).1).getD [] := by
    intro s value served hserves
    cases hserves with
    | noEnvelope hnone => simp [hnone]
    | interrupted request typeName hrequest => simp [hrequest]
    | replied request reply attempts result hrequest => simp [hrequest]
  rw [hcalls hserves, hcalls hserves', hbusiness]
  cases value'.business with
  | none => rfl
  | some request => exact (dispatched_outcome handlers value s s' value' request).1

end Serve

/-! ## The socket -/

theorem map_business {α β : Type} (f : α → β) (value : WireValue α) :
    (value.map f).business = f value.business := by
  cases value <;> rfl

theorem send_blind (pickler : Pickler Obj) (envelope : Envelope Obj) (maxFrameBytes : Nat)
    (traceback : TransportError → String) (fate : Option TransportError) :
    Sender.Blind fun _ => send pickler envelope maxFrameBytes traceback fun _ => fate := by
  intro before before' value value' _ hbusiness
  have hplain : ∀ wire : WireValue (WireReply Obj),
      send pickler envelope maxFrameBytes traceback (fun _ => fate) wire =
        send pickler envelope maxFrameBytes traceback (fun _ => fate) (.plain wire.business) := by
    intro wire
    have hencode := encode_business pickler maxFrameBytes (wire.map envelope.reply)
    rw [map_business] at hencode
    unfold send
    obtain ⟨e, he, he'⟩ | ⟨frame, plain, hframe, hplain⟩ := hencode
    · rw [he]
      simp only [WireValue.map, he']
    · rw [hframe]
      simp only [WireValue.map, hplain]
  dsimp only
  rw [hplain value, hplain value', hbusiness]

/-- A pre-send error is an encoding failure, and no socket was asked. -/
theorem send_preSend_iff (pickler : Pickler Obj) (envelope : Envelope Obj) (maxFrameBytes : Nat)
    (traceback : TransportError → String) (sendall : List UInt8 → Option TransportError)
    (value : WireValue (WireReply Obj)) :
    (∃ original, send pickler envelope maxFrameBytes traceback sendall value =
        .preSend original) ↔
      ∃ e, encode pickler (value.map envelope.reply) maxFrameBytes = .error e := by
  unfold send
  cases encode pickler (value.map envelope.reply) maxFrameBytes with
  | error e => exact iff_of_true ⟨_, rfl⟩ ⟨e, rfl⟩
  | ok frame =>
    refine iff_of_false ?_ nofun
    rintro ⟨original, horiginal⟩
    dsimp only at horiginal
    cases hfate : sendall frame with
    | none =>
      rw [hfate] at horiginal
      cases horiginal
    | some e =>
      rw [hfate] at horiginal
      cases horiginal

/-! ## Replies of a run -/

section Attempts

variable {s : ServerTracing} {handlers : String → Lookup Obj} {sender : Sender Obj}
  {value : WireValue (Option (WireRequest Obj))}

variable {served : Served Obj}

/-- A second reply is the error reply for a value that was not encoded. -/
theorem second_attempt (h : Serves s handlers sender value served)
    {first second : WireValue (WireReply Obj)} {rest : List (WireValue (WireReply Obj))}
    (hattempts : served.attempts = first :: second :: rest) :
    rest = [] ∧ first.business.isOk = true ∧ ∃ original, sender [] first = .preSend original ∧
      second.business = failureReply original := by
  cases h with
  | noEnvelope => cases hattempts
  | interrupted => cases hattempts
  | replied request reply attempts result _ _ hreplied =>
    cases hreplied with
    | unsent => cases hattempts
    | once => cases hattempts
    | noFallback => cases hattempts
    | fallback sent error original hbusiness herror _ _ hok hsender =>
      cases hattempts
      exact ⟨rfl, by rw [hbusiness, hok], original, hsender, herror⟩

def Served.errorReplies (x : Served Obj) : List (WireValue (WireReply Obj)) :=
  x.attempts.filter fun wire => !wire.business.isOk

theorem errorReplies_iff {request : WireRequest Obj} {handler : Obj → Handled Obj} {v : Obj}
    (h : Serves s handlers sender value served) (hrequest : value.business = some request)
    (hlookup : handlers request.handler = .found handler)
    (hvalue : handler request.payload = .value v)
    (hsender : ∀ before wire, wire.business = .value v →
      ∃ original, sender before wire = .preSend original) :
    served.errorReplies.length = 1 ↔ ∀ message, served.result ≠ .error (.value message) := by
  have hok : (s.dispatched handlers value request).2.1 = .ok (.value v) :=
    s.dispatch_value hlookup hvalue ..
  cases h with
  | noEnvelope hnone =>
    rw [hnone] at hrequest
    cases hrequest
  | interrupted request' typeName hrequest' herror =>
    obtain rfl := Option.some.inj (hrequest.symm.trans hrequest')
    rw [hok] at herror
    cases herror
  | replied request' reply attempts result hrequest' hreply hreplied =>
    obtain rfl := Option.some.inj (hrequest.symm.trans hrequest')
    obtain rfl := Except.ok.inj (hok.symm.trans hreply)
    cases hreplied with
    | unsent message => exact iff_of_false nofun fun hnone => hnone message rfl
    | once first hbusiness _ _ honce =>
      obtain ⟨original, horiginal⟩ := hsender [] first hbusiness
      exact absurd (honce original horiginal) (by simp [WireReply.isOk])
    | noFallback first original message hbusiness =>
      refine iff_of_false ?_ fun hnone => hnone message rfl
      simp [Served.errorReplies, hbusiness, WireReply.isOk]
    | fallback first second original hbusiness hsecond =>
      refine iff_of_true ?_ ?_
      · simp [Served.errorReplies, hbusiness, hsecond, WireReply.isOk, failureReply]
      · intro message
        cases sender [first] second <;> exact nofun

end Attempts

/-- Handler calls and reply attempts of one request, whatever handler, sender and sink do. -/
structure ServingSpec (s : ServerTracing) (handlers : String → Lookup Obj) (sender : Sender Obj)
    (value : WireValue (Option (WireRequest Obj))) : Prop where
  /-- The handler is called at most once. -/
  once : (serveWireRequest s handlers sender value).calls.length ≤ 1
  /-- A second attempt is an error reply after an attempt that wrote nothing. -/
  second : ∀ {first second : WireValue (WireReply Obj)} {rest : List (WireValue (WireReply Obj))},
    (serveWireRequest s handlers sender value).attempts = first :: second :: rest →
      rest = [] ∧ first.business.isOk = true ∧ ∃ original, sender [] first = .preSend original ∧
        second.business = failureReply original
  /-- A value that cannot be encoded has its one error reply exactly when the ids fit. -/
  unencodable : ∀ {request : WireRequest Obj} {handler : Obj → Handled Obj} {v : Obj},
    value.business = some request → handlers request.handler = .found handler →
      handler request.payload = .value v →
        (∀ before wire, wire.business = .value v →
          ∃ original, sender before wire = .preSend original) →
            ((serveWireRequest s handlers sender value).errorReplies.length = 1 ↔
              s.ServeFits handlers sender value)
  /-- The socket's sender reports a pre-send error for encoding failures only. -/
  preSend : ∀ (pickler : Pickler Obj) (envelope : Envelope Obj) (maxFrameBytes : Nat)
    (traceback : TransportError → String) (sendall : List UInt8 → Option TransportError)
    (reply : WireValue (WireReply Obj)),
      (∃ original, send pickler envelope maxFrameBytes traceback sendall reply =
          .preSend original) ↔
        ∃ e, encode pickler (reply.map envelope.reply) maxFrameBytes = .error e

theorem servingSpec (s : ServerTracing) (handlers : String → Lookup Obj) (sender : Sender Obj)
    (value : WireValue (Option (WireRequest Obj))) : ServingSpec s handlers sender value where
  once := by
    have hserves := serveWireRequest_serves s handlers sender value
    revert hserves
    generalize serveWireRequest s handlers sender value = served
    intro hserves
    cases hserves with
    | noEnvelope => exact Nat.zero_le _
    | interrupted request => exact s.dispatch_calls ..
    | replied request => exact s.dispatch_calls ..
  second := second_attempt (serveWireRequest_serves s handlers sender value)
  unencodable hrequest hlookup hvalue hsender := by
    rw [serveFits_iff]
    exact errorReplies_iff (serveWireRequest_serves s handlers sender value) hrequest hlookup hvalue
      hsender
  preSend := send_preSend_iff

/-! ## Tracing -/

/-- What tracing leaves as it is, and what an id that does not fit changes. -/
structure TracingSpec (pickler : Pickler Obj) (envelope : Envelope Obj) (limit : FrameLimit)
    (network : Network Obj) (c : ClientTracing) (handler : String) (payload : Obj)
    (s : ServerTracing) (handlers : String → Lookup Obj) (sender : Sender Obj)
    (value : WireValue (Option (WireRequest Obj))) : Prop where
  client : (request pickler envelope limit.value network c handler payload).outcome =
      (request pickler envelope limit.value network c.off handler payload).outcome ↔
    handler = "" ∨ Fitting (c.predecessor handler)
  delivers : ∀ frame ∈ (request pickler envelope limit.value network c handler payload).sent,
    ∃ result, result.business = envelope.request ⟨handler, payload⟩ ∧
      ∀ rest, decode pickler limit.value (frame ++ rest) = some (result, rest)
  calls : (serveWireRequest s handlers sender value).calls =
    (serveWireRequest s.off handlers sender (.plain value.business)).calls
  server : sender.Blind → ((serveWireRequest s handlers sender value).outcome =
      (serveWireRequest s.off handlers sender (.plain value.business)).outcome ↔
    s.ServeFits handlers sender value)
  socket : ∀ (traceback : TransportError → String) (fate : Option TransportError),
    Sender.Blind fun _ => send pickler envelope limit.value traceback fun _ => fate

theorem tracingSpec (pickler : Pickler Obj) (envelope : Envelope Obj) (limit : FrameLimit)
    (network : Network Obj) (c : ClientTracing) (handler : String) (payload : Obj)
    (s : ServerTracing) (handlers : String → Lookup Obj) (sender : Sender Obj)
    (value : WireValue (Option (WireRequest Obj))) :
    TracingSpec pickler envelope limit network c handler payload s handlers sender value where
  client := request_outcome_iff pickler envelope limit.value network c handler payload
  delivers := request_delivers pickler envelope limit.value network c handler payload limit.lt
  calls := serve_calls handlers sender value s s.off _ rfl
  server := serve_outcome_iff s handlers sender value
  socket := send_blind pickler envelope limit.value

namespace Sample

/-- One byte more than a sidecar takes. -/
def longId : String := String.ofList (List.replicate 1025 'e')

def echo : Envelope (List UInt8 ⊕ WireTraceSidecar) where
  request := WireRequest.payload
  reply
    | .value value => value
    | .failed .. => .inl []
  asReply value := some (.value value)

def network : Network (List UInt8 ⊕ WireTraceSidecar) :=
    ⟨false, .done, false, .done, .ok (.inl [7])⟩

def quiet : ClientTracing where
  sink := none
  tracer := ⟨.inactive, []⟩
  component := "transport"
  peer := "127.0.0.1:1"
  freshRpcId := "0123456789abcdef0123456789abcdef"
  replyTrace := none
  fresh := by decide

def longSink : EventSink := fun _ => ⟨none, .event (.text longId)⟩

end Sample

/-- A call that succeeds without tracing fails with a sink that returns a long event id. -/
theorem long_event_id_fails : ∃ c : ClientTracing, c.off = Sample.quiet ∧
    (request Sample.bytePickler Sample.echo 10 Sample.network c "h" (.inl [7])).result =
      .error (.value "predecessor_event_id is too long") ∧
    (request Sample.bytePickler Sample.echo 10 Sample.network Sample.quiet "h" (.inl [7])).result =
      .ok (.inl [7]) :=
  ⟨{ Sample.quiet with sink := some Sample.longSink }, rfl, by decide +kernel, by decide +kernel⟩

namespace Sample

def serverTracing : ServerTracing where
  sink := some longSink
  tracer := ⟨.inactive, []⟩
  component := "transport"
  peer := "127.0.0.1:1"
  freshRpcId := "0123456789abcdef0123456789abcdef"
  handlerTrace := id
  fresh := by decide

def oneHandler : String → Lookup Unit := fun _ => .found fun payload => .value payload

def refusing : Sender Unit := fun _ wire =>
  match wire.business with
  | .value _ => .preSend ⟨"TransportError", "could not serialize transport value", ""⟩
  | .failed .. => .sent

end Sample

/-- No error reply for a value that no sender can encode. -/
theorem long_event_id_silences : ∃ s : ServerTracing,
    (∀ before wire, wire.business = .value () →
      ∃ original, Sample.refusing before wire = .preSend original) ∧
    (serveWireRequest s Sample.oneHandler Sample.refusing
      (.plain (some ⟨"h", ()⟩))).calls = [()] ∧
    (serveWireRequest s Sample.oneHandler Sample.refusing
      (.plain (some ⟨"h", ()⟩))).errorReplies.length = 0 := by
  refine ⟨Sample.serverTracing, ?_, by decide +kernel, by decide +kernel⟩
  intro before wire hbusiness
  refine ⟨⟨"TransportError", "could not serialize transport value", ""⟩, ?_⟩
  rw [Sample.refusing, hbusiness]

end Transport

end MiniRay
