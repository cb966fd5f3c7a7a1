import MiniRay.Transport.FrameSpec

/-! Any concatenation of frames is read back as the values that were sent, and no stream makes the
receiver fill more than the two payloads of a traced frame. -/

namespace MiniRay

namespace Transport

variable {Obj α β : Type} {pickler : Pickler Obj}

/-- What `_validate_max_frame_bytes` accepts. -/
structure FrameLimit where
  value : Nat
  positive : 0 < value
  fits : value ≤ 0xFFFFFFFF

theorem FrameLimit.lt (limit : FrameLimit) : limit.value < 2 ^ 32 := by
  have := limit.fits
  omega

/-! ## Many frames -/

def receiveMany (pickler : Pickler Obj) (maxFrameBytes : Nat) :
    Nat → Receiver (List (WireValue Obj))
  | 0 => return []
  | n + 1 => do
      let value ← receive pickler maxFrameBytes
      let values ← receiveMany pickler maxFrameBytes n
      return value :: values

def decodeMany (pickler : Pickler Obj) (maxFrameBytes : Nat) : Nat → Reader (List (WireValue Obj))
  | 0 => return []
  | n + 1 => do
      let value ← decode pickler maxFrameBytes
      let values ← decodeMany pickler maxFrameBytes n
      return value :: values

theorem receiveMany_reads (maxFrameBytes n : Nat) :
    Reads (receiveMany pickler maxFrameBytes n) (decodeMany pickler maxFrameBytes n) := by
  induction n with
  | zero => exact .pure []
  | succ n ih =>
    exact (receive_reads pickler maxFrameBytes).bind fun value =>
      ih.bind fun values => .pure (value :: values)

theorem decodeMany_frames {limit : Nat} (hfits : limit < 2 ^ 32)
    {values : List (WireValue Obj)} {frames : List (List UInt8)}
    (h : List.Forall₂ (fun value frame => encode pickler value limit = .ok frame) values frames)
    (rest : List UInt8) :
    ∃ results, List.Forall₂ Delivers values results ∧
      decodeMany pickler limit values.length (frames.flatten ++ rest) = some (results, rest) := by
  induction h with
  | nil => exact ⟨[], .nil, rfl⟩
  | cons hframe _ ih =>
    rename_i value frame values frames _
    obtain ⟨result, hresult, hdecode⟩ := decode_encode hfits hframe
    obtain ⟨results, hresults, hmany⟩ := ih
    refine ⟨result :: results, .cons hresult hresults, ?_⟩
    rw [List.length_cons, decodeMany, Reader.bind_eq, List.flatten_cons, List.append_assoc,
      hdecode]
    simp only []
    rw [Reader.bind_eq, hmany]
    rfl

/-! ## What a receiver fills -/

/-- The buffers of one frame, with the sizes that their headers declared. -/
inductive FramePlan (limit : Nat) : List Buffer → Prop
  | plain (size : Nat) (h : size ≤ limit) : FramePlan limit [.header, .payload limit size]
  | traced (sidecarSize size : Nat) (hs : sidecarSize ≤ maxTraceSidecarBytes) (h : size ≤ limit) :
      FramePlan limit [.header, .header, .payload maxTraceSidecarBytes sidecarSize, .header,
        .payload limit size]

/-- The buffers filled on the way are the first of some plan, and all of it on success. -/
def Fills (x : Receiver α) (plans : List Buffer → Prop) : Prop :=
  ∀ conn : Connection, ∃ plan filled, plans plan ∧ (x conn).2.buffers = conn.buffers ++ filled ∧
    filled <+: plan ∧ ∀ a, (x conn).1 = .ok a → filled = plan

variable {plans : List Buffer → Prop}

theorem Fills.weaken {x : Receiver α} {other : List Buffer → Prop} (h : Fills x plans)
    (hsub : ∀ plan, plans plan → other plan) : Fills x other := by
  intro conn
  obtain ⟨plan, filled, hplan, hrest⟩ := h conn
  exact ⟨plan, filled, hsub plan hplan, hrest⟩

theorem Fills.pure (a : α) : Fills (Pure.pure a) (· = []) :=
  fun conn => ⟨[], [], rfl, (List.append_nil conn.buffers).symm, List.prefix_rfl, fun _ _ => rfl⟩

variable {plan : List Buffer}

theorem Fills.throw (e : TransportError) (h : plans plan) : Fills (α := α) (throw e) plans :=
  fun conn => ⟨plan, [], h, (List.append_nil conn.buffers).symm, List.nil_prefix,
    fun _ hok => nomatch hok⟩

theorem Fills.bind {x : Receiver α} {k : α → Receiver β} {first second : List Buffer → Prop}
    (hx : Fills x first) (hk : ∀ a, Fills (k a) second) (h : second plan) :
    Fills (x >>= k) fun plan => ∃ front back, first front ∧ second back ∧ plan = front ++ back := by
  intro conn
  obtain ⟨front, filled, hfront, hbuffers, hprefix, hfull⟩ := hx conn
  rw [bind_run]
  rcases hrun : x conn with ⟨outcome, next⟩
  rw [hrun] at hbuffers hfull
  cases outcome with
  | error e =>
    exact ⟨front ++ plan, filled, ⟨front, plan, hfront, h, rfl⟩, hbuffers,
      hprefix.trans (List.prefix_append front plan), fun _ hok => nomatch hok⟩
  | ok a =>
    obtain ⟨back, more, hback, hnext, hmore, hall⟩ := hk a next
    have hfilled := hfull a rfl
    subst hfilled
    refine ⟨filled ++ back, filled ++ more, ⟨filled, back, hfront, hback, rfl⟩, ?_, ?_, ?_⟩
    · have hbuffers : next.buffers = conn.buffers ++ filled := hbuffers
      rw [hnext, hbuffers, List.append_assoc]
    · exact (List.prefix_append_right_inj filled).mpr hmore
    · intro b hok
      rw [hall b hok]

theorem recv_fills (size : Nat) : Fills (recv size) (· = []) := by
  intro conn
  refine ⟨[], [], rfl, ?_, List.prefix_rfl, fun _ _ => rfl⟩
  rw [List.append_nil]
  obtain ⟨chunks, fate, buffers⟩ := conn
  cases chunks with
  | nil => cases fate <;> rfl
  | cons chunk rest =>
    change ((if chunk.length ≤ size then _ else _ : Receiver (List UInt8)) _).2.buffers = _
    by_cases hfits : chunk.length ≤ size
    · rw [if_pos hfits]
      rfl
    · rw [if_neg hfits]
      rfl

theorem recvLoop_fills (size : Nat) (got : List UInt8) : Fills (recvLoop size got) (· = []) := by
  induction hmissing : size - got.length using Nat.strong_induction_on generalizing got with
  | h missing ih =>
    rw [recvLoop]
    by_cases hless : got.length < size
    · rw [dif_pos hless]
      have hnext : ∀ chunk : List UInt8, Fills
          (if _ : chunk = [] then
            throw (.connectionClosed ("peer closed the connection after " ++
              toString got.length ++ " of " ++ toString size ++ " bytes"))
          else recvLoop size (got ++ chunk)) (· = []) := by
        intro chunk
        by_cases hnil : chunk = []
        · rw [dif_pos hnil]
          exact .throw _ rfl
        · rw [dif_neg hnil]
          have hpos := List.length_pos_of_ne_nil hnil
          exact ih (size - (got ++ chunk).length) (by rw [List.length_append]; omega)
            (got ++ chunk) rfl
      refine ((recv_fills _).bind hnext rfl).weaken ?_
      rintro plan ⟨front, back, hfront, hback, hplan⟩
      rw [hplan, hfront, hback]
      rfl
    · rw [dif_neg hless]
      exact .pure got

theorem recvExact_fills (buffer : Buffer) (size : Nat) :
    Fills (recvExact buffer size) (· = [buffer]) := by
  intro conn
  obtain ⟨plan, filled, hplan, hbuffers, hprefix, -⟩ :=
    recvLoop_fills size [] { conn with buffers := conn.buffers ++ [buffer] }
  have hfilled : filled = [] := by
    rw [hplan] at hprefix
    exact List.prefix_nil.mp hprefix
  refine ⟨[buffer], [buffer], rfl, ?_, List.prefix_rfl, fun _ _ => rfl⟩
  rw [hfilled, List.append_nil] at hbuffers
  exact hbuffers

theorem recvLength_fills : Fills recvLength (· = [.header]) := by
  refine ((recvExact_fills .header 4).bind (fun header => .pure (BigEndian.value header))
    rfl).weaken ?_
  rintro plan ⟨front, back, hfront, hback, hplan⟩
  rw [hplan, hfront, hback]
  rfl

theorem receivePayload_fills (size limit : Nat) :
    Fills (receivePayload pickler size limit)
      fun plan => ∃ n, n ≤ limit ∧ plan = [.payload limit n] := by
  simp only [receivePayload]
  by_cases hempty : size = 0
  · rw [if_pos hempty]
    exact .throw _ ⟨0, Nat.zero_le _, rfl⟩
  by_cases hlarge : size > limit
  · rw [if_neg hempty, if_pos hlarge]
    exact .throw _ ⟨0, Nat.zero_le _, rfl⟩
  rw [if_neg hempty, if_neg hlarge]
  refine ((recvExact_fills (.payload limit size) size).bind
    (fun payload => (?_ : Fills _ (· = []))) rfl).weaken ?_
  · cases pickler.loads payload with
    | none => exact .throw _ rfl
    | some value => exact .pure value
  rintro plan ⟨front, back, hfront, hback, hplan⟩
  refine ⟨size, by omega, ?_⟩
  rw [hplan, hfront, hback]
  rfl

theorem receiveSub_fills (limit : Nat) {k : Obj → Receiver β} (hk : ∀ value, Fills (k value) plans)
    (h : plans plan) :
    Fills (recvLength >>= fun size => receivePayload pickler size limit >>= k)
      fun plan => ∃ n back, n ≤ limit ∧ plans back ∧
        plan = .header :: .payload limit n :: back := by
  have hpayload : ∀ size, Fills (receivePayload pickler size limit >>= k) _ :=
    fun size => (receivePayload_fills size limit).bind hk h
  refine (recvLength_fills.bind hpayload
    ⟨[.payload limit 0], plan, ⟨0, Nat.zero_le _, rfl⟩, h, rfl⟩).weaken ?_
  rintro plan ⟨front, tail, hfront, ⟨payload, back, ⟨n, hn, hpayload⟩, hback, htail⟩, hplan⟩
  refine ⟨n, back, hn, hback, ?_⟩
  rw [hplan, hfront, htail, hpayload]
  rfl

theorem receive_fills (limit : Nat) : Fills (receive pickler limit) (FramePlan limit) := by
  have hplain : ∀ size, Fills (receivePayload pickler size limit >>= fun value =>
      (Pure.pure (.plain value) : Receiver (WireValue Obj)))
      fun plan => FramePlan limit (.header :: plan) := by
    intro size
    refine ((receivePayload_fills size limit).bind (fun value => .pure _) rfl).weaken ?_
    rintro plan ⟨front, back, ⟨n, hn, hfront⟩, hback, hplan⟩
    rw [hplan, hfront, hback]
    exact .plain n hn
  have hbusiness : ∀ trace, Fills (recvLength >>= fun size =>
      receivePayload pickler size limit >>= fun value =>
        (Pure.pure (.traced value trace) : Receiver (WireValue Obj)))
      fun plan => ∃ n, n ≤ limit ∧ plan = [.header, .payload limit n] := by
    intro trace
    refine (receiveSub_fills limit (fun value => .pure _) rfl).weaken ?_
    rintro plan ⟨n, back, hn, hback, hplan⟩
    exact ⟨n, hn, by rw [hplan, hback]⟩
  refine (recvLength_fills.bind
    (fun size => (?_ : Fills _ fun plan => FramePlan limit (.header :: plan)))
    (.plain 0 (Nat.zero_le _))).weaken ?_
  · by_cases hsize : size ≠ 0
    · rw [if_pos hsize]
      exact hplain size
    · rw [if_neg hsize]
      refine (receiveSub_fills maxTraceSidecarBytes (fun sidecar =>
        (?_ : Fills _ fun plan => ∃ n, n ≤ limit ∧ plan = [.header, .payload limit n]))
        ⟨0, Nat.zero_le _, rfl⟩).weaken ?_
      · cases pickler.asSidecar sidecar with
        | none => exact .throw _ ⟨0, Nat.zero_le _, rfl⟩
        | some trace => exact hbusiness trace
      · rintro plan ⟨n, back, hn, ⟨m, hm, hback⟩, hplan⟩
        rw [hplan, hback]
        exact .traced n m hn hm
  rintro plan ⟨front, back, hfront, hback, hplan⟩
  rw [hplan, hfront]
  exact hback

/-! ## What the transport promises -/

/-- What sender and receiver of one limit promise about every split stream. -/
structure FrameSpec (pickler : Pickler Obj) (limit : FrameLimit) : Prop where
  /-- A frame is read back, and exactly its bytes are consumed. -/
  roundTrip : ∀ value frame, encode pickler value limit.value = .ok frame →
    ∀ (conn : Connection) rest, conn.WellSplit → conn.bytes = frame ++ rest →
      ∃ result next, receive pickler limit.value conn = (.ok result, next) ∧
        Delivers value result ∧ next.bytes = rest
  /-- So is every concatenation of frames. -/
  sequence : ∀ values frames,
    List.Forall₂ (fun value frame => encode pickler value limit.value = .ok frame)
      values frames →
    ∀ (conn : Connection) rest, conn.WellSplit → conn.bytes = frames.flatten ++ rest →
      ∃ results next, receiveMany pickler limit.value values.length conn = (.ok results, next) ∧
        List.Forall₂ Delivers values results ∧ next.bytes = rest
  /-- No strict front of a frame yields a value. -/
  frontRaises : ∀ value front missing,
    encode pickler value limit.value = .ok (front ++ missing) → missing ≠ [] →
    ∀ conn : Connection, conn.WellSplit → conn.bytes = front →
      ∃ e, (receive pickler limit.value conn).1 = .error e
  /-- No connection makes the receiver fill more than the buffers of one frame, none above its
  limit. -/
  bounded : ∀ conn : Connection, ∃ plan filled, FramePlan limit.value plan ∧ filled <+: plan ∧
    (receive pickler limit.value conn).2.buffers = conn.buffers ++ filled

theorem frame_spec (pickler : Pickler Obj) (limit : FrameLimit) : FrameSpec pickler limit := by
  refine ⟨?_, ?_, ?_, ?_⟩
  · intro value frame hencode conn rest hsplit hbytes
    obtain ⟨result, hresult, hdecode⟩ := decode_encode limit.lt hencode
    have hreads := receive_reads pickler limit.value conn hsplit
    rw [hbytes, hdecode rest] at hreads
    obtain ⟨hok, hrest, -⟩ := hreads
    exact ⟨result, _, Prod.ext hok rfl, hresult, hrest⟩
  · intro values frames hencode conn rest hsplit hbytes
    obtain ⟨results, hresults, hdecode⟩ := decodeMany_frames limit.lt hencode rest
    have hmany : Reads (receiveMany pickler limit.value values.length) _ :=
      receiveMany_reads limit.value values.length
    have hreads := hmany conn hsplit
    rw [hbytes, hdecode] at hreads
    obtain ⟨hok, hrest, -⟩ := hreads
    exact ⟨results, _, Prod.ext hok rfl, hresults, hrest⟩
  · intro value front missing hencode hmissing conn hsplit hbytes
    have hreads := receive_reads pickler limit.value conn hsplit
    rw [hbytes, decode_front limit.lt hencode hmissing] at hreads
    exact hreads
  · intro conn
    obtain ⟨plan, filled, hplan, hbuffers, hprefix, -⟩ := receive_fills limit.value conn
    exact ⟨plan, filled, hplan, hprefix, hbuffers⟩

/-! ## A pickle of byte strings -/

namespace Sample

def sentTrace : WireTraceSidecar := ⟨"rpc", none⟩

/-- Byte strings after a zero, and one sidecar as a lone one. -/
def bytePickler : Pickler (List UInt8 ⊕ WireTraceSidecar) where
  dumps
    | _, .inl bytes => some (0 :: bytes)
    | _, .inr trace => if trace = sentTrace then some [1] else none
  loads
    | 0 :: bytes => some (.inl bytes)
    | [1] => some (.inr sentTrace)
    | _ => none
  sidecar := .inr
  asSidecar
    | .inl _ => none
    | .inr trace => some trace
  loads_dumps := by
    intro call value bytes h
    cases value with
    | inl payload =>
      cases h
      rfl
    | inr trace =>
      change (if trace = sentTrace then some [1] else none) = some bytes at h
      by_cases hsent : trace = sentTrace
      · rw [if_pos hsent] at h
        cases h
        rw [hsent]
        rfl
      · rw [if_neg hsent] at h
        cases h
  dumps_ne_nil := by
    intro call value bytes h hnil
    subst hnil
    cases value with
    | inl payload => cases h
    | inr trace =>
      change (if trace = sentTrace then some [1] else none) = some [] at h
      by_cases hsent : trace = sentTrace
      · rw [if_pos hsent] at h
        cases h
      · rw [if_neg hsent] at h
        cases h
  asSidecar_sidecar := fun _ => rfl

example : (encode bytePickler (.traced (.inl [7]) sentTrace) 10).toOption =
    some [0, 0, 0, 0, 0, 0, 0, 1, 1, 0, 0, 0, 2, 0, 7] := by decide

end Sample

end Transport

end MiniRay
