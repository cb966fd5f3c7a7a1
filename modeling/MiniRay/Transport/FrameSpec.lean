import MiniRay.Transport.Frames

/-! However the bytes are split, a receiver reads them as one stream. On streams the frames are
prefix-free, and each is read back as what was sent. -/

namespace MiniRay

namespace Transport

variable {Obj α β : Type} {pickler : Pickler Obj}

/-! ## Streams -/

/-- What is read off a stream and the rest of it, if the stream has such a front. -/
abbrev Reader := StateT (List UInt8) Option

/-- The arrived bytes that nobody read yet. -/
def Connection.bytes (conn : Connection) : List UInt8 := conn.chunks.flatten

def Connection.WellSplit (conn : Connection) : Prop := ∀ chunk ∈ conn.chunks, chunk ≠ []

/-- A receiver returned what the stream holds, and left the rest of it; or it raised. -/
def Meets (outcome : Except TransportError α × Connection) :
    Option (α × List UInt8) → Prop
  | some (a, rest) => outcome.1 = .ok a ∧ outcome.2.bytes = rest ∧ outcome.2.WellSplit
  | none => ∃ e, outcome.1 = .error e

/-- On well split connections the receiver does to the stream what the reader says. -/
def Reads (x : Receiver α) (f : Reader α) : Prop :=
  ∀ conn : Connection, conn.WellSplit → Meets (x conn) (f conn.bytes)

theorem bind_run (x : Receiver α) (k : α → Receiver β) (conn : Connection) :
    (x >>= k) conn = match x conn with
      | (.ok a, next) => k a next
      | (.error e, next) => (.error e, next) := by
  change StateT.bind x (ExceptT.bindCont k) conn = _
  simp only [StateT.bind, bind]
  rcases x conn with ⟨a | e, next⟩
  · rfl
  · rfl

theorem Reader.bind_eq (f : Reader α) (g : α → Reader β) (bytes : List UInt8) :
    (f >>= g) bytes = match f bytes with
      | some (a, rest) => g a rest
      | none => none := by
  change StateT.bind f g bytes = _
  simp only [StateT.bind, bind]
  cases f bytes with
  | none => rfl
  | some p => rfl

theorem Reads.pure (a : α) : Reads (Pure.pure a) (Pure.pure a) :=
  fun _ hsplit => ⟨rfl, rfl, hsplit⟩

theorem Reads.throw (e : TransportError) : Reads (α := α) (throw e) failure :=
  fun _ _ => ⟨e, rfl⟩

theorem Reads.bind {x : Receiver α} {k : α → Receiver β} {f : Reader α} {g : α → Reader β}
    (hx : Reads x f) (hk : ∀ a, Reads (k a) (g a)) : Reads (x >>= k) (f >>= g) := by
  intro conn hsplit
  have hfirst := hx conn hsplit
  rw [bind_run, Reader.bind_eq]
  rcases hrun : x conn with ⟨outcome, next⟩
  rw [hrun] at hfirst
  cases hf : f conn.bytes with
  | none =>
    rw [hf] at hfirst
    obtain ⟨e, he⟩ := hfirst
    have he : outcome = .error e := he
    rw [he]
    exact ⟨e, rfl⟩
  | some p =>
    obtain ⟨a, rest⟩ := p
    rw [hf] at hfirst
    obtain ⟨ha, hrest, hnext⟩ := hfirst
    have ha : outcome = .ok a := ha
    have hrest : next.bytes = rest := hrest
    subst hrest
    rw [ha]
    exact hk a next hnext

/-! ## Buffers of exact size -/

def readExact (size : Nat) : Reader (List UInt8) := fun bytes =>
  if size ≤ bytes.length then some (bytes.take size, bytes.drop size) else none

variable {rest : List UInt8}

variable {front : List UInt8}

theorem readExact_append : readExact front.length (front ++ rest) = some (front, rest) := by
  simp [readExact]

theorem readExact_piece (got chunk rest : List UInt8) (left : Nat) :
    (readExact (chunk.length + left) (chunk ++ rest)).map (fun p => (got ++ p.1, p.2)) =
      (readExact left rest).map fun p => ((got ++ chunk) ++ p.1, p.2) := by
  rw [readExact, readExact, List.length_append]
  by_cases henough : left ≤ rest.length
  · rw [if_pos henough, if_pos (by omega), List.take_length_add_append,
      List.drop_length_add_append]
    simp
  · rw [if_neg henough, if_neg (by omega)]
    rfl

/-- One `recv` takes a nonempty piece off the stream, unless the stream is over. -/
theorem recv_spec {conn : Connection} (hsplit : conn.WellSplit) {size : Nat} (hsize : 0 < size) :
    (conn.bytes = [] ∧ (recv size conn = (.ok [], conn) ∨ ∃ e, recv size conn = (.error e, conn))) ∨
      ∃ chunk next, recv size conn = (.ok chunk, next) ∧ chunk ≠ [] ∧ chunk.length ≤ size ∧
        conn.bytes = chunk ++ next.bytes ∧ next.WellSplit := by
  obtain ⟨chunks, fate, buffers⟩ := conn
  cases chunks with
  | nil =>
    refine .inl ⟨rfl, ?_⟩
    cases fate with
    | closed => exact .inl rfl
    | timedOut => exact .inr ⟨_, rfl⟩
    | failed => exact .inr ⟨_, rfl⟩
  | cons chunk rest =>
    have hchunk : chunk ≠ [] := hsplit chunk (List.mem_cons_self ..)
    have hrest : ∀ c ∈ rest, c ≠ [] := fun c hc => hsplit c (List.mem_cons_of_mem _ hc)
    right
    by_cases hfits : chunk.length ≤ size
    · refine ⟨chunk, ⟨rest, fate, buffers⟩, ?_, hchunk, hfits, by simp [Connection.bytes], hrest⟩
      change (if chunk.length ≤ size then _ else _ : Receiver (List UInt8)) _ = _
      rw [if_pos hfits]
      rfl
    · have hmore : chunk.drop size ≠ [] := by
        intro hnil
        rw [List.drop_eq_nil_iff] at hnil
        exact hfits hnil
      refine ⟨chunk.take size, ⟨chunk.drop size :: rest, fate, buffers⟩, ?_, ?_, ?_, ?_, ?_⟩
      · change (if chunk.length ≤ size then _ else _ : Receiver (List UInt8)) _ = _
        rw [if_neg hfits]
        rfl
      · intro hnil
        rw [List.take_eq_nil_iff] at hnil
        rcases hnil with hzero | hnil
        · omega
        · exact hchunk hnil
      · rw [List.length_take]
        omega
      · simp only [Connection.bytes, List.flatten_cons]
        rw [← List.append_assoc, List.take_append_drop]
      · intro c hc
        rcases List.mem_cons.mp hc with rfl | hc
        · exact hmore
        · exact hrest c hc

theorem recvLoop_reads (size : Nat) (got : List UInt8) (hgot : got.length ≤ size) :
    Reads (recvLoop size got) fun bytes =>
      (readExact (size - got.length) bytes).map fun p => (got ++ p.1, p.2) := by
  induction hmissing : size - got.length using Nat.strong_induction_on generalizing got with
  | h missing ih =>
    intro conn hsplit
    change Meets _ ((readExact missing conn.bytes).map fun p => (got ++ p.1, p.2))
    rw [recvLoop]
    by_cases hless : got.length < size
    · rw [dif_pos hless, bind_run]
      rcases recv_spec hsplit (by omega : 0 < size - got.length) with ⟨hover, hrun⟩ | hpiece
      · have hnone : readExact missing conn.bytes = none := by
          rw [hover, readExact, if_neg]
          simp only [List.length_nil]
          omega
        rw [hnone]
        rcases hrun with hrun | ⟨e, hrun⟩
        · rw [hrun]
          exact ⟨_, rfl⟩
        · rw [hrun]
          exact ⟨e, rfl⟩
      · obtain ⟨chunk, next, hrun, hne, hlength, hbytes, hnext⟩ := hpiece
        rw [hrun]
        simp only [dif_neg hne]
        have hpos := List.length_pos_of_ne_nil hne
        have hgot' : (got ++ chunk).length ≤ size := by
          rw [List.length_append]
          omega
        have hrest := ih (size - (got ++ chunk).length) (by rw [List.length_append]; omega)
          (got ++ chunk) hgot' rfl next hnext
        have hsame : (readExact missing conn.bytes).map (fun p => (got ++ p.1, p.2)) =
            (readExact (size - (got ++ chunk).length) next.bytes).map
              fun p => ((got ++ chunk) ++ p.1, p.2) := by
          have hcount : missing = chunk.length + (size - (got ++ chunk).length) := by
            rw [List.length_append]
            omega
          rw [hbytes, hcount]
          exact readExact_piece got chunk next.bytes _
        rw [hsame]
        exact hrest
    · have hzero : missing = 0 := by omega
      rw [dif_neg hless, hzero]
      refine ⟨?_, rfl, hsplit⟩
      change Except.ok got = Except.ok (got ++ [])
      rw [List.append_nil]

theorem recvExact_reads (buffer : Buffer) (size : Nat) :
    Reads (recvExact buffer size) (readExact size) := by
  intro conn hsplit
  have hloop := recvLoop_reads size [] (Nat.zero_le _)
    { conn with buffers := conn.buffers ++ [buffer] } hsplit
  have hplain : (readExact (size - ([] : List UInt8).length) conn.bytes).map
      (fun p => ([] ++ p.1, p.2)) = readExact size conn.bytes := by
    simp
  rw [← hplain]
  exact hloop

/-! ## Reading a frame off a stream -/

def readLength : Reader Nat := do
  let header ← readExact 4
  return BigEndian.value header

def readPayload (pickler : Pickler Obj) (size maxFrameBytes : Nat) : Reader Obj :=
  if size = 0 ∨ size > maxFrameBytes then failure
  else do
    let payload ← readExact size
    match pickler.loads payload with
    | some value => return value
    | none => failure

/-- The value at the head of a stream. -/
def decode (pickler : Pickler Obj) (maxFrameBytes : Nat) : Reader (WireValue Obj) := do
  let size ← readLength
  if size ≠ 0 then do
    let value ← readPayload pickler size maxFrameBytes
    return .plain value
  else do
    let sidecarSize ← readLength
    let sidecar ← readPayload pickler sidecarSize maxTraceSidecarBytes
    match pickler.asSidecar sidecar with
    | none => failure
    | some trace => do
        let businessSize ← readLength
        let value ← readPayload pickler businessSize maxFrameBytes
        return .traced value trace

theorem recvLength_reads : Reads recvLength readLength :=
  (recvExact_reads .header 4).bind fun header => .pure (BigEndian.value header)

theorem receivePayload_reads (pickler : Pickler Obj) (size maxFrameBytes : Nat) :
    Reads (receivePayload pickler size maxFrameBytes)
      (readPayload pickler size maxFrameBytes) := by
  simp only [receivePayload, readPayload]
  by_cases hempty : size = 0
  · rw [if_pos hempty, if_pos (.inl hempty)]
    exact .throw _
  by_cases hlarge : size > maxFrameBytes
  · rw [if_neg hempty, if_pos hlarge, if_pos (.inr hlarge)]
    exact .throw _
  rw [if_neg hempty, if_neg hlarge, if_neg (not_or.mpr ⟨hempty, hlarge⟩)]
  refine (recvExact_reads _ size).bind fun payload => ?_
  cases pickler.loads payload with
  | none => exact .throw _
  | some value => exact .pure value

theorem receive_reads (pickler : Pickler Obj) (maxFrameBytes : Nat) :
    Reads (receive pickler maxFrameBytes) (decode pickler maxFrameBytes) := by
  refine recvLength_reads.bind fun size => ?_
  by_cases hsize : size ≠ 0
  · simp only [if_pos hsize]
    exact (receivePayload_reads pickler size maxFrameBytes).bind fun value => .pure _
  · simp only [if_neg hsize]
    refine recvLength_reads.bind fun sidecarSize => ?_
    refine (receivePayload_reads pickler sidecarSize _).bind fun sidecar => ?_
    cases pickler.asSidecar sidecar with
    | none => exact .throw _
    | some trace =>
      refine recvLength_reads.bind fun businessSize => ?_
      exact (receivePayload_reads pickler businessSize maxFrameBytes).bind fun value => .pure _

/-! ## Frames -/

theorem readLength_pack {n : Nat} (h : n < 2 ^ 32) (rest : List UInt8) :
    readLength (packLength n ++ rest) = some (n, rest) := by
  have hlength : (packLength n).length = 4 := Sha256.bigEndian_length 4 n
  have hvalue : BigEndian.value (packLength n) = n :=
    BigEndian.value_bigEndian_of_lt (lt_of_lt_of_eq h (by decide))
  have hread : readExact (packLength n).length (packLength n ++ rest) = _ := readExact_append
  rw [hlength] at hread
  rw [readLength, Reader.bind_eq, hread]
  change some (BigEndian.value (packLength n), rest) = _
  rw [hvalue]

variable {payload : List UInt8} {limit : Nat}

theorem readPayload_append {value : Obj} (hne : payload ≠ []) (hlimit : payload.length ≤ limit)
    (hloads : pickler.loads payload = some value) :
    readPayload pickler payload.length limit (payload ++ rest) = some (value, rest) := by
  have hpos := List.length_pos_of_ne_nil hne
  rw [readPayload, if_neg (by omega), Reader.bind_eq, readExact_append]
  simp only [hloads]
  rfl

theorem decode_plain {value : Obj} (hloads : pickler.loads payload = some value)
    (hne : payload ≠ []) (hlimit : payload.length ≤ limit) (hfits : limit < 2 ^ 32) :
    decode pickler limit ((packLength payload.length ++ payload) ++ rest) =
      some (.plain value, rest) := by
  have hpos := List.length_pos_of_ne_nil hne
  have hlength := readLength_pack (n := payload.length) (by omega) (payload ++ rest)
  have hpayload : readPayload pickler payload.length limit (payload ++ rest) = _ :=
    readPayload_append hne hlimit hloads
  rw [decode, Reader.bind_eq, List.append_assoc, hlength]
  simp only []
  rw [if_pos (by omega), Reader.bind_eq, hpayload]
  rfl

variable {trace : WireTraceSidecar}

theorem decode_traced {sidecar : List UInt8} {value : Obj}
    (htrace : pickler.loads sidecar = some (pickler.sidecar trace)) (hsidecar : sidecar ≠ [])
    (hsmall : sidecar.length ≤ maxTraceSidecarBytes) (hloads : pickler.loads payload = some value)
    (hne : payload ≠ []) (hlimit : payload.length ≤ limit) (hfits : limit < 2 ^ 32) :
    decode pickler limit ((packLength 0 ++ packLength sidecar.length ++ sidecar ++
        (packLength payload.length ++ payload)) ++ rest) =
      some (.traced value trace, rest) := by
  have hbound : maxTraceSidecarBytes < 2 ^ 32 := by decide
  have hzero := readLength_pack (n := 0) (by decide)
    (packLength sidecar.length ++ (sidecar ++ (packLength payload.length ++ (payload ++ rest))))
  have hfirst := readLength_pack (n := sidecar.length) (by omega)
    (sidecar ++ (packLength payload.length ++ (payload ++ rest)))
  have hread : readPayload pickler sidecar.length maxTraceSidecarBytes
      (sidecar ++ (packLength payload.length ++ (payload ++ rest))) = _ :=
    readPayload_append hsidecar hsmall htrace
  have hsecond := readLength_pack (n := payload.length) (by omega) (payload ++ rest)
  have hpayload : readPayload pickler payload.length limit (payload ++ rest) = _ :=
    readPayload_append hne hlimit hloads
  rw [decode, Reader.bind_eq]
  simp only [List.append_assoc]
  rw [hzero]
  simp only []
  rw [if_neg (by omega), Reader.bind_eq, hfirst]
  simp only []
  rw [Reader.bind_eq, hread]
  simp only [pickler.asSidecar_sidecar]
  rw [Reader.bind_eq, hsecond]
  simp only []
  rw [Reader.bind_eq, hpayload]
  rfl

variable {value : WireValue Obj}

theorem sendableSidecar_trace (h : sendableSidecar pickler value = some trace) :
    value.trace = some trace := by
  cases value with
  | plain business => cases h
  | traced business sent =>
    simp only [sendableSidecar] at h
    cases hdumps : pickler.dumps 0 (pickler.sidecar sent) with
    | none =>
      rw [hdumps] at h
      cases h
    | some candidate =>
      simp only [hdumps] at h
      by_cases hsmall : candidate.length ≤ maxTraceSidecarBytes
      · rw [if_pos hsmall] at h
        exact h
      · rw [if_neg hsmall] at h
        cases h

variable {frame : List UInt8}

theorem encode_ok (h : encode pickler value limit = .ok frame) :
    ∃ payload, pickler.dumps 1 value.business = some payload ∧ payload.length ≤ limit ∧
      (frame = packLength payload.length ++ payload ∨
        ∃ trace sidecar, value.trace = some trace ∧
          pickler.dumps 2 (pickler.sidecar trace) = some sidecar ∧
          sidecar.length ≤ maxTraceSidecarBytes ∧
          frame = packLength 0 ++ packLength sidecar.length ++ sidecar ++
            (packLength payload.length ++ payload)) := by
  simp only [encode] at h
  cases hpayload : pickler.dumps 1 value.business with
  | none =>
    rw [hpayload] at h
    cases h
  | some payload =>
    simp only [hpayload] at h
    by_cases hlarge : payload.length > limit
    · rw [if_pos hlarge] at h
      cases h
    rw [if_neg hlarge] at h
    refine ⟨payload, rfl, by omega, ?_⟩
    cases hsend : sendableSidecar pickler value with
    | none =>
      simp only [hsend, Except.ok.injEq] at h
      exact .inl h.symm
    | some trace =>
      simp only [hsend] at h
      cases hsidecar : pickler.dumps 2 (pickler.sidecar trace) with
      | none =>
        simp only [hsidecar, Except.ok.injEq] at h
        exact .inl h.symm
      | some sidecar =>
        simp only [hsidecar] at h
        by_cases hbig : sidecar.length > maxTraceSidecarBytes
        · simp only [if_pos hbig, Except.ok.injEq] at h
          exact .inl h.symm
        · simp only [if_neg hbig, Except.ok.injEq] at h
          exact .inr ⟨trace, sidecar, sendableSidecar_trace hsend, hsidecar, by omega,
            h.symm⟩

/-- The same business value, with exactly the metadata that was sent or with none. -/
def Delivers (value result : WireValue Obj) : Prop :=
  result.business = value.business ∧ (result.trace = value.trace ∨ result.trace = none)

theorem decode_encode (hfits : limit < 2 ^ 32) (h : encode pickler value limit = .ok frame) :
    ∃ result, Delivers value result ∧
      ∀ rest, decode pickler limit (frame ++ rest) = some (result, rest) := by
  obtain ⟨payload, hdumps, hlimit, hframe⟩ := encode_ok h
  have hloads := pickler.loads_dumps _ _ _ hdumps
  have hne := pickler.dumps_ne_nil _ _ _ hdumps
  rcases hframe with hplain | ⟨trace, sidecar, htrace, hsidecar, hsmall, htraced⟩
  · refine ⟨.plain value.business, ⟨rfl, .inr rfl⟩, fun rest => ?_⟩
    rw [hplain]
    exact decode_plain hloads hne hlimit hfits
  · refine ⟨.traced value.business trace, ⟨rfl, .inl htrace.symm⟩, fun rest => ?_⟩
    rw [htraced]
    exact decode_traced (pickler.loads_dumps _ _ _ hsidecar) (pickler.dumps_ne_nil _ _ _ hsidecar)
      hsmall hloads hne hlimit hfits

/-! ## Prefixes of frames -/

/-- A reader that succeeds does not look past what it reads. -/
def Local (f : Reader α) : Prop :=
  ∀ bytes a rest more, f bytes = some (a, rest) → f (bytes ++ more) = some (a, rest ++ more)

theorem Local.pure (a : α) : Local (Pure.pure a : Reader α) := by
  intro bytes b rest more h
  cases h
  rfl

theorem Local.failure : Local (Alternative.failure : Reader α) := by
  intro bytes b rest more h
  cases h

theorem Local.bind {f : Reader α} {g : α → Reader β} (hf : Local f) (hg : ∀ a, Local (g a)) :
    Local (f >>= g) := by
  intro bytes b rest more h
  rw [Reader.bind_eq] at h ⊢
  cases hfirst : f bytes with
  | none =>
    rw [hfirst] at h
    cases h
  | some p =>
    obtain ⟨a, middle⟩ := p
    rw [hfirst] at h
    rw [hf bytes a middle more hfirst]
    exact hg a middle b rest more h

theorem readExact_local (size : Nat) : Local (readExact size) := by
  intro bytes front rest more h
  simp only [readExact] at h ⊢
  by_cases henough : size ≤ bytes.length
  · rw [if_pos henough] at h
    cases h
    rw [if_pos (by rw [List.length_append]; omega), List.take_append_of_le_length henough,
      List.drop_append_of_le_length henough]
  · rw [if_neg henough] at h
    cases h

theorem readLength_local : Local readLength :=
  (readExact_local 4).bind fun header => .pure (BigEndian.value header)

theorem readPayload_local (size limit : Nat) : Local (readPayload pickler size limit) := by
  simp only [readPayload]
  by_cases hbad : size = 0 ∨ size > limit
  · rw [if_pos hbad]
    exact .failure
  rw [if_neg hbad]
  refine (readExact_local size).bind fun payload => ?_
  cases pickler.loads payload with
  | none => exact .failure
  | some value => exact .pure value

theorem decode_local (limit : Nat) : Local (decode pickler limit) := by
  refine readLength_local.bind fun size => ?_
  by_cases hsize : size ≠ 0
  · simp only [if_pos hsize]
    exact (readPayload_local size limit).bind fun value => .pure _
  · simp only [if_neg hsize]
    refine readLength_local.bind fun sidecarSize => ?_
    refine (readPayload_local sidecarSize _).bind fun sidecar => ?_
    cases pickler.asSidecar sidecar with
    | none => exact .failure
    | some trace =>
      refine readLength_local.bind fun businessSize => ?_
      exact (readPayload_local businessSize limit).bind fun value => .pure _

/-- A front that decodes would leave bytes where the whole frame leaves none. -/
theorem decode_front (hfits : limit < 2 ^ 32) {missing : List UInt8}
    (h : encode pickler value limit = .ok (front ++ missing)) (hmissing : missing ≠ []) :
    decode pickler limit front = none := by
  obtain ⟨result, -, hwhole⟩ := decode_encode hfits h
  have hwhole := hwhole []
  rw [List.append_nil] at hwhole
  cases hfront : decode pickler limit front with
  | none => rfl
  | some p =>
    obtain ⟨other, rest⟩ := p
    have hmore := decode_local limit front other rest missing hfront
    rw [hmore] at hwhole
    have hnil : rest ++ missing = [] := congrArg Prod.snd (Option.some.inj hwhole)
    exact absurd (List.append_eq_nil_iff.mp hnil).2 hmissing

end Transport

end MiniRay
