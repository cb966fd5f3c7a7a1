import MiniRay.Pull.Tracking

/-! Each call on an object keeps its record and its store entry in step, whatever it answers. -/

namespace MiniRay

open Checked Run Buffer

variable {ℓ α ω τ : Type}

namespace ObjectManager

variable {s s' : ObjectManager ℓ α ω τ} {d : ObjectID → List (Write UInt8)} {o : ObjectID}
  {r r' : PullRecord ℓ α ω} {st : ObjectStore τ}

theorem pullRecord_eq_ok : s.pullRecord o = .ok r ↔ s.pulls.get? o = some r := by
  unfold pullRecord
  cases s.pulls.get? o with
  | none => simp
  | some r' => simp

/-! ## Reservations -/

theorem configureTransfer_cases {size : Option Int} {checksum : Option String}
    (h : s.configureTransfer r size checksum = .ok (r', st)) :
    r.buffer ≠ none ∧ r' = r ∧ st = s.objectStore ∨
      r.buffer = none ∧ ∃ n text, s.objectStore.create r.objectId n = .ok st ∧ r' = { r with
        targetCreated := true, expectedSize := some n, expectedChecksum := some (lowerHex text)
        buffer := some (List.replicate n.toNat 0) } := by
  unfold configureTransfer at h
  split at h
  · next n text =>
      simp only [bind_eq_ok, ite_eq_ok, mapError_eq_ok, pure_eq_ok, Prod.mk.injEq] at h
      obtain ⟨_, _, ⟨hbuffer, rfl, rfl⟩ | ⟨hbuffer, _, _, created, hcreate, rfl, rfl⟩⟩ := h
      · exact .inl ⟨hbuffer, rfl, rfl⟩
      · exact .inr ⟨not_not.mp hbuffer, n, text, hcreate, rfl⟩
  · cases h

theorem configured_inv (h : InvBut r.objectId d s) (hstate : r.state = .pulling)
    (htransfer : r.transferId ≠ none) (hnew : r.Unconfigured) {n : Int} (text : String)
    (hcreate : s.objectStore.create r.objectId n = .ok st) :
    Inv (Function.update d r.objectId []) ((s.setStore st).setRecord { r with
      targetCreated := true, expectedSize := some n, expectedChecksum := some (lowerHex text)
      buffer := some (List.replicate n.toNat 0) }) := by
  obtain ⟨hn, _, _, hst⟩ := ObjectStore.create_ok hcreate
  have hbut : InvBut r.objectId (Function.update d r.objectId []) (s.setStore st) := by
    refine h.store_change st [] (h.store.create hcreate) agree_nil fun x hx => ?_
    rw [hst]
    exact Dict.get?_set_of_ne _ _ (Ne.symm hx)
  refine hbut.setRecord ?_
  have hentry : (s.setStore st).objectStore.entries.get? r.objectId =
      some (.created n.toNat : StoreEntry τ) := by
    simp only [setStore, hst, Dict.get?_set_self]
  rw [hentry]
  have hsize : some n = some ((n.toNat : Nat) : Int) := by rw [Int.toNat_of_nonneg hn]
  rw [Function.update_self, StoreEntry.created, ← hnew.ranges]
  exact .configured _ n.toNat (List.replicate n.toNat 0) (lowerHex text) rfl hstate htransfer rfl
    (by simp) hsize rfl (lowerHex_lowerHex text) rfl

/-! ## Demand -/

section Demand

variable [DecidableEq α] [DecidableEq ω]

omit [DecidableEq α] in
theorem addWaiter_rebinds (r : PullRecord ℓ α ω) (token : ω) : r.Rebinds (r.addWaiter token) :=
  ⟨rfl, rfl, rfl, rfl, rfl, rfl, fun _ h => h, fun _ h => h⟩

variable {q : PullRequest ℓ α ω} {attempt : Option α} {checksum : Option String}

theorem requestSealed_inv {decision : PullDecision ℓ ω} (h : Inv d s)
    (hsealed : s.objectStore.contains q.objectId true = true)
    (hcall : s.requestSealed q attempt checksum = .ok (decision, s')) :
    decision.action ≠ .startPull ∧ Inv d s' := by
  obtain ⟨e, he, hs⟩ := contains_iff.mp hsealed
  have htracks := h.tracks q.objectId
  unfold requestSealed at hcall
  cases hr : s.pulls.get? q.objectId with
  | none =>
    rw [hr, he] at htracks
    cases htracks
  | some r =>
    simp only [hr, bind_eq_ok, ite_eq_ok, pure_eq_ok, Prod.mk.injEq] at hcall
    rw [hr] at htracks
    rcases hcall with ⟨_, rfl, rfl⟩ | ⟨hfailed, _, _, _, _, _, _, rfl, rfl⟩
    · exact ⟨by simp, (h.but q.objectId).setRecord (htracks.rebind (addWaiter_rebinds r _))⟩
    · refine ⟨by simp, (h.but q.objectId).setRecord ?_⟩
      have hready : r.state = .ready := by
        rw [he] at htracks
        cases htracks with
        | configured => simp [StoreEntry.isSealed] at hs
        | ready _ _ _ _ state => exact state
        | failed _ _ _ state => exact absurd state hfailed
      have hsame : { r.addWaiter (q.waiterToken.getD q.freshToken) with state := .ready } =
          r.addWaiter (q.waiterToken.getD q.freshToken) := by
        simp [PullRecord.addWaiter, hready]
      rw [hsame]
      exact htracks.rebind (addWaiter_rebinds r _)

theorem admitWaiter_tracks (h : Inv d s) (hcall : s.admitWaiter q attempt checksum = .ok r) :
    Tracks (d q.objectId) q.objectId (some r) (s.objectStore.entries.get? q.objectId) := by
  have htracks := h.tracks q.objectId
  unfold admitWaiter at hcall
  cases hr : s.pulls.get? q.objectId with
  | none =>
    simp only [hr, pure_eq_ok] at hcall
    rw [hr] at htracks
    subst hcall
    generalize s.objectStore.entries.get? q.objectId = entry at htracks
    cases htracks
    exact .waiting _ rfl rfl ⟨rfl, rfl, rfl⟩
  | some old =>
    simp only [hr, bind_eq_ok, pure_eq_ok] at hcall
    obtain ⟨_, _, _, _, rfl⟩ := hcall
    rw [hr] at htracks
    refine htracks.rebind ⟨rfl, rfl, rfl, rfl, rfl, rfl, fun n hn => ?_, fun text ht => ?_⟩
    · simp [PullRecord.addWaiter, hn]
    · simp [PullRecord.addWaiter, ht]

omit [DecidableEq α] [DecidableEq ω] in
theorem startable {ws : List (Write UInt8)} {entry : Option (StoreEntry τ)}
    (h : Tracks ws o (some r) entry) (hfailed : r.state ≠ .failed)
    (hactive : r.state = .pulling → r.transferId = none)
    (hunsealed : ∀ e ∈ entry, e.isSealed = false) : r.Unconfigured ∧ entry = none := by
  cases h with
  | waiting _ _ _ unconfigured => exact ⟨unconfigured, rfl⟩
  | pulling _ _ state transfer => exact absurd (hactive state) transfer
  | configured _ _ _ _ _ state transfer => exact absurd (hactive state) transfer
  | ready _ e data _ _ sealedData =>
    have hnot := hunsealed e rfl
    simp [StoreEntry.isSealed, sealedData] at hnot
  | failed _ _ _ state => exact absurd state hfailed

/-- The chunks of a transfer are forgotten when the next one starts. -/
def startedBy (o : ObjectID) (d : ObjectID → List (Write UInt8))
    (answer : Except ObjectManagerError (PullDecision ℓ ω)) : ObjectID → List (Write UInt8) :=
  match answer with
  | .ok decision => if decision.action = .startPull then Function.update d o [] else d
  | .error _ => d

omit [DecidableEq α] [DecidableEq ω] in
theorem startTransfer_inv (h : InvBut o d s) (hentry : s.objectStore.entries.get? o = none)
    (hnamed : r.objectId = o) (hstate : r.state = .pulling) (htransfer : r.transferId ≠ none)
    (hnew : r.Unconfigured) {answer : PullDecision ℓ ω} (hanswer : answer.action = .startPull) :
    Inv (startedBy o d (s.startTransfer r answer).1) (s.startTransfer r answer).2 := by
  subst hnamed
  unfold startTransfer
  by_cases hbare : r.expectedSize = none ∧ r.expectedChecksum = none
  · rw [if_pos hbare]
    simp only [startedBy, if_pos hanswer]
    refine (h.forget hentry).setRecord ?_
    rw [hentry, Function.update_self]
    exact .pulling r rfl hstate htransfer hnew rfl
  · rw [if_neg hbare]
    cases hconfigure : s.configureTransfer r r.expectedSize r.expectedChecksum with
    | error e =>
      obtain ⟨failed, hfail, hinv⟩ := failWith_inv (β := PullDecision ℓ ω) h
        (fun e he => by simp [hentry] at he) e
      simpa only [hfail, startedBy] using hinv
    | ok result =>
      obtain ⟨configured, st⟩ := result
      simp only [startedBy, if_pos hanswer]
      rcases configureTransfer_cases hconfigure with ⟨hbuffer, _⟩ | ⟨_, n, text, hcreate, rfl⟩
      · exact absurd hnew.buffer hbuffer
      · exact configured_inv h hstate htransfer hnew text hcreate

variable [DecidableEq ℓ] [StableLocationKey ℓ]

theorem requestPull_inv (h : Inv d s) (q : PullRequest ℓ α ω) :
    Inv (startedBy q.objectId d (s.requestPull q).1) (s.requestPull q).2 := by
  unfold requestPull
  cases resolveRequest q with
  | error e => exact h
  | ok resolved =>
    obtain ⟨locations, attempt, checksum⟩ := resolved
    simp only
    by_cases hsealed : s.objectStore.contains q.objectId true = true
    · rw [if_pos hsealed]
      cases hcall : s.requestSealed q attempt checksum with
      | error e => exact h
      | ok result =>
        obtain ⟨hstart, hinv⟩ := requestSealed_inv h hsealed hcall
        simpa only [startedBy, if_neg hstart] using hinv
    rw [if_neg hsealed]
    cases hcall : s.admitWaiter q attempt checksum with
    | error e => exact h
    | ok r =>
      have htracks := admitWaiter_tracks h hcall
      have hbut := h.but q.objectId
      simp only
      generalize hdecision : (decidePull q.objectId false locations (some s.localLocation)
        (if r.state = .pulling then r.transferId else none) r.sourceLocation
        (decide (r.state = .failed)) q.excludedLocations : PullDecision ℓ ω) = decision
      by_cases hstart : decision.action = .startPull
      · rw [if_pos hstart]
        obtain ⟨hfailed, hactive⟩ := decidePull_start (hdecision ▸ hstart)
        obtain ⟨hunconfigured, hentry⟩ := startable htracks (by simpa using hfailed)
          (fun hs => by simpa [hs] using hactive)
          (fun e he => (not_contains_iff.mp (by simpa using hsealed) e he).1)
        refine startTransfer_inv hbut hentry ?_ rfl (by simp) ?_ hstart
        · exact htracks.named
        · exact ⟨hunconfigured.buffer, hunconfigured.ranges, hunconfigured.uncreated⟩
      · rw [if_neg hstart]
        simpa only [startedBy, if_neg hstart] using hbut.setRecord htracks

end Demand

/-! ## Transfers -/

section Chunks

variable [DecidableEq ℓ]

theorem pullingRecord_ok {transfer : Option String} {source : Option ℓ}
    (h : s.pullingRecord o transfer source = .ok r) :
    s.pulls.get? o = some r ∧ r.state = .pulling ∧ (transfer ≠ none → transfer = r.transferId) := by
  simp only [pullingRecord, PullRecord.requirePulling, bind_eq_ok, pullRecord_eq_ok, raiseIf_eq_ok,
    pure_eq_ok, not_and, not_not] at h
  obtain ⟨_, hr, _, ⟨_, hstate, _, htransfer, _⟩, rfl⟩ := h
  exact ⟨hr, hstate, htransfer⟩

variable {ws : List (Write UInt8)} {entry : Option (StoreEntry τ)}

omit [DecidableEq ℓ] in
theorem created_of_pulling (h : Tracks ws o (some r) entry) (hstate : r.state = .pulling)
    (e : StoreEntry τ) (he : entry = some e) : r.targetCreated = true := by
  cases h with
  | configured _ _ _ _ _ _ _ _ _ _ _ _ created => exact created
  | ready _ _ _ _ state => simp [hstate] at state
  | failed _ _ _ state => simp [hstate] at state
  | _ => cases he

omit [DecidableEq ℓ] in
theorem failPulling_inv {β : Type} (h : Inv d s) (hr : s.pulls.get? o = some r)
    (hstate : r.state = .pulling) (error : ObjectManagerError) :
    ∃ s', s.failWith (β := β) r error = (.error error, s') ∧ Inv d s' := by
  have htracks := h.tracks o
  rw [hr] at htracks
  obtain rfl := htracks.named
  exact failWith_inv (h.but _) (fun e he _ => created_of_pulling htracks hstate e he) error

theorem beginTransfer_inv (h : Inv d s) (size : Int) (checksum : String)
    (transfer : Option String) (source : Option ℓ) :
    Inv d (s.beginTransfer o size checksum transfer source).2 := by
  unfold beginTransfer
  cases hcheck : s.pullingRecord o transfer source with
  | error e => exact h
  | ok r =>
    obtain ⟨hr, hstate, _⟩ := pullingRecord_ok hcheck
    have htracks := h.tracks o
    rw [hr] at htracks
    simp only
    cases hconfigure : s.configureTransfer r (some size) (some checksum) with
    | error e =>
      obtain ⟨failed, hfail, hinv⟩ := failPulling_inv (β := PullSnapshot ℓ α ω) h hr hstate e
      simpa only [hfail] using hinv
    | ok result =>
      obtain ⟨configured, st⟩ := result
      simp only
      rcases configureTransfer_cases hconfigure with
        ⟨_, rfl, rfl⟩ | ⟨hbuffer, n, text, hcreate, rfl⟩
      · exact (h.but o).setRecord htracks
      · obtain rfl := htracks.named
        have hbut := h.but r.objectId
        generalize hentry : s.objectStore.entries.get? r.objectId = entry at htracks
        cases htracks with
        | pulling _ _ _ transfer unconfigured fresh =>
          have hinv := configured_inv hbut hstate transfer unconfigured text hcreate
          rwa [← fresh, Function.update_eq_self] at hinv
        | configured _ _ _ _ _ _ _ buffer_eq => simp [hbuffer] at buffer_eq
        | waiting _ _ state => simp [hstate] at state
        | ready _ _ _ _ state => simp [hstate] at state
        | failed _ _ _ state => simp [hstate] at state

variable {buffer : List UInt8}

omit [DecidableEq ℓ] in
theorem configured_of_buffer (h : Tracks ws o (some r) entry) (hstate : r.state = .pulling)
    (hbuffer : r.buffer = some buffer) :
    ∃ checksum, r.expectedSize = some (buffer.length : Int) ∧
      r.expectedChecksum = some checksum ∧ lowerHex checksum = checksum ∧
      r.transferId ≠ none ∧ r.targetCreated = true ∧
      entry = some ⟨buffer.length, some buffer, none, r.writtenRanges, []⟩ := by
  cases h with
  | configured _ size held checksum _ _ transfer buffer_eq length size_eq checksum_eq normalized
      created =>
      cases hbuffer.symm.trans buffer_eq
      subst length
      exact ⟨checksum, size_eq, checksum_eq, normalized, transfer, created, rfl⟩
  | pulling _ _ _ _ unconfigured => exact absurd unconfigured.buffer (by simp [hbuffer])
  | waiting _ _ state => simp [hstate] at state
  | ready _ _ _ _ state => simp [hstate] at state
  | failed _ _ _ state => simp [hstate] at state

omit [DecidableEq ℓ] in
theorem overlap_ok {payload : List UInt8} {offset : Nat} {u : Unit}
    (h : r.requireOverlapMatches buffer offset payload = .ok u) {pos : Nat}
    (hpos : pos ∈ (⟨offset, payload⟩ : Write UInt8).interval)
    (hcovered : pos ∈ Intervals.covered r.writtenRanges) :
    buffer[pos]? = (⟨offset, payload⟩ : Write UInt8).at? pos := by
  simp only [PullRecord.requireOverlapMatches, raiseIf_eq_ok, not_exists, not_and, not_not] at h
  obtain ⟨range, hrange, hstart, hstop⟩ := Intervals.mem_covered.mp hcovered
  have hbounds := Write.mem_interval.mp hpos
  have hlt : max offset range.1 < min (offset + payload.length) range.2 := by
    simp only at hbounds
    omega
  have hsame := congrArg (fun bytes => bytes[pos - max offset range.1]?) (h range hrange hlt)
  have hin : pos - max offset range.1 <
      min (offset + payload.length) range.2 - max offset range.1 := by
    simp only at hbounds
    omega
  simp only [List.getElem?_take, if_pos hin, List.getElem?_drop] at hsame
  rw [Write.at?_of_mem hpos]
  have hleft : max offset range.1 + (pos - max offset range.1) = pos := by
    simp only at hbounds
    omega
  have hright : max offset range.1 - offset + (pos - max offset range.1) = pos - offset := by
    simp only at hbounds
    omega
  rwa [hleft, hright] at hsame

/-- The accepted chunks of a transfer are collected. -/
def deliveredBy (o : ObjectID) (w : Write UInt8) (d : ObjectID → List (Write UInt8)) :
    Except ObjectManagerError Nat → ObjectID → List (Write UInt8)
  | .ok _ => Function.update d o (d o ++ [w])
  | .error _ => d

theorem receiveChunk_inv (h : Inv d s) (data : List UInt8) (offset : Int)
    (transfer : Option String) (source : Option ℓ) :
    Inv (deliveredBy o ⟨offset.toNat, data⟩ d (s.receiveChunk o data offset transfer source).1)
      (s.receiveChunk o data offset transfer source).2 := by
  unfold receiveChunk
  cases hcheck : s.checkChunk o data offset transfer source with
  | error e => exact h
  | ok checked =>
    obtain ⟨r, buffer⟩ := checked
    simp only [checkChunk, bind_eq_ok] at hcheck
    obtain ⟨_, hoffset, r', hpulling, hcheck⟩ := hcheck
    obtain ⟨hr, hstate, _⟩ := pullingRecord_ok hpulling
    have hmatches : r' = r ∧ r.buffer = some buffer ∧
        ∃ u, r.requireOverlapMatches buffer offset.toNat data = .ok u := by
      split at hcheck
      · next held size hheld hsize =>
          simp only [bind_eq_ok, pure_eq_ok, Prod.mk.injEq] at hcheck
          obtain ⟨_, _, u, hoverlap, rfl, rfl⟩ := hcheck
          exact ⟨rfl, hheld, u, hoverlap⟩
      · cases hcheck
    obtain ⟨rfl, hbuffer, _, hoverlap⟩ := hmatches
    have htracks := h.tracks o
    rw [hr] at htracks
    obtain ⟨checksum, hsize, hchecksum, hnormalized, htransfer, hcreated, hentry⟩ :=
      configured_of_buffer htracks hstate hbuffer
    simp only
    cases hwrite : s.objectStore.write o data offset with
    | error e =>
      obtain ⟨failed, hfail, hinv⟩ := failPulling_inv (β := Nat) h hr hstate (.store e)
      simpa only [hfail, deliveredBy] using hinv
    | ok written =>
      obtain ⟨_, e, he, _, hfits, held, hheld, hwritten⟩ := ObjectStore.write_eq_ok.mp hwrite
      cases hentry.symm.trans he
      obtain rfl : buffer = held := Option.some.inj hheld
      have hreplica := h.store.replicas o _ he
      have hexact : Intervals.covered r'.writtenRanges = Buffer.written (d o) ∧
          Holds (d o) buffer := by
        cases hreplica with
        | writing _ _ _ length holds separated exact => exact ⟨exact, holds⟩
      have hagree : Agree (d o ++ [⟨offset.toNat, data⟩]) := by
        refine (h.agree o).concat fun pos hpos hold => ?_
        rw [← hexact.2.shows pos hold]
        exact overlap_ok hoverlap hpos (hexact.1 ▸ hold)
      simp only [deliveredBy]
      have hbut := (h.but o).store_change written _ (h.store.write hwrite) hagree fun x hx => by
        rw [← hwritten]
        exact Dict.get?_set_of_ne _ _ (Ne.symm hx)
      refine hbut.setRecord ?_
      have hafter : (s.setStore written).objectStore.entries.get? o = some
          (⟨buffer.length, some (splice buffer offset.toNat data), none, Intervals.insert
            r'.writtenRanges offset.toNat (offset.toNat + data.length), []⟩) := by
        rw [← hwritten]
        exact Dict.get?_set_self _ _ _
      rw [hafter]
      exact .configured _ buffer.length _ checksum htracks.named hstate htransfer rfl
        (length_splice hfits) hsize hchecksum hnormalized hcreated

end Chunks

end ObjectManager

end MiniRay
