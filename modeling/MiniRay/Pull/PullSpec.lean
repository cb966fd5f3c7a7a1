import MiniRay.Pull.Completion

/-! What a manager promises after any sequence of calls, messages and failures. -/

namespace MiniRay

open Checked Run Buffer

variable {ℓ α ω τ : Type} [DecidableEq ℓ] [StableLocationKey ℓ] [DecidableEq α] [DecidableEq ω]
  [DecidableEq τ]

namespace ObjectManager

variable {s : ObjectManager ℓ α ω τ} {d : ObjectID → List (Write UInt8)} {o : ObjectID}

/-- The chunks delivered by the last transfer of every object, after a call. -/
def deliveries (s : ObjectManager ℓ α ω τ) (d : ObjectID → List (Write UInt8)) :
    Op ℓ α ω τ → ObjectID → List (Write UInt8)
  | .requestPull q => startedBy q.objectId d (s.requestPull q).1
  | .receiveChunk o data offset transfer source =>
    deliveredBy o ⟨offset.toNat, data⟩ d (s.receiveChunk o data offset transfer source).1
  | _ => d

/-- The chunks delivered along a run. -/
def delivered (s : ObjectManager ℓ α ω τ) (d : ObjectID → List (Write UInt8)) :
    List (Op ℓ α ω τ) → ObjectID → List (Write UInt8)
  | [] => d
  | op :: ops => delivered (s.step op) (s.deliveries d op) ops

omit [DecidableEq ℓ] [StableLocationKey ℓ] [DecidableEq α] [DecidableEq ω] [DecidableEq τ] in
theorem inv_empty (node : ℓ) (capacityBytes : Nat) :
    Inv (fun _ => []) (empty node capacityBytes : ObjectManager ℓ α ω τ) :=
  ⟨ObjectStore.inv_empty capacityBytes, fun _ => agree_nil, fun _ => .absent⟩

theorem inv_step (h : Inv d s) (op : Op ℓ α ω τ) : Inv (s.deliveries d op) (s.step op) := by
  cases op with
  | requestPull q => exact requestPull_inv h q
  | beginTransfer o size checksum transfer source =>
    exact beginTransfer_inv h size checksum transfer source
  | receiveChunk o data offset transfer source =>
    exact receiveChunk_inv h data offset transfer source
  | finishPull o transfer source publication readers =>
    exact finishPull_inv h transfer source publication readers
  | failPull o error => exact failPull_inv h error
  | resetFailedPull o => exact resetFailedPull_inv h
  | forgetLocalReplica o attempt => exact forgetLocalReplica_inv h attempt
  | dropReplica o attempt => exact dropReplica_inv h attempt
  | pin o token => exact pin_inv h token
  | unpin o token => exact unpin_inv h token

theorem inv_run (h : Inv d s) (ops : List (Op ℓ α ω τ)) :
    Inv (s.delivered d ops) (run step s ops) := by
  induction ops generalizing s d with
  | nil => exact h
  | cons op ops ih => exact ih (inv_step h op)

/-! ## What the invariant says -/

/-- The transfer with this name is running. -/
def InFlight (s : ObjectManager ℓ α ω τ) (o : ObjectID) (transferId : String) : Prop :=
  ∃ r, s.pulls.get? o = some r ∧ r.state = .pulling ∧ r.transferId = some transferId

variable {transferId : String}

omit [StableLocationKey ℓ] [DecidableEq α] [DecidableEq ω] [DecidableEq τ] in
theorem not_pulling_of_stale (h : ¬ s.InFlight o transferId) (source : Option ℓ) :
    ∃ e, s.pullingRecord o (some transferId) source = .error e := by
  cases hcheck : s.pullingRecord o (some transferId) source with
  | error e => exact ⟨e, rfl⟩
  | ok r =>
    obtain ⟨hr, hstate, htransfer⟩ := pullingRecord_ok hcheck
    exact absurd ⟨r, hr, hstate, (htransfer (by simp)).symm⟩ h

omit [StableLocationKey ℓ] [DecidableEq α] [DecidableEq ω] [DecidableEq τ] in
theorem receiveChunk_stale (h : ¬ s.InFlight o transferId) (data : List UInt8) (offset : Int)
    (source : Option ℓ) :
    ∃ e, s.receiveChunk o data offset (some transferId) source = (.error e, s) := by
  obtain ⟨e, he⟩ := not_pulling_of_stale h source
  unfold receiveChunk
  by_cases hoffset : offset < 0
  · refine ⟨.valueError "chunk offset must be a non-negative integer", ?_⟩
    simp only [checkChunk, raiseIf, if_pos hoffset]
    rfl
  · refine ⟨e, ?_⟩
    simp only [checkChunk, raiseIf_ok hoffset, he]
    rfl

omit [StableLocationKey ℓ] [DecidableEq α] [DecidableEq ω] in
theorem finishPull_stale (h : ¬ s.InFlight o transferId) (source : Option ℓ)
    (publication : PublicationOutcome) (readers : List τ) :
    ∃ e, s.finishPull o (some transferId) source publication readers = (.error e, s) := by
  obtain ⟨e, he⟩ := not_pulling_of_stale h source
  refine ⟨e, ?_⟩
  simp only [finishPull, checkFinish, he]
  rfl

variable {q : PullRequest ℓ α ω}

omit [DecidableEq ℓ] [StableLocationKey ℓ] [DecidableEq τ] in
theorem admitWaiter_state {attempt : Option α} {checksum : Option String} {r old : PullRecord ℓ α ω}
    (hold : s.pulls.get? q.objectId = some old) (hcall : s.admitWaiter q attempt checksum = .ok r) :
    r.state = old.state ∧ r.transferId = old.transferId := by
  unfold admitWaiter at hcall
  simp only [hold, bind_eq_ok, pure_eq_ok] at hcall
  obtain ⟨_, _, _, _, rfl⟩ := hcall
  exact ⟨rfl, rfl⟩

omit [DecidableEq τ] in
/-- While a transfer is running, further demand starts no other one. -/
theorem requestPull_starts (h : Inv d s) {decision : PullDecision ℓ ω}
    (hcall : (s.requestPull q).1 = .ok decision) (hstart : decision.action = .startPull)
    (transferId : String) : ¬ s.InFlight q.objectId transferId := by
  rintro ⟨old, hold, hstate, htransfer⟩
  unfold requestPull at hcall
  cases hresolve : resolveRequest q with
  | error e => simp [hresolve] at hcall
  | ok resolved =>
    obtain ⟨locations, attempt, checksum⟩ := resolved
    simp only [hresolve] at hcall
    by_cases hsealed : s.objectStore.contains q.objectId true = true
    · rw [if_pos hsealed] at hcall
      cases hrequest : s.requestSealed q attempt checksum with
      | error e => simp [hrequest] at hcall
      | ok result =>
        simp only [hrequest, Except.ok.injEq] at hcall
        exact (requestSealed_inv h hsealed hrequest).1 (hcall ▸ hstart)
    rw [if_neg hsealed] at hcall
    cases hadmitted : s.admitWaiter q attempt checksum with
    | error e => simp [hadmitted] at hcall
    | ok r =>
      obtain ⟨hrstate, hrtransfer⟩ := admitWaiter_state hold hadmitted
      simp only [hadmitted] at hcall
      rw [if_pos (hrstate.trans hstate), hrtransfer, htransfer] at hcall
      generalize hdecision : (decidePull q.objectId false locations (some s.localLocation)
        (some transferId) r.sourceLocation (decide (r.state = .failed)) q.excludedLocations :
          PullDecision ℓ ω) = decided at hcall
      have hjoin : decided.action ≠ .startPull := by
        intro hdecided
        have hnone := (decidePull_start (hdecision ▸ hdecided)).2
        cases hnone
      rw [if_neg hjoin, Except.ok.injEq] at hcall
      exact hjoin (by rw [← hstart, ← hcall])

/-- What a manager promises at any moment, given the chunks its transfers delivered. -/
structure PullSpec (d : ObjectID → List (Write UInt8)) (s : ObjectManager ℓ α ω τ) : Prop where
  reads : ∀ o data, s.getLocal o = .ok data → ∃ r, s.pulls.get? o = some r ∧
    r.expectedSize = some (data.length : Int) ∧
    r.expectedChecksum = some (Sha256.hexdigest data)
  ready : ∀ o, s.isReady o = true → ∃ data, s.getLocal o = .ok data
  agree : ∀ o, ∀ w ∈ d o, ∀ w' ∈ d o, ∀ pos ∈ w.interval, pos ∈ w'.interval →
    w.at? pos = w'.at? pos
  superseded : ∀ o transferId, ¬ s.InFlight o transferId →
    (∀ data offset source,
      ∃ e, s.receiveChunk o data offset (some transferId) source = (.error e, s)) ∧
    ∀ source publication readers,
      ∃ e, s.finishPull o (some transferId) source publication readers = (.error e, s)
  single : ∀ q decision, (s.requestPull q).1 = .ok decision → decision.action = .startPull →
    ∀ transferId, ¬ s.InFlight q.objectId transferId
  reserved : ∀ o, (∃ e, s.objectStore.entries.get? o = some e ∧ e.isSealed = false) ↔
    ∃ r, s.pulls.get? o = some r ∧ r.state = .pulling ∧ r.buffer ≠ none
  failed : ∀ o r, s.pulls.get? o = some r → r.state = .failed →
    ∀ e, s.objectStore.entries.get? o = some e → e.isSealed = true
  used : s.objectStore.usedBytes = s.objectStore.entries.sumBy fun e => e.sizeBytes

omit [DecidableEq ℓ] [StableLocationKey ℓ] [DecidableEq α] [DecidableEq ω] [DecidableEq τ] in
theorem isReady_iff : s.isReady o = true ↔
    s.objectStore.contains o true = true ∧ ∀ r, s.pulls.get? o = some r → r.state = .ready := by
  cases hr : s.pulls.get? o with
  | none => simp [isReady, hr]
  | some r => simp [isReady, hr]

omit [DecidableEq ℓ] [StableLocationKey ℓ] [DecidableEq α] [DecidableEq ω] [DecidableEq τ] in
theorem Inv.ready (h : Inv d s) (hready : s.isReady o = true) :
    ∃ r data, s.pulls.get? o = some r ∧ s.objectStore.get o = .ok data ∧
      r.expectedSize = some (data.length : Int) ∧
      r.expectedChecksum = some (Sha256.hexdigest data) := by
  obtain ⟨hsealed, hstate⟩ := isReady_iff.mp hready
  obtain ⟨e, he, hs⟩ := contains_iff.mp hsealed
  have htracks := h.tracks o
  rw [he] at htracks
  cases hr : s.pulls.get? o with
  | none =>
    rw [hr] at htracks
    cases htracks
  | some r =>
    rw [hr] at htracks
    have hrstate := hstate r hr
    cases htracks with
    | configured _ _ _ _ _ state => simp [hrstate] at state
    | failed _ _ _ state => simp [hrstate] at state
    | ready _ _ data _ _ sealedData size_eq checksum_eq =>
      exact ⟨r, data, rfl, ObjectStore.get_eq_ok.mpr ⟨e, he, sealedData⟩, size_eq, checksum_eq⟩

omit [DecidableEq ℓ] [StableLocationKey ℓ] [DecidableEq α] [DecidableEq ω] [DecidableEq τ] in
theorem Inv.reserved (h : Inv d s) :
    (∃ e, s.objectStore.entries.get? o = some e ∧ e.isSealed = false) ↔
      ∃ r, s.pulls.get? o = some r ∧ r.state = .pulling ∧ r.buffer ≠ none := by
  have htracks := h.tracks o
  constructor
  · rintro ⟨e, he, hopen⟩
    rw [he] at htracks
    generalize s.pulls.get? o = record at htracks ⊢
    cases htracks with
    | configured r _ buffer _ _ state _ buffer_eq => exact ⟨r, rfl, state, by simp [buffer_eq]⟩
    | ready _ _ data _ _ sealedData => simp [StoreEntry.isSealed, sealedData] at hopen
    | failed _ _ _ _ _ isSealed => simp [isSealed e rfl] at hopen
  · rintro ⟨r, hr, hstate, hbuffer⟩
    obtain ⟨buffer, hbuffer⟩ := Option.ne_none_iff_exists'.mp hbuffer
    rw [hr] at htracks
    obtain ⟨_, _, _, _, _, _, hentry⟩ := configured_of_buffer htracks hstate hbuffer
    exact ⟨_, hentry, rfl⟩

/-- Every run of a manager over a store it alone writes to keeps its promises. -/
theorem pullSpec_run (node : ℓ) (capacityBytes : Nat) (ops : List (Op ℓ α ω τ)) :
    PullSpec (delivered (empty node capacityBytes) (fun _ => []) ops)
      (run step (empty node capacityBytes) ops) := by
  have hinv := inv_run (inv_empty (ℓ := ℓ) (α := α) (ω := ω) (τ := τ) node capacityBytes) ops
  refine ⟨fun o data hget => ?_, fun o hready => ?_, hinv.agree, fun o transferId hstale => ?_,
    fun q decision hcall hstart => requestPull_starts hinv hcall hstart, fun o => hinv.reserved,
    fun o r hr hfailed e he => ?_, hinv.store.used⟩
  · simp only [getLocal, bind_eq_ok, raiseIf_eq_ok, Bool.not_eq_false, mapError_eq_ok] at hget
    obtain ⟨_, hready, hget⟩ := hget
    obtain ⟨r, data', hr, hget', hsize, hchecksum⟩ := hinv.ready hready
    cases hget.symm.trans hget'
    exact ⟨r, hr, hsize, hchecksum⟩
  · obtain ⟨_, data, _, hget, _⟩ := hinv.ready hready
    refine ⟨data, ?_⟩
    simp only [getLocal, bind_eq_ok]
    exact ⟨(), raiseIf_ok (by simp [hready]), by rw [hget]; rfl⟩
  · exact ⟨fun data offset source => receiveChunk_stale hstale data offset source,
      fun source publication readers => finishPull_stale hstale source publication readers⟩
  · have htracks := hinv.tracks o
    rw [hr, he] at htracks
    cases htracks with
    | configured _ _ _ _ _ state => simp [hfailed] at state
    | ready _ _ _ _ state => simp [hfailed] at state
    | failed _ _ _ _ _ isSealed => exact isSealed e rfl

end ObjectManager

end MiniRay
