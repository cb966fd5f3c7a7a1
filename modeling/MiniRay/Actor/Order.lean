import MiniRay.Actor.Mailbox

/-! The four containers of a mailbox describe one line of calls for each caller: started, ready, and
behind a gap the buffered ones. -/

namespace MiniRay.ActorMailbox

variable {π φ ρ : Type} {m : ActorMailbox π φ ρ}

/-! ## Lookups after an update -/

/-- The sequence numbers below a bound, in order. -/
def upTo (n : Int) : List Int := (List.range n.toNat).map Nat.cast

theorem upTo_succ {n : Int} (h : 0 ≤ n) : upTo (n + 1) = upTo n ++ [n] := by
  obtain ⟨k, rfl⟩ := Int.eq_ofNat_of_zero_le h
  have hk : ((k : Int) + 1).toNat = k + 1 := by omega
  simp [upTo, hk, List.range_succ]

def readyOf (m : ActorMailbox π φ ρ) (caller : WorkerID) : List Int :=
  (m.ready.filter fun key => key.callerId = caller).map ActorCallKey.sequence

variable {key : ActorCallKey}

variable {m' : ActorMailbox π φ ρ}

theorem callState_of_set {record : CallRecord π φ ρ} (h : m'.records = m.records.set key record)
    (k : ActorCallKey) : m'.callState k = if key = k then some record.state else m.callState k := by
  simp only [callState, h, Dict.get?_set]
  split <;> rfl

theorem callState_queueCall (caller : WorkerID) (call : ActorCall π φ)
    (record : CallRecord π φ ρ) (key : ActorCallKey) :
    (m.queueCall caller call record).callState key =
      if call.key = key then some record.state else m.callState key :=
  callState_of_set rfl key

theorem expected_queueCall (call : ActorCall π φ) (record : CallRecord π φ ρ)
    (caller : WorkerID) : (m.queueCall call.callerId call record).expected caller =
      if call.callerId = caller then call.sequence + 1 else m.expected caller := by
  simp only [expected, queueCall, Dict.get?_set]
  split <;> rfl

theorem popWaiting_fields (m : ActorMailbox π φ ρ) (caller : WorkerID) (sequence : Int) :
    (m.popWaiting caller sequence).records = m.records ∧
      (m.popWaiting caller sequence).nextSequence = m.nextSequence ∧
      (m.popWaiting caller sequence).ready = m.ready ∧
      (m.popWaiting caller sequence).running = m.running ∧
      (m.popWaiting caller sequence).generation = m.generation ∧
      (m.popWaiting caller sequence).actorId = m.actorId := by
  unfold popWaiting
  split <;> exact ⟨rfl, rfl, rfl, rfl, rfl, rfl⟩

theorem waitingKey_popWaiting (caller c : WorkerID) (sequence q : Int) :
    (m.popWaiting caller sequence).waitingKey c q =
      if c = caller ∧ q = sequence then none else m.waitingKey c q := by
  cases hw : m.buffered.get? caller with
  | none =>
    by_cases hc : c = caller
    · subst hc
      simp [popWaiting, waitingKey, hw]
    · simp [popWaiting, hw, hc]
  | some waiting =>
    by_cases hc : c = caller
    · subst hc
      by_cases he : (waiting.erase sequence).items = []
      · have hnone : (waiting.erase sequence).get? q = none := Dict.items_eq_nil_iff.mp he q
        rw [Dict.get?_erase] at hnone
        by_cases hq : q = sequence
        · simp [popWaiting, waitingKey, hw, he, hq]
        · simp only [Ne.symm hq, ite_false] at hnone
          simp [popWaiting, waitingKey, hw, he, hq, hnone]
      · by_cases hq : q = sequence
        · simp [popWaiting, waitingKey, hw, he, hq]
        · simp [popWaiting, waitingKey, hw, he, hq, Dict.get?_erase_of_ne _ (Ne.symm hq)]
    · by_cases he : (waiting.erase sequence).items = []
      · simp [popWaiting, waitingKey, hw, he, hc, Dict.get?_erase_of_ne _ (Ne.symm hc)]
      · simp [popWaiting, waitingKey, hw, he, hc, Dict.get?_set_of_ne _ _ (Ne.symm hc)]

theorem waitingKey_bufferCall (call : ActorCall π φ) (c : WorkerID) (q : Int) :
    (m.bufferCall call).waitingKey c q =
      if call.key = ⟨c, q⟩ then some call.key else m.waitingKey c q := by
  by_cases hc : call.callerId = c
  · subst hc
    by_cases hq : call.sequence = q
    · simp [bufferCall, waitingKey, ActorCall.key, hq]
    · cases hw : m.buffered.get? call.callerId <;>
        simp [bufferCall, waitingKey, ActorCall.key, hq, hw, Dict.get?_set_of_ne _ _ hq]
  · simp [bufferCall, waitingKey, ActorCall.key, hc, Dict.get?_set_of_ne _ _ hc]

/-! ## The invariant -/

/-- The containers describe the same calls, but for `admitting`; `started` lists per caller. -/
structure Consistent (m : ActorMailbox π φ ρ) (admitting : Option ActorCallKey)
    (started : WorkerID → List Int) : Prop where
  own : ∀ key r, m.records.get? key = some r →
    r.call.key = key ∧ r.call.actorId = m.actorId ∧ r.call.generation = m.generation
  expected_nonneg : ∀ c, 0 ≤ m.expected c
  past : ∀ key, (∃ s, m.callState key = some s ∧ s ≠ .buffered) ↔
    0 ≤ key.sequence ∧ key.sequence < m.expected key.callerId
  ahead : ∀ key, m.callState key = some .buffered → m.expected key.callerId ≤ key.sequence
  waiting : ∀ c q key, m.waitingKey c q = some key ↔
    key = ⟨c, q⟩ ∧ admitting ≠ some key ∧ m.callState key = some .buffered
  queued : ∀ key, key ∈ m.ready ↔ m.callState key = some .queued
  running : ∀ key, m.running = some key ↔ m.callState key = some .running
  finished : ∀ key r, m.records.get? key = some r → (r.state = .completed ↔ r.result.isSome)
  nodup : m.ready.Nodup
  order : ∀ c, started c ++ m.readyOf c = upTo (m.expected c)

/-- Every buffered call waits behind a gap, the one being admitted apart. -/
structure Sound (m : ActorMailbox π φ ρ) (admitting : Option ActorCallKey)
    (started : WorkerID → List Int) : Prop extends Consistent m admitting started where
  gap : ∀ key, m.callState key = some .buffered → key.sequence = m.expected key.callerId →
    admitting = some key

theorem sound_initial (generation : ActorGeneration) :
    (initial generation : ActorMailbox π φ ρ).Sound none fun _ => [] := by
  refine ⟨⟨?_, ?_, ?_, ?_, ?_, ?_, ?_, ?_, ?_, ?_⟩, ?_⟩ <;>
    simp [initial, callState, expected, waitingKey, readyOf, upTo]

variable {started : WorkerID → List Int} {admitting : Option ActorCallKey}

/-! ## Admission -/

/-- The call is the next one of its caller, and is known at most as a buffered call. -/
structure Admits (m : ActorMailbox π φ ρ) (call : ActorCall π φ) : Prop where
  own : call.actorId = m.actorId ∧ call.generation = m.generation
  turn : call.sequence = m.expected call.callerId
  known : ∀ r, m.records.get? call.key = some r → r.state = .buffered ∧ r.call = call

def KeepsResults (m m' : ActorMailbox π φ ρ) : Prop :=
  ∀ key r, m.records.get? key = some r → r.state = .completed → m'.records.get? key = some r

variable {call : ActorCall π φ}

theorem Admits.state (h : m.Admits call) :
    m.callState call.key = none ∨ m.callState call.key = some .buffered := by
  cases hr : m.records.get? call.key with
  | none => exact .inl (by simp [callState, hr])
  | some r => exact .inr (by simp [callState, hr, (h.known r hr).1])

theorem queuedRecord_eq (hm : m.Consistent admitting started) (h : m.Admits call) :
    m.queuedRecord call = .ok ⟨call, .queued, none⟩ := by
  unfold queuedRecord
  cases hr : m.records.get? call.key with
  | none => rfl
  | some r =>
    have hknown := h.known r hr
    have hresult := hm.finished call.key r hr
    have hnone : r.result = none := by simpa [hknown.1] using hresult
    cases r
    simp_all [transitionCall, ActorCallState.transitions]

theorem readyOf_queueCall (call : ActorCall π φ) (record : CallRecord π φ ρ) (c : WorkerID) :
    (m.queueCall call.callerId call record).readyOf c =
      if call.callerId = c then m.readyOf c ++ [call.sequence] else m.readyOf c := by
  by_cases hc : call.callerId = c <;>
    simp [readyOf, queueCall, List.filter_append, ActorCall.key, hc]

theorem Consistent.queueCall (hm : m.Consistent (some call.key) started) (h : m.Admits call) :
    (m.queueCall call.callerId call ⟨call, .queued, none⟩).Consistent none started := by
  have hstate := h.state
  have hturn := h.turn
  have hnonneg := hm.expected_nonneg call.callerId
  have hother : ∀ key : ActorCallKey, call.key ≠ key → call.callerId = key.callerId →
      key.sequence ≠ call.sequence := by
    intro key hne hcaller hsequence
    exact hne (by cases key; simp_all [ActorCall.key])
  refine ⟨?_, ?_, ?_, ?_, ?_, ?_, ?_, ?_, ?_, ?_⟩
  · intro key r hr
    simp only [ActorMailbox.queueCall, Dict.get?_set] at hr
    by_cases hk : call.key = key
    · simp only [hk, ite_true, Option.some.injEq] at hr
      subst hr
      exact ⟨hk, h.own⟩
    · simp only [hk, ite_false] at hr
      exact hm.own key r hr
  · intro c
    rw [expected_queueCall]
    split
    · omega
    · exact hm.expected_nonneg c
  · intro key
    rw [callState_queueCall, expected_queueCall]
    by_cases hk : call.key = key
    · subst hk
      simp only [ite_true, ActorCall.key]
      constructor
      · intro _
        omega
      · intro _
        exact ⟨.queued, rfl, by rintro ⟨⟩⟩
    · simp only [hk, ite_false]
      rw [hm.past key]
      by_cases hc : call.callerId = key.callerId
      · have hne := hother key hk hc
        rw [if_pos hc, ← hc]
        omega
      · rw [if_neg hc]
  · intro key hb
    rw [callState_queueCall] at hb
    by_cases hk : call.key = key
    · simp [hk] at hb
    · rw [if_neg hk] at hb
      have hahead := hm.ahead key hb
      rw [expected_queueCall]
      by_cases hc : call.callerId = key.callerId
      · have hne := hother key hk hc
        rw [if_pos hc]
        rw [← hc] at hahead
        omega
      · rw [if_neg hc]
        exact hahead
  · intro c q key
    have hwaiting := hm.waiting c q key
    rw [callState_queueCall]
    by_cases hk : call.key = key
    · simpa [hk, ActorMailbox.queueCall, waitingKey] using hwaiting
    · simpa [hk, ActorMailbox.queueCall, waitingKey] using hwaiting
  · intro key
    have hqueued := hm.queued key
    rw [callState_queueCall]
    by_cases hk : call.key = key
    · simp [ActorMailbox.queueCall, hk]
    · simp [ActorMailbox.queueCall, hk, Ne.symm hk, hqueued]
  · intro key
    have hrunning := hm.running key
    rw [callState_queueCall]
    by_cases hk : call.key = key
    · subst hk
      rcases hstate with hs | hs <;> simp_all [ActorMailbox.queueCall]
    · simpa [ActorMailbox.queueCall, hk] using hrunning
  · intro key r hr
    simp only [ActorMailbox.queueCall, Dict.get?_set] at hr
    by_cases hk : call.key = key
    · simp only [hk, ite_true, Option.some.injEq] at hr
      simp [← hr]
    · simp only [hk, ite_false] at hr
      exact hm.finished key r hr
  · have hfresh : call.key ∉ m.ready := by
      rw [hm.queued]
      rcases hstate with hs | hs <;> simp [hs]
    simpa [ActorMailbox.queueCall] using hm.nodup.concat hfresh
  · intro c
    have horder := hm.order c
    rw [readyOf_queueCall, expected_queueCall]
    by_cases hc : call.callerId = c
    · subst hc
      rw [if_pos rfl, if_pos rfl, ← List.append_assoc, horder, hturn, upTo_succ hnonneg]
    · rw [if_neg hc, if_neg hc, horder]

theorem Consistent.popWaiting (hm : m.Consistent none started) (caller : WorkerID)
    (sequence : Int) : (m.popWaiting caller sequence).Consistent
      (m.waitingKey caller sequence) started := by
  obtain ⟨hrecords, hnext, hready, hrunning, hgeneration, hactor⟩ :=
    popWaiting_fields m caller sequence
  have hstate : ∀ key, (m.popWaiting caller sequence).callState key = m.callState key := by
    intro key
    rw [callState, callState, hrecords]
  have hexpected : ∀ c, (m.popWaiting caller sequence).expected c = m.expected c := by
    intro c
    rw [expected, expected, hnext]
  refine ⟨?_, ?_, ?_, ?_, ?_, ?_, ?_, ?_, ?_, ?_⟩
  · simpa only [hrecords, hgeneration, hactor] using hm.own
  · simpa only [hexpected] using hm.expected_nonneg
  · simpa only [hstate, hexpected] using hm.past
  · simpa only [hstate, hexpected] using hm.ahead
  · intro c q key
    have hhere := hm.waiting caller sequence key
    have hthere := hm.waiting c q key
    rw [waitingKey_popWaiting, hstate]
    by_cases hsame : c = caller ∧ q = sequence
    · obtain ⟨rfl, rfl⟩ := hsame
      rw [if_pos ⟨rfl, rfl⟩]
      simp_all
    · rw [if_neg hsame, hthere]
      constructor
      · rintro ⟨rfl, _, hb⟩
        refine ⟨rfl, ?_, hb⟩
        intro hkey
        have heq := (hhere.mp hkey).1
        rw [ActorCallKey.mk.injEq] at heq
        exact hsame heq
      · rintro ⟨rfl, _, hb⟩
        exact ⟨rfl, nofun, hb⟩
  · simpa only [hstate, hready] using hm.queued
  · simpa only [hstate, hrunning] using hm.running
  · simpa only [hrecords] using hm.finished
  · simpa only [hready] using hm.nodup
  · intro c
    rw [readyOf, hready, hexpected]
    exact hm.order c

theorem KeepsResults.trans {m₁ m₂ m₃ : ActorMailbox π φ ρ} (h : m₁.KeepsResults m₂)
    (h' : m₂.KeepsResults m₃) : m₁.KeepsResults m₃ :=
  fun key r hr hs => h' key r (h key r hr hs) hs

theorem keepsResults_queueCall (h : m.Admits call) (record : CallRecord π φ ρ) :
    m.KeepsResults (m.queueCall call.callerId call record) := by
  intro key r hr hs
  by_cases hk : call.key = key
  · subst hk
    simp [(h.known r hr).1] at hs
  · simpa [queueCall, Dict.get?_set_of_ne _ _ hk] using hr

theorem Sound.admitOne (hm : m.Sound (some call.key) started) (h : m.Admits call) :
    ((m.queueCall call.callerId call ⟨call, .queued, none⟩).popWaiting call.callerId
      (call.sequence + 1)).Sound ((m.queueCall call.callerId call
        ⟨call, .queued, none⟩).waitingKey call.callerId (call.sequence + 1)) started := by
  have hqueued := hm.toConsistent.queueCall h
  refine ⟨hqueued.popWaiting call.callerId (call.sequence + 1), ?_⟩
  intro key hb hsequence
  obtain ⟨hrecords, hnext, -⟩ := popWaiting_fields
    (m.queueCall call.callerId call ⟨call, .queued, none⟩) call.callerId (call.sequence + 1)
  rw [callState, hrecords, ← callState] at hb
  rw [expected, hnext, ← expected] at hsequence
  have hcases := hb
  rw [callState_queueCall] at hcases
  rw [expected_queueCall] at hsequence
  by_cases hk : call.key = key
  · simp [hk] at hcases
  · rw [if_neg hk] at hcases
    by_cases hc : call.callerId = key.callerId
    · rw [if_pos hc] at hsequence
      rw [hqueued.waiting]
      exact ⟨by cases key; simp_all, nofun, hb⟩
    · rw [if_neg hc] at hsequence
      have hgap := hm.gap key hcases hsequence
      exact absurd (Option.some.inj hgap) hk

/-- An operation left the mailbox sound in the same generation. -/
structure Leaves (m m' : ActorMailbox π φ ρ) (started' : WorkerID → List Int) : Prop where
  sound : m'.Sound none started'
  generation : m'.generation = m.generation
  actor : m'.actorId = m.actorId
  results : m.KeepsResults m'

/-- Admission of the next call of a caller succeeds, and ends at the next gap. -/
theorem admitContiguous_spec (hm : m.Sound (some call.key) started) (h : m.Admits call) :
    (∃ admitted, (m.admitContiguous call.callerId call).1 = .ok admitted) ∧
      m.Leaves (m.admitContiguous call.callerId call).2 started := by
  -- The loop ends because each turn takes one call out of the caller's buffer.
  induction hn : m.waitingCount call.callerId using Nat.strong_induction_on
    generalizing m call with
  | _ n ih =>
    subst hn
    have hone := hm.admitOne h
    have hqueued := hm.toConsistent.queueCall h
    have hexpected := expected_queueCall (m := m) call ⟨call, .queued, none⟩ call.callerId
    have hkept := keepsResults_queueCall h ⟨call, .queued, none⟩
    have hrecord := queuedRecord_eq hm.toConsistent h
    have hgeneration : (m.queueCall call.callerId call ⟨call, .queued, none⟩).generation =
      m.generation := rfl
    have hactor : (m.queueCall call.callerId call ⟨call, .queued, none⟩).actorId =
      m.actorId := rfl
    have hcount : (m.queueCall call.callerId call ⟨call, .queued, none⟩).waitingCount
      call.callerId = m.waitingCount call.callerId := rfl
    rw [admitContiguous, hrecord]
    simp only
    generalize m.queueCall call.callerId call ⟨call, .queued, none⟩ = queued at *
    obtain ⟨hrecords, hnext, -, -, hgeneration', hactor'⟩ :=
      popWaiting_fields queued call.callerId (call.sequence + 1)
    have hresults : m.KeepsResults (queued.popWaiting call.callerId (call.sequence + 1)) := by
      intro key r hr hs
      rw [hrecords]
      exact hkept key r hr hs
    split
    · next hnone =>
        rw [hnone] at hone
        exact ⟨⟨_, rfl⟩, hone, hgeneration'.trans hgeneration, hactor'.trans hactor, hresults⟩
    · next key hkey =>
        rw [hkey] at hone
        have hlt := waitingCount_popWaiting_lt hkey
        obtain ⟨hnamed, -, hb⟩ := (hqueued.waiting _ _ _).mp hkey
        generalize queued.popWaiting call.callerId (call.sequence + 1) = popped at *
        rw [callState, ← hrecords, Option.map_eq_some_iff] at hb
        obtain ⟨next, hget, hbuffered⟩ := hb
        obtain ⟨hown, hadmitted⟩ := hone.own key next hget
        have hkeys : next.call.key = key := hown
        rw [hnamed, ActorCall.key, ActorCallKey.mk.injEq] at hown
        have hturn : next.call.sequence = popped.expected next.call.callerId := by
          rw [hown.1, hown.2, expected, hnext, ← expected, hexpected, if_pos rfl]
        have hadmits : popped.Admits next.call := by
          refine ⟨hadmitted, hturn, ?_⟩
          intro r hr
          rw [hkeys, hget] at hr
          cases hr
          exact ⟨hbuffered, rfl⟩
        have hrest := ih (popped.waitingCount next.call.callerId) (by rw [hown.1]; omega)
          (hkeys.symm ▸ hone) hadmits rfl
        rw [hown.1] at hrest
        obtain ⟨⟨admitted, hok⟩, hleaves⟩ := hrest
        rw [hget]
        simp only
        refine ⟨⟨call :: admitted, by rw [hok]; rfl⟩, hleaves.sound,
          hleaves.generation.trans (hgeneration'.trans hgeneration),
          hleaves.actor.trans (hactor'.trans hactor), hresults.trans hleaves.results⟩

/-! ## Submission -/

theorem Leaves.refl (hm : m.Sound none started) : m.Leaves m started :=
  ⟨hm, rfl, rfl, fun _ _ hr _ => hr⟩

theorem bufferCall_leaves (hm : m.Sound none started)
    (hown : call.actorId = m.actorId ∧ call.generation = m.generation)
    (hnew : m.records.get? call.key = none) (hahead : m.expected call.callerId < call.sequence) :
    m.Leaves (m.bufferCall call) started := by
  have hstate : ∀ key, (m.bufferCall call).callState key =
      if call.key = key then some .buffered else m.callState key := by
    intro key
    have hrecords : (m.bufferCall call).records =
        m.records.set call.key ⟨call, .buffered, none⟩ := rfl
    exact callState_of_set hrecords key
  have hnone : m.callState call.key = none := by simp [callState, hnew]
  have hexpected : ∀ c, (m.bufferCall call).expected c = m.expected c := fun _ => rfl
  refine ⟨⟨⟨?_, hm.expected_nonneg, ?_, ?_, ?_, ?_, ?_, ?_, hm.nodup, hm.order⟩, ?_⟩, rfl, rfl, ?_⟩
  · intro key r hr
    simp only [bufferCall, Dict.get?_set] at hr
    by_cases hk : call.key = key
    · simp only [hk, ite_true, Option.some.injEq] at hr
      subst hr
      exact ⟨hk, hown⟩
    · simp only [hk, ite_false] at hr
      exact hm.own key r hr
  · intro key
    rw [hstate, hexpected, ← hm.past key]
    by_cases hk : call.key = key
    · subst hk
      simp [hnone]
    · simp [hk]
  · intro key hb
    rw [hstate] at hb
    by_cases hk : call.key = key
    · subst hk
      exact hahead.le
    · rw [if_neg hk] at hb
      exact hm.ahead key hb
  · intro c q key
    have hwaiting := hm.waiting c q key
    rw [waitingKey_bufferCall, hstate]
    by_cases hk : call.key = key
    · subst hk
      by_cases hq : call.key = ⟨c, q⟩
      · simp [hq]
      · simp_all
    · by_cases hq : call.key = ⟨c, q⟩
      · have hne : key ≠ ⟨c, q⟩ := fun h => hk (hq.trans h.symm)
        simp [hq, hne, Ne.symm hne]
      · simpa [hk, hq] using hwaiting
  · intro key
    rw [hstate]
    by_cases hk : call.key = key
    · subst hk
      simp [bufferCall, hm.queued, hnone]
    · simpa [bufferCall, hk] using hm.queued key
  · intro key
    rw [hstate]
    by_cases hk : call.key = key
    · subst hk
      simp [bufferCall, hm.running, hnone]
    · simpa [bufferCall, hk] using hm.running key
  · intro key r hr
    simp only [bufferCall, Dict.get?_set] at hr
    by_cases hk : call.key = key
    · simp only [hk, ite_true, Option.some.injEq] at hr
      simp [← hr]
    · simp only [hk, ite_false] at hr
      exact hm.finished key r hr
  · intro key hb hsequence
    rw [hstate] at hb
    rw [hexpected] at hsequence
    by_cases hk : call.key = key
    · subst hk
      exact absurd hsequence hahead.ne'
    · rw [if_neg hk] at hb
      exact hm.gap key hb hsequence
  · intro key r hr _
    have hk : call.key ≠ key := by
      intro hk
      simp [← hk, hnew] at hr
    simpa [bufferCall, Dict.get?_set_of_ne _ _ hk] using hr

theorem Sound.admits (hm : m.Sound none started)
    (hown : call.actorId = m.actorId ∧ call.generation = m.generation)
    (hnew : m.records.get? call.key = none) (hturn : call.sequence = m.expected call.callerId) :
    m.Sound (some call.key) started ∧ m.Admits call := by
  have hnone : m.callState call.key = none := by simp [callState, hnew]
  refine ⟨⟨⟨hm.own, hm.expected_nonneg, hm.past, hm.ahead, ?_, hm.queued, hm.running, hm.finished,
    hm.nodup, hm.order⟩, ?_⟩, hown, hturn, by simp [hnew]⟩
  · intro c q key
    rw [hm.waiting]
    constructor
    · rintro ⟨hkey, -, hb⟩
      refine ⟨hkey, ?_, hb⟩
      intro h
      simp [← Option.some.inj h, hnone] at hb
    · rintro ⟨hkey, -, hb⟩
      exact ⟨hkey, nofun, hb⟩
  · intro key hb hsequence
    exact absurd (hm.gap key hb hsequence) nofun

/-- Submission keeps the mailbox sound, whatever becomes of the call. -/
theorem submitCall_leaves [Payload π] [BEq φ] (call : ActorCall π φ)
    (hm : m.Sound none started) : m.Leaves (m.submitCall call).2 started := by
  unfold submitCall
  split
  · exact .refl hm
  · next hown =>
      push Not at hown
      split
      · exact .refl hm
      · split
        · split <;> exact .refl hm
        · next hnew =>
            split
            · exact .refl hm
            · split
              · next hahead => exact bufferCall_leaves hm hown hnew hahead
              · have hturn : call.sequence = m.expected call.callerId := by omega
                obtain ⟨hsound, hadmits⟩ := hm.admits hown hnew hturn
                exact (admitContiguous_spec hsound hadmits).2

variable {r : CallRecord π φ ρ}

/-- A known call adds no work: it is answered from its record, or refused. -/
theorem submitCall_known [Payload π] [BEq φ] (hm : m.Sound none started)
    (hown : call.actorId = m.actorId ∧ call.generation = m.generation)
    (hr : m.records.get? call.key = some r) :
    m.submitCall call = (match sameLogicalCall r.call call with
      | .error raised => .error raised
      | .ok false => .error ⟨.actorCallConflict,
          "caller sequence was reused with a different call payload"⟩
      | .ok true => .ok ⟨.duplicate, [], r.result⟩, m) := by
  have hnonneg : ¬ call.sequence < 0 := by
    have hb := hm.expected_nonneg call.callerId
    have hs : m.callState call.key = some r.state := by simp [callState, hr]
    by_cases hbuffered : r.state = .buffered
    · have hahead := hm.ahead call.key (hs.trans (congrArg some hbuffered))
      simp only [ActorCall.key] at hahead
      omega
    · have hpast := (hm.past call.key).mp ⟨r.state, hs, hbuffered⟩
      simp only [ActorCall.key] at hpast
      omega
  rw [submitCall, if_neg (by simp [hown]), if_neg hnonneg, hr]
  cases hsame : sameLogicalCall r.call call with
  | error raised => simp only [hsame]
  | ok same => cases same <;> simp only [hsame]

/-! ## Execution -/

theorem length_upTo {xs ys : List Int} {n : Int} (h : xs ++ ys = upTo n) :
    xs = upTo xs.length := by
  have hxs : xs = (upTo n).take xs.length := by rw [← h, List.take_left]
  have hlength : xs.length ≤ n.toNat := by
    have hl := congrArg List.length h
    simp [upTo] at hl
    omega
  rw [hxs]
  simp [upTo, ← List.map_take, List.take_range, hlength]

/-- `key` moves on in `m'`: its record is replaced, and the line changes as told. -/
structure MovesOn (m m' : ActorMailbox π φ ρ) (key : ActorCallKey) (r r' : CallRecord π φ ρ) :
    Prop where
  old : m.records.get? key = some r
  records : m'.records = m.records.set key r'
  nextSequence : m'.nextSequence = m.nextSequence
  buffered : m'.buffered = m.buffered
  generation : m'.generation = m.generation
  actor : m'.actorId = m.actorId
  call : r'.call = r.call
  state : r.state ≠ .buffered ∧ r.state ≠ .completed ∧ r'.state ≠ .buffered
  finished : r'.state = .completed ↔ r'.result.isSome

theorem MovesOn.leaves {r' : CallRecord π φ ρ} {started' : WorkerID → List Int}
    (h : m.MovesOn m' key r r') (hm : m.Sound none started)
    (hqueued : ∀ k, k ∈ m'.ready ↔ m'.callState k = some .queued)
    (hrunning : ∀ k, m'.running = some k ↔ m'.callState k = some .running) (hnodup : m'.ready.Nodup)
    (horder : ∀ c, started' c ++ m'.readyOf c = started c ++ m.readyOf c) :
    m.Leaves m' started' := by
  have hset := callState_of_set h.records
  have hbefore : m.callState key = some r.state := by simp [callState, h.old]
  have hown := hm.own key r h.old
  have hexpected : ∀ c, m'.expected c = m.expected c := by
    intro c
    rw [expected, h.nextSequence, expected]
  have hbuffered : ∀ k, m'.callState k = some .buffered ↔ m.callState k = some .buffered := by
    intro k
    rw [hset]
    by_cases hk : key = k
    · subst hk
      simp [hbefore, h.state]
    · simp [hk]
  have hget : ∀ k x, m'.records.get? k = some x → key = k ∧ x = r' ∨
      m.records.get? k = some x := by
    intro k x hx
    rw [h.records] at hx
    rcases Dict.of_get?_set hx with ⟨hk, hx⟩ | hx
    · exact .inl ⟨hk, hx.symm⟩
    · exact .inr hx
  refine ⟨⟨⟨?_, ?_, ?_, ?_, ?_, hqueued, hrunning, ?_, hnodup, ?_⟩, ?_⟩, h.generation, h.actor, ?_⟩
  · intro k x hx
    rw [h.actor, h.generation]
    rcases hget k x hx with ⟨rfl, rfl⟩ | hx
    · rw [h.call]
      exact hown
    · exact hm.own k x hx
  · intro c
    rw [hexpected]
    exact hm.expected_nonneg c
  · intro k
    rw [hset, hexpected, ← hm.past k]
    by_cases hk : key = k
    · subst hk
      simp [hbefore, h.state]
    · simp [hk]
  · intro k hb
    rw [hexpected]
    exact hm.ahead k ((hbuffered k).mp hb)
  · intro c q k
    rw [waitingKey, h.buffered, hbuffered]
    exact hm.waiting c q k
  · intro k x hx
    rcases hget k x hx with ⟨rfl, rfl⟩ | hx
    · exact h.finished
    · exact hm.finished k x hx
  · intro c
    rw [horder, hexpected]
    exact hm.order c
  · intro k hb hsequence
    rw [hexpected] at hsequence
    exact hm.gap k ((hbuffered k).mp hb) hsequence
  · intro k x hx hcompleted
    have hk : key ≠ k := by
      intro hk
      rw [← hk, h.old] at hx
      cases hx
      exact h.state.2.1 hcompleted
    rw [h.records, Dict.get?_set_of_ne _ _ hk]
    exact hx

theorem startCall_leaves {rest : List ActorCallKey} (hm : m.Sound none started)
    (hidle : m.running = none) (hready : m.ready = key :: rest) (hr : m.records.get? key = some r)
    (hstate : r.state = .queued) :
    m.Leaves (({ m with ready := rest } : ActorMailbox π φ ρ).startCall key
      { r with state := .running }) fun c =>
        started c ++ if key.callerId = c then [key.sequence] else [] := by
  generalize hm' : ({ m with ready := rest } : ActorMailbox π φ ρ).startCall key
    { r with state := .running } = m'
  have hmoves : m.MovesOn m' key r { r with state := .running } := by
    subst hm'
    have hfinished := hm.finished key r hr
    exact ⟨hr, rfl, rfl, rfl, rfl, rfl, rfl, by simp [hstate], by simpa [hstate] using hfinished⟩
  have hset := callState_of_set hmoves.records
  have hready' : m'.ready = rest := by rw [← hm']; rfl
  have hrunning' : m'.running = some key := by rw [← hm']; rfl
  have hnodup := hm.nodup
  rw [hready, List.nodup_cons] at hnodup
  refine hmoves.leaves hm ?_ ?_ (by rw [hready']; exact hnodup.2) ?_
  · intro k
    have hline := hm.queued k
    rw [hready, List.mem_cons] at hline
    rw [hset, hready']
    by_cases hk : key = k
    · subst hk
      simpa using hnodup.1
    · simpa [hk, Ne.symm hk] using hline
  · intro k
    have hrunning := hm.running k
    rw [hset, hrunning']
    by_cases hk : key = k
    · simp [hk]
    · rw [hidle] at hrunning
      simpa [hk] using hrunning
  · intro c
    by_cases hc : key.callerId = c <;> simp [readyOf, hready, hready', hc]

theorem takeNext_spec (hm : m.Sound none started) :
    m.takeNext = (.ok none, m) ∨ ∃ call, m.takeNext.1 = .ok (some call) ∧
      call.generation = m.generation ∧ m.Leaves m.takeNext.2 fun c =>
        started c ++ if call.callerId = c then [call.sequence] else [] := by
  cases hrunning : m.running with
  | some key => exact .inl (by simp [takeNext, hrunning])
  | none =>
    cases hready : m.ready with
    | nil => exact .inl (by simp [takeNext, hrunning, hready])
    | cons key rest =>
      have hqueued := (hm.queued key).mp (by simp [hready])
      rw [callState, Option.map_eq_some_iff] at hqueued
      obtain ⟨r, hr, hstate⟩ := hqueued
      obtain ⟨hkey, hactor, hgeneration⟩ := hm.own key r hr
      have hstart : transitionCall r .running = .ok { r with state := .running } := by
        simp [transitionCall, hstate, ActorCallState.transitions]
      have htake : m.takeNext = (.ok (some r.call), ({ m with ready := rest } :
          ActorMailbox π φ ρ).startCall key { r with state := .running }) := by
        simp [takeNext, hrunning, hready, hr, hstart]
      have hleaves := startCall_leaves hm hrunning hready hr hstate
      rw [← hkey] at hleaves
      rw [htake, ← hkey]
      exact .inr ⟨r.call, rfl, hgeneration, hleaves⟩

theorem finishCall_leaves (hm : m.Sound none started) (hr : m.records.get? key = some r)
    (hstate : r.state = .running) (result : ρ) :
    m.Leaves (m.finishCall key { r with state := .completed, result := some result })
      started := by
  generalize hm' : m.finishCall key { r with state := .completed, result := some result } = m'
  have hmoves : m.MovesOn m' key r { r with state := .completed, result := some result } := by
    subst hm'
    exact ⟨hr, rfl, rfl, rfl, rfl, rfl, rfl, by simp [hstate], by simp⟩
  have hset := callState_of_set hmoves.records
  have hbefore : m.callState key = some .running := by simp [callState, hr, hstate]
  have hready' : m'.ready = m.ready := by rw [← hm']; rfl
  have hrunning' : m'.running = none := by rw [← hm']; rfl
  refine hmoves.leaves hm ?_ ?_ (by rw [hready']; exact hm.nodup) ?_
  · intro k
    have hqueued := hm.queued k
    rw [hset, hready']
    by_cases hk : key = k
    · subst hk
      simpa [hbefore] using hqueued
    · simpa [hk] using hqueued
  · intro k
    have hcurrent := (hm.running key).mpr hbefore
    have hother := hm.running k
    rw [hset, hrunning']
    by_cases hk : key = k
    · simp [hk]
    · rw [hcurrent] at hother
      simpa [hk] using hother
  · intro c
    rw [readyOf, hready', readyOf]

theorem completeCurrent_spec (hm : m.Sound none started) (result : ρ) :
    (m.completeCurrent result =
      (.error ⟨.actorMailboxState, "there is no running actor call"⟩, m)) ∨
      ∃ call r, (m.completeCurrent result).1 = .ok call ∧ call.generation = m.generation ∧
        m.Leaves (m.completeCurrent result).2 started ∧
        (m.completeCurrent result).2.records.get? call.key = some r ∧
        r.state = .completed ∧ r.result = some result := by
  cases hrunning : m.running with
  | none => exact .inl (by simp [completeCurrent, hrunning])
  | some key =>
    have hstate := (hm.running key).mp hrunning
    rw [callState, Option.map_eq_some_iff] at hstate
    obtain ⟨r, hr, hstate⟩ := hstate
    obtain ⟨hkey, hactor, hgeneration⟩ := hm.own key r hr
    have hdone : transitionCall r .completed = .ok { r with state := .completed } := by
      simp [transitionCall, hstate, ActorCallState.transitions]
    have hcomplete : m.completeCurrent result = (.ok r.call, m.finishCall key
        { r with state := .completed, result := some result }) := by
      simp [completeCurrent, hrunning, hr, hstate, hdone]
    rw [hcomplete]
    refine .inr ⟨r.call, { r with state := .completed, result := some result }, rfl, hgeneration,
      finishCall_leaves hm hr hstate result, ?_, rfl, rfl⟩
    simp [finishCall, hkey]

theorem completeCurrent_frame (hm : m.Sound none started) (result : ρ) :
    (m.completeCurrent result).2.Sound none started ∧ (m.completeCurrent result).2.running = none ∧
      (m.completeCurrent result).2.ready = m.ready ∧
      (m.completeCurrent result).2.nextSequence = m.nextSequence := by
  cases hrunning : m.running with
  | none => simp [completeCurrent, hrunning, hm]
  | some key =>
    have hstate := (hm.running key).mp hrunning
    rw [callState, Option.map_eq_some_iff] at hstate
    obtain ⟨r, hr, hstate⟩ := hstate
    have hdone : transitionCall r .completed = .ok { r with state := .completed } := by
      simp [transitionCall, hstate, ActorCallState.transitions]
    simp only [completeCurrent, hrunning, hr, hstate, hdone, ne_eq, not_true_eq_false, if_false]
    exact ⟨(finishCall_leaves hm hr hstate result).sound, rfl, rfl, rfl⟩

theorem takeNext_frame (hm : m.Sound none started) (hidle : m.running = none) :
    (∃ started', m.takeNext.2.Sound none started') ∧ m.takeNext.2.ready = m.ready.tail ∧
      m.takeNext.2.nextSequence = m.nextSequence := by
  refine ⟨?_, ?_⟩
  · rcases takeNext_spec hm with hsame | ⟨call, _, _, hleaves⟩
    · exact ⟨started, by rwa [hsame]⟩
    · exact ⟨_, hleaves.sound⟩
  · cases hready : m.ready with
    | nil => simp [takeNext, hidle, hready]
    | cons key rest =>
      simp only [takeNext, hidle, hready]
      split
      · exact ⟨rfl, rfl⟩
      · split <;> exact ⟨rfl, rfl⟩

end MiniRay.ActorMailbox
