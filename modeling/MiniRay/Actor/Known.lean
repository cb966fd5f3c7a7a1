import MiniRay.Actor.Order

/-! # The calls a mailbox knows -/

namespace MiniRay.ActorMailbox

variable {π φ ρ : Type} {m : ActorMailbox π φ ρ} {started : WorkerID → List Int}

def Known (m : ActorMailbox π φ ρ) (key : ActorCallKey) : Prop := m.callState key ≠ none

variable {key : ActorCallKey}

theorem known_iff : m.Known key ↔ ∃ r, m.records.get? key = some r := by
  unfold Known callState
  rw [ne_eq, Option.map_eq_none_iff, ← ne_eq, Option.ne_none_iff_exists']

/-- Records are kept under the key of their call. -/
def Keyed (m : ActorMailbox π φ ρ) : Prop :=
  ∀ key r, m.records.get? key = some r → r.call.key = key

variable {r : CallRecord π φ ρ}

theorem known_of_set (m' : ActorMailbox π φ ρ) (hrecords : m'.records = m.records.set key r)
    (x : ActorCallKey) : m'.Known x ↔ m.Known x ∨ x = key := by
  rw [known_iff, known_iff, hrecords, Dict.get?_set]
  by_cases hx : key = x
  · simp [hx]
  · simp [hx, Ne.symm hx]

theorem Keyed.of_set {m' : ActorMailbox π φ ρ} (h : m.Keyed)
    (hrecords : m'.records = m.records.set key r) (hr : r.call.key = key) : m'.Keyed := by
  intro x r' hr'
  rw [hrecords] at hr'
  rcases Dict.of_get?_set hr' with ⟨hx, rfl⟩ | hr'
  · exact hr.trans hx
  · exact h x r' hr'

theorem queuedRecord_call (h : m.Keyed) {call : ActorCall π φ} {record : CallRecord π φ ρ}
    (hrecord : m.queuedRecord call = .ok record) : record.call.key = call.key := by
  unfold queuedRecord at hrecord
  split at hrecord
  · cases hrecord
    rfl
  · rename_i old hold
    unfold transitionCall at hrecord
    split at hrecord
    · cases hrecord
      have hkey : old.call.key = call.key := h _ _ hold
      exact hkey
    · cases hrecord

theorem admitContiguous_known (h : m.Keyed) (caller : WorkerID) (call : ActorCall π φ)
    (x : ActorCallKey) :
    (m.admitContiguous caller call).2.Known x ↔ m.Known x ∨ x = call.key := by
  fun_induction admitContiguous m caller call with
  | case1 m call raised hraised =>
    have hold : ∃ r, m.records.get? call.key = some r := by
      unfold queuedRecord at hraised
      split at hraised
      · cases hraised
      · rename_i old hold
        exact ⟨old, hold⟩
    constructor
    · exact .inl
    · intro hx
      rcases hx with hx | rfl
      · exact hx
      · exact known_iff.mpr hold
  | case2 m call record hrecord queued popped hnone =>
    have hpopped : popped.records = m.records.set call.key record :=
      (popWaiting_fields queued caller (call.sequence + 1)).1
    exact known_of_set popped hpopped x
  | case3 m call record hrecord queued popped key hkey hmissing =>
    have hpopped : popped.records = m.records.set call.key record :=
      (popWaiting_fields queued caller (call.sequence + 1)).1
    exact known_of_set popped hpopped x
  | case4 m call record hrecord queued popped key hkey next hnext rest ih =>
    have hpopped : popped.records = m.records.set call.key record :=
      (popWaiting_fields queued caller (call.sequence + 1)).1
    have hkeyed : popped.Keyed := h.of_set hpopped (queuedRecord_call h hrecord)
    have hcall : next.call.key = key := hkeyed key next hnext
    have hknown := known_of_set popped hpopped
    have hkey' : popped.Known key := known_iff.mpr ⟨next, hnext⟩
    have hrest := ih hkeyed
    rw [hcall] at hrest
    constructor
    · intro hx
      rcases hrest.mp hx with hx | rfl
      · exact (hknown x).mp hx
      · exact (hknown _).mp hkey'
    · intro hx
      exact hrest.mpr (.inl ((hknown x).mpr hx))

theorem Sound.keyed {admitting : Option ActorCallKey} (hm : m.Sound admitting started) :
    m.Keyed := fun key r hr => (hm.own key r hr).1

variable [Payload π] [BEq φ]

theorem submitCall_known_of (hm : m.Sound none started) (call : ActorCall π φ) {x : ActorCallKey}
    (hx : (m.submitCall call).2.Known x) : m.Known x ∨ x = call.key := by
  unfold submitCall at hx
  split at hx
  · exact .inl hx
  · split at hx
    · exact .inl hx
    · split at hx
      · split at hx <;> exact .inl hx
      · split at hx
        · exact .inl hx
        · split at hx
          · exact (known_of_set (m := m) (m.bufferCall call) rfl x).mp hx
          · exact (admitContiguous_known hm.keyed call.callerId call x).mp hx

theorem known_submitCall (hm : m.Sound none started) (call : ActorCall π φ) {x : ActorCallKey}
    (hx : m.Known x) : (m.submitCall call).2.Known x := by
  unfold submitCall
  split
  · exact hx
  · split
    · exact hx
    · split
      · split <;> exact hx
      · split
        · exact hx
        · split
          · exact (known_of_set (m := m) (m.bufferCall call) rfl x).mpr (.inl hx)
          · exact (admitContiguous_known hm.keyed call.callerId call x).mpr (.inl hx)

omit [Payload π] [BEq φ] in
theorem takeNext_known (x : ActorCallKey) :
    m.takeNext.2.Known x ↔ m.Known x := by
  unfold takeNext
  split
  · rename_i key rest hrunning hready
    dsimp only
    split
    · exact Iff.rfl
    · rename_i record hrecord
      split
      · exact Iff.rfl
      · rename_i started hstarted
        have hset := known_of_set (m := m)
          (({ m with ready := rest } : ActorMailbox π φ ρ).startCall key started) rfl x
        refine hset.trans ⟨fun hx => ?_, .inl⟩
        rcases hx with hx | rfl
        · exact hx
        · exact known_iff.mpr ⟨record, hrecord⟩
  · exact Iff.rfl

omit [Payload π] [BEq φ] in
theorem completeCurrent_known (result : ρ) (x : ActorCallKey) :
    (m.completeCurrent result).2.Known x ↔ m.Known x := by
  unfold completeCurrent
  split
  · exact Iff.rfl
  · rename_i key hrunning
    split
    · exact Iff.rfl
    · rename_i record hrecord
      split
      · exact Iff.rfl
      · split
        · exact Iff.rfl
        · rename_i completed hcompleted
          have hset := known_of_set (m := m)
            (m.finishCall key { completed with result := some result }) rfl x
          refine hset.trans ⟨fun hx => ?_, .inl⟩
          rcases hx with hx | rfl
          · exact hx
          · exact known_iff.mpr ⟨record, hrecord⟩

omit [Payload π] [BEq φ] in
theorem unknown_of_buffered (hm : m.Sound none started) {caller : WorkerID} {q : Int}
    (h : m.callState ⟨caller, q⟩ = some .buffered) : 0 ≤ m.expected caller ∧
      m.expected caller < q ∧ ¬ m.Known ⟨caller, m.expected caller⟩ := by
  have hahead := hm.ahead ⟨caller, q⟩ h
  have hgap := hm.gap ⟨caller, q⟩ h
  simp only [reduceCtorEq, imp_false] at hahead hgap
  refine ⟨hm.expected_nonneg caller, by omega, fun hknown => ?_⟩
  unfold Known at hknown
  obtain ⟨state, hstate⟩ := Option.ne_none_iff_exists'.mp hknown
  by_cases hbuffered : state = .buffered
  · rw [hbuffered] at hstate
    have hadmitting := hm.gap _ hstate rfl
    cases hadmitting
  · have hpast := (hm.past _).mp ⟨state, hstate, hbuffered⟩
    exact absurd hpast.2 (lt_irrefl _)

end MiniRay.ActorMailbox
