import Mathlib.Data.Set.Lattice
import Mathlib.Order.Interval.Set.Basic
import Mathlib.Data.List.Basic

/-! Buffers written in pieces: what an overwritten buffer holds at every position, and the
history of writes that explains it. -/

namespace Buffer

variable {α : Type*}

/-- Overwrite the positions from `offset` on. -/
def splice (buf : List α) (offset : Nat) (data : List α) : List α :=
  buf.take offset ++ data ++ buf.drop (offset + data.length)

section Splice

variable {buf data : List α} {offset : Nat}

theorem length_splice (h : offset + data.length ≤ buf.length) :
    (splice buf offset data).length = buf.length := by
  simp only [splice, List.length_append, List.length_take, List.length_drop]
  omega

theorem getElem?_splice (h : offset + data.length ≤ buf.length) (pos : Nat) :
    (splice buf offset data)[pos]? =
      if offset ≤ pos ∧ pos < offset + data.length then data[pos - offset]? else buf[pos]? := by
  have htake : (buf.take offset).length = offset := by
    rw [List.length_take]
    omega
  unfold splice
  rw [List.append_assoc]
  by_cases hbefore : pos < offset
  · rw [if_neg (by omega), List.getElem?_append_left (by omega), List.getElem?_take_of_lt hbefore]
  · rw [List.getElem?_append_right (by omega), htake]
    by_cases hin : pos < offset + data.length
    · rw [if_pos ⟨by omega, hin⟩, List.getElem?_append_left (by omega)]
    · rw [if_neg (by omega), List.getElem?_append_right (by omega), List.getElem?_drop]
      congr 1
      omega

end Splice

/-! ## Histories -/

structure Write (α : Type*) where
  offset : Nat
  data : List α

namespace Write

def interval (w : Write α) : Set Nat := Set.Ico w.offset (w.offset + w.data.length)

def at? (w : Write α) (pos : Nat) : Option α :=
  if w.offset ≤ pos then w.data[pos - w.offset]? else none

variable {w : Write α} {pos : Nat}

theorem mem_interval : pos ∈ w.interval ↔ w.offset ≤ pos ∧ pos < w.offset + w.data.length := Iff.rfl

theorem at?_of_mem (h : pos ∈ w.interval) : w.at? pos = w.data[pos - w.offset]? := if_pos h.1

theorem at?_ne_none_iff : w.at? pos ≠ none ↔ pos ∈ w.interval := by
  rw [mem_interval, at?]
  by_cases hle : w.offset ≤ pos
  · rw [if_pos hle, ne_eq, List.getElem?_eq_none_iff]
    omega
  · rw [if_neg hle]
    exact iff_of_false (by simp) (by omega)

end Write

def written (ws : List (Write α)) : Set Nat := ⋃ w ∈ ws, w.interval

variable {ws : List (Write α)} {pos : Nat}

theorem mem_written : pos ∈ written ws ↔ ∃ w ∈ ws, pos ∈ w.interval := by
  simp [written]

@[simp] theorem written_nil : written ([] : List (Write α)) = ∅ := by
  ext pos
  simp [mem_written]

theorem written_concat (ws : List (Write α)) (w : Write α) :
    written (ws ++ [w]) = written ws ∪ w.interval := by
  ext pos
  simp only [mem_written, Set.mem_union, List.mem_append, List.mem_singleton]
  constructor
  · rintro ⟨w', hw | rfl, hpos⟩
    · exact .inl ⟨w', hw, hpos⟩
    · exact .inr hpos
  · rintro (⟨w', hw, hpos⟩ | hpos)
    · exact ⟨w', .inl hw, hpos⟩
    · exact ⟨w, .inr rfl, hpos⟩

/-- What the last write that covers a position put there; the newest write stands last. -/
def lastWritten (ws : List (Write α)) (pos : Nat) : Option α :=
  ws.reverse.findSome? fun w => w.at? pos

theorem lastWritten_concat (ws : List (Write α)) (w : Write α) (pos : Nat) :
    lastWritten (ws ++ [w]) pos = (w.at? pos).or (lastWritten ws pos) := by
  simp only [lastWritten, List.reverse_append, List.reverse_cons, List.reverse_nil, List.nil_append,
    List.singleton_append, List.findSome?_cons]
  cases w.at? pos <;> rfl

theorem lastWritten_ne_none_iff : lastWritten ws pos ≠ none ↔ pos ∈ written ws := by
  rw [mem_written, ne_eq, lastWritten, List.findSome?_eq_none_iff]
  simp only [List.mem_reverse, not_forall]
  constructor
  · rintro ⟨w, hw, hat⟩
    exact ⟨w, hw, Write.at?_ne_none_iff.mp hat⟩
  · rintro ⟨w, hw, hpos⟩
    exact ⟨w, hw, Write.at?_ne_none_iff.mpr hpos⟩

/-! ## A buffer and its history -/

/-- Every write stayed in the buffer, which shows at each position the last of them. -/
structure Holds (ws : List (Write α)) (buf : List α) : Prop where
  bounded : ∀ w ∈ ws, w.offset + w.data.length ≤ buf.length
  shows : ∀ pos ∈ written ws, buf[pos]? = lastWritten ws pos

theorem holds_nil (buf : List α) : Holds [] buf := ⟨by simp, by simp⟩

variable {w : Write α}

theorem Holds.splice {buf : List α} (h : Holds ws buf) (hw :
    w.offset + w.data.length ≤ buf.length) :
    Holds (ws ++ [w]) (splice buf w.offset w.data) := by
  refine ⟨?_, ?_⟩
  · intro w' hw'
    rw [length_splice hw]
    rcases List.mem_append.mp hw' with hw' | hw'
    · exact h.bounded w' hw'
    · rw [List.mem_singleton.mp hw']
      exact hw
  · intro pos hpos
    rw [getElem?_splice hw, lastWritten_concat]
    by_cases hin : pos ∈ w.interval
    · have hat := Write.at?_ne_none_iff.mpr hin
      rw [if_pos (Write.mem_interval.mp hin), ← Write.at?_of_mem hin]
      cases hb : w.at? pos with
      | none => exact absurd hb hat
      | some b => rfl
    · have hat : w.at? pos = none := by
        by_contra hne
        exact hin (Write.at?_ne_none_iff.mp hne)
      rw [written_concat] at hpos
      rw [if_neg (mt Write.mem_interval.mpr hin), hat, Option.none_or]
      exact h.shows pos (hpos.resolve_right hin)

theorem Holds.written_subset {buf : List α} (h : Holds ws buf) :
    written ws ⊆ Set.Ico 0 buf.length := by
  intro pos hpos
  obtain ⟨w, hw, _, hlt⟩ := mem_written.mp hpos
  exact ⟨Nat.zero_le pos, hlt.trans_le (h.bounded w hw)⟩

/-- Two writes that cover a position put the same there. -/
def Agree (ws : List (Write α)) : Prop :=
  ∀ w ∈ ws, ∀ w' ∈ ws, ∀ pos ∈ w.interval, pos ∈ w'.interval → w.at? pos = w'.at? pos

theorem agree_nil : Agree ([] : List (Write α)) := by simp [Agree]

theorem Agree.lastWritten (h : Agree ws) (hw : w ∈ ws) (hpos : pos ∈ w.interval) :
    lastWritten ws pos = w.at? pos := by
  cases hlast : Buffer.lastWritten ws pos with
  | none => exact absurd (mem_written.mpr ⟨w, hw, hpos⟩) (by
      rw [← lastWritten_ne_none_iff, hlast]
      simp)
  | some b =>
    rw [Buffer.lastWritten, List.findSome?_eq_some_iff] at hlast
    obtain ⟨before, w', after, hsplit, hb, _⟩ := hlast
    have hw' : w' ∈ ws := List.mem_reverse.mp (hsplit ▸ by simp)
    have hpos' : pos ∈ w'.interval := Write.at?_ne_none_iff.mp (by simp [hb])
    rw [← hb, h w' hw' w hw pos hpos' hpos]

/-- A further write agrees with all when it repeats what the last ones put. -/
theorem Agree.concat (h : Agree ws)
    (hw : ∀ pos ∈ w.interval, pos ∈ written ws → Buffer.lastWritten ws pos = w.at? pos) :
    Agree (ws ++ [w]) := by
  have hnew : ∀ w' ∈ ws, ∀ pos ∈ w'.interval, pos ∈ w.interval → w'.at? pos = w.at? pos := by
    intro w' hw' pos hpos' hpos
    rw [← hw pos hpos (mem_written.mpr ⟨w', hw', hpos'⟩), h.lastWritten hw' hpos']
  intro w₁ h₁ w₂ h₂ pos hpos₁ hpos₂
  simp only [List.mem_append, List.mem_singleton] at h₁ h₂
  rcases h₁ with h₁ | rfl
  · rcases h₂ with h₂ | rfl
    · exact h w₁ h₁ w₂ h₂ pos hpos₁ hpos₂
    · exact hnew w₁ h₁ pos hpos₁ hpos₂
  · rcases h₂ with h₂ | rfl
    · exact (hnew w₂ h₂ pos hpos₂ hpos₁).symm
    · rfl

end Buffer
