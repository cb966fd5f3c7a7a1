import Mathlib.Data.List.Range
import Mathlib.Data.Nat.ModEq

/-! Cyclic scans: the first accepted index at or after a cursor, and why a scan that moves its
cursor past what it found comes round to every accepted index. -/

namespace RoundRobin

/-- The first accepted index of the `n` places from the cursor, wrapping round. -/
def next (n cursor : Nat) (p : Nat → Bool) : Option Nat :=
  ((List.range n).map fun offset => (cursor + offset) % n).find? p

/-- How many places the cursor stands before an index. -/
def ahead (n cursor index : Nat) : Nat := (index + n - cursor % n) % n

variable {n : Nat}

theorem ahead_lt (h : 0 < n) (cursor index : Nat) : ahead n cursor index < n :=
  Nat.mod_lt _ h

variable {cursor index : Nat}

theorem add_ahead (h : index < n) : (cursor + ahead n cursor index) % n = index := by
  have hcursor : cursor % n < n := Nat.mod_lt _ (by omega)
  have hsum : cursor % n + (index + n - cursor % n) = index + n := by omega
  rw [ahead, Nat.add_mod_mod, ← Nat.mod_add_mod, hsum, Nat.add_mod_right, Nat.mod_eq_of_lt h]

theorem ahead_unique {k : Nat} (hk : k < n) : ahead n cursor ((cursor + k) % n) = k := by
  have hlt : (cursor + k) % n < n := Nat.mod_lt _ (by omega)
  have hreach : (cursor + ahead n cursor ((cursor + k) % n)) % n = (cursor + k) % n :=
    add_ahead hlt
  have hmod : ahead n cursor ((cursor + k) % n) ≡ k [MOD n] :=
    Nat.ModEq.add_left_cancel' cursor hreach
  exact hmod.eq_of_lt_of_lt (ahead_lt (by omega) _ _) hk

variable {p : Nat → Bool}

theorem next_eq_none (h : next n cursor p = none) (hindex : index < n) : p index = false := by
  have hall := List.find?_eq_none.mp h index
  rw [List.mem_map] at hall
  have hscanned := hall ⟨ahead n cursor index, List.mem_range.mpr (ahead_lt (by omega) _ _),
    add_ahead hindex⟩
  simpa using hscanned

theorem next_some {found : Nat} (h : next n cursor p = some found) :
    found < n ∧ p found = true := by
  refine ⟨?_, List.find?_some h⟩
  obtain ⟨offset, hoffset, rfl⟩ := List.mem_map.mp (List.mem_of_find?_eq_some h)
  exact Nat.mod_lt _ (Nat.pos_of_ne_zero fun hn => by simp [hn] at hoffset)

/-- A scan finds an accepted index, or moves the cursor nearer to it. -/
theorem next_nearer {found : Nat} (h : next n cursor p = some found) (hindex : index < n)
    (haccepted : p index = true) :
    found = index ∨ ahead n ((found + 1) % n) index < ahead n cursor index := by
  obtain ⟨before, after, hsplit, hrejected⟩ := (List.find?_eq_some_iff_append.mp h).2
  have hfound : before.length < n := by
    have hlength := congrArg List.length hsplit
    simp only [List.length_map, List.length_range, List.length_append, List.length_cons] at hlength
    omega
  have hscan : ∀ k, k < n → ((List.range n).map fun offset => (cursor + offset) % n)[k]? =
      some ((cursor + k) % n) := by
    intro k hk
    simp [hk]
  have hplace : found = (cursor + before.length) % n := by
    have hget := hscan _ hfound
    rw [hsplit, List.getElem?_append_right le_rfl] at hget
    simpa using hget
  -- everything between the cursor and the found index was rejected
  have hnear : before.length ≤ ahead n cursor index := by
    by_contra hless
    have hk : ahead n cursor index < before.length := by omega
    have hget := hscan _ (ahead_lt (show 0 < n by omega) cursor index)
    rw [hsplit, List.getElem?_append_left hk, add_ahead hindex] at hget
    have hno := hrejected index (List.mem_of_getElem? hget)
    simp [haccepted] at hno
  by_cases hsame : ahead n cursor index = before.length
  · left
    rw [hplace, ← hsame, add_ahead hindex]
  · right
    have hmoved : (found + 1) % n + (ahead n cursor index - before.length - 1) ≡ index [MOD n] := by
      have hsum : cursor + before.length + 1 + (ahead n cursor index - before.length - 1) =
          cursor + ahead n cursor index := by omega
      unfold Nat.ModEq
      rw [hplace, Nat.mod_add_mod, Nat.add_assoc, Nat.mod_add_mod, ← Nat.add_assoc, hsum,
        add_ahead hindex, Nat.mod_eq_of_lt hindex]
    have hlt := ahead_lt (show 0 < n by omega) cursor index
    have hless : ahead n cursor index - before.length - 1 < n := by omega
    have hkey := @ahead_unique n ((found + 1) % n) _ hless
    rw [hmoved, Nat.mod_eq_of_lt hindex] at hkey
    omega

end RoundRobin
