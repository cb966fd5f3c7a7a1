import MiniRay.Library.Sha256
import Mathlib.Tactic.Ring

/-! Numbers as big-endian bytes: what a fixed width spells, and reading it back. -/

namespace BigEndian

open Sha256

/-- The number that big-endian bytes spell. -/
def value (bytes : List UInt8) : Nat := bytes.foldl (fun total byte => total * 256 + byte.toNat) 0

theorem foldl_start (bytes : List UInt8) (start : Nat) :
    bytes.foldl (fun total byte => total * 256 + byte.toNat) start =
      start * 256 ^ bytes.length + value bytes := by
  induction bytes generalizing start with
  | nil => simp [value]
  | cons byte rest ih =>
    have hhead : value (byte :: rest) = byte.toNat * 256 ^ rest.length + value rest := by
      simp only [value, List.foldl_cons, Nat.zero_mul, Nat.zero_add]
      exact ih byte.toNat
    rw [List.foldl_cons, ih, hhead, List.length_cons, Nat.pow_succ]
    ring

theorem value_cons (byte : UInt8) (rest : List UInt8) :
    value (byte :: rest) = byte.toNat * 256 ^ rest.length + value rest := by
  have h := foldl_start rest byte.toNat
  simpa [value] using h

/-- A number below `256 ^ width` is read back. -/
theorem value_bigEndian (width n : Nat) : value (bigEndian width n) = n % 256 ^ width := by
  induction width with
  | zero => simp [bigEndian, value, Nat.mod_one]
  | succ width ih =>
    have hbyte : (UInt8.ofNat (n / 256 ^ width)).toNat = n / 256 ^ width % 256 := by simp
    rw [bigEndian, value_cons, ih, bigEndian_length, hbyte, Nat.mod_pow_succ]
    ring

theorem value_bigEndian_of_lt {width n : Nat} (h : n < 256 ^ width) :
    value (bigEndian width n) = n := by
  rw [value_bigEndian, Nat.mod_eq_of_lt h]

end BigEndian
