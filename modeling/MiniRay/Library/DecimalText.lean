import Mathlib.Algebra.Field.Rat
import Mathlib.Algebra.Order.Field.Basic
import Mathlib.Data.List.TakeWhile

/-! Decimal numbers as texts, in plain or in scientific notation, and what such a text says. -/

namespace Decimal

/-- The digits with a point before the last `scale` of them. -/
def pointed (digits : List Char) (scale : Nat) : List Char :=
  if scale = 0 then digits
  else
    let padded := digits.leftpad (scale + 1) '0'
    padded.take (padded.length - scale) ++ '.' :: padded.drop (padded.length - scale)

def exponentPart (adjusted : Int) : List Char :=
  'E' :: (if adjusted < 0 then '-' else '+') :: Nat.toDigits 10 adjusted.natAbs

/-- The scientific notation is for numbers with zeros that are not written out. -/
def text (coefficient : Nat) (exponent : Int) : List Char :=
  let digits := Nat.toDigits 10 coefficient
  let adjusted := exponent + digits.length - 1
  if exponent ≤ 0 ∧ -6 ≤ adjusted then pointed digits exponent.natAbs
  else pointed digits (digits.length - 1) ++ exponentPart adjusted

/-! ## Reading -/

def number (digits : List Char) : Nat := Nat.ofDigitChars 10 digits 0

def readExponent : List Char → Int
  | _ :: sign :: digits => if sign = '-' then -number digits else number digits
  | _ => 0

def read (chars : List Char) : ℚ :=
  let mantissa := chars.takeWhile (· ≠ 'E')
  let scale := (mantissa.dropWhile (· ≠ '.')).length - 1
  number (mantissa.filter (· ≠ '.')) * 10 ^ (readExponent (chars.dropWhile (· ≠ 'E')) - scale)

@[simp] theorem number_toDigits (n : Nat) : number (Nat.toDigits 10 n) = n := by
  simp [number]

theorem number_leftpad (digits : List Char) (n : Nat) :
    number (digits.leftpad n '0') = number digits := by
  rw [number, List.leftpad, Nat.ofDigitChars_append, Nat.ofDigitChars_replicate_zero, mul_zero]
  rfl

theorem readExponent_exponentPart (adjusted : Int) :
    readExponent (exponentPart adjusted) = adjusted := by
  simp only [exponentPart, readExponent, number_toDigits]
  by_cases hneg : adjusted < 0
  · rw [if_pos hneg, if_pos rfl]
    omega
  · rw [if_neg hneg, if_neg (by decide)]
    omega

/-- Neither a point nor the letter of an exponent. -/
def Plain (chars : List Char) : Prop := ∀ ch ∈ chars, ch ≠ '.' ∧ ch ≠ 'E'

theorem plain_toDigits (n : Nat) : Plain (Nat.toDigits 10 n) := by
  intro ch hch
  have hdigit := Nat.isDigit_of_mem_toDigits (by decide) (by decide) hch
  constructor
  · rintro rfl
    exact absurd hdigit (by decide)
  · rintro rfl
    exact absurd hdigit (by decide)

theorem Plain.leftpad {digits : List Char} (h : Plain digits) (n : Nat) :
    Plain (digits.leftpad n '0') := by
  intro ch hch
  rcases List.mem_append.mp hch with hzero | hdigit
  · rw [List.eq_of_mem_replicate hzero]
    decide
  · exact h ch hdigit

section Pointed

variable {digits : List Char} (h : Plain digits) (scale : Nat)
include h

theorem pointed_noExponent : ∀ ch ∈ pointed digits scale, ch ≠ 'E' := by
  intro ch hch
  unfold pointed at hch
  by_cases hscale : scale = 0
  · rw [if_pos hscale] at hch
    exact (h ch hch).2
  · rw [if_neg hscale] at hch
    have hpadded := h.leftpad (scale + 1)
    rcases List.mem_append.mp hch with htake | hdrop
    · exact (hpadded ch (List.mem_of_mem_take htake)).2
    · rcases List.mem_cons.mp hdrop with rfl | hrest
      · decide
      · exact (hpadded ch (List.mem_of_mem_drop hrest)).2

theorem number_pointed :
    number ((pointed digits scale).filter (· ≠ '.')) = number digits := by
  have hkept : ∀ chars, Plain chars → chars.filter (· ≠ '.') = chars := by
    intro chars hchars
    refine List.filter_eq_self.mpr fun ch hch => ?_
    simpa using (hchars ch hch).1
  unfold pointed
  by_cases hscale : scale = 0
  · rw [if_pos hscale, hkept _ h]
  · have hpadded := h.leftpad (scale + 1)
    rw [if_neg hscale, List.filter_append, List.filter_cons_of_neg (by decide),
      ← List.filter_append, List.take_append_drop, hkept _ hpadded, number_leftpad]

theorem scale_pointed : ((pointed digits scale).dropWhile (· ≠ '.')).length - 1 = scale := by
  unfold pointed
  by_cases hscale : scale = 0
  · have hnone : digits.dropWhile (· ≠ '.') = [] := by
      refine List.dropWhile_eq_nil_iff.mpr fun ch hch => ?_
      simpa using (h ch hch).1
    rw [if_pos hscale, hnone, hscale]
    rfl
  · have hpadded := h.leftpad (scale + 1)
    have hlength : scale + 1 ≤ (digits.leftpad (scale + 1) '0').length := by
      rw [List.length_leftpad]
      exact le_max_left _ _
    rw [if_neg hscale, List.dropWhile_append_of_pos, List.dropWhile_cons_of_neg (by decide),
      List.length_cons, List.length_drop]
    · omega
    · intro ch hch
      simpa using (hpadded ch (List.mem_of_mem_take hch)).1

theorem read_pointed {rest : List Char} (hrest : ∀ ch ∈ rest.head?, ch = 'E') :
    read (pointed digits scale ++ rest) = number digits * 10 ^ (readExponent rest - scale) := by
  have hall : ∀ ch ∈ pointed digits scale, decide (ch ≠ 'E') = true := fun ch hch =>
    decide_eq_true (pointed_noExponent h scale ch hch)
  have hstop : rest.takeWhile (· ≠ 'E') = [] ∧ rest.dropWhile (· ≠ 'E') = rest := by
    cases rest with
    | nil => exact ⟨rfl, rfl⟩
    | cons ch chars =>
      obtain rfl := hrest ch rfl
      exact ⟨rfl, rfl⟩
  simp only [read]
  rw [List.takeWhile_append_of_pos hall, List.dropWhile_append_of_pos hall, hstop.1, hstop.2,
    List.append_nil, number_pointed h, scale_pointed h]

end Pointed

/-- A text says the number that it is written for. -/
theorem read_text (coefficient : Nat) (exponent : Int) :
    read (text coefficient exponent) = coefficient * 10 ^ exponent := by
  have hplain := plain_toDigits coefficient
  have hlength : 0 < (Nat.toDigits 10 coefficient).length := Nat.length_toDigits_pos
  simp only [text]
  by_cases hwritten : exponent ≤ 0 ∧ -6 ≤ exponent + (Nat.toDigits 10 coefficient).length - 1
  · rw [if_pos hwritten, ← (pointed _ _).append_nil, read_pointed hplain _ (by simp),
      number_toDigits]
    congr 2
    simp only [readExponent]
    omega
  · rw [if_neg hwritten, read_pointed hplain _ (by simp [exponentPart]), number_toDigits,
      readExponent_exponentPart]
    congr 2
    omega

end Decimal
