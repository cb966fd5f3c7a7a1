import Mathlib.Data.Int.Log
import Mathlib.Data.Rat.Floor
import Mathlib.Algebra.Order.Round

/-! Decimal floating point: numbers by their values, and contexts that round every result to a
number of digits, half to even. -/

namespace Decimal

/-- The nearest integer, the even one of two. -/
def halfEven (q : ℚ) : ℤ :=
  if Int.fract q < 1 / 2 then ⌊q⌋
  else if 1 / 2 < Int.fract q then ⌊q⌋ + 1
  else if ⌊q⌋ % 2 = 0 then ⌊q⌋
  else ⌊q⌋ + 1

@[simp] theorem halfEven_intCast (n : ℤ) : halfEven n = n := by
  have hfract : Int.fract (n : ℚ) < 1 / 2 := by rw [Int.fract_intCast]; norm_num
  rw [halfEven, if_pos hfract, Int.floor_intCast]

theorem halfEven_bounds (q : ℚ) : ⌊q⌋ ≤ halfEven q ∧ halfEven q ≤ ⌊q⌋ + 1 := by
  unfold halfEven
  split_ifs <;> omega

theorem halfEven_eq_iff {q : ℚ} : (halfEven q : ℚ) = q ↔ ∃ n : ℤ, q = n := by
  constructor
  · exact fun h => ⟨halfEven q, h.symm⟩
  · rintro ⟨n, rfl⟩
    rw [halfEven_intCast]

/-- The digits that are kept, and the exponent bounds of a leading digit. -/
structure Context where
  prec : ℕ
  emax : ℤ
  emin : ℤ
  positive : 0 < prec

namespace Context

variable (c : Context)

/-- The exponent of the last digit that a subnormal number can have. -/
def etiny : ℤ := c.emin - (c.prec - 1)

def lastDigit (q : ℚ) : ℤ := max (Int.log 10 q - (c.prec - 1)) c.etiny

def rounded (q : ℚ) : ℚ := halfEven (q / 10 ^ c.lastDigit q) * 10 ^ c.lastDigit q

/-- A nonnegative result as the context delivers it, or an overflow. -/
def round (q : ℚ) : Option ℚ :=
  if q = 0 then some 0
  else if 10 ^ (c.emax + 1) ≤ c.rounded q then none
  else some (c.rounded q)

/-- The number loses no digit. -/
def Keeps (q : ℚ) : Prop := ∃ n : ℤ, q / 10 ^ c.lastDigit q = n

instance (q : ℚ) : Decidable (c.Keeps q) :=
  decidable_of_iff _ halfEven_eq_iff

theorem ten_zpow_pos (e : ℤ) : (0 : ℚ) < 10 ^ e := zpow_pos (by norm_num) e

theorem keeps_zero : c.Keeps 0 := ⟨0, by simp⟩

variable {q : ℚ}

theorem rounded_eq_iff : c.rounded q = q ↔ c.Keeps q := by
  have hten : (10 : ℚ) ^ c.lastDigit q ≠ 0 := (ten_zpow_pos _).ne'
  rw [rounded, ← eq_div_iff hten, halfEven_eq_iff]
  rfl

variable {r : ℚ}

theorem round_eq_some (h : c.round q = some r) : r = c.rounded q := by
  unfold round at h
  by_cases hq : q = 0
  · rw [if_pos hq] at h
    rw [← Option.some.inj h, hq]
    exact ((c.rounded_eq_iff).mpr c.keeps_zero).symm
  · rw [if_neg hq] at h
    by_cases hover : 10 ^ (c.emax + 1) ≤ c.rounded q
    · rw [if_pos hover] at h
      cases h
    · rw [if_neg hover] at h
      exact (Option.some.inj h).symm

/-- A result is the exact one as long as no digit is lost. -/
theorem eq_of_round (h : c.round q = some r) : r = q ↔ c.Keeps q := by
  rw [c.round_eq_some h]
  exact c.rounded_eq_iff

/-- With its last kept digit as the unit, a number is below a power of ten. -/
theorem scaled_lt (q : ℚ) : q / 10 ^ c.lastDigit q < 10 ^ (c.prec : ℤ) := by
  rw [div_lt_iff₀ (ten_zpow_pos _), ← zpow_add₀ (by norm_num)]
  have hlog : q < (10 : ℚ) ^ (Int.log 10 q + 1) :=
    Int.lt_zpow_succ_log_self (by norm_num) q
  refine hlog.trans_le (zpow_le_zpow_right₀ (by norm_num) ?_)
  have hmax := le_max_left (Int.log 10 q - (c.prec - 1)) c.etiny
  rw [lastDigit]
  omega

theorem keeps_of_le {n e : ℤ} (h : c.lastDigit (n * 10 ^ e) ≤ e) : c.Keeps (n * 10 ^ e) := by
  obtain ⟨k, hk⟩ := Int.eq_ofNat_of_zero_le (Int.sub_nonneg.mpr h)
  have hsplit : (10 : ℚ) ^ e = 10 ^ c.lastDigit (n * 10 ^ e) * 10 ^ k := by
    rw [← zpow_natCast, ← zpow_add₀ (by norm_num), ← hk]
    congr 1
    omega
  refine ⟨n * 10 ^ k, ?_⟩
  rw [div_eq_iff (ten_zpow_pos _).ne']
  push_cast
  nth_rewrite 1 [hsplit]
  ring

theorem lastDigit_le {n e : ℤ} (hn : 0 < n) (hlow : n < 10 ^ c.prec) (he : c.etiny ≤ e) :
    c.lastDigit (n * 10 ^ e) ≤ e := by
  have hpos : (0 : ℚ) < n := by exact_mod_cast hn
  have hlt : (n : ℚ) * 10 ^ e < (10 : ℚ) ^ ((c.prec : ℤ) + e) := by
    rw [zpow_add₀ (by norm_num)]
    refine mul_lt_mul_of_pos_right ?_ (ten_zpow_pos e)
    exact_mod_cast hlow
  have hlog : Int.log 10 ((n : ℚ) * 10 ^ e) < (c.prec : ℤ) + e :=
    (Int.lt_zpow_iff_log_lt (by norm_num) (mul_pos hpos (ten_zpow_pos e))).mp hlt
  exact max_le (by omega) he

theorem rounded_nonneg (hq : 0 ≤ q) : 0 ≤ c.rounded q := by
  have hfloor : 0 ≤ ⌊q / 10 ^ c.lastDigit q⌋ :=
    Int.floor_nonneg.mpr (div_nonneg hq (ten_zpow_pos _).le)
  have hhalf : 0 ≤ halfEven (q / 10 ^ c.lastDigit q) := hfloor.trans (halfEven_bounds _).1
  exact mul_nonneg (by exact_mod_cast hhalf) (ten_zpow_pos _).le

theorem lt_of_round (h : c.round q = some r) : r < 10 ^ (c.emax + 1) := by
  unfold round at h
  by_cases hq : q = 0
  · rw [if_pos hq] at h
    rw [← Option.some.inj h]
    exact ten_zpow_pos _
  · rw [if_neg hq] at h
    by_cases hover : 10 ^ (c.emax + 1) ≤ c.rounded q
    · rw [if_pos hover] at h
      cases h
    · rw [if_neg hover] at h
      rw [← Option.some.inj h]
      exact not_le.mp hover

/-- A number in range that loses no digit is delivered as it is. -/
theorem round_of_keeps (h : c.Keeps q) (hlt : q < 10 ^ (c.emax + 1)) : c.round q = some q := by
  have hrounded : c.rounded q = q := (c.rounded_eq_iff).mpr h
  by_cases hq : q = 0
  · rw [round, if_pos hq, hq]
  · rw [round, if_neg hq, hrounded, if_neg (not_le.mpr hlt)]

/-- More zeros at the end lose no digit either. -/
theorem Keeps.mul_pow (h : c.Keeps q) (hq : 0 < q) (k : ℕ) : c.Keeps (q * 10 ^ k) := by
  obtain ⟨n, hn⟩ := h
  have hten : (10 : ℚ) ^ c.lastDigit q ≠ 0 := (ten_zpow_pos _).ne'
  have hvalue : q * 10 ^ k = n * 10 ^ (c.lastDigit q + k) := by
    rw [zpow_add₀ (by norm_num), ← mul_assoc, ← (div_eq_iff hten).mp hn, zpow_natCast]
  have hlog : Int.log 10 (q * 10 ^ k) < Int.log 10 q + 1 + k := by
    refine (Int.lt_zpow_iff_log_lt (by norm_num) (by positivity)).mp ?_
    rw [zpow_add₀ (by norm_num), zpow_natCast]
    have hself : q < (10 : ℚ) ^ (Int.log 10 q + 1) :=
      Int.lt_zpow_succ_log_self (by norm_num) q
    exact mul_lt_mul_of_pos_right (by exact_mod_cast hself) (by positivity)
  have hfirst : Int.log 10 q - (c.prec - 1) ≤ c.lastDigit q := le_max_left _ _
  have hetiny : c.etiny ≤ c.lastDigit q := le_max_right _ _
  have hlast : c.lastDigit (q * 10 ^ k) ≤ c.lastDigit q + k := max_le (by omega) (by omega)
  rw [hvalue]
  rw [hvalue] at hlast
  exact c.keeps_of_le hlast

/-- Nor do fewer, as far as the exponents reach. -/
theorem Keeps.div_pow (h : c.Keeps q) (hq : 0 < q) {k : ℕ} (hlow : c.etiny + k ≤ c.lastDigit q) :
    c.Keeps (q / 10 ^ k) := by
  obtain ⟨n, hn⟩ := h
  have hvalue : q / 10 ^ k = n * 10 ^ (c.lastDigit q - k) := by
    rw [zpow_sub₀ (by norm_num), zpow_natCast, ← hn]
    field_simp [(ten_zpow_pos (c.lastDigit q)).ne']
  have hpos : 0 < n := by
    have hscaled : 0 < q / 10 ^ c.lastDigit q := div_pos hq (ten_zpow_pos _)
    rw [hn] at hscaled
    exact_mod_cast hscaled
  have hlt : n < 10 ^ c.prec := by
    have hscaled := c.scaled_lt q
    rw [hn, zpow_natCast] at hscaled
    exact_mod_cast hscaled
  rw [hvalue]
  exact c.keeps_of_le (c.lastDigit_le hpos hlt (by omega))

/-- What the context delivers it would deliver again. -/
theorem keeps_rounded (hq : 0 ≤ q) : c.Keeps (c.rounded q) := by
  have hetiny : c.etiny ≤ c.lastDigit q := le_max_right _ _
  have hbounds := halfEven_bounds (q / 10 ^ c.lastDigit q)
  have hfloor : 0 ≤ ⌊q / 10 ^ c.lastDigit q⌋ :=
    Int.floor_nonneg.mpr (div_nonneg hq (ten_zpow_pos _).le)
  have hceil : halfEven (q / 10 ^ c.lastDigit q) ≤ 10 ^ c.prec := by
    have hlt : (⌊q / 10 ^ c.lastDigit q⌋ : ℚ) < 10 ^ c.prec :=
      (Int.floor_le _).trans_lt (by simpa using c.scaled_lt q)
    have hfloorlt : ⌊q / 10 ^ c.lastDigit q⌋ < 10 ^ c.prec := by exact_mod_cast hlt
    omega
  rw [rounded]
  by_cases hzero : halfEven (q / 10 ^ c.lastDigit q) = 0
  · rw [hzero]
    simpa using c.keeps_zero
  by_cases htop : halfEven (q / 10 ^ c.lastDigit q) = 10 ^ c.prec
  · -- The carry gives one digit more, a zero.
    have hcarry : ((10 ^ c.prec : ℤ) : ℚ) * 10 ^ c.lastDigit q =
        ((10 ^ (c.prec - 1) : ℤ) : ℚ) * 10 ^ (c.lastDigit q + 1) := by
      rw [zpow_add_one₀ (by norm_num)]
      nth_rewrite 1 [← Nat.sub_add_cancel c.positive]
      push_cast
      ring
    have hlow : (10 : ℤ) ^ (c.prec - 1) < 10 ^ c.prec :=
      pow_lt_pow_right₀ (by norm_num) (Nat.sub_lt c.positive Nat.one_pos)
    rw [htop, hcarry]
    exact c.keeps_of_le (c.lastDigit_le (by positivity) hlow (by omega))
  · exact c.keeps_of_le (c.lastDigit_le (by omega) (by omega) hetiny)

end Context

end Decimal
