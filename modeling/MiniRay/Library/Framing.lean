import MiniRay.Library.BigEndian
import Mathlib.Data.List.Infix

/-! Byte strings made of length-prefixed parts, and texts as bytes: what can be read back. -/

namespace Framing

open Sha256

variable {width m n : Nat}

theorem bigEndian_inj (hm : m < 256 ^ width) (hn : n < 256 ^ width)
    (h : bigEndian width m = bigEndian width n) : m = n := by
  rw [← BigEndian.value_bigEndian_of_lt hm, h, BigEndian.value_bigEndian_of_lt hn]

/-- A part behind its length, which has eight bytes. -/
def frame (part : List UInt8) : List UInt8 := bigEndian 8 part.length ++ part

def Fits (part : List UInt8) : Prop := part.length < 256 ^ 8

instance (part : List UInt8) : Decidable (Fits part) :=
  inferInstanceAs (Decidable (part.length < 256 ^ 8))

variable {a b x y : List UInt8}

/-- A part behind its length is determined, and so is the rest. -/
theorem counted_append_inj (ha : a.length < 256 ^ width) (hb : b.length < 256 ^ width)
    (h : bigEndian width a.length ++ a ++ x = bigEndian width b.length ++ b ++ y) :
    a = b ∧ x = y := by
  simp only [List.append_assoc] at h
  obtain ⟨hlength, hrest⟩ := List.append_inj h (by simp)
  exact List.append_inj hrest (bigEndian_inj ha hb hlength)

/-- The first part of a string of frames is determined, and so is the rest. -/
theorem frame_append_inj (ha : Fits a) (hb : Fits b) (h : frame a ++ x = frame b ++ y) :
    a = b ∧ x = y :=
  counted_append_inj ha hb h

/-- Codes of which none begins another can be strung together. -/
theorem flatMap_inj {α : Type} {encode : α → List UInt8} {p : α → Prop}
    (hne : ∀ a, encode a ≠ [])
    (hcode : ∀ a b x y, p a → p b → encode a ++ x = encode b ++ y → a = b ∧ x = y)
    {xs ys : List α} (hxs : ∀ a ∈ xs, p a) (hys : ∀ b ∈ ys, p b)
    (h : xs.flatMap encode = ys.flatMap encode) : xs = ys := by
  have hstart : ∀ a rest, encode a ++ rest ≠ [] := fun a rest hnil =>
    hne a (List.append_eq_nil_iff.mp hnil).1
  induction xs generalizing ys with
  | nil =>
    cases ys with
    | nil => rfl
    | cons b ys => exact absurd h.symm (hstart b _)
  | cons a xs ih =>
    cases ys with
    | nil => exact absurd h (hstart a _)
    | cons b ys =>
      rw [List.forall_mem_cons] at hxs hys
      obtain ⟨rfl, hrest⟩ := hcode a b _ _ hxs.1 hys.1 h
      rw [ih hxs.2 hys.2 hrest]

theorem frame_ne_nil (a : List UInt8) : frame a ≠ [] := by
  intro hnil
  have hlength := congrArg List.length hnil
  simp [frame] at hlength

theorem flatMap_frame_inj {xs ys : List (List UInt8)} (hxs : ∀ a ∈ xs, Fits a)
    (hys : ∀ b ∈ ys, Fits b) (h : xs.flatMap frame = ys.flatMap frame) : xs = ys :=
  flatMap_inj frame_ne_nil (fun _ _ _ _ ha hb => frame_append_inj ha hb) hxs hys h

/-- As many parts as are counted, and what follows them. -/
theorem flatMap_frame_append_inj {as bs : List (List UInt8)} (has : ∀ a ∈ as, Fits a)
    (hbs : ∀ b ∈ bs, Fits b) (hlength : as.length = bs.length)
    (h : as.flatMap frame ++ x = bs.flatMap frame ++ y) : as = bs ∧ x = y := by
  induction as generalizing bs with
  | nil =>
    obtain rfl := List.length_eq_zero_iff.mp hlength.symm
    exact ⟨rfl, h⟩
  | cons a as ih =>
    cases bs with
    | nil => exact nomatch hlength
    | cons b bs =>
      rw [List.forall_mem_cons] at has hbs
      rw [List.flatMap_cons, List.flatMap_cons, List.append_assoc, List.append_assoc] at h
      obtain ⟨hhead, htail⟩ := frame_append_inj has.1 hbs.1 h
      obtain ⟨hparts, hrest⟩ := ih has.2 hbs.2 (Nat.succ.inj hlength) htail
      exact ⟨by rw [hhead, hparts], hrest⟩

/-! ## Digests -/

theorem bigEndian_congr (h : m % 256 ^ width = n % 256 ^ width) :
    bigEndian width m = bigEndian width n := by
  induction width with
  | zero => rfl
  | succ width ih =>
    have hlow : m % 256 ^ width = n % 256 ^ width := by
      have hmod := congrArg (· % 256 ^ width) h
      simpa only [Nat.mod_mod_of_dvd _ (pow_dvd_pow 256 (Nat.le_succ width))] using hmod
    have hhigh : m / 256 ^ width % 256 = n / 256 ^ width % 256 := by
      rw [Nat.mod_pow_succ, Nat.mod_pow_succ, hlow] at h
      have hpos : 0 < 256 ^ width := Nat.pow_pos (by decide)
      exact Nat.eq_of_mul_eq_mul_left hpos (Nat.add_left_cancel h)
    have hbyte : UInt8.ofNat (m / 256 ^ width) = UInt8.ofNat (n / 256 ^ width) := by
      refine UInt8.toNat_inj.mp ?_
      rw [UInt8.toNat_ofNat', UInt8.toNat_ofNat']
      exact hhigh
    rw [bigEndian, bigEndian, ih hlow, hbyte]

/-- The words of two equal hexadecimal strings have equal bytes. -/
theorem flatMap_hexDigits_inj {xs ys : List Nat} (hlength : xs.length = ys.length)
    (h : xs.flatMap (hexDigits 8) = ys.flatMap (hexDigits 8)) :
    xs.flatMap (bigEndian 4) = ys.flatMap (bigEndian 4) := by
  induction xs generalizing ys with
  | nil =>
    cases ys with
    | nil => rfl
    | cons => exact nomatch hlength
  | cons x xs ih =>
    cases ys with
    | nil => exact nomatch hlength
    | cons y ys =>
      obtain ⟨hhead, htail⟩ := List.append_inj h (by simp)
      have hmod : x % 256 ^ 4 = y % 256 ^ 4 := hexDigits_inj hhead
      rw [List.flatMap_cons, List.flatMap_cons, bigEndian_congr hmod,
        ih (Nat.succ.inj hlength) htail]

/-- Two strings that the hash does not tell apart. -/
def Collide (a b : List UInt8) : Prop := a ≠ b ∧ digest a = digest b

theorem eq_or_collide (h : digest a = digest b) : a = b ∨ Collide a b :=
  (eq_or_ne a b).imp_right fun hne => ⟨hne, h⟩

theorem digest_of_hexdigest (h : hexdigest a = hexdigest b) : digest a = digest b :=
  flatMap_hexDigits_inj rfl (String.ofList_injective h)

/-! ## Texts -/

theorem toUTF8_inj {s t : String} (h : s.toUTF8.data.toList = t.toUTF8.data.toList) : s = t := by
  refine String.toByteArray_inj.mp ?_
  have hdata : s.toUTF8.data = t.toUTF8.data := Array.toList_inj.mp h
  exact ByteArray.ext hdata

theorem repr_inj (h : m.repr = n.repr) : m = n := by
  have hdigits : Nat.toDigits 10 m = Nat.toDigits 10 n := by
    rw [Nat.repr_eq_ofList_toDigits, Nat.repr_eq_ofList_toDigits] at h
    exact String.ofList_injective h
  have hvalue := congrArg (fun digits => Nat.ofDigitChars 10 digits 0) hdigits
  simpa using hvalue

def intText (n : Int) : String := if n < 0 then "-" ++ n.natAbs.repr else n.natAbs.repr

theorem repr_ne_neg (m n : Nat) : "-" ++ m.repr ≠ n.repr := by
  intro h
  have hchars := congrArg String.toList h
  have hmem : '-' ∈ n.repr.toList := by
    rw [← hchars, String.toList_append]
    exact List.mem_append_left _ (by decide)
  rw [Nat.repr_eq_ofList_toDigits, String.toList_ofList] at hmem
  have hdigit := Nat.isDigit_of_mem_toDigits (by decide) (by decide) hmem
  exact absurd hdigit (by decide)

theorem intText_inj {m n : Int} (h : intText m = intText n) : m = n := by
  unfold intText at h
  by_cases hm : m < 0 <;> by_cases hn : n < 0
  · rw [if_pos hm, if_pos hn] at h
    have hrepr : m.natAbs.repr = n.natAbs.repr := by
      have hchars := congrArg String.toList h
      rw [String.toList_append, String.toList_append, List.append_cancel_left_eq] at hchars
      exact String.toList_inj.mp hchars
    have habs := repr_inj hrepr
    omega
  · rw [if_pos hm, if_neg hn] at h
    exact absurd h (repr_ne_neg _ _)
  · rw [if_neg hm, if_pos hn] at h
    exact absurd h.symm (repr_ne_neg _ _)
  · rw [if_neg hm, if_neg hn] at h
    have habs := repr_inj h
    omega

end Framing
