import Mathlib.Data.List.Basic
import Mathlib.Algebra.Group.Nat.Defs

/-! SHA-256 on byte strings, with words as naturals reduced modulo `2 ^ 32`. -/

namespace Sha256

/-! ## Byte and text encodings -/

/-- The low `width` bytes of `n`, most significant first. -/
def bigEndian : Nat → Nat → List UInt8
  | 0, _ => []
  | width + 1, n => UInt8.ofNat (n / 256 ^ width) :: bigEndian width n

@[simp] theorem bigEndian_length (width n : Nat) : (bigEndian width n).length = width := by
  induction width with
  | zero => rfl
  | succ width ih => simp [bigEndian, ih]

def hexDigit (n : Nat) : Char :=
  ['0', '1', '2', '3', '4', '5', '6', '7', '8', '9', 'a', 'b', 'c', 'd', 'e', 'f'].getD (n % 16) '0'

/-- The low `width` hexadecimal digits of `n`, most significant first. -/
def hexDigits : Nat → Nat → List Char
  | 0, _ => []
  | width + 1, n => hexDigit (n / 16 ^ width) :: hexDigits width n

@[simp] theorem hexDigits_length (width n : Nat) : (hexDigits width n).length = width := by
  induction width with
  | zero => rfl
  | succ width ih => simp [hexDigits, ih]

def isLowerHexDigit (c : Char) : Bool := ('0' ≤ c && c ≤ '9') || ('a' ≤ c && c ≤ 'f')

theorem isLowerHexDigit_hexDigit (n : Nat) : isLowerHexDigit (hexDigit n) = true := by
  have h : ∀ k < 16, isLowerHexDigit (hexDigit k) = true := by decide
  have hmod : hexDigit n = hexDigit (n % 16) := by simp [hexDigit]
  rw [hmod]
  exact h _ (Nat.mod_lt _ (by decide))

theorem hexDigit_inj {m n : Nat} (h : hexDigit m = hexDigit n) : m % 16 = n % 16 := by
  have hdigits : ∀ a < 16, ∀ b < 16, hexDigit a = hexDigit b → a = b := by decide
  have hmod : ∀ k, hexDigit k = hexDigit (k % 16) := by simp [hexDigit]
  rw [hmod m, hmod n] at h
  exact hdigits _ (Nat.mod_lt _ (by decide)) _ (Nat.mod_lt _ (by decide)) h

theorem hexDigits_inj {width m n : Nat} (h : hexDigits width m = hexDigits width n) :
    m % 16 ^ width = n % 16 ^ width := by
  induction width with
  | zero => simp [Nat.mod_one]
  | succ width ih =>
    obtain ⟨hhead, htail⟩ := List.cons.inj h
    rw [Nat.mod_pow_succ, Nat.mod_pow_succ, ih htail, hexDigit_inj hhead]

theorem isLowerHexDigit_of_mem_hexDigits {width n : Nat} {c : Char}
    (h : c ∈ hexDigits width n) : isLowerHexDigit c = true := by
  induction width with
  | zero => simp [hexDigits] at h
  | succ width ih =>
    rcases List.mem_cons.mp h with rfl | h
    · exact isLowerHexDigit_hexDigit _
    · exact ih h

/-! ## The compression function -/

def word (n : Nat) : Nat := n % 2 ^ 32

def rotr (k x : Nat) : Nat := word (x >>> k ||| x <<< (32 - k))

def choose (x y z : Nat) : Nat := (x &&& y) ^^^ ((2 ^ 32 - 1 - x) &&& z)

def majority (x y z : Nat) : Nat := (x &&& y) ^^^ (x &&& z) ^^^ (y &&& z)

def bigSigma0 (x : Nat) : Nat := rotr 2 x ^^^ rotr 13 x ^^^ rotr 22 x

def bigSigma1 (x : Nat) : Nat := rotr 6 x ^^^ rotr 11 x ^^^ rotr 25 x

def smallSigma0 (x : Nat) : Nat := rotr 7 x ^^^ rotr 18 x ^^^ x >>> 3

def smallSigma1 (x : Nat) : Nat := rotr 17 x ^^^ rotr 19 x ^^^ x >>> 10

def roundConstants : List Nat :=
  [0x428a2f98, 0x71374491, 0xb5c0fbcf, 0xe9b5dba5, 0x3956c25b, 0x59f111f1, 0x923f82a4, 0xab1c5ed5,
   0xd807aa98, 0x12835b01, 0x243185be, 0x550c7dc3, 0x72be5d74, 0x80deb1fe, 0x9bdc06a7, 0xc19bf174,
   0xe49b69c1, 0xefbe4786, 0x0fc19dc6, 0x240ca1cc, 0x2de92c6f, 0x4a7484aa, 0x5cb0a9dc, 0x76f988da,
   0x983e5152, 0xa831c66d, 0xb00327c8, 0xbf597fc7, 0xc6e00bf3, 0xd5a79147, 0x06ca6351, 0x14292967,
   0x27b70a85, 0x2e1b2138, 0x4d2c6dfc, 0x53380d13, 0x650a7354, 0x766a0abb, 0x81c2c92e, 0x92722c85,
   0xa2bfe8a1, 0xa81a664b, 0xc24b8b70, 0xc76c51a3, 0xd192e819, 0xd6990624, 0xf40e3585, 0x106aa070,
   0x19a4c116, 0x1e376c08, 0x2748774c, 0x34b0bcb5, 0x391c0cb3, 0x4ed8aa4a, 0x5b9cca4f, 0x682e6ff3,
   0x748f82ee, 0x78a5636f, 0x84c87814, 0x8cc70208, 0x90befffa, 0xa4506ceb, 0xbef9a3f7, 0xc67178f2]

structure Words where
  a : Nat
  b : Nat
  c : Nat
  d : Nat
  e : Nat
  f : Nat
  g : Nat
  h : Nat

def initialWords : Words :=
  ⟨0x6a09e667, 0xbb67ae85, 0x3c6ef372, 0xa54ff53a, 0x510e527f, 0x9b05688c, 0x1f83d9ab, 0x5be0cd19⟩

/-- Extend a message block, newest word first. -/
def schedule : Nat → List Nat → List Nat
  | 0, ws => ws
  | n + 1, ws =>
    schedule n (word (smallSigma1 (ws.getD 1 0) + ws.getD 6 0 +
      smallSigma0 (ws.getD 14 0) + ws.getD 15 0) :: ws)

def round (s : Words) (kw : Nat × Nat) : Words :=
  let t1 := word (s.h + bigSigma1 s.e + choose s.e s.f s.g + kw.1 + kw.2)
  let t2 := word (bigSigma0 s.a + majority s.a s.b s.c)
  ⟨word (t1 + t2), s.a, s.b, s.c, word (s.d + t1), s.e, s.f, s.g⟩

def compress (s : Words) (block : List Nat) : Words :=
  let r := (roundConstants.zip (schedule 48 block.reverse).reverse).foldl round s
  ⟨word (s.a + r.a), word (s.b + r.b), word (s.c + r.c), word (s.d + r.d),
   word (s.e + r.e), word (s.f + r.f), word (s.g + r.g), word (s.h + r.h)⟩

/-! ## Padding and digest -/

def pad (message : List UInt8) : List UInt8 :=
  message ++ 0x80 :: List.replicate ((119 - message.length % 64) % 64) 0 ++
    bigEndian 8 (8 * message.length)

def wordsOf : List UInt8 → List Nat
  | a :: b :: c :: d :: rest =>
    (((a.toNat * 256 + b.toNat) * 256 + c.toNat) * 256 + d.toNat) :: wordsOf rest
  | _ => []

/-- Absorb the padded message by sixteen words; the first argument counts blocks. -/
def absorb : Nat → Words → List Nat → Words
  | 0, s, _ => s
  | n + 1, s, ws => absorb n (compress s (ws.take 16)) (ws.drop 16)

def digestWords (message : List UInt8) : Words :=
  let ws := wordsOf (pad message)
  absorb (ws.length / 16) initialWords ws

def Words.toList (s : Words) : List Nat := [s.a, s.b, s.c, s.d, s.e, s.f, s.g, s.h]

def digest (message : List UInt8) : List UInt8 :=
  (digestWords message).toList.flatMap (bigEndian 4)

def hexdigest (message : List UInt8) : String :=
  String.ofList ((digestWords message).toList.flatMap (hexDigits 8))

/-- Sixty-four lower-case hexadecimal digits. -/
def IsLowerHexDigest (s : String) : Prop :=
  s.toList.length = 64 ∧ s.toList.all isLowerHexDigit = true

instance (s : String) : Decidable (IsLowerHexDigest s) :=
  inferInstanceAs (Decidable (_ ∧ _))

theorem isLowerHexDigest_hexdigest (message : List UInt8) :
    IsLowerHexDigest (hexdigest message) := by
  constructor
  · simp [hexdigest, Words.toList]
  · simp only [hexdigest, String.toList_ofList, List.all_eq_true]
    intro c hc
    obtain ⟨n, _, hc⟩ := List.mem_flatMap.mp hc
    exact isLowerHexDigit_of_mem_hexDigits hc

example : hexdigest [] =
    "e3b0c44298fc1c149afbf4c8996fb92427ae41e4649b934ca495991b7852b855" := by decide +kernel

end Sha256
