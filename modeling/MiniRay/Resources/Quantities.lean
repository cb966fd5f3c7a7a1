import Mathlib.Data.List.DropRight
import MiniRay.Library.Decimal
import MiniRay.Placement.PlanRequests

/-! How quantities become milli-units and back. Both ways go through decimal arithmetic, whose
context keeps 28 digits. -/

namespace MiniRay

open Checked

/-- `decimal.getcontext()`, unless somebody changed it. -/
def decimalContext : Decimal.Context := ⟨28, 999999, -999999, by decide⟩

inductive PyDecimal
  | finite (value : ℚ)
  | infinite
  | nan
  deriving DecidableEq

/-! ## Decimal strings -/

/-- `str.isspace`. -/
def isSpace (ch : Char) : Bool :=
  let n := ch.toNat
  (9 ≤ n ∧ n ≤ 13) ∨ (28 ≤ n ∧ n ≤ 32) ∨ (8192 ≤ n ∧ n ≤ 8202) ∨
    n ∈ [133, 160, 5760, 8232, 8233, 8239, 8287, 12288]

def stripChars (cs : List Char) : List Char := (cs.dropWhile isSpace).rdropWhile isSpace

def strip (text : String) : String := String.ofList (stripChars text.toList)

/-- Where the decimal digits of a script begin. -/
def zeroDigits : List Nat :=
  [0x30, 0x660, 0x6F0, 0x7C0, 0x966, 0x9E6, 0xA66, 0xAE6, 0xB66, 0xBE6, 0xC66, 0xCE6, 0xD66, 0xDE6,
    0xE50, 0xED0, 0xF20, 0x1040, 0x1090, 0x17E0, 0x1810, 0x1946, 0x19D0, 0x1A80, 0x1A90, 0x1B50,
    0x1BB0, 0x1C40, 0x1C50, 0xA620, 0xA8D0, 0xA900, 0xA9D0, 0xA9F0, 0xAA50, 0xABF0, 0xFF10, 0x104A0,
    0x10D30, 0x11066, 0x110F0, 0x11136, 0x111D0, 0x112F0, 0x11450, 0x114D0, 0x11650, 0x116C0,
    0x11730, 0x118E0, 0x11950, 0x11C50, 0x11D50, 0x11DA0, 0x11F50, 0x16A60, 0x16AC0, 0x16B50,
    0x1D7CE, 0x1D7D8, 0x1D7E2, 0x1D7EC, 0x1D7F6, 0x1E140, 0x1E2F0, 0x1E4F0, 0x1E950, 0x1FBF0]

def digitValue? (ch : Char) : Option Nat :=
  (zeroDigits.find? fun first => first ≤ ch.toNat ∧ ch.toNat < first + 10).map (ch.toNat - ·)

def spanDigits (cs : List Char) : List Nat × List Char :=
  ((cs.takeWhile fun ch => (digitValue? ch).isSome).filterMap digitValue?,
    cs.dropWhile fun ch => (digitValue? ch).isSome)

def digitsValue (digits : List Nat) : Nat := digits.foldl (fun n digit => 10 * n + digit) 0

def readSign : List Char → Bool × List Char
  | '-' :: cs => (true, cs)
  | '+' :: cs => (false, cs)
  | cs => (false, cs)

def readExponent : List Char → Option Int
  | [] => some 0
  | ch :: cs =>
    let (negative, rest) := readSign cs
    let (digits, rest) := spanDigits rest
    if (ch = 'e' ∨ ch = 'E') ∧ digits ≠ [] ∧ rest = [] then
      some (if negative then -digitsValue digits else digitsValue digits)
    else none

/-- A number without its sign. The exponents that a `Decimal` can have are bounded. -/
def readNumber (cs : List Char) : Option ℚ :=
  let (whole, rest) := spanDigits cs
  let (fraction, rest) := match rest with
    | '.' :: rest => spanDigits rest
    | rest => ([], rest)
  match readExponent rest with
  | none => none
  | some exponent =>
    let coefficient := digitsValue (whole ++ fraction)
    let last := exponent - fraction.length
    if whole ++ fraction = [] ∨ last < -1999999999999999997 ∨
        999999999999999999 < last + Nat.log 10 coefficient then none
    else some (coefficient * 10 ^ last)

/-- `Decimal(text)`. -/
def parseDecimal (text : String) : Option PyDecimal :=
  let (negative, cs) := readSign ((stripChars text.toList).filter (· ≠ '_'))
  let lower := String.ofList (cs.map Char.toLower)
  let payload := (cs.map Char.toLower).dropWhile Char.isAlpha
  if lower = "inf" ∨ lower = "infinity" then some .infinite
  else if (lower.startsWith "nan" ∨ lower.startsWith "snan") ∧ (spanDigits payload).2 = [] then
    some .nan
  else (readNumber cs).map fun value => .finite (if negative then -value else value)

/-! ## Units -/

inductive ResourceQuantity
  | boolean (value : Bool)
  | integer (value : Int)
  | text (value : String)
  | decimal (value : PyDecimal)

inductive QuantityError
  | invalidResource (message : String)
  /-- `decimal.Overflow`. -/
  | overflow
  deriving DecidableEq

/-- The number that a quantity names; integers go through bounded texts. -/
def ResourceQuantity.number : ResourceQuantity → Except QuantityError PyDecimal
  | .boolean _ => .error (.invalidResource "boolean is not a resource quantity")
  | .integer value =>
    if 10 ^ 4300 ≤ value.natAbs then .error (.invalidResource "invalid resource quantity")
    else .ok (.finite value)
  | .text value =>
    match parseDecimal value with
    | some number => .ok number
    | none => .error (.invalidResource "invalid resource quantity")
  | .decimal number => .ok number

def numberUnits : PyDecimal → Except QuantityError Nat
  | .finite number =>
    if number < 0 then
      .error (.invalidResource "resource quantities must be finite and non-negative")
    else match decimalContext.round (number * 1000) with
      | none => .error .overflow
      | some scaled =>
        if scaled ≠ Decimal.halfEven scaled then
          .error (.invalidResource "resource quantities support at most 3 decimal places")
        else .ok (Decimal.halfEven scaled).toNat
  | _ => .error (.invalidResource "resource quantities must be finite and non-negative")

def toUnits (value : ResourceQuantity) : Except QuantityError Nat := do
  let number ← value.number
  numberUnits number

def resourceName (name : String) : Except QuantityError String := do
  raiseIf (strip name = "") (.invalidResource "resource names must be non-empty strings")
  return strip name

namespace ResourceVector

/-- One entry of the mapping; a zero quantity leaves its name alone. -/
def normalize (normalized : Dict String Nat) (entry : String × ResourceQuantity) :
    Except QuantityError (Dict String Nat) := do
  let name ← resourceName entry.1
  let units ← toUnits entry.2
  return if units ≠ 0 then normalized.set name units else normalized

def make (resources : List (String × ResourceQuantity)) : Except QuantityError ResourceVector := do
  let normalized ← resources.foldlM normalize .empty
  return fromUnits normalized

def quantity (units : Nat) : Except QuantityError ResourceQuantity :=
  match decimalContext.round (units / 1000) with
  | none => .error .overflow
  | some value => .ok (.decimal (.finite value))

/-- `to_dict`. -/
def quantities (self : ResourceVector) : Except QuantityError (List (String × ResourceQuantity)) :=
  self.items.mapM fun item => do
    let value ← quantity item.2
    return (item.1, value)

/-- `ResourceVector(v.to_dict())`. -/
def reparse (self : ResourceVector) : Except QuantityError ResourceVector := do
  let resources ← self.quantities
  make resources

def sub (self other : ResourceVector) : Option ResourceVector :=
  if other.fitsIn self then
    some (fromUnits (.tabulate (self.items.map Prod.fst ++ other.items.map Prod.fst)
      fun name => self.units name - other.units name))
  else none

/-- The names are as the constructor leaves them. -/
def Named (self : ResourceVector) : Prop :=
  ∀ name, 0 < self.units name → strip name = name ∧ name ≠ ""

end ResourceVector

theorem stripChars_stripChars (cs : List Char) : stripChars (stripChars cs) = stripChars cs := by
  have hfirst : (stripChars cs).dropWhile isSpace = stripChars cs := by
    obtain ⟨rest, hrest⟩ := List.rdropWhile_prefix isSpace (cs.dropWhile isSpace)
    change stripChars cs ++ rest = cs.dropWhile isSpace at hrest
    cases hstripped : stripChars cs with
    | nil => rfl
    | cons ch stripped =>
      have hself := List.dropWhile_idempotent (p := isSpace) (l := cs)
      rw [← hrest, hstripped, List.cons_append, List.dropWhile_cons] at hself
      by_cases hspace : isSpace ch
      · rw [if_pos hspace] at hself
        have hlength := List.length_dropWhile_le isSpace (stripped ++ rest)
        rw [hself, List.length_cons] at hlength
        omega
      · rw [List.dropWhile_cons, if_neg hspace]
  nth_rewrite 1 [stripChars]
  rw [hfirst]
  exact List.rdropWhile_idempotent _ _

theorem strip_strip (text : String) : strip (strip text) = strip text := by
  rw [strip, strip, String.toList_ofList, stripChars_stripChars]

/-! ## Exact quantities -/

/-- The milli-units lose no digit, or the quantity is refused all the same. -/
def PyDecimal.Exact : PyDecimal → Prop
  | .finite number => number < 0 ∨ decimalContext.Keeps (number * 1000) ∨
      decimalContext.round (number * 1000) = none ∨
      decimalContext.rounded (number * 1000) ≠
        Decimal.halfEven (decimalContext.rounded (number * 1000))
  | _ => True

theorem numberUnits_finite {number : ℚ} {u : Nat} : numberUnits (.finite number) = .ok u ↔
    0 ≤ number ∧ decimalContext.round (number * 1000) = some (u : ℚ) := by
  simp only [numberUnits]
  by_cases hneg : number < 0
  · rw [if_pos hneg]
    exact ⟨nofun, fun h => absurd hneg (not_lt.mpr h.1)⟩
  rw [if_neg hneg]
  cases hround : decimalContext.round (number * 1000) with
  | none => exact ⟨nofun, fun h => nomatch h.2⟩
  | some scaled =>
    have hnonneg : 0 ≤ scaled := by
      rw [decimalContext.round_eq_some hround]
      exact decimalContext.rounded_nonneg (by linarith)
    by_cases hwhole : scaled = Decimal.halfEven scaled
    · have hhalf : 0 ≤ Decimal.halfEven scaled := by
        rw [hwhole] at hnonneg
        exact_mod_cast hnonneg
      have hcast : ((Decimal.halfEven scaled).toNat : ℚ) = scaled := by
        nth_rewrite 2 [hwhole]
        exact_mod_cast Int.toNat_of_nonneg hhalf
      dsimp only
      rw [if_neg (not_not_intro hwhole)]
      constructor
      · intro h
        rw [← Except.ok.inj h, hcast]
        exact ⟨not_lt.mp hneg, rfl⟩
      · intro h
        rw [← hcast] at h
        exact congrArg Except.ok (by exact_mod_cast Option.some.inj h.2)
    · dsimp only
      rw [if_pos hwhole]
      refine ⟨nofun, fun h => absurd ?_ hwhole⟩
      rw [Option.some.inj h.2]
      exact congrArg Int.cast (Decimal.halfEven_intCast u).symm

/-- A number is stored exactly, if at all, exactly when no digit of its milli-units is lost. -/
theorem numberUnits_exact_iff (d : PyDecimal) :
    (∀ u, numberUnits d = .ok u → ∃ x, d = .finite x ∧ (u : ℚ) = x * 1000) ↔ d.Exact := by
  cases d with
  | infinite => exact ⟨fun _ => trivial, fun _ u h => nomatch h⟩
  | nan => exact ⟨fun _ => trivial, fun _ u h => nomatch h⟩
  | finite number =>
    constructor
    · intro h
      by_contra hinexact
      simp only [PyDecimal.Exact, not_or, not_not] at hinexact
      obtain ⟨hneg, hloses, hround, hwhole⟩ := hinexact
      obtain ⟨scaled, hscaled⟩ := Option.ne_none_iff_exists'.mp hround
      have heq := decimalContext.round_eq_some hscaled
      have hnonneg : 0 ≤ scaled := heq ▸ decimalContext.rounded_nonneg (by linarith)
      obtain ⟨u, hu⟩ : ∃ u : Nat, Decimal.halfEven scaled = u := by
        refine Int.eq_ofNat_of_zero_le ?_
        rw [← heq] at hwhole
        rw [hwhole] at hnonneg
        exact_mod_cast hnonneg
      rw [← heq, hu] at hwhole
      have hstored : numberUnits (.finite number) = .ok u :=
        numberUnits_finite.mpr ⟨not_lt.mp hneg, by rw [hscaled, hwhole]; rfl⟩
      obtain ⟨x, hx, hexact⟩ := h u hstored
      obtain rfl := PyDecimal.finite.inj hx
      exact hloses ((decimalContext.eq_of_round hscaled).mp (hwhole.trans hexact))
    · intro hexact u h
      obtain ⟨hnonneg, hround⟩ := numberUnits_finite.mp h
      have heq := decimalContext.round_eq_some hround
      refine ⟨number, rfl, (decimalContext.eq_of_round hround).mpr ?_⟩
      rcases hexact with hneg | hkeeps | hnone | hfraction
      · exact absurd hneg (not_lt.mpr hnonneg)
      · exact hkeeps
      · rw [hnone] at hround
        cases hround
      · rw [← heq] at hfraction
        exact absurd (congrArg Int.cast (Decimal.halfEven_intCast u).symm) hfraction

namespace ResourceVector

/-! ## Vectors by their units -/

theorem mem_items {self : ResourceVector} {item : String × Nat} :
    item ∈ self.items ↔ self.units item.1 = item.2 ∧ 0 < item.2 := by
  constructor
  · exact fun h => ⟨units_of_mem h, self.positive item h⟩
  · rintro ⟨hunits, hpos⟩
    by_cases hname : item.1 ∈ self.items.map Prod.fst
    · obtain ⟨other, hother, hsame⟩ := List.mem_map.mp hname
      have hvalue : other.2 = item.2 := by rw [← hunits, ← hsame, units_of_mem hother]
      rwa [← Prod.ext hsame hvalue]
    · rw [units_eq_zero hname] at hunits
      omega

variable {v : ResourceVector}

theorem items_inj {w : ResourceVector} (h : v.items = w.items) : v = w := by
  cases v
  cases w
  cases h
  rfl

theorem ext_units {w : ResourceVector} (h : ∀ name, v.units name = w.units name) : v = w := by
  have hperm : v.items.Perm w.items := by
    refine (List.perm_ext_iff_of_nodup v.nodup.of_map w.nodup.of_map).mpr fun item => ?_
    rw [mem_items, mem_items, h]
  have hsorted : ∀ u : ResourceVector, u.items.Pairwise fun a b => a.1 < b.1 :=
    fun u => List.pairwise_map.mp u.sorted
  have hitems : v.items = w.items := by
    refine hperm.eq_of_pairwise ?_ (hsorted v) (hsorted w)
    intro a b _ _ hab hba
    exact absurd hba hab.asymm
  exact items_inj hitems

theorem units_sub {w d : ResourceVector} (h : v.sub w = some d) (name : String) :
    d.units name = v.units name - w.units name := by
  unfold sub at h
  by_cases hfits : w.fitsIn v
  · rw [if_pos hfits] at h
    rw [← Option.some.inj h, units_fromUnits, Dict.get?_tabulate]
    by_cases hname : name ∈ v.items.map Prod.fst ++ w.items.map Prod.fst
    · rw [if_pos hname]
      rfl
    · rw [if_neg hname]
      rw [List.mem_append, not_or] at hname
      rw [units_eq_zero hname.1]
      simp
  · rw [if_neg hfits] at h
    cases h

/-! ## The constructor -/

variable {d d' : Dict String Nat}

theorem normalize_eq_ok {entry : String × ResourceQuantity} :
    normalize d entry = .ok d' ↔ strip entry.1 ≠ "" ∧ ∃ u, toUnits entry.2 = .ok u ∧
      (if u ≠ 0 then d.set (strip entry.1) u else d) = d' := by
  simp [normalize, resourceName]

/-- Entries of different names are stored with their own units. -/
theorem normalize_spec {resources : List (String × ResourceQuantity)}
    (h : resources.foldlM normalize d = .ok d')
    (hnodup : (resources.map fun entry => strip entry.1).Nodup)
    (hnew : ∀ entry ∈ resources, d.get? (strip entry.1) = none) :
    (∀ name, name ∉ resources.map (fun entry => strip entry.1) → d'.get? name = d.get? name) ∧
      ∀ entry ∈ resources, strip entry.1 ≠ "" ∧
        toUnits entry.2 = .ok ((d'.get? (strip entry.1)).getD 0) := by
  induction resources generalizing d with
  | nil =>
    obtain rfl := Except.ok.inj h
    exact ⟨fun _ _ => rfl, nofun⟩
  | cons entry resources ih =>
    rw [List.foldlM_cons] at h
    obtain ⟨middle, hfirst, hrest⟩ := bind_eq_ok.mp h
    obtain ⟨hname, u, hunits, hmiddle⟩ := normalize_eq_ok.mp hfirst
    rw [List.map_cons, List.nodup_cons] at hnodup
    have hkept : ∀ name, name ≠ strip entry.1 → middle.get? name = d.get? name := by
      intro name hne
      rw [← hmiddle]
      by_cases hu : u ≠ 0
      · rw [if_pos hu, Dict.get?_set_of_ne _ _ hne.symm]
      · rw [if_neg hu]
    have hown : (middle.get? (strip entry.1)).getD 0 = u := by
      rw [← hmiddle]
      by_cases hu : u ≠ 0
      · rw [if_pos hu, Dict.get?_set_self]
        rfl
      · rw [if_neg hu, hnew entry List.mem_cons_self]
        exact (not_not.mp hu).symm
    have hother : ∀ other ∈ resources, middle.get? (strip other.1) = none := by
      intro other hmem
      rw [hkept _ fun hsame => hnodup.1 (List.mem_map.mpr ⟨other, hmem, hsame⟩)]
      exact hnew other (List.mem_cons_of_mem _ hmem)
    obtain ⟨hframe, hall⟩ := ih hrest hnodup.2 hother
    constructor
    · intro name habsent
      rw [List.map_cons, List.mem_cons, not_or] at habsent
      rw [hframe name habsent.2, hkept name habsent.1]
    · intro other hmem
      rcases List.mem_cons.mp hmem with rfl | hmem
      · rw [hframe _ hnodup.1, hown]
        exact ⟨hname, hunits⟩
      · exact hall other hmem

theorem normalize_ok (resources : List (String × ResourceQuantity)) (d : Dict String Nat)
    (h : ∀ entry ∈ resources, strip entry.1 ≠ "" ∧ ∃ u, toUnits entry.2 = .ok u) :
    ∃ d', resources.foldlM normalize d = .ok d' := by
  induction resources generalizing d with
  | nil => exact ⟨d, rfl⟩
  | cons entry resources ih =>
    obtain ⟨hname, u, hunits⟩ := h entry List.mem_cons_self
    obtain ⟨d', hd'⟩ := ih (if u ≠ 0 then d.set (strip entry.1) u else d)
      fun other hmem => h other (List.mem_cons_of_mem _ hmem)
    refine ⟨d', ?_⟩
    rw [List.foldlM_cons]
    exact bind_eq_ok.mpr ⟨_, normalize_eq_ok.mpr ⟨hname, u, hunits, rfl⟩, hd'⟩

variable {value : ResourceQuantity}

theorem make_singleton {name : String} :
    make [(name, value)] = .ok v → strip name ≠ "" ∧ toUnits value = .ok
      (v.units (strip name)) := by
  intro h
  obtain ⟨d, hd, hv⟩ := bind_eq_ok.mp h
  obtain rfl := Except.ok.inj hv
  have hspec := (normalize_spec hd (by simp) (by intro _ _; rfl)).2 (name, value) (by simp)
  rw [units_fromUnits]
  exact hspec

/-! ## There and back -/

/-- Units that survive the way through `to_dict`. -/
def ShortUnits (u : Nat) : Prop :=
  decimalContext.Keeps (u / 1000) ∧ (u : ℚ) < 10 ^ (decimalContext.emax + 1)

def Short (self : ResourceVector) : Prop := ∀ item ∈ self.items, ShortUnits item.2

variable {u : Nat}

theorem quantity_eq_ok : quantity u = .ok value ↔
    ∃ r, decimalContext.round (u / 1000) = some r ∧ value = .decimal (.finite r) := by
  unfold quantity
  cases decimalContext.round (u / 1000) <;> simp [eq_comm]

theorem ShortUnits.kept (h : ShortUnits u) (hu : 0 < u) :
    quantity u = .ok (.decimal (.finite (u / 1000))) ∧
      toUnits (.decimal (.finite (u / 1000))) = .ok u := by
  have hpos : (0 : ℚ) < u := by exact_mod_cast hu
  have hthousand : (u : ℚ) / 1000 * 10 ^ 3 = u := by ring
  have hwhole : decimalContext.Keeps u := by
    rw [← hthousand]
    exact h.1.mul_pow (c := decimalContext) (by positivity) 3
  have hsmall : (u : ℚ) / 1000 < 10 ^ (decimalContext.emax + 1) := by
    have hlt := h.2
    linarith
  refine ⟨quantity_eq_ok.mpr ⟨_, decimalContext.round_of_keeps h.1 hsmall, rfl⟩, ?_⟩
  refine numberUnits_finite.mpr ⟨by positivity, ?_⟩
  rw [div_mul_cancel₀ _ (by norm_num)]
  exact decimalContext.round_of_keeps hwhole h.2

theorem shortUnits_of_toUnits (hu : 0 < u) (hunits : toUnits value = .ok u) : ShortUnits u := by
  obtain ⟨d, -, hd⟩ := bind_eq_ok.mp hunits
  cases d with
  | infinite => exact nomatch hd
  | nan => exact nomatch hd
  | finite number =>
    obtain ⟨hnonneg, hround⟩ := numberUnits_finite.mp hd
    have hpos : (0 : ℚ) < u := by exact_mod_cast hu
    have hkeeps : decimalContext.Keeps u := by
      rw [decimalContext.round_eq_some hround]
      exact decimalContext.keeps_rounded (by positivity)
    have hlog : 0 ≤ Int.log 10 (u : ℚ) := by
      refine (Int.zpow_le_iff_le_log (by norm_num) hpos).mp ?_
      exact_mod_cast hu
    have hfirst : Int.log 10 (u : ℚ) - 27 ≤ decimalContext.lastDigit u := le_max_left _ _
    have hlow : decimalContext.etiny + 3 ≤ decimalContext.lastDigit u := by
      have hetiny : decimalContext.etiny = -1000026 := by decide
      omega
    refine ⟨?_, decimalContext.lt_of_round hround⟩
    have hshifted := hkeeps.div_pow (c := decimalContext) hpos (k := 3) hlow
    norm_num at hshifted
    exact hshifted

theorem Named.item (h : v.Named) {item : String × Nat} (hitem : item ∈ v.items) :
    strip item.1 = item.1 ∧ item.1 ≠ "" := by
  refine h item.1 ?_
  rw [units_of_mem hitem]
  exact v.positive item hitem

theorem make_entries {w : ResourceVector} {entries : List (String × ResourceQuantity)}
    (hnamed : v.Named) (hnames : entries.map Prod.fst = v.items.map Prod.fst)
    (h : make entries = .ok w) :
    (∀ entry ∈ entries, toUnits entry.2 = .ok (w.units entry.1)) ∧
      ∀ name, name ∉ v.items.map Prod.fst → w.units name = 0 := by
  obtain ⟨d, hd, hw⟩ := bind_eq_ok.mp h
  obtain rfl := Except.ok.inj hw
  have hname : ∀ entry ∈ entries, strip entry.1 = entry.1 := by
    intro entry hmem
    have hmem' : entry.1 ∈ v.items.map Prod.fst := hnames ▸ List.mem_map_of_mem hmem
    obtain ⟨item, hitem, hsame⟩ := List.mem_map.mp hmem'
    rw [← hsame]
    exact (hnamed.item hitem).1
  have hstrip : (entries.map fun entry => strip entry.1) = v.items.map Prod.fst := by
    rw [← hnames]
    exact List.map_congr_left hname
  obtain ⟨hframe, hall⟩ := normalize_spec hd (hstrip ▸ v.nodup) fun _ _ => rfl
  refine ⟨fun entry hmem => ?_, fun name habsent => ?_⟩
  · have hunits := (hall entry hmem).2
    rwa [hname entry hmem, ← units_fromUnits] at hunits
  · rw [units_fromUnits, hframe name (hstrip ▸ habsent)]
    rfl

/-- A vector comes back as it was exactly when its units have few enough digits. -/
theorem reparse_eq_iff (hnamed : v.Named) : v.reparse = .ok v ↔ v.Short := by
  constructor
  · intro h item hitem
    obtain ⟨entries, hquantities, hmake⟩ := bind_eq_ok.mp h
    have hpairs : List.Forall₂ (fun item entry => entry.1 = item.1 ∧
        quantity item.2 = .ok entry.2) v.items entries := by
      refine (mapM_eq_ok.mp hquantities).imp fun item entry hentry => ?_
      obtain ⟨value, hvalue, hpair⟩ := bind_eq_ok.mp hentry
      obtain rfl := Except.ok.inj hpair
      exact ⟨rfl, hvalue⟩
    have hnames : entries.map Prod.fst = v.items.map Prod.fst := by
      rw [← List.forall₂_eq_eq_eq, List.forall₂_map_left_iff, List.forall₂_map_right_iff]
      exact hpairs.flip.imp fun _ _ hpair => hpair.1
    obtain ⟨entry, hentry, hname, hvalue⟩ := exists_of_forall₂_left hpairs hitem
    have hunits := (make_entries hnamed hnames hmake).1 entry hentry
    rw [hname, units_of_mem hitem] at hunits
    exact shortUnits_of_toUnits (v.positive item hitem) hunits
  · intro hshort
    have hkept : ∀ item ∈ v.items, _ := fun item hitem =>
      (hshort item hitem).kept (v.positive item hitem)
    have hquantities : v.quantities =
        .ok (v.items.map fun item => (item.1, .decimal (.finite (item.2 / 1000)))) := by
      refine mapM_eq_ok.mpr ?_
      rw [List.forall₂_map_right_iff, List.forall₂_same]
      intro item hitem
      rw [(hkept item hitem).1]
      rfl
    obtain ⟨d, hd⟩ := normalize_ok
        (v.items.map fun item => (item.1, .decimal (.finite (item.2 / 1000)))) .empty <| by
      intro entry hentry
      obtain ⟨item, hitem, rfl⟩ := List.mem_map.mp hentry
      obtain ⟨hstrip, hne⟩ := hnamed.item hitem
      exact ⟨by rwa [hstrip], _, (hkept item hitem).2⟩
    have hmake : make (v.items.map fun item => (item.1, .decimal (.finite (item.2 / 1000)))) =
        .ok (fromUnits d) := bind_eq_ok.mpr ⟨d, hd, rfl⟩
    have hnames : (v.items.map fun item : String × Nat => ((item.1,
        .decimal (.finite (item.2 / 1000))) : String × ResourceQuantity)).map Prod.fst =
          v.items.map Prod.fst := by simp
    obtain ⟨hall, hzero⟩ := make_entries hnamed hnames hmake
    refine bind_eq_ok.mpr ⟨_, hquantities, hmake.trans (congrArg Except.ok ?_)⟩
    refine ext_units fun name => ?_
    by_cases hname : name ∈ v.items.map Prod.fst
    · obtain ⟨item, hitem, rfl⟩ := List.mem_map.mp hname
      have hunits := hall _ (List.mem_map_of_mem hitem)
      rw [(hkept item hitem).2] at hunits
      rw [units_of_mem hitem]
      exact (Except.ok.inj hunits).symm
    · rw [hzero name hname, units_eq_zero hname]

/-! ## Exact accounting -/

/-- The vectors a program comes by: differences keep the names that were there before. -/
inductive Built : ResourceVector → Prop
  | make {resources v} : make resources = .ok v → Built v
  | add {v w} : Built v → Built w → Built (v.add w)
  | narrowed {v w} : Built v → (∀ name, 0 < w.units name → 0 < v.units name) → Built w

variable {p : String → Nat → Prop}

theorem normalize_all {resources : List (String × ResourceQuantity)}
    (h : resources.foldlM normalize d = .ok d')
    (hp : ∀ entry ∈ resources, ∀ u, strip entry.1 ≠ "" → toUnits entry.2 = .ok u → 0 < u →
      p (strip entry.1) u)
    (hd : ∀ name u, d.get? name = some u → p name u) :
    ∀ name u, d'.get? name = some u → p name u := by
  induction resources generalizing d with
  | nil =>
    obtain rfl := Except.ok.inj h
    exact hd
  | cons entry resources ih =>
    rw [List.foldlM_cons] at h
    obtain ⟨middle, hfirst, hrest⟩ := bind_eq_ok.mp h
    obtain ⟨hname, u, hunits, rfl⟩ := normalize_eq_ok.mp hfirst
    have hothers := fun other hmem => hp other (List.mem_cons_of_mem entry hmem)
    refine ih hrest hothers fun name v hget => ?_
    by_cases hu : u ≠ 0
    · rw [if_pos hu] at hget
      by_cases hsame : strip entry.1 = name
      · rw [hsame, Dict.get?_set_self] at hget
        rw [← hsame, ← Option.some.inj hget]
        exact hp entry List.mem_cons_self u hname hunits (Nat.pos_of_ne_zero hu)
      · rw [Dict.get?_set_of_ne _ _ hsame] at hget
        exact hd name v hget
    · rw [if_neg hu] at hget
      exact hd name v hget

theorem make_all {resources : List (String × ResourceQuantity)} (h : make resources = .ok v)
    (hp : ∀ entry ∈ resources, ∀ u, strip entry.1 ≠ "" → toUnits entry.2 = .ok u → 0 < u →
      p (strip entry.1) u) :
    ∀ name, 0 < v.units name → p name (v.units name) := by
  intro name hpos
  obtain ⟨d, hd, hv⟩ := bind_eq_ok.mp h
  obtain rfl := Except.ok.inj hv
  rw [units_fromUnits] at hpos ⊢
  cases hget : d.get? name with
  | none =>
    rw [hget] at hpos
    exact absurd hpos (lt_irrefl _)
  | some u => exact normalize_all hd hp (fun _ _ h => nomatch h) name u hget

theorem Built.named (h : v.Built) : v.Named := by
  induction h with
  | make hmake =>
    exact make_all (p := fun name _ => strip name = name ∧ name ≠ "") hmake
      fun entry _ u hname _ _ => ⟨strip_strip _, hname⟩
  | @add v w _ _ ihv ihw =>
    intro name hpos
    rw [units_add] at hpos
    by_cases hleft : 0 < v.units name
    · exact ihv name hleft
    · exact ihw name (by omega)
  | narrowed _ hnames ih => exact fun name hpos => ih name (hnames name hpos)

theorem make_short {resources : List (String × ResourceQuantity)} (h : make resources = .ok v) :
    v.Short := by
  intro item hitem
  obtain ⟨hunits, hpos⟩ := mem_items.mp hitem
  rw [← hunits] at hpos ⊢
  exact make_all (p := fun _ u => ShortUnits u) h
    (fun _ _ _ _ hu hpositive => shortUnits_of_toUnits hpositive hu) item.1 hpos

theorem reparse_reparse {w : ResourceVector} (h : v.reparse = .ok w) : w.reparse = .ok w := by
  obtain ⟨_, -, hmake⟩ := bind_eq_ok.mp h
  exact (reparse_eq_iff (Built.make hmake).named).mpr (make_short hmake)

end ResourceVector

def ResourceQuantity.Exact (value : ResourceQuantity) : Prop :=
  ∀ d, value.number = .ok d → d.Exact

open ResourceVector

/-- A quantity is refused or stored exactly, unless digits of its milli-units are lost. A vector
survives `to_dict` and the constructor exactly when its units are short. Sums, differences and
comparisons are exact. -/
structure ResourceVectorSpec (name : String) (value : ResourceQuantity) (v w : ResourceVector) :
    Prop where
  stored : (∀ r, make [(name, value)] = .ok r → ∃ x, value.number = .ok (.finite x) ∧
    (r.units (strip name) : ℚ) = x * 1000) ↔ strip name = "" ∨ value.Exact
  back : v.Built → (v.reparse = .ok v ↔ v.Short)
  sum : ∀ resource, (v.add w).units resource = v.units resource + w.units resource
  fits : v.fitsIn w = true ↔ ∀ resource, v.units resource ≤ w.units resource
  subtracts : (v.sub w).isSome ↔ ∀ resource, w.units resource ≤ v.units resource
  difference : ∀ d, v.sub w = some d → ∀ resource,
    (d.units resource : Int) = v.units resource - w.units resource

theorem resourceVectorSpec (name : String) (value : ResourceQuantity) (v w : ResourceVector) :
    ResourceVectorSpec name value v w where
  stored := by
    constructor
    · intro h
      by_cases hname : strip name = ""
      · exact .inl hname
      refine .inr fun d hd => (numberUnits_exact_iff d).mp fun u hu => ?_
      have hunits : toUnits value = .ok u := bind_eq_ok.mpr ⟨d, hd, hu⟩
      obtain ⟨normalized, hnormalized⟩ := normalize_ok [(name, value)] .empty <| by
        intro entry hentry
        rw [List.mem_singleton.mp hentry]
        exact ⟨hname, u, hunits⟩
      have hmake : make [(name, value)] = .ok (fromUnits normalized) :=
        bind_eq_ok.mpr ⟨normalized, hnormalized, rfl⟩
      have hsame := (make_singleton hmake).2
      rw [hunits] at hsame
      obtain ⟨x, hx, hexact⟩ := h _ hmake
      rw [← Except.ok.inj hsame, Except.ok.inj (hd.symm.trans hx)] at *
      exact ⟨x, rfl, hexact⟩
    · rintro hexact r hmake
      obtain ⟨hname, hunits⟩ := make_singleton hmake
      obtain ⟨d, hd, hu⟩ := bind_eq_ok.mp hunits
      rcases hexact with hempty | hexact
      · exact absurd hempty hname
      · obtain ⟨x, rfl, hx⟩ := (numberUnits_exact_iff d).mpr (hexact d hd) _ hu
        exact ⟨x, hd, hx⟩
  back h := reparse_eq_iff h.named
  sum := units_add v w
  fits := fitsIn_iff
  subtracts := by
    rw [← fitsIn_iff, ResourceVector.sub]
    cases w.fitsIn v <;> simp
  difference d h resource := by
    rw [units_sub h]
    have hfits : w.fitsIn v = true := by
      unfold ResourceVector.sub at h
      by_contra hfits
      rw [if_neg hfits] at h
      cases h
    have hle := fitsIn_iff.mp hfits resource
    omega

/-- Twenty-nine digits are stored as another number. -/
theorem long_quantity_rounded : ∃ value v x, make [("CPU", value)] = .ok v ∧
    value.number = .ok (.finite x) ∧ (v.units (strip "CPU") : ℚ) ≠ x * 1000 := by
  refine ⟨.decimal (.finite 12345678901234567890123456789),
    fromUnits (Dict.empty.set "CPU" 12345678901234567890123456790000),
    12345678901234567890123456789, ?_, rfl, ?_⟩
  · decide +kernel
  · rw [units_fromUnits]
    decide +kernel

end MiniRay
