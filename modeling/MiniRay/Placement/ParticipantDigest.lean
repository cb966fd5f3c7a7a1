import MiniRay.Library.DecimalText
import MiniRay.Library.Framing
import MiniRay.Placement.Reservation
import MiniRay.PublicationSources
import MiniRay.Resources.Quantities

/-! What a coordinator and a Node hash of a participant to agree on what is prepared. Nothing says
how many resources a bundle has, so the digest relies on indexes not looking like lengths. -/

namespace MiniRay

open Checked Framing Sha256 ResourceVector

structure PlacementGroupAttempt where
  placementGroupId : PlacementGroupID
  attemptNumber : Nat

/-- The arguments of `participant_digest`. -/
structure Participant where
  attempt : PlacementGroupAttempt
  nodeId : NodeID
  bundles : List Bundle

/-- The exponent of a quotient by a thousand that the division leaves. -/
def idealExponent (value : ℚ) : Int :=
  if value.den ∣ 1 then 0 else if value.den ∣ 10 then -1 else if value.den ∣ 100 then -2 else -3

/-- `str` of a quotient by a thousand, of which the context keeps so many digits. -/
def quotientText (value : ℚ) : String :=
  let exponent := max (idealExponent value) (decimalContext.lastDigit value)
  String.ofList (Decimal.text ⌊value / 10 ^ exponent⌋.toNat exponent)

/-- A quantity as `to_dict` has it. -/
def quantityText (units : Nat) : String := quotientText (decimalContext.rounded (units / 1000))

namespace Participant

/-- What one resource adds; `items` are sorted already. -/
def resourceBytes (item : String × Nat) : List UInt8 :=
  let encodedName := utf8 item.1
  let encodedQuantity := utf8 (quantityText item.2)
  bigEndian 4 encodedName.length ++ encodedName ++
    (bigEndian 4 encodedQuantity.length ++ encodedQuantity)

def bundleBytes (bundle : Bundle) : List UInt8 :=
  bigEndian 8 bundle.index ++ bundle.resources.items.flatMap resourceBytes

def ordered (self : Participant) : List Bundle :=
  self.bundles.insertionSort fun a b => a.index ≤ b.index

def bytes (self : Participant) : List UInt8 :=
  self.attempt.placementGroupId.value.bytes ++ bigEndian 8 self.attempt.attemptNumber ++
    self.nodeId.value.bytes ++ self.ordered.flatMap bundleBytes

/-- Every `to_bytes` and every division succeeds. -/
def Encodes (self : Participant) : Prop :=
  self.attempt.attemptNumber < 256 ^ 8 ∧ ∀ bundle ∈ self.bundles, bundle.index < 256 ^ 8 ∧
    ∀ item ∈ bundle.resources.items, (utf8 item.1).length < 256 ^ 4 ∧
      (utf8 (quantityText item.2)).length < 256 ^ 4 ∧
      (decimalContext.round (item.2 / 1000)).isSome

instance (self : Participant) : Decidable self.Encodes := inferInstanceAs (Decidable (_ ∧ _))

/-- The bytes that are hashed, unless a number overflows. -/
def payload (self : Participant) : Option (List UInt8) :=
  if self.Encodes then some self.bytes else none

def participantDigest (self : Participant) : Option String := self.payload.map hexdigest

end Participant

/-! ## Texts of quantities -/

theorem whole_of_den {value : ℚ} {k : Nat} (h : value.den ∣ 10 ^ k) :
    ∃ n : ℤ, value / 10 ^ (-(k : ℤ)) = n := by
  obtain ⟨c, hc⟩ := h
  have hpower : (10 : ℚ) ^ k = value.den * c := by exact_mod_cast hc
  refine ⟨value.num * c, ?_⟩
  rw [zpow_neg, div_inv_eq_mul, zpow_natCast, hpower, ← mul_assoc, Rat.mul_den_eq_num]
  push_cast
  rfl

variable {u : Nat}

theorem whole_ideal {value : ℚ} (h : value * 1000 = u) :
    ∃ n : ℤ, value / 10 ^ idealExponent value = n := by
  unfold idealExponent
  by_cases hunit : value.den ∣ 1
  · rw [if_pos hunit]
    exact whole_of_den (k := 0) hunit
  by_cases hten : value.den ∣ 10
  · rw [if_neg hunit, if_pos hten]
    exact whole_of_den (k := 1) hten
  by_cases hhundred : value.den ∣ 100
  · rw [if_neg hunit, if_neg hten, if_pos hhundred]
    exact whole_of_den (k := 2) hhundred
  · rw [if_neg hunit, if_neg hten, if_neg hhundred]
    refine ⟨u, ?_⟩
    rw [zpow_neg, div_inv_eq_mul]
    exact_mod_cast h

/-- The text of a quantity says its units, unless there are more digits than are kept. -/
theorem read_quantityText (h : ShortUnits u) : Decimal.read (quantityText u).toList = u / 1000 := by
  have hkept : decimalContext.rounded (u / 1000) = u / 1000 :=
    decimalContext.rounded_eq_iff.mpr h.1
  rw [quantityText, hkept]
  generalize hvalue : (u : ℚ) / 1000 = value
  have hunits : value * 1000 = u := by
    rw [← hvalue]
    ring
  have hnonneg : 0 ≤ value := by
    rw [← hvalue]
    positivity
  have hkeeps : decimalContext.Keeps value := by
    rw [← hvalue]
    exact h.1
  simp only [quotientText, String.toList_ofList, Decimal.read_text]
  generalize hexponent : max (idealExponent value) (decimalContext.lastDigit value) = exponent
  have hten : (0 : ℚ) < 10 ^ exponent := Decimal.Context.ten_zpow_pos exponent
  have hwhole : ∃ n : ℤ, value / 10 ^ exponent = n := by
    rcases max_choice (idealExponent value) (decimalContext.lastDigit value) with hmax | hmax
    · rw [← hexponent, hmax]
      exact whole_ideal hunits
    · rw [← hexponent, hmax]
      exact hkeeps
  obtain ⟨n, hn⟩ := hwhole
  have hpos : 0 ≤ n := by
    have hscaled : 0 ≤ value / 10 ^ exponent := div_nonneg hnonneg hten.le
    rw [hn] at hscaled
    exact_mod_cast hscaled
  have hcast : ((n.toNat : ℕ) : ℚ) = n := by exact_mod_cast Int.toNat_of_nonneg hpos
  rw [hn, Int.floor_intCast, hcast, ← hn, div_mul_cancel₀ _ hten.ne']

theorem quantityText_inj {w : Nat} (hu : ShortUnits u) (hw : ShortUnits w)
    (h : utf8 (quantityText u) = utf8 (quantityText w)) : u = w := by
  have hread := congrArg (fun text => Decimal.read text.toList) (toUTF8_inj h)
  simp only [read_quantityText hu, read_quantityText hw] at hread
  have hunits : (u : ℚ) = w := by linarith
  exact_mod_cast hunits

/-! ## Reading a digest's bytes -/

namespace Participant

/-- The bytes of all bundles fall into these. -/
inductive Part
  | index (n : Nat)
  | resource (item : String × Nat)

def Part.bytes : Part → List UInt8
  | .index n => bigEndian 8 n
  | .resource item => resourceBytes item

/-- Indexes have four zeros in front, and no name is empty. -/
def Part.Legible : Part → Prop
  | .index n => n < 2 ^ 32
  | .resource item => item.1 ≠ "" ∧ (utf8 item.1).length < 256 ^ 4 ∧
      (utf8 (quantityText item.2)).length < 256 ^ 4 ∧ ShortUnits item.2

def parts (bundle : Bundle) : List Part :=
  .index bundle.index :: bundle.resources.items.map .resource

theorem bundleBytes_eq (bundle : Bundle) :
    bundleBytes bundle = (parts bundle).flatMap Part.bytes := by
  rw [bundleBytes, parts, List.flatMap_cons, List.flatMap_map]
  rfl

theorem utf8_ne_nil {name : String} (h : name ≠ "") : utf8 name ≠ [] :=
  fun hnil => h (toUTF8_inj hnil)

theorem index_ne_resource {index : Nat} {item : String × Nat} {x y : List UInt8}
    (hindex : index < 2 ^ 32) (hname : item.1 ≠ "") (hlength : (utf8 item.1).length < 256 ^ 4) :
    bigEndian 8 index ++ x ≠ resourceBytes item ++ y := by
  intro h
  have hsplit : bigEndian 8 index = bigEndian 4 0 ++ bigEndian 4 index := by
    have hbytes : ∀ k, 4 ≤ k → index / 256 ^ k = 0 := fun k hk =>
      Nat.div_eq_of_lt (hindex.trans_le (Nat.pow_le_pow_right (n := 256) (by decide) hk))
    rw [bigEndian, bigEndian, bigEndian, bigEndian, hbytes 7 (by decide), hbytes 6 (by decide),
      hbytes 5 (by decide), hbytes 4 (by decide)]
    rfl
  simp only [hsplit, resourceBytes, List.append_assoc] at h
  have hzero := bigEndian_inj (by decide) hlength (List.append_inj h (by simp)).1
  exact utf8_ne_nil hname (List.length_eq_zero_iff.mp hzero.symm)

theorem resource_inj {item item' : String × Nat} {x y : List UInt8}
    (h : (Part.resource item).Legible) (h' : (Part.resource item').Legible)
    (heq : resourceBytes item ++ x = resourceBytes item' ++ y) : item = item' ∧ x = y := by
  obtain ⟨-, hname, htext, hshort⟩ := h
  obtain ⟨-, hname', htext', hshort'⟩ := h'
  simp only [resourceBytes, List.append_assoc _ (_ ++ _) _] at heq
  obtain ⟨hnames, hrest⟩ := counted_append_inj hname hname' heq
  obtain ⟨htexts, hrest⟩ := counted_append_inj htext htext' hrest
  exact ⟨Prod.ext (toUTF8_inj hnames) (quantityText_inj hshort hshort' htexts), hrest⟩

theorem part_inj (a b : Part) (x y : List UInt8) (ha : a.Legible) (hb : b.Legible)
    (h : a.bytes ++ x = b.bytes ++ y) : a = b ∧ x = y := by
  cases a with
  | index i =>
    cases b with
    | index j =>
      obtain ⟨hbytes, hrest⟩ := List.append_inj h (by simp [Part.bytes])
      have hwide : 2 ^ 32 < 256 ^ 8 := by decide
      exact ⟨congrArg _ (bigEndian_inj (ha.trans hwide) (hb.trans hwide) hbytes), hrest⟩
    | resource item => exact absurd h (index_ne_resource ha hb.1 hb.2.1)
  | resource item =>
    cases b with
    | index j => exact absurd h.symm (index_ne_resource hb ha.1 ha.2.1)
    | resource item' =>
      obtain ⟨hitem, hrest⟩ := resource_inj ha hb h
      exact ⟨congrArg _ hitem, hrest⟩

def Part.item? : Part → Option (String × Nat)
  | .index _ => none
  | .resource item => some item

theorem parts_inj {xs ys : List Bundle} (h : xs.flatMap parts = ys.flatMap parts) : xs = ys := by
  have htake : ∀ (items : List (String × Nat)) (bundles : List Bundle),
      (items.map Part.resource ++ bundles.flatMap parts).takeWhile (·.item?.isSome) =
        items.map .resource := by
    intro items bundles
    have hall : ∀ part ∈ items.map Part.resource, part.item?.isSome = true := by
      intro part hpart
      obtain ⟨item, -, rfl⟩ := List.mem_map.mp hpart
      rfl
    rw [List.takeWhile_append_of_pos hall]
    cases bundles with
    | nil => exact List.append_nil _
    | cons bundle rest => exact List.append_nil _
  induction xs generalizing ys with
  | nil =>
    cases ys with
    | nil => rfl
    | cons b ys => exact nomatch h
  | cons a xs ih =>
    cases ys with
    | nil => exact nomatch h
    | cons b ys =>
      rw [List.flatMap_cons, List.flatMap_cons, parts, parts, List.cons_append,
        List.cons_append] at h
      obtain ⟨hindex, hrest⟩ := List.cons.inj h
      have hitems := congrArg (List.takeWhile (·.item?.isSome)) hrest
      rw [htake, htake] at hitems
      rw [hitems, List.append_cancel_left_eq] at hrest
      have hresources : a.resources = b.resources := items_inj
        (List.map_injective_iff.mpr (fun _ _ => Part.resource.inj) hitems)
      have hbundle : a = b := by
        cases a
        cases b
        exact congrArg₂ Bundle.mk (Part.index.inj hindex) hresources
      rw [hbundle, ih hrest]

/-- What `participant_digest` may be asked for, with all indexes below a bound. -/
structure Admitted (p : Participant) (bound : Nat) : Prop where
  unique : (p.bundles.map Bundle.index).Nodup
  indexes : ∀ bundle ∈ p.bundles, bundle.index < bound
  resources : ∀ bundle ∈ p.bundles, ∃ entries, make entries = .ok bundle.resources

def Same (p q : Participant) : Prop :=
  p.attempt = q.attempt ∧ p.nodeId = q.nodeId ∧ p.ordered = q.ordered

variable {p : Participant}

theorem payload_eq_some {bytes : List UInt8} (h : p.payload = some bytes) :
    p.Encodes ∧ p.bytes = bytes := by
  unfold payload at h
  by_cases hencodes : p.Encodes
  · rw [if_pos hencodes] at h
    exact ⟨hencodes, Option.some.inj h⟩
  · rw [if_neg hencodes] at h
    cases h

theorem Admitted.legible {bound : Nat} (h : p.Admitted bound) (hbound : bound ≤ 2 ^ 32)
    (hencodes : p.Encodes) : ∀ part ∈ p.ordered.flatMap parts, part.Legible := by
  intro part hpart
  obtain ⟨bundle, hordered, hpart⟩ := List.mem_flatMap.mp hpart
  have hbundle : bundle ∈ p.bundles := (List.mem_insertionSort _).mp hordered
  rcases List.mem_cons.mp hpart with rfl | hresource
  · exact (h.indexes bundle hbundle).trans_le hbound
  · obtain ⟨item, hitem, rfl⟩ := List.mem_map.mp hresource
    obtain ⟨entries, hmake⟩ := h.resources bundle hbundle
    have hfits := (hencodes.2 bundle hbundle).2 item hitem
    exact ⟨((Built.make hmake).named.item hitem).2, hfits.1, hfits.2.1, make_short hmake item hitem⟩

theorem same_of_bytes {q : Participant} {bound : Nat} (hbound : bound ≤ 2 ^ 32)
    (hp : p.Admitted bound) (hq : q.Admitted bound) (hpe : p.Encodes) (hqe : q.Encodes)
    (h : p.bytes = q.bytes) : p.Same q := by
  simp only [bytes, List.append_assoc] at h
  obtain ⟨hgroup, h⟩ := List.append_inj h (by simp [OpaqueValue.bytes])
  obtain ⟨hnumber, h⟩ := List.append_inj h (by simp)
  obtain ⟨hnode, h⟩ := List.append_inj h (by simp [OpaqueValue.bytes])
  have hattempt : p.attempt = q.attempt := by
    have hnumbers := bigEndian_inj hpe.1 hqe.1 hnumber
    have hgroups := congrArg PlacementGroupID.mk (OpaqueValue.bytes_inj hgroup)
    exact congrArg₂ PlacementGroupAttempt.mk hgroups hnumbers
  have hparts : p.ordered.flatMap parts = q.ordered.flatMap parts := by
    have hne : ∀ part : Part, part.bytes ≠ [] := by
      rintro (n | item)
      · exact List.cons_ne_nil _ _
      · exact List.cons_ne_nil _ _
    refine flatMap_inj hne part_inj (hp.legible hbound hpe) (hq.legible hbound hqe) ?_
    simp only [List.flatMap_assoc, ← bundleBytes_eq]
    exact h
  exact ⟨hattempt, congrArg NodeID.mk (OpaqueValue.bytes_inj hnode), parts_inj hparts⟩

/-! ## A collision

The length of a first name and the name of one zero look like the index `2 ^ 32`. -/

theorem utf8_ofList (cs : List Char) :
    utf8 (String.ofList cs) = cs.flatMap String.utf8EncodeChar := by
  have h : (String.ofList cs).toUTF8 = (cs.flatMap String.utf8EncodeChar).toByteArray :=
    String.toByteArray_ofList
  rw [utf8, h, List.data_toByteArray]

theorem strip_ofList {cs : List Char} (h : ∀ ch ∈ cs, isSpace ch = false) :
    strip (String.ofList cs) = String.ofList cs := by
  have hdrop : cs.dropWhile isSpace = cs := by
    refine List.dropWhile_eq_self_iff.mpr fun hlt hspace => ?_
    rw [h _ (List.getElem_mem hlt)] at hspace
    cases hspace
  have hrdrop : cs.rdropWhile isSpace = cs := by
    refine List.rdropWhile_eq_self_iff.mpr fun hne hspace => ?_
    rw [h _ (List.getLast_mem hne)] at hspace
    cases hspace
  rw [strip, String.toList_ofList, stripChars, hdrop, hrdrop]

def longName (n : Nat) : String := String.ofList (List.replicate n 'a')

/-- Its first two bytes end the length of a long name. -/
def countedName (n : Nat) : String := String.ofList ('\x01' :: '/' :: List.replicate n 'a')

def twoNames (n : Nat) : ResourceVector where
  items := [("\x00", 1000), (longName (n + 1), 1000)]
  sorted := by
    have hlist : (longName (n + 1)).toList = 'a' :: List.replicate n 'a' := by
      rw [longName, List.replicate_succ, String.toList_ofList]
    have hlt : "\x00" < longName (n + 1) := by
      rw [String.lt_iff, hlist]
      exact List.Lex.rel (show '\x00' < 'a' by decide)
    simpa using hlt
  positive := by simp

def oneName (n : Nat) : ResourceVector where
  items := [(countedName n, 1000)]
  sorted := List.pairwise_singleton _ _
  positive := by simp

/-- One bundle with a short and a long name. -/
def short (n : Nat) : Participant := ⟨⟨⟨0⟩, 0⟩, ⟨0⟩, [⟨0, twoNames n⟩]⟩

/-- An empty bundle, and one under a large index. -/
def large (n : Nat) : Participant :=
  ⟨⟨⟨0⟩, 0⟩, ⟨0⟩, [⟨0, .empty⟩, ⟨2 ^ 32, oneName (n + 1)⟩]⟩

theorem ordered_large (n : Nat) : (large n).ordered = (large n).bundles := by
  simp [ordered, large]

theorem length_longName (n : Nat) : (utf8 (longName n)).length = n := by
  have hsize : ('a').utf8Size = 1 := by decide
  simp [longName, utf8_ofList, List.length_flatMap, hsize]

theorem utf8_countedName (n : Nat) : utf8 (countedName n) = 1 :: 47 :: utf8 (longName n) := by
  rw [countedName, longName, utf8_ofList, utf8_ofList]
  rfl

variable {n : Nat}

theorem collision_bytes (hshort : bigEndian 4 (n + 1) = [1, 49, 1, 47])
    (hlarge : bigEndian 4 (n + 3) = [1, 49, 1, 49]) : (short n).bytes = (large n).bytes := by
  have hquantity : utf8 (quantityText 1000) = [49] := by decide +kernel
  have hzero : utf8 "\x00" = [0] := by decide +kernel
  have hindex : bigEndian 8 4294967296 = [0, 0, 0, 1, 0, 0, 0, 0] := by decide
  have hone : bigEndian 4 1 = [0, 0, 0, 1] := by decide
  have hordered : (short n).ordered = [⟨0, twoNames n⟩] := rfl
  rw [bytes, bytes, ordered_large, hordered]
  simp [short, large, bundleBytes, resourceBytes, twoNames, oneName, ResourceVector.empty,
    hquantity, hzero, hindex,
    hone, hshort, hlarge, utf8_countedName, length_longName]

/-- A name that can be passed and encoded as it is. -/
def Usable (name : String) : Prop :=
  name ≠ "" ∧ (∀ ch ∈ name.toList, isSpace ch = false) ∧ (utf8 name).length < 256 ^ 4

theorem usable_longName (hn : n + 1 < 256 ^ 4) : Usable (longName (n + 1)) := by
  refine ⟨by simp [longName, List.replicate_succ], fun ch hch => ?_, by rwa [length_longName]⟩
  rw [longName, String.toList_ofList] at hch
  rw [List.eq_of_mem_replicate hch]
  decide

theorem usable_countedName (hn : n + 2 < 256 ^ 4) : Usable (countedName n) := by
  refine ⟨by simp [countedName], fun ch hch => ?_, by
    simpa [utf8_countedName, length_longName] using hn⟩
  rw [countedName, String.toList_ofList] at hch
  rcases List.mem_cons.mp hch with rfl | hch
  · decide
  rcases List.mem_cons.mp hch with rfl | hch
  · decide
  · rw [List.eq_of_mem_replicate hch]
    decide

/-- Every bundle has one unit of each of some names. -/
def Units (p : Participant) : Prop := ∀ bundle ∈ p.bundles, bundle.index < 256 ^ 8 ∧
  ∀ item ∈ bundle.resources.items, Usable item.1 ∧ item.2 = 1000

theorem Units.exists_make (h : p.Units) {bundle : Bundle} (hbundle : bundle ∈ p.bundles) :
    ∃ entries, make entries = .ok bundle.resources := by
  have hitems := (h bundle hbundle).2
  have hnamed : bundle.resources.Named := by
    intro name hpos
    obtain ⟨hne, hspaces, -⟩ := (hitems (name, _) (mem_items.mpr ⟨rfl, hpos⟩)).1
    have hstrip := strip_ofList hspaces
    rw [String.ofList_toList] at hstrip
    exact ⟨hstrip, hne⟩
  have hone : toUnits (.integer 1) = .ok 1000 := by decide +kernel
  have hshort : bundle.resources.Short := by
    intro item hitem
    rw [(hitems item hitem).2]
    exact shortUnits_of_toUnits (by decide) hone
  obtain ⟨entries, -, hmake⟩ := bind_eq_ok.mp ((reparse_eq_iff hnamed).mpr hshort)
  exact ⟨entries, hmake⟩

theorem Units.payload (h : p.Units) (hattempt : p.attempt.attemptNumber = 0) :
    p.payload = some p.bytes := by
  have hround : (decimalContext.round ((1000 : ℕ) / 1000)).isSome := by decide +kernel
  have htext : (utf8 (quantityText 1000)).length < 256 ^ 4 := by decide +kernel
  refine if_pos ⟨by rw [hattempt]; decide, fun bundle hbundle => ?_⟩
  obtain ⟨hindex, hitems⟩ := h bundle hbundle
  refine ⟨hindex, fun item hitem => ?_⟩
  obtain ⟨husable, hunits⟩ := hitems item hitem
  rw [hunits]
  exact ⟨husable.2.2, htext, hround⟩

theorem units_short (hn : n + 1 < 256 ^ 4) : (short n).Units := by
  have hzero : Usable "\x00" := by
    refine ⟨by decide, fun ch hch => ?_, by decide +kernel⟩
    have hchars : "\x00".toList = ['\x00'] := by decide
    rw [hchars, List.mem_singleton] at hch
    rw [hch]
    decide
  intro bundle hbundle
  obtain rfl := List.mem_singleton.mp hbundle
  refine ⟨Nat.pow_pos (by decide), fun item hitem => ?_⟩
  rcases List.mem_pair.mp hitem with rfl | rfl
  · exact ⟨hzero, rfl⟩
  · exact ⟨usable_longName hn, rfl⟩

theorem units_large (hn : n + 3 < 256 ^ 4) : (large n).Units := by
  simpa [Units, large, oneName, ResourceVector.empty] using usable_countedName hn

/-- Below `2 ^ 32` no index looks like a length; the first one that does collides. -/
theorem payload_injective_iff (bound : Nat) :
    (∀ (p q : Participant) (bytes : List UInt8), p.Admitted bound → q.Admitted bound →
      p.payload = some bytes → q.payload = some bytes → p.Same q) ↔ bound ≤ 2 ^ 32 := by
  constructor
  · intro h
    by_contra hlarge
    obtain ⟨n, hn⟩ : ∃ n, n = 0x0131012E := ⟨_, rfl⟩
    have hbytes : (short n).bytes = (large n).bytes :=
      collision_bytes (by rw [hn]; decide) (by rw [hn]; decide)
    have hsmall : n + 3 < 256 ^ 4 := by omega
    have hshort := units_short (n := n) (by omega)
    have hlong := units_large hsmall
    have hsame := h (short n) (large n) _
      ⟨List.nodup_singleton _, by simp [short]; omega, fun _ => hshort.exists_make⟩
      ⟨by simp [large], by simp [large]; omega, fun _ => hlong.exists_make⟩
      (hshort.payload rfl) (hbytes ▸ hlong.payload rfl)
    have hlength := congrArg List.length hsame.2.2
    rw [ordered_large] at hlength
    exact absurd hlength (Nat.ne_of_lt (Nat.lt_succ_self 1))
  · intro hbound p q bytes hp hq hpbytes hqbytes
    obtain ⟨hpe, hpb⟩ := payload_eq_some hpbytes
    obtain ⟨hqe, hqb⟩ := payload_eq_some hqbytes
    exact same_of_bytes hbound hp hq hpe hqe (hpb.trans hqb.symm)

end Participant

namespace Sample

def bundleOf (index : Nat) (entries : List (String × Nat)) : Bundle :=
  ⟨index, .fromUnits (entries.foldl (fun units entry => units.set entry.1 entry.2) .empty)⟩

/-- A name that goes on like an index and another name. -/
def oneBundle : Participant :=
  ⟨⟨⟨0⟩, 0⟩, ⟨0⟩, [bundleOf 0 [("aaaa\x00\x00\x00\x01b", 1000)]]⟩

def twoBundles : Participant :=
  ⟨⟨⟨0⟩, 0⟩, ⟨0⟩, [bundleOf 0 [], bundleOf 0x0000000961616161 [("b", 1000)]]⟩

end Sample

open Sample

theorem participants_collide : oneBundle.Admitted (2 ^ 64) ∧ twoBundles.Admitted (2 ^ 64) ∧
    oneBundle.payload.isSome ∧ oneBundle.payload = twoBundles.payload ∧
    ¬ oneBundle.Same twoBundles := by
  refine ⟨⟨by decide, by decide, fun bundle hbundle => ?_⟩, ⟨by decide, by decide,
    fun bundle hbundle => ?_⟩, by decide +kernel, by decide +kernel, fun hsame => ?_⟩
  · obtain rfl := List.mem_singleton.mp hbundle
    exact ⟨[("aaaa\x00\x00\x00\x01b", .integer 1)], by decide +kernel⟩
  · rcases List.mem_pair.mp hbundle with rfl | rfl
    · exact ⟨[], rfl⟩
    · exact ⟨[("b", .integer 1)], by decide +kernel⟩
  · exact absurd (congrArg List.length hsame.2.2) (by decide)

end MiniRay
