import MiniRay.Library.Checked
import MiniRay.Library.Framing
import MiniRay.PublicationSources

/-! A terminal collection receipt keeps the hash of a frozen protocol tree: every value is a tagged
frame, followed by the values inside it. -/

namespace MiniRay

namespace MetadataDigest

open Checked

/-- The module of a class and its qualified name. -/
structure TypeName where
  moduleName : String
  qualname : String

def TypeName.dotted (type : TypeName) : String := type.moduleName ++ "." ++ type.qualname

mutual

/-- A value of the metadata tree; `T` names the classes of enums and dataclasses. -/
inductive Metadata (T : Type)
  | none
  | enum (type : T) (value : Metadata T)
  | bool (value : Bool)
  | int (value : Int)
  | str (value : String)
  | bytes (value : List UInt8)
  | tuple (items : Items T)
  | dataclass (type : T) (members : Members T)

inductive Items (T : Type)
  | nil
  | cons (item : Metadata T) (rest : Items T)

/-- The fields of a dataclass, each with its name and its `compare` flag. -/
inductive Members (T : Type)
  | nil
  | cons (name : String) (compare : Bool) (value : Metadata T) (rest : Members T)

end

def Items.length {T : Type} : Items T → Nat
  | .nil => 0
  | .cons _ rest => rest.length + 1

/-- How many fields take part in comparison. -/
def Members.count {T : Type} : Members T → Nat
  | .nil => 0
  | .cons _ compare _ rest => if compare then rest.count + 1 else rest.count

inductive MetadataError
  /-- `int too big to convert`. -/
  | overflow
  /-- `Exceeds the limit for integer string conversion`. -/
  | value

def frameTagged (tag : Char) (payload : List UInt8) : Except MetadataError (List UInt8) :=
  if 256 ^ 8 ≤ payload.length then .error .overflow
  else .ok (UInt8.ofNat tag.toNat :: Framing.frame payload)

/-- The decimal text of an integer; a longer one is not converted. -/
def intFrame (value : Int) : Except MetadataError (List UInt8) :=
  if 4300 < value.natAbs.repr.length then .error .value
  else frameTagged 'i' (utf8 (Framing.intText value))

mutual

def visit : Metadata TypeName → Except MetadataError (List UInt8)
  | .none => frameTagged 'n' []
  | .enum type value => do
      let head ← frameTagged 'e' (utf8 type.dotted)
      let inner ← visit value
      return head ++ inner
  | .bool value => frameTagged 'b' (utf8 (if value then "1" else "0"))
  | .int value => intFrame value
  | .str value => frameTagged 's' (utf8 value)
  | .bytes value => frameTagged 'p' value
  | .tuple items => do
      let head ← frameTagged 't' (utf8 items.length.repr)
      let inner ← visitItems items
      return head ++ inner
  | .dataclass type members => do
      let head ← frameTagged 'd' (utf8 type.dotted)
      let count ← frameTagged 'f' (utf8 members.count.repr)
      let inner ← visitMembers members
      return head ++ (count ++ inner)

def visitItems : Items TypeName → Except MetadataError (List UInt8)
  | .nil => .ok []
  | .cons item rest => do
      let head ← visit item
      let inner ← visitItems rest
      return head ++ inner

def visitMembers : Members TypeName → Except MetadataError (List UInt8)
  | .nil => .ok []
  | .cons name compare value rest =>
    if compare then do
      let key ← frameTagged 'k' (utf8 name)
      let head ← visit value
      let inner ← visitMembers rest
      return key ++ (head ++ inner)
    else visitMembers rest

end

def collectionMetadataDigest (plan : Metadata TypeName) : Except MetadataError String := do
  let bytes ← visit plan
  return Sha256.hexdigest (utf8 "miniray-inline-collection-metadata-v1" ++ [0] ++ bytes)

/-! ## What a tree is up to its hash -/

mutual

/-- The fields that comparison looks at, and classes by their dotted names. -/
def Metadata.compared : Metadata TypeName → Metadata String
  | .none => .none
  | .enum type value => .enum type.dotted value.compared
  | .bool value => .bool value
  | .int value => .int value
  | .str value => .str value
  | .bytes value => .bytes value
  | .tuple items => .tuple items.compared
  | .dataclass type members => .dataclass type.dotted members.compared

def Items.compared : Items TypeName → Items String
  | .nil => .nil
  | .cons item rest => .cons item.compared rest.compared

def Members.compared : Members TypeName → Members String
  | .nil => .nil
  | .cons name compare value rest =>
    if compare then .cons name true value.compared rest.compared else rest.compared

end

variable {payload bytes : List UInt8}

theorem frameTagged_eq_ok {tag : Char} :
    frameTagged tag payload = .ok bytes ↔ Framing.Fits payload ∧
      UInt8.ofNat tag.toNat :: Framing.frame payload = bytes := by
  unfold frameTagged Framing.Fits
  by_cases h : 256 ^ 8 ≤ payload.length
  · rw [if_pos h]
    exact ⟨nofun, fun hfits => absurd hfits.1 (not_lt.mpr h)⟩
  · rw [if_neg h]
    exact ⟨fun hok => ⟨not_le.mp h, Except.ok.inj hok⟩, fun hok => congrArg Except.ok hok.2⟩

theorem intFrame_eq_ok {value : Int} (h : intFrame value = .ok bytes) :
    frameTagged 'i' (utf8 (Framing.intText value)) = .ok bytes := by
  unfold intFrame at h
  by_cases hlong : 4300 < value.natAbs.repr.length
  · rw [if_pos hlong] at h
    exact absurd h nofun
  · rwa [if_neg hlong] at h

/-- The first frame of a string is determined: its tag, its payload and what follows. -/
theorem frameTagged_inj {tag tag' : Char} {payload' a b x y : List UInt8}
    (ha : frameTagged tag payload = .ok a) (hb : frameTagged tag' payload' = .ok b)
    (h : a ++ x = b ++ y) :
    UInt8.ofNat tag.toNat = UInt8.ofNat tag'.toNat ∧ payload = payload' ∧ x = y := by
  obtain ⟨hfits, rfl⟩ := frameTagged_eq_ok.mp ha
  obtain ⟨hfits', rfl⟩ := frameTagged_eq_ok.mp hb
  rw [List.cons_append, List.cons_append] at h
  obtain ⟨htag, hrest⟩ := List.cons.inj h
  exact ⟨htag, Framing.frame_append_inj hfits hfits' hrest⟩

/-! ## Reading a tree back -/

def Metadata.tag {T : Type} : Metadata T → Char
  | .none => 'n'
  | .enum .. => 'e'
  | .bool _ => 'b'
  | .int _ => 'i'
  | .str _ => 's'
  | .bytes _ => 'p'
  | .tuple _ => 't'
  | .dataclass .. => 'd'

theorem head_frameTagged {tag : Char} (h : frameTagged tag payload = .ok bytes) :
    bytes.head? = some (UInt8.ofNat tag.toNat) := by
  obtain ⟨-, rfl⟩ := frameTagged_eq_ok.mp h
  rfl

theorem visit_head {v : Metadata TypeName} (h : visit v = .ok bytes) :
    bytes.head? = some (UInt8.ofNat v.tag.toNat) := by
  cases v with
  | none => exact head_frameTagged h
  | bool => exact head_frameTagged h
  | str => exact head_frameTagged h
  | bytes => exact head_frameTagged h
  | int => exact head_frameTagged (intFrame_eq_ok h)
  | enum =>
    obtain ⟨head, hhead, h⟩ := bind_eq_ok.mp h
    obtain ⟨inner, -, h⟩ := bind_eq_ok.mp h
    obtain rfl := Except.ok.inj h
    rw [List.head?_append, head_frameTagged hhead]
    rfl
  | tuple =>
    obtain ⟨head, hhead, h⟩ := bind_eq_ok.mp h
    obtain ⟨inner, -, h⟩ := bind_eq_ok.mp h
    obtain rfl := Except.ok.inj h
    rw [List.head?_append, head_frameTagged hhead]
    rfl
  | dataclass =>
    obtain ⟨head, hhead, h⟩ := bind_eq_ok.mp h
    obtain ⟨count, -, h⟩ := bind_eq_ok.mp h
    obtain ⟨inner, -, h⟩ := bind_eq_ok.mp h
    obtain rfl := Except.ok.inj h
    rw [List.head?_append, head_frameTagged hhead]
    rfl

theorem tag_eq {v w : Metadata TypeName} {a b x y : List UInt8} (ha : visit v = .ok a)
    (hb : visit w = .ok b) (h : a ++ x = b ++ y) :
    UInt8.ofNat v.tag.toNat = UInt8.ofNat w.tag.toNat := by
  have hheads := congrArg List.head? h
  rw [List.head?_append, List.head?_append, visit_head ha, visit_head hb] at hheads
  exact Option.some.inj hheads

theorem members_zero : ∀ {members : Members TypeName}, members.count = 0 →
    members.compared = .nil ∧ visitMembers members = .ok []
  | .nil, _ => ⟨rfl, rfl⟩
  | .cons _ true _ _, h => by simp [Members.count] at h
  | .cons _ false _ rest, h => by
      have hrest : rest.count = 0 := by simpa [Members.count] using h
      simpa [Members.compared, visitMembers] using members_zero hrest

theorem members_succ : ∀ {members : Members TypeName} {n : Nat}, members.count = n + 1 →
    ∃ name value rest, rest.count = n ∧ visitMembers members =
        visitMembers (.cons name true value rest) ∧
      members.compared = .cons name true value.compared rest.compared
  | .nil, _, h => by simp [Members.count] at h
  | .cons name true value rest, n, h => by
      have hrest : rest.count = n := by simpa [Members.count] using h
      exact ⟨name, value, rest, hrest, rfl, by simp [Members.compared]⟩
  | .cons _ false _ rest, n, h => by
      have hrest : rest.count = n + 1 := by simpa [Members.count] using h
      simpa [Members.compared, visitMembers] using members_succ hrest

mutual

/-- A tree is determined by a string that begins with its bytes, and so is the rest. -/
theorem visit_inj : ∀ (v w : Metadata TypeName) {a b x y : List UInt8}, visit v = .ok a →
    visit w = .ok b → a ++ x = b ++ y → v.compared = w.compared ∧ x = y
  | .none, w, a, b, x, y, ha, hb, h => by
      have htag := tag_eq ha hb h
      cases w with
      | none =>
        obtain ⟨-, -, hrest⟩ := frameTagged_inj ha hb h
        exact ⟨rfl, hrest⟩
      | _ => simp [Metadata.tag] at htag
  | .bool value, w, a, b, x, y, ha, hb, h => by
      have htag := tag_eq ha hb h
      cases w with
      | bool value' =>
        obtain ⟨-, hvalue, hrest⟩ := frameTagged_inj ha hb h
        have hsame : value = value' := by
          revert hvalue
          cases value <;> cases value' <;> decide
        exact ⟨congrArg Metadata.bool hsame, hrest⟩
      | _ => simp [Metadata.tag] at htag
  | .int value, w, a, b, x, y, ha, hb, h => by
      have htag := tag_eq ha hb h
      cases w with
      | int value' =>
        obtain ⟨-, hvalue, hrest⟩ := frameTagged_inj (intFrame_eq_ok ha) (intFrame_eq_ok hb) h
        have hsame := Framing.intText_inj (Framing.toUTF8_inj hvalue)
        exact ⟨congrArg Metadata.int hsame, hrest⟩
      | _ => simp [Metadata.tag] at htag
  | .str value, w, a, b, x, y, ha, hb, h => by
      have htag := tag_eq ha hb h
      cases w with
      | str value' =>
        obtain ⟨-, hvalue, hrest⟩ := frameTagged_inj ha hb h
        exact ⟨congrArg Metadata.str (Framing.toUTF8_inj hvalue), hrest⟩
      | _ => simp [Metadata.tag] at htag
  | .bytes value, w, a, b, x, y, ha, hb, h => by
      have htag := tag_eq ha hb h
      cases w with
      | bytes value' =>
        obtain ⟨-, hvalue, hrest⟩ := frameTagged_inj ha hb h
        exact ⟨congrArg Metadata.bytes hvalue, hrest⟩
      | _ => simp [Metadata.tag] at htag
  | .enum type value, w, a, b, x, y, ha, hb, h => by
      have htag := tag_eq ha hb h
      cases w with
      | enum type' value' =>
        obtain ⟨head, hhead, ha⟩ := bind_eq_ok.mp ha
        obtain ⟨inner, hinner, ha⟩ := bind_eq_ok.mp ha
        obtain ⟨head', hhead', hb⟩ := bind_eq_ok.mp hb
        obtain ⟨inner', hinner', hb⟩ := bind_eq_ok.mp hb
        rw [← Except.ok.inj ha, ← Except.ok.inj hb, List.append_assoc, List.append_assoc] at h
        obtain ⟨-, htype, h⟩ := frameTagged_inj hhead hhead' h
        obtain ⟨hvalue, hrest⟩ := visit_inj value value' hinner hinner' h
        have hdotted : type.dotted = type'.dotted := Framing.toUTF8_inj htype
        refine ⟨?_, hrest⟩
        rw [Metadata.compared, Metadata.compared, hdotted, hvalue]
      | _ => simp [Metadata.tag] at htag
  | .tuple items, w, a, b, x, y, ha, hb, h => by
      have htag := tag_eq ha hb h
      cases w with
      | tuple items' =>
        obtain ⟨head, hhead, ha⟩ := bind_eq_ok.mp ha
        obtain ⟨inner, hinner, ha⟩ := bind_eq_ok.mp ha
        obtain ⟨head', hhead', hb⟩ := bind_eq_ok.mp hb
        obtain ⟨inner', hinner', hb⟩ := bind_eq_ok.mp hb
        rw [← Except.ok.inj ha, ← Except.ok.inj hb, List.append_assoc, List.append_assoc] at h
        obtain ⟨-, hlength, h⟩ := frameTagged_inj hhead hhead' h
        have hcount := Framing.repr_inj (Framing.toUTF8_inj hlength)
        obtain ⟨hitems, hrest⟩ := visitItems_inj items items' hcount hinner hinner' h
        refine ⟨?_, hrest⟩
        rw [Metadata.compared, Metadata.compared, hitems]
      | _ => simp [Metadata.tag] at htag
  | .dataclass type members, w, a, b, x, y, ha, hb, h => by
      have htag := tag_eq ha hb h
      cases w with
      | dataclass type' members' =>
        obtain ⟨head, hhead, ha⟩ := bind_eq_ok.mp ha
        obtain ⟨count, hcount, ha⟩ := bind_eq_ok.mp ha
        obtain ⟨inner, hinner, ha⟩ := bind_eq_ok.mp ha
        obtain ⟨head', hhead', hb⟩ := bind_eq_ok.mp hb
        obtain ⟨count', hcount', hb⟩ := bind_eq_ok.mp hb
        obtain ⟨inner', hinner', hb⟩ := bind_eq_ok.mp hb
        rw [← Except.ok.inj ha, ← Except.ok.inj hb, List.append_assoc, List.append_assoc,
          List.append_assoc, List.append_assoc] at h
        obtain ⟨-, htype, h⟩ := frameTagged_inj hhead hhead' h
        obtain ⟨-, hnumber, h⟩ := frameTagged_inj hcount hcount' h
        have hsame := Framing.repr_inj (Framing.toUTF8_inj hnumber)
        obtain ⟨hmembers, hrest⟩ := visitMembers_inj members members' hsame hinner hinner' h
        have hdotted : type.dotted = type'.dotted := Framing.toUTF8_inj htype
        refine ⟨?_, hrest⟩
        rw [Metadata.compared, Metadata.compared, hdotted, hmembers]
      | _ => simp [Metadata.tag] at htag

theorem visitItems_inj : ∀ (v w : Items TypeName) {a b x y : List UInt8}, v.length = w.length →
    visitItems v = .ok a → visitItems w = .ok b → a ++ x = b ++ y →
      v.compared = w.compared ∧ x = y
  | .nil, .nil, a, b, x, y, _, ha, hb, h => by
      rw [← Except.ok.inj ha, ← Except.ok.inj hb] at h
      exact ⟨rfl, h⟩
  | .nil, .cons _ _, _, _, _, _, hlength, _, _, _ => nomatch hlength
  | .cons _ _, .nil, _, _, _, _, hlength, _, _, _ => nomatch hlength
  | .cons item rest, .cons item' rest', a, b, x, y, hlength, ha, hb, h => by
      obtain ⟨head, hhead, ha⟩ := bind_eq_ok.mp ha
      obtain ⟨inner, hinner, ha⟩ := bind_eq_ok.mp ha
      obtain ⟨head', hhead', hb⟩ := bind_eq_ok.mp hb
      obtain ⟨inner', hinner', hb⟩ := bind_eq_ok.mp hb
      rw [← Except.ok.inj ha, ← Except.ok.inj hb, List.append_assoc, List.append_assoc] at h
      obtain ⟨hitem, h⟩ := visit_inj item item' hhead hhead' h
      have hrest := visitItems_inj rest rest' (Nat.succ.inj hlength) hinner hinner' h
      refine ⟨?_, hrest.2⟩
      rw [Items.compared, Items.compared, hitem, hrest.1]

theorem visitMembers_inj : ∀ (v w : Members TypeName) {a b x y : List UInt8},
    v.count = w.count → visitMembers v = .ok a → visitMembers w = .ok b → a ++ x = b ++ y →
      v.compared = w.compared ∧ x = y
  | .nil, w, a, b, x, y, hcount, ha, hb, h => by
      obtain ⟨hnil, hnone⟩ := members_zero hcount.symm
      rw [hnone] at hb
      rw [← Except.ok.inj ha, ← Except.ok.inj hb] at h
      exact ⟨hnil.symm, h⟩
  | .cons name false value rest, w, a, b, x, y, hcount, ha, hb, h => by
      have hrest := visitMembers_inj rest w (by simpa [Members.count] using hcount)
        (by simpa [visitMembers] using ha) hb h
      simpa [Members.compared] using hrest
  | .cons name true value rest, w, a, b, x, y, hcount, ha, hb, h => by
      have hsucc : w.count = rest.count + 1 := by
        rw [← hcount]
        simp [Members.count]
      obtain ⟨name', value', rest', hsame, hvisit, hcompared⟩ := members_succ hsucc
      rw [hvisit] at hb
      simp only [visitMembers, if_true] at ha hb
      obtain ⟨key, hkey, ha⟩ := bind_eq_ok.mp ha
      obtain ⟨head, hhead, ha⟩ := bind_eq_ok.mp ha
      obtain ⟨inner, hinner, ha⟩ := bind_eq_ok.mp ha
      obtain ⟨key', hkey', hb⟩ := bind_eq_ok.mp hb
      obtain ⟨head', hhead', hb⟩ := bind_eq_ok.mp hb
      obtain ⟨inner', hinner', hb⟩ := bind_eq_ok.mp hb
      rw [← Except.ok.inj ha, ← Except.ok.inj hb, List.append_assoc, List.append_assoc,
        List.append_assoc, List.append_assoc] at h
      obtain ⟨-, hname, h⟩ := frameTagged_inj hkey hkey' h
      obtain ⟨hvalue, h⟩ := visit_inj value value' hhead hhead' h
      obtain ⟨hrest, h⟩ := visitMembers_inj rest rest' hsame.symm hinner hinner' h
      have hnames : name = name' := Framing.toUTF8_inj hname
      refine ⟨?_, h⟩
      rw [hcompared, hnames, ← hvalue, ← hrest]
      simp [Members.compared]

end

/-! ## What equal digests say -/

/-- A byte string behind the salt of the digest. -/
def salted (bytes : List UInt8) : List UInt8 :=
  utf8 "miniray-inline-collection-metadata-v1" ++ [0] ++ bytes

theorem collectionMetadataDigest_eq_ok {plan : Metadata TypeName} {digest : String}
    (h : collectionMetadataDigest plan = .ok digest) :
    ∃ bytes, visit plan = .ok bytes ∧ digest = Sha256.hexdigest (salted bytes) := by
  obtain ⟨bytes, hvisit, hdigest⟩ := bind_eq_ok.mp h
  exact ⟨bytes, hvisit, (Except.ok.inj hdigest).symm⟩

/-- Trees with one byte string, and what the digest makes of it. -/
structure CollectionMetadataDigestSpec : Prop where
  /-- Equal strings belong to equal trees. -/
  injective : ∀ {v w : Metadata TypeName} {bytes : List UInt8}, visit v = .ok bytes →
    visit w = .ok bytes → v.compared = w.compared
  /-- No string begins with the string of another tree. -/
  noneExtends : ∀ {v w : Metadata TypeName} {a b rest : List UInt8}, visit v = .ok a →
    visit w = .ok b → a ++ rest = b → v.compared = w.compared ∧ rest = []
  /-- Equal digests belong to equal trees, or they are a collision of the hash. -/
  digests : ∀ {v w : Metadata TypeName} {digest : String},
    collectionMetadataDigest v = .ok digest → collectionMetadataDigest w = .ok digest →
      v.compared = w.compared ∨ ∃ a b, visit v = .ok a ∧ visit w = .ok b ∧ salted a ≠ salted b ∧
        Sha256.hexdigest (salted a) = Sha256.hexdigest (salted b)

theorem collectionMetadataDigestSpec : CollectionMetadataDigestSpec where
  injective {v w bytes} hv hw := (visit_inj v w (x := []) (y := []) hv hw rfl).1
  noneExtends {v w a b rest} hv hw h := by
    refine visit_inj v w hv hw ?_
    rw [h, List.append_nil]
  digests {v w digest} hv hw := by
    obtain ⟨a, ha, hdigest⟩ := collectionMetadataDigest_eq_ok hv
    obtain ⟨b, hb, hdigest'⟩ := collectionMetadataDigest_eq_ok hw
    by_cases hsame : salted a = salted b
    · have hbytes : a ++ [] = b ++ [] := by
        have hcancel := List.append_cancel_left hsame
        rw [hcancel]
      exact .inl (visit_inj v w ha hb hbytes).1
    · exact .inr ⟨a, b, ha, hb, hsame, hdigest ▸ hdigest'⟩

/-- Two classes of one dotted name: `C` inside the class `b` of `a`, and `C` of the module `a.b`. -/
theorem dotted_names_collide : ∃ v w : Metadata TypeName, ∃ bytes : List UInt8,
    visit v = .ok bytes ∧ visit w = .ok bytes ∧
      v = .dataclass ⟨"a", "b.C"⟩ .nil ∧ w = .dataclass ⟨"a.b", "C"⟩ .nil ∧ v ≠ w := by
  have hdotted : (TypeName.mk "a" "b.C").dotted = (TypeName.mk "a.b" "C").dotted := by decide
  have hbytes : ∃ bytes, visit (.dataclass ⟨"a", "b.C"⟩ .nil) = .ok bytes := ⟨_, rfl⟩
  obtain ⟨bytes, hvisit⟩ := hbytes
  refine ⟨_, _, bytes, hvisit, ?_, rfl, rfl, by simp⟩
  simpa only [visit, hdotted] using hvisit

end MetadataDigest

end MiniRay
