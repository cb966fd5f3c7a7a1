import Mathlib.Data.List.Nodup
import Mathlib.Data.Finset.Basic
import Mathlib.Algebra.Ring.Int.Defs
import Mathlib.Algebra.Ring.Nat

/-! Finite dictionaries that remember the order in which their keys first arrived. -/

/-- An association list whose keys are distinct. -/
structure Dict (κ ν : Type*) where
  items : List (κ × ν)
  nodup : (items.map Prod.fst).Nodup

namespace Dict

variable {κ ν ν' : Type*} [DecidableEq κ]

/-! ## Lookup -/

def empty : Dict κ ν := ⟨[], by simp⟩

def lookup (k : κ) : List (κ × ν) → Option ν
  | [] => none
  | (k', v) :: rest => if k' = k then some v else lookup k rest

def get? (d : Dict κ ν) (k : κ) : Option ν := lookup k d.items

def keys (d : Dict κ ν) : List κ := d.items.map Prod.fst

def values (d : Dict κ ν) : List ν := d.items.map Prod.snd

@[simp] theorem get?_empty (k : κ) : (empty : Dict κ ν).get? k = none := rfl

omit [DecidableEq κ] in
@[simp] theorem items_empty : (empty : Dict κ ν).items = [] := rfl

variable {k : κ} {xs : List (κ × ν)}

theorem lookup_eq_none : lookup k xs = none ↔ k ∉ xs.map Prod.fst := by
  induction xs with
  | nil => simp [lookup]
  | cons x xs ih =>
    obtain ⟨k', v⟩ := x
    by_cases h : k' = k
    · simp [lookup, h]
    · simp [lookup, h, ih, Ne.symm h]

variable {v : ν}

theorem lookup_eq_some (hd : (xs.map Prod.fst).Nodup) : lookup k xs = some v ↔ (k, v) ∈ xs := by
  induction xs with
  | nil => simp [lookup]
  | cons x xs ih =>
    obtain ⟨k', v'⟩ := x
    simp only [List.map_cons, List.nodup_cons] at hd
    by_cases h : k' = k
    · subst k'
      have hn : ∀ w, (k, w) ∉ xs := fun w hw => hd.1 (List.mem_map_of_mem hw)
      simp [lookup, hn, eq_comm]
    · simp [lookup, h, ih hd.2, Ne.symm h]

variable {d : Dict κ ν}

theorem get?_eq_some_iff : d.get? k = some v ↔ (k, v) ∈ d.items :=
  lookup_eq_some d.nodup

theorem get?_eq_none_iff : d.get? k = none ↔ k ∉ d.keys :=
  lookup_eq_none

theorem mem_keys_iff : k ∈ d.keys ↔ ∃ v, d.get? k = some v := by
  rw [← Option.isSome_iff_exists, Option.isSome_iff_ne_none, ne_eq, get?_eq_none_iff, not_not]

theorem mem_values_iff : v ∈ d.values ↔ ∃ k, d.get? k = some v := by
  simp [values, get?_eq_some_iff]

theorem items_eq_nil_iff : d.items = [] ↔ ∀ k, d.get? k = none := by
  constructor
  · intro h k
    simp [get?, h, lookup]
  · intro h
    cases hd : d.items with
    | nil => rfl
    | cons x xs =>
      have hx : d.get? x.1 = some x.2 := get?_eq_some_iff.mpr (by simp [hd])
      simp [h x.1] at hx

omit [DecidableEq κ] in
theorem eq_empty (h : d.items = []) : d = empty := by
  cases d
  cases h
  rfl

/-! ## Assignment -/

/-- Assignment keeps the place of a known key and appends a new one. -/
def setItems (k : κ) (v : ν) : List (κ × ν) → List (κ × ν)
  | [] => [(k, v)]
  | (k', v') :: rest => if k' = k then (k, v) :: rest else (k', v') :: setItems k v rest

variable {x : κ}

theorem mem_keys_setItems : x ∈ (setItems k v xs).map Prod.fst ↔ x = k ∨ x ∈ xs.map Prod.fst := by
  induction xs with
  | nil => simp [setItems]
  | cons y ys ih =>
    obtain ⟨k', v'⟩ := y
    by_cases h : k' = k
    · simp [setItems, h]
    · simp only [setItems, h, ite_false, List.map_cons, List.mem_cons, ih]
      tauto

theorem nodup_setItems (hd : (xs.map Prod.fst).Nodup) : ((setItems k v xs).map Prod.fst).Nodup := by
  induction xs with
  | nil => simp [setItems]
  | cons y ys ih =>
    obtain ⟨k', v'⟩ := y
    simp only [List.map_cons, List.nodup_cons] at hd
    by_cases h : k' = k
    · subst k'
      simpa [setItems] using hd
    · simp only [setItems, h, ite_false, List.map_cons, List.nodup_cons]
      refine ⟨?_, ih hd.2⟩
      rw [mem_keys_setItems]
      rintro (hk | hk)
      · exact h hk
      · exact hd.1 hk

def set (d : Dict κ ν) (k : κ) (v : ν) : Dict κ ν := ⟨setItems k v d.items, nodup_setItems d.nodup⟩

theorem get?_set (d : Dict κ ν) (k x : κ) (v : ν) :
    (d.set k v).get? x = if k = x then some v else d.get? x := by
  simp only [get?, set]
  induction d.items with
  | nil => simp [setItems, lookup]
  | cons y ys ih =>
    obtain ⟨k', v'⟩ := y
    by_cases h : k' = k
    · subst k'
      by_cases hx : k = x <;> simp [setItems, lookup, hx]
    · simp only [setItems, h, ite_false, lookup, ih]
      by_cases hx : k = x
      · subst x
        simp [h]
      · simp [hx]

@[simp] theorem get?_set_self (d : Dict κ ν) (k : κ) (v : ν) : (d.set k v).get? k = some v := by
  simp [get?_set]

theorem get?_set_of_ne (d : Dict κ ν) (v : ν) (h : k ≠ x) : (d.set k v).get? x = d.get? x := by
  simp [get?_set, h]

variable {w : ν}

theorem of_get?_set_ne (h : (d.set k v).get? x = some w) :
    k = x ∧ v = w ∨ k ≠ x ∧ d.get? x = some w := by
  by_cases hk : k = x
  · exact .inl ⟨hk, by simpa [hk] using h⟩
  · exact .inr ⟨hk, (get?_set_of_ne d v hk).symm.trans h⟩

theorem of_get?_set (h : (d.set k v).get? x = some w) :
    k = x ∧ v = w ∨ d.get? x = some w := (of_get?_set_ne h).imp_right And.right

/-- Assigning a new key leaves the others. -/
theorem get?_set_kept (hnew : d.get? k = none) (h : d.get? x = some w) :
    (d.set k v).get? x = some w := by
  have hne : k ≠ x := fun hk => by simp [← hk, hnew] at h
  exact (get?_set_of_ne d v hne).trans h

theorem set_get? (h : d.get? k = some v) : d.set k v = d := by
  obtain ⟨items, nodup⟩ := d
  simp only [get?] at h
  simp only [set, mk.injEq]
  clear nodup
  induction items with
  | nil => simp [lookup] at h
  | cons y ys ih =>
    obtain ⟨k', v'⟩ := y
    by_cases hk : k' = k
    · simp only [lookup, hk, ite_true, Option.some.injEq] at h
      simp [setItems, hk, h]
    · simp only [lookup, hk, ite_false] at h
      simp [setItems, hk, ih h]

theorem set_set (d : Dict κ ν) (k : κ) (v w : ν) : (d.set k v).set k w = d.set k w := by
  obtain ⟨items, nodup⟩ := d
  simp only [set, mk.injEq]
  clear nodup
  induction items with
  | nil => simp [setItems]
  | cons y ys ih =>
    obtain ⟨k', v'⟩ := y
    by_cases hk : k' = k
    · simp [setItems, hk]
    · simp [setItems, hk, ih]

theorem items_set_ne_nil (d : Dict κ ν) (k : κ) (v : ν) : (d.set k v).items ≠ [] := by
  intro h
  have hk := items_eq_nil_iff.mp h k
  simp at hk

/-- `setdefault`: keep the value of a known key, otherwise install the given one. -/
def setDefault (d : Dict κ ν) (k : κ) (v : ν) : Dict κ ν :=
  match d.get? k with
  | some _ => d
  | none => d.set k v

theorem get?_setDefault_self (d : Dict κ ν) (k : κ) (v : ν) :
    (d.setDefault k v).get? k = some ((d.get? k).getD v) := by
  unfold setDefault
  cases h : d.get? k <;> simp [h]

theorem get?_setDefault_of_ne (d : Dict κ ν) (v : ν) (h : k ≠ x) :
    (d.setDefault k v).get? x = d.get? x := by
  unfold setDefault
  cases d.get? k
  · exact get?_set_of_ne d v h
  · rfl

theorem get?_setDefault_kept {y : ν} (h : d.get? x = some y) :
    (d.setDefault k v).get? x = some y := by
  by_cases hk : k = x
  · rw [hk, get?_setDefault_self, h]
    rfl
  · rw [get?_setDefault_of_ne d v hk, h]

theorem get?_setDefault_new {y : ν} (h : (d.setDefault k v).get? x = some y) :
    d.get? x = some y ∨ k = x ∧ v = y := by
  by_cases hk : k = x
  · rw [hk, get?_setDefault_self, Option.some.injEq] at h
    cases hold : d.get? x with
    | none => exact .inr ⟨hk, by rw [← h, hold]; rfl⟩
    | some old => exact .inl (by rw [← h, hold]; rfl)
  · rw [get?_setDefault_of_ne d v hk] at h
    exact .inl h

/-! ## Removal, selection and mapping -/

omit [DecidableEq κ] in
theorem nodup_filter_items (p : κ × ν → Bool) (h : (xs.map Prod.fst).Nodup) :
    ((xs.filter p).map Prod.fst).Nodup :=
  h.sublist (List.filter_sublist.map _)

/-- Keep the items that satisfy a predicate. -/
def filter (d : Dict κ ν) (p : κ → ν → Bool) : Dict κ ν :=
  ⟨d.items.filter fun item => p item.1 item.2, nodup_filter_items _ d.nodup⟩

omit [DecidableEq κ] in
@[simp] theorem filter_empty (p : κ → ν → Bool) : (empty : Dict κ ν).filter p = empty := rfl

theorem get?_filter_eq_some {p : κ → ν → Bool} :
    (d.filter p).get? k = some v ↔ d.get? k = some v ∧ p k v = true := by
  simp [get?_eq_some_iff, filter]

theorem get?_filter_key (d : Dict κ ν) (q : κ → Bool) (k : κ) :
    (d.filter fun k _ => q k).get? k = if q k then d.get? k else none := by
  cases hd : (d.filter fun k _ => q k).get? k with
  | some v =>
    have h := get?_filter_eq_some.mp hd
    simp [h.1, h.2]
  | none =>
    by_cases hq : q k = true
    · cases hv : d.get? k with
      | none => simp
      | some v =>
        have h : (d.filter fun k _ => q k).get? k = some v :=
          get?_filter_eq_some.mpr ⟨hv, hq⟩
        simp [h] at hd
    · simp [hq]

def erase (d : Dict κ ν) (k : κ) : Dict κ ν := d.filter fun k' _ => !decide (k' = k)

@[simp] theorem erase_empty (k : κ) : (empty : Dict κ ν).erase k = empty := rfl

theorem get?_erase (d : Dict κ ν) (k x : κ) :
    (d.erase k).get? x = if k = x then none else d.get? x := by
  cases h : (d.erase k).get? x with
  | some v =>
    rw [erase, get?_filter_eq_some] at h
    have hne : ¬ k = x := fun hk => by simp [hk] at h
    simp [hne, h.1]
  | none =>
    by_cases hk : k = x
    · simp [hk]
    · cases hd : d.get? x with
      | none => simp [hk]
      | some v =>
        have : (d.erase k).get? x = some v :=
          get?_filter_eq_some.mpr ⟨hd, by simp [Ne.symm hk]⟩
        simp [this] at h

@[simp] theorem get?_erase_self (d : Dict κ ν) (k : κ) : (d.erase k).get? k = none := by
  simp [get?_erase]

theorem get?_erase_of_ne (d : Dict κ ν) (h : k ≠ x) : (d.erase k).get? x = d.get? x := by
  simp [get?_erase, h]

theorem of_get?_erase (h : (d.erase k).get? x = some v) : k ≠ x ∧ d.get? x = some v := by
  have hne : k ≠ x := fun hk => by simp [hk] at h
  exact ⟨hne, (get?_erase_of_ne d hne).symm.trans h⟩

theorem length_erase_lt (h : d.get? k = some v) : (d.erase k).items.length < d.items.length := by
  simp only [erase, filter]
  rw [List.length_filter_lt_length_iff_exists]
  exact ⟨(k, v), get?_eq_some_iff.mp h, by simp⟩

def mapValues (d : Dict κ ν) (f : κ → ν → ν') : Dict κ ν' :=
  ⟨d.items.map fun item => (item.1, f item.1 item.2), by
    simpa [List.map_map, Function.comp_def] using d.nodup⟩

@[simp] theorem get?_mapValues (d : Dict κ ν) (f : κ → ν → ν') (k : κ) :
    (d.mapValues f).get? k = (d.get? k).map (f k) := by
  simp only [get?, mapValues]
  induction d.items with
  | nil => rfl
  | cons y ys ih =>
    obtain ⟨k', v'⟩ := y
    by_cases h : k' = k
    · subst k'
      simp [lookup]
    · simp [lookup, h, ih]

/-- The dictionary that assigns `f k` to each of the given keys. -/
def tabulate (ks : List κ) (f : κ → ν) : Dict κ ν :=
  ⟨ks.dedup.map fun k => (k, f k), by simpa [Function.comp_def] using ks.nodup_dedup⟩

@[simp] theorem get?_tabulate (ks : List κ) (f : κ → ν) (k : κ) :
    (tabulate ks f).get? k = if k ∈ ks then some (f k) else none := by
  by_cases hk : k ∈ ks
  · rw [if_pos hk, get?_eq_some_iff]
    simpa [tabulate] using hk
  · rw [if_neg hk, get?_eq_none_iff]
    simpa [tabulate, keys] using hk

/-! ## Sums over the values -/

def sumBy (d : Dict κ ν) (f : ν → Int) : Int := (d.values.map f).sum

omit [DecidableEq κ] in
@[simp] theorem sumBy_empty (f : ν → Int) : (empty : Dict κ ν).sumBy f = 0 := rfl

theorem sumBy_set (d : Dict κ ν) (k : κ) (v : ν) (f : ν → Int) :
    (d.set k v).sumBy f + ((d.get? k).map f).getD 0 = d.sumBy f + f v := by
  simp only [sumBy, values, set, get?]
  induction d.items with
  | nil => simp [setItems, lookup]
  | cons y ys ih =>
    obtain ⟨k', v'⟩ := y
    by_cases h : k' = k
    · simp only [setItems, lookup, h, ite_true, List.map_cons, List.sum_cons, Option.map_some,
        Option.getD_some]
      omega
    · simp only [setItems, lookup, h, ite_false, List.map_cons, List.sum_cons]
      omega

theorem sumBy_erase (d : Dict κ ν) (k : κ) (f : ν → Int) :
    (d.erase k).sumBy f + ((d.get? k).map f).getD 0 = d.sumBy f := by
  obtain ⟨items, nodup⟩ := d
  simp only [sumBy, values, erase, filter, get?]
  induction items with
  | nil => rfl
  | cons y ys ih =>
    obtain ⟨k', v'⟩ := y
    simp only [List.map_cons, List.nodup_cons] at nodup
    have hrest := ih nodup.2
    by_cases h : k' = k
    · have habsent : lookup k ys = none := lookup_eq_none.mpr (h ▸ nodup.1)
      simp only [habsent, Option.map_none, Option.getD_none] at hrest
      simp only [lookup, h, ite_true, List.filter_cons, decide_true, Bool.not_true,
        Bool.false_eq_true, ite_false, Option.map_some, Option.getD_some, List.map_cons,
        List.sum_cons]
      omega
    · simp only [lookup, h, ite_false, List.filter_cons, decide_false, Bool.not_false, ite_true,
        List.map_cons, List.sum_cons]
      omega

omit [DecidableEq κ] in
theorem sumBy_nonneg (d : Dict κ ν) {f : ν → Int} (h : ∀ v, 0 ≤ f v) : 0 ≤ d.sumBy f := by
  unfold sumBy
  induction d.values with
  | nil => simp
  | cons v vs ih =>
    have hv := h v
    simp only [List.map_cons, List.sum_cons]
    omega

end Dict
