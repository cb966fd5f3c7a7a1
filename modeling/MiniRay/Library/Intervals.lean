import Mathlib.Data.Finset.Dedup
import Mathlib.Data.List.Sort
import Mathlib.Data.Prod.Lex
import Mathlib.Order.Interval.Set.LinearOrder

/-! The members of a finite set in increasing order, by insertion, so that small sets
sort by computation. -/

namespace Sorted

variable {α : Type*} [LinearOrder α]

def sortList (l : List α) : List α := l.insertionSort (· ≤ ·)

theorem sortList_perm (l : List α) : (sortList l).Perm l := List.perm_insertionSort _ l

theorem sortList_congr {l l' : List α} (h : l.Perm l') : sortList l = sortList l' :=
  List.Perm.eq_of_pairwise (fun _ _ _ _ hx hy => le_antisymm hx hy)
    (List.pairwise_insertionSort _ _) (List.pairwise_insertionSort _ _)
    ((sortList_perm l).trans (h.trans (sortList_perm l').symm))

/-- The members of a finite set, in increasing order. -/
def sorted (s : Finset α) : List α := Quot.lift sortList (fun _ _ => sortList_congr) s.val

theorem pairwise_sorted (s : Finset α) : (sorted s).Pairwise (· ≤ ·) := by
  obtain ⟨v, hd⟩ := s
  induction v using Quot.ind with
  | mk l => exact List.pairwise_insertionSort _ l

theorem coe_sorted (s : Finset α) : (sorted s : Multiset α) = s.val := by
  obtain ⟨v, hd⟩ := s
  induction v using Quot.ind with
  | mk l => exact Multiset.coe_eq_coe.mpr (sortList_perm l)

theorem sorted_perm (s : Finset α) : (sorted s).Perm s.toList := by
  rw [← Multiset.coe_eq_coe, coe_sorted, Finset.coe_toList]

@[simp] theorem mem_sorted {s : Finset α} {x : α} : x ∈ sorted s ↔ x ∈ s := by
  rw [(sorted_perm s).mem_iff, Finset.mem_toList]

theorem nodup_sorted (s : Finset α) : (sorted s).Nodup :=
  (sorted_perm s).nodup_iff.mpr s.nodup_toList

/-- The distinct members of a list without repetition sort the same way as the list. -/
theorem sorted_toFinset [DecidableEq α] {l : List α} (h : l.Nodup) :
    sorted l.toFinset = sortList l := by
  have hp : (sorted l.toFinset).Perm l := (sorted_perm _).trans (List.toFinset_toList h)
  exact List.Perm.eq_of_pairwise (fun _ _ _ _ hx hy => le_antisymm hx hy) (pairwise_sorted _)
    (List.pairwise_insertionSort _ _) (hp.trans (sortList_perm l).symm)

/-- A list in increasing order of a key. -/
def sortOn {β : Type*} (key : β → α) (l : List β) : List β :=
  l.insertionSort fun a b => key a ≤ key b

variable {β : Type*} {key : β → α} {l : List β}

theorem sortOn_perm : (sortOn key l).Perm l := List.perm_insertionSort _ l

theorem mem_sortOn {x : β} : x ∈ sortOn key l ↔ x ∈ l := sortOn_perm.mem_iff

/-- Where no two elements share their key the order is strict. -/
theorem pairwise_sortOn (h : (l.map key).Nodup) :
    (sortOn key l).Pairwise fun a b => key a < key b := by
  have hle : ((sortOn key l).map key).Pairwise (· ≤ ·) := by
    rw [List.pairwise_map]
    have : Std.Total fun a b : β => key a ≤ key b := ⟨fun a b => le_total _ _⟩
    have : IsTrans β fun a b => key a ≤ key b := ⟨fun a b c => le_trans⟩
    exact List.pairwise_insertionSort _ l
  have hne : ((sortOn key l).map key).Nodup := (sortOn_perm.map key).nodup_iff.mpr h
  exact List.pairwise_map.mp (hle.and hne |>.imp fun h => lt_of_le_of_ne h.1 h.2)

end Sorted

/-! Half-open intervals kept sorted, apart and as long as possible: merging one more
interval, the set that a list covers, and when a list is a single interval. -/

namespace Intervals

open Set Sorted

variable {α : Type*} [LinearOrder α]

/-- The points of the intervals. -/
def covered (l : List (α × α)) : Set α := {x | ∃ i ∈ l, x ∈ Ico i.1 i.2}

variable {l : List (α × α)}

theorem mem_covered {x : α} : x ∈ covered l ↔ ∃ i ∈ l, i.1 ≤ x ∧ x < i.2 :=
  Iff.rfl

@[simp] theorem covered_nil : covered ([] : List (α × α)) = ∅ := by
  ext x
  simp [mem_covered]

@[simp] theorem covered_cons (i : α × α) (l : List (α × α)) :
    covered (i :: l) = Ico i.1 i.2 ∪ covered l := by
  ext x
  simp [mem_covered]

theorem covered_perm {l' : List (α × α)} (h : l.Perm l') : covered l = covered l' := by
  ext x
  simp only [mem_covered, h.mem_iff]

/-! ## Merging -/

/-- Walk over sorted intervals; `last` is still open and takes in what touches it. -/
def mergeInto (last : α × α) : List (α × α) → List (α × α)
  | [] => [last]
  | i :: rest =>
    if last.2 < i.1 then last :: mergeInto i rest
    else mergeInto (last.1, max last.2 i.2) rest

def merge : List (α × α) → List (α × α)
  | [] => []
  | i :: rest => mergeInto i rest

/-- The intervals after one more; an empty one adds nothing. -/
def insert (l : List (α × α)) (start stop : α) : List (α × α) :=
  if start = stop then l
  else merge ((sortList ((l ++ [(start, stop)]).map toLex)).map ofLex)

/-- Sorted, no two of them touching, none empty. -/
structure Separated (l : List (α × α)) : Prop where
  apart : l.Pairwise fun i j => i.2 < j.1
  proper : ∀ i ∈ l, i.1 < i.2

theorem separated_nil : Separated ([] : List (α × α)) := ⟨.nil, by simp⟩

/-- Sorted by their starts, none empty. -/
structure Starts (l : List (α × α)) : Prop where
  sorted : l.Pairwise fun i j => i.1 ≤ j.1
  proper : ∀ i ∈ l, i.1 < i.2

theorem Starts.tail {i : α × α} (h : Starts (i :: l)) : Starts l :=
  ⟨h.sorted.tail, fun j hj => h.proper j (List.mem_cons_of_mem i hj)⟩

variable {last : α × α} {rest : List (α × α)}

/-- Taking in a touching interval keeps the list sorted. -/
theorem Starts.extend {i : α × α} (h : Starts (last :: i :: rest)) :
    Starts ((last.1, max last.2 i.2) :: rest) := by
  obtain ⟨hlast, hrest⟩ := List.pairwise_cons.mp h.sorted
  refine ⟨List.pairwise_cons.mpr ⟨fun j hj => hlast j (by simp [hj]), hrest.tail⟩, ?_⟩
  intro j hj
  rcases List.mem_cons.mp hj with rfl | hj
  · exact lt_max_of_lt_left (h.proper last (by simp))
  · exact h.proper j (by simp [hj])

theorem covered_mergeInto (h : Starts (last :: rest)) :
    covered (mergeInto last rest) = Ico last.1 last.2 ∪ covered rest := by
  induction rest generalizing last with
  | nil => simp [mergeInto]
  | cons i rest ih =>
    unfold mergeInto
    split
    · rw [covered_cons, ih h.tail, covered_cons]
    · next htouch =>
      have hle : last.1 ≤ i.1 := (List.pairwise_cons.mp h.sorted).1 i (by simp)
      have hunion : Ico last.1 (max last.2 i.2) = Ico last.1 last.2 ∪ Ico i.1 i.2 := by
        rw [Ico_union_Ico' (not_lt.mp htouch) (hle.trans (h.proper i (by simp)).le),
          min_eq_left hle]
      rw [ih h.extend, covered_cons, hunion, union_assoc]

theorem start_le_of_mem_mergeInto (h : Starts (last :: rest)) :
    ∀ j ∈ mergeInto last rest, last.1 ≤ j.1 := by
  induction rest generalizing last with
  | nil => simp [mergeInto]
  | cons i rest ih =>
    have hle : last.1 ≤ i.1 := (List.pairwise_cons.mp h.sorted).1 i (by simp)
    unfold mergeInto
    split
    · intro j hj
      rcases List.mem_cons.mp hj with rfl | hj
      · exact le_rfl
      · exact hle.trans (ih h.tail j hj)
    · exact ih h.extend

theorem separated_mergeInto (h : Starts (last :: rest)) : Separated (mergeInto last rest) := by
  induction rest generalizing last with
  | nil => exact ⟨List.pairwise_singleton _ _, h.proper⟩
  | cons i rest ih =>
    unfold mergeInto
    split
    · next hgap =>
      obtain ⟨hapart, hproper⟩ := ih h.tail
      refine ⟨List.pairwise_cons.mpr ⟨?_, hapart⟩, ?_⟩
      · intro j hj
        exact hgap.trans_le (start_le_of_mem_mergeInto h.tail j hj)
      · intro j hj
        rcases List.mem_cons.mp hj with rfl | hj
        · exact h.proper _ (by simp)
        · exact hproper j hj
    · exact ih h.extend

/-! ## One more interval -/

section Insert

variable {l : List (α × α)} {start stop : α}

theorem starts_sorted (hproper : ∀ i ∈ l, i.1 < i.2) :
    Starts ((sortList (l.map toLex)).map ofLex) := by
  refine ⟨?_, ?_⟩
  · have hsorted : (sortList (l.map toLex)).Pairwise (· ≤ ·) := List.pairwise_insertionSort _ _
    rw [List.pairwise_map]
    refine hsorted.imp ?_
    intro a b hab
    rcases Prod.Lex.le_iff.mp hab with hlt | ⟨heq, _⟩
    · exact hlt.le
    · exact heq.le
  · intro i hi
    obtain ⟨j, hj, rfl⟩ := List.mem_map.mp hi
    obtain ⟨k, hk, rfl⟩ := List.mem_map.mp ((sortList_perm _).mem_iff.mp hj)
    exact hproper k hk

theorem perm_sorted (l : List (α × α)) : ((sortList (l.map toLex)).map ofLex).Perm l := by
  have hperm := (sortList_perm (l.map toLex)).map ofLex
  rwa [List.map_map, show ofLex ∘ toLex = (id : α × α → α × α) from rfl, List.map_id] at hperm

theorem insert_spec (h : Separated l) (hle : start ≤ stop) :
    Separated (insert l start stop) ∧
      covered (insert l start stop) = covered l ∪ Ico start stop := by
  unfold insert
  split
  · next heq =>
    subst heq
    simp [h]
  · next hne =>
    have hproper : ∀ i ∈ l ++ [(start, stop)], i.1 < i.2 := by
      intro i hi
      rcases List.mem_append.mp hi with hi | hi
      · exact h.proper i hi
      · rw [List.mem_singleton.mp hi]
        exact lt_of_le_of_ne hle hne
    have hstarts := starts_sorted hproper
    have hperm := perm_sorted (l ++ [(start, stop)])
    generalize (sortList ((l ++ [(start, stop)]).map toLex)).map ofLex = sorted at hstarts hperm
    have hcovered : covered sorted = covered l ∪ Ico start stop := by
      rw [covered_perm (hperm.trans (List.perm_append_singleton _ _)), covered_cons, union_comm]
    cases sorted with
    | nil => simp at hperm
    | cons i rest =>
      refine ⟨separated_mergeInto hstarts, ?_⟩
      rw [merge, covered_mergeInto hstarts, ← hcovered, covered_cons]

end Insert

/-! ## A single interval -/

/-- A separated list that covers an interval is that interval. -/
theorem Separated.eq_singleton (h : Separated l) {a b : α} (hab : a < b)
    (hcovered : covered l = Ico a b) : l = [(a, b)] := by
  have hmem : ∀ x, x ∈ covered l ↔ a ≤ x ∧ x < b := by
    intro x
    rw [hcovered, mem_Ico]
  cases l with
  | nil => exact absurd ((hmem a).mpr ⟨le_rfl, hab⟩) (by simp)
  | cons i rest =>
    obtain ⟨hfirst, _⟩ := List.pairwise_cons.mp h.apart
    have hproper := h.proper i (by simp)
    have hlater : ∀ j ∈ rest, i.2 < j.1 := hfirst
    have hin : ∀ x, i.1 ≤ x → x < i.2 → a ≤ x ∧ x < b :=
      fun x hle hlt => (hmem x).mp (mem_covered.mpr ⟨i, by simp, hle, hlt⟩)
    have hstart : i.1 = a := by
      refine le_antisymm ?_ (hin i.1 le_rfl hproper).1
      obtain ⟨j, hj, hle, _⟩ := mem_covered.mp ((hmem a).mpr ⟨le_rfl, hab⟩)
      rcases List.mem_cons.mp hj with rfl | hj
      · exact hle
      · exact (hproper.trans (hlater j hj)).le.trans hle
    have hout : i.2 ∉ covered (i :: rest) := by
      intro hx
      obtain ⟨j, hj, hle, hlt⟩ := mem_covered.mp hx
      rcases List.mem_cons.mp hj with rfl | hj
      · exact lt_irrefl _ hlt
      · exact lt_irrefl _ ((hlater j hj).trans_le hle)
    have hend : b ≤ i.2 := by
      by_contra hlt
      exact hout ((hmem i.2).mpr ⟨hstart ▸ hproper.le, not_le.mp hlt⟩)
    have hle : i.2 ≤ b := by
      by_contra hlt
      exact lt_irrefl b (hin b (hstart ▸ hab.le) (not_le.mp hlt)).2
    have hnil : rest = [] := by
      cases rest with
      | nil => rfl
      | cons j rest =>
        have hj := h.proper j (by simp)
        have hjb := ((hmem j.1).mp (mem_covered.mpr ⟨j, by simp, le_rfl, hj⟩)).2
        exact absurd (hend.trans_lt (hlater j (by simp))) (not_lt.mpr hjb.le)
    rw [hnil, ← hstart, ← le_antisymm hle hend]

/-- A list is a single proper interval when it covers exactly that. -/
theorem Separated.eq_singleton_iff (h : Separated l) {a b : α} (hab : a < b) :
    l = [(a, b)] ↔ covered l = Ico a b := by
  constructor
  · rintro rfl
    simp
  · exact h.eq_singleton hab

end Intervals
