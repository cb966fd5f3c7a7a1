import MiniRay.Library.Dict
import Mathlib.Data.Finset.Card
import Mathlib.Logic.Relation
import Mathlib.Tactic.Tauto

/-! Iterative depth-first search for a directed cycle. The stack holds a vertex to
enter or a marker that leaves it; `active` is the set of entered vertices that have
not been left, `done` the set of those that have. -/

namespace Digraph

open Relation

variable {V : Type*} [DecidableEq V]

def children (adjacency : Dict V (List V)) (v : V) : List V := (adjacency.get? v).getD []

def Edge (adjacency : Dict V (List V)) (v w : V) : Prop := w ∈ children adjacency v

variable {adjacency : Dict V (List V)} {v : V}

theorem mem_keys_of_edge {w : V} (h : Edge adjacency v w) : v ∈ adjacency.keys := by
  by_contra hk
  simp [Edge, children, Dict.get?_eq_none_iff.mpr hk] at h

/-- Work left on the stack: an entry may still be replaced by its own marker. -/
def weight (stack : List (V × Bool)) : Nat := (stack.map fun item => if item.2 then 1 else 2).sum

omit [DecidableEq V] in
@[simp] theorem weight_cons (item : V × Bool) (stack : List (V × Bool)) :
    weight (item :: stack) = (if item.2 then 1 else 2) + weight stack := by
  simp [weight]

/-- Vertices with children that were never entered. -/
def unvisited (adjacency : Dict V (List V)) (done active : Finset V) : Finset V :=
  adjacency.keys.toFinset \ (done ∪ active)

theorem card_unvisited_leave (adjacency : Dict V (List V)) (done active : Finset V) (v : V) :
    (unvisited adjacency (insert v done) (active.erase v)).card ≤
      (unvisited adjacency done active).card := by
  apply Finset.card_le_card
  intro x hx
  simp only [unvisited, Finset.mem_sdiff, Finset.mem_union, Finset.mem_insert,
    Finset.mem_erase] at hx ⊢
  tauto

variable {done active : Finset V}

theorem card_unvisited_enter (hk : v ∈ adjacency.keys) (ha : v ∉ active) (hd : v ∉ done) :
    (unvisited adjacency done (insert v active)).card <
      (unvisited adjacency done active).card := by
  apply Finset.card_lt_card
  rw [Finset.ssubset_iff_of_subset]
  · refine ⟨v, ?_, ?_⟩
    · simp [unvisited, hk, ha, hd]
    · simp [unvisited]
  · intro x hx
    simp only [unvisited, Finset.mem_sdiff, Finset.mem_union, Finset.mem_insert] at hx ⊢
    tauto

theorem unvisited_enter_of_not_mem (hk : v ∉ adjacency.keys) :
    unvisited adjacency done (insert v active) = unvisited adjacency done active := by
  ext x
  simp only [unvisited, Finset.mem_sdiff, List.mem_toFinset, Finset.mem_union, Finset.mem_insert]
  constructor
  · tauto
  · rintro ⟨hx, hn⟩
    refine ⟨hx, ?_⟩
    rintro (h | rfl | h)
    · exact hn (Or.inl h)
    · exact hk hx
    · exact hn (Or.inr h)

/-- Run the stack down. `none` reports an entry of a vertex that is still active; the
head of the list is the top of the stack, so children are pushed in reverse. -/
def search (adjacency : Dict V (List V)) (done active : Finset V) :
    List (V × Bool) → Option (Finset V × Finset V)
  | [] => some (done, active)
  | (v, true) :: stack => search adjacency (insert v done) (active.erase v) stack
  | (v, false) :: stack =>
    if v ∈ active then none
    else if v ∈ done then search adjacency done active stack
    else
      search adjacency done (insert v active)
        ((children adjacency v).reverse.map (·, false) ++ (v, true) :: stack)
termination_by stack => ((unvisited adjacency done active).card, weight stack)
decreasing_by
  · exact Prod.Lex.right' _ (card_unvisited_leave adjacency done active v) (by simp)
  · exact Prod.Lex.right' _ le_rfl (by simp)
  · by_cases hk : v ∈ adjacency.keys
    · exact Prod.Lex.left _ _ (card_unvisited_enter hk ‹_› ‹_›)
    · have hc : children adjacency v = [] := by
        simp [children, Dict.get?_eq_none_iff.mpr hk]
      rw [unvisited_enter_of_not_mem hk, hc]
      exact Prod.Lex.right' _ le_rfl (by simp)

/-- Search from every root that an earlier search has not finished. -/
def searchFrom (adjacency : Dict V (List V)) (done active : Finset V) : List V → Bool
  | [] => false
  | v :: roots =>
    if v ∈ done then searchFrom adjacency done active roots
    else
      match search adjacency done active [(v, false)] with
      | none => true
      | some (done', active') => searchFrom adjacency done' active' roots

def hasCycle (adjacency : Dict V (List V)) : Bool := searchFrom adjacency ∅ ∅ adjacency.keys

/-! ## The stack is a path of markers with their children above them -/

def top : List (V × Bool) → Option V
  | [] => none
  | (v, true) :: _ => some v
  | (_, false) :: stack => top stack

/-- Everything above a marker, up to the next one included, is a child of its vertex. -/
def Linked (adjacency : Dict V (List V)) : List (V × Bool) → Prop
  | [] => True
  | (v, _) :: stack => (∀ p, top stack = some p → Edge adjacency p v) ∧ Linked adjacency stack

variable {stack : List (V × Bool)}

omit [DecidableEq V] in
theorem exists_top_of_mem (h : (v, true) ∈ stack) : ∃ p, top stack = some p := by
  induction stack with
  | nil => simp at h
  | cons item stack ih =>
    obtain ⟨x, leaving⟩ := item
    cases leaving with
    | true => exact ⟨x, rfl⟩
    | false => exact ih (by simpa using h)

theorem Linked.path {p q : V} (h : Linked adjacency stack) (hp : top stack = some p)
    (hq : (q, true) ∈ stack) : ReflTransGen (Edge adjacency) q p := by
  induction stack generalizing p with
  | nil => simp at hq
  | cons item stack ih =>
    obtain ⟨x, leaving⟩ := item
    obtain ⟨hx, hrest⟩ := h
    cases leaving with
    | false => exact ih hrest hp (by simpa using hq)
    | true =>
      obtain rfl : x = p := by simpa [top] using hp
      rcases List.mem_cons.mp hq with hq | hq
      · obtain rfl : q = x := congrArg Prod.fst hq
        exact .refl
      · obtain ⟨p', hp'⟩ := exists_top_of_mem hq
        exact (ih hrest hp' hq).tail (hx p' hp')

omit [DecidableEq V] in
theorem top_map_append (cs : List V) (stack : List (V × Bool)) :
    top (cs.map (·, false) ++ stack) = top stack := by
  induction cs with
  | nil => rfl
  | cons c cs ih => simpa [top] using ih

theorem Linked.push (cs : List V) (hc : ∀ p, top stack = some p → ∀ c ∈ cs, Edge adjacency p c)
    (h : Linked adjacency stack) : Linked adjacency (cs.map (·, false) ++ stack) := by
  induction cs with
  | nil => exact h
  | cons c cs ih =>
    refine ⟨?_, ih fun p hp x hx => hc p hp x (by simp [hx])⟩
    intro p hp
    change top (cs.map (·, false) ++ stack) = some p at hp
    rw [top_map_append] at hp
    exact hc p hp c (by simp)

/-- Every child of a marked vertex is done or waits above the marker. -/
def Covered (adjacency : Dict V (List V)) (done : Finset V) : List V → List (V × Bool) → Prop
  | _, [] => True
  | above, (v, leaving) :: stack =>
    (leaving = true → ∀ c, Edge adjacency v c → c ∈ done ∨ c ∈ above) ∧
      Covered adjacency done (v :: above) stack

theorem Covered.mono {done' : Finset V} {above above' : List V}
    (hmono : ∀ c, c ∈ done ∨ c ∈ above → c ∈ done' ∨ c ∈ above')
    (h : Covered adjacency done above stack) : Covered adjacency done' above' stack := by
  induction stack generalizing above above' with
  | nil => trivial
  | cons item stack ih =>
    obtain ⟨v, leaving⟩ := item
    refine ⟨fun hl c hc => hmono c (h.1 hl c hc), ih ?_ h.2⟩
    intro c hc
    have := hmono c
    simp only [List.mem_cons] at hc ⊢
    tauto

theorem Covered.push (cs above : List V) (h : Covered adjacency done (cs.reverse ++ above) stack) :
    Covered adjacency done above (cs.map (·, false) ++ stack) := by
  induction cs generalizing above with
  | nil => exact h
  | cons c cs ih =>
    refine ⟨by simp, ih (c :: above) ?_⟩
    simpa using h

/-- The state of a search that has met no cycle yet. -/
structure SearchInv (adjacency : Dict V (List V)) (done active : Finset V)
    (stack : List (V × Bool)) : Prop where
  marked : ∀ v, v ∈ active ↔ (v, true) ∈ stack
  once : (stack.filter Prod.snd).Nodup
  fresh : ∀ v ∈ active, v ∉ done
  linked : Linked adjacency stack
  covered : Covered adjacency done [] stack
  closed : ∀ v ∈ done, ∀ w, Edge adjacency v w → w ∈ done
  acyclic : ∀ v ∈ done, ¬ TransGen (Edge adjacency) v v

theorem closed_transGen (hclosed : ∀ v ∈ done, ∀ w, Edge adjacency v w → w ∈ done) {w : V}
    (hv : v ∈ done) (h : TransGen (Edge adjacency) v w) : w ∈ done := by
  induction h with
  | single h => exact hclosed _ hv _ h
  | tail _ h ih => exact hclosed _ ih _ h

theorem SearchInv.leave (h : SearchInv adjacency done active ((v, true) :: stack)) :
    SearchInv adjacency (insert v done) (active.erase v) stack := by
  have honce : (v, true) ∉ stack ∧ (stack.filter Prod.snd).Nodup := by
    simpa [List.filter_cons] using h.once
  have hvdone : v ∉ done := h.fresh v ((h.marked v).mpr (by simp))
  have hchild : ∀ c, Edge adjacency v c → c ∈ done := by
    intro c hc
    simpa using h.covered.1 rfl c hc
  refine ⟨?_, honce.2, ?_, h.linked.2, ?_, ?_, ?_⟩
  · intro x
    by_cases hx : x = v
    · subst x
      simp [honce.1]
    · simp [hx, h.marked x]
  · intro x hx
    obtain ⟨hne, hx⟩ := Finset.mem_erase.mp hx
    simp [hne, h.fresh x hx]
  · refine h.covered.2.mono ?_
    intro c hc
    simp only [Finset.mem_insert, List.mem_singleton, List.not_mem_nil] at hc ⊢
    tauto
  · intro x hx w hw
    rcases Finset.mem_insert.mp hx with rfl | hx
    · exact Finset.mem_insert_of_mem (hchild w hw)
    · exact Finset.mem_insert_of_mem (h.closed x hx w hw)
  · intro x hx hcycle
    rcases Finset.mem_insert.mp hx with rfl | hx
    · obtain ⟨w, hw, hrest⟩ := TransGen.head'_iff.mp hcycle
      have hwdone := hchild w hw
      rcases reflTransGen_iff_eq_or_transGen.mp hrest with rfl | hrest
      · exact hvdone hwdone
      · exact hvdone (closed_transGen h.closed hwdone hrest)
    · exact h.acyclic x hx hcycle

theorem SearchInv.skip (h : SearchInv adjacency done active ((v, false) :: stack)) (hv : v ∈ done) :
    SearchInv adjacency done active stack := by
  refine ⟨?_, ?_, h.fresh, h.linked.2, ?_, h.closed, h.acyclic⟩
  · intro x
    simp [h.marked x]
  · simpa [List.filter_cons] using h.once
  · refine h.covered.2.mono ?_
    intro c hc
    simp only [List.mem_singleton] at hc
    rcases hc with hc | rfl
    · exact Or.inl hc
    · exact Or.inl hv

theorem SearchInv.enter (h : SearchInv adjacency done active ((v, false) :: stack))
    (ha : v ∉ active) (hd : v ∉ done) :
    SearchInv adjacency done (insert v active)
      ((children adjacency v).reverse.map (·, false) ++ (v, true) :: stack) := by
  have hmarker : (v, true) ∉ stack := fun hm => ha ((h.marked v).mpr (by simp [hm]))
  refine ⟨?_, ?_, ?_, ?_, ?_, h.closed, h.acyclic⟩
  · intro x
    simp [h.marked x]
  · have hfilter : (((children adjacency v).reverse.map (·, false) ++ (v, true) :: stack).filter
        Prod.snd) = (v, true) :: stack.filter Prod.snd := by
      simp [List.filter_append, List.filter_map, Function.comp_def]
    rw [hfilter, List.nodup_cons]
    exact ⟨fun hm => hmarker (List.mem_of_mem_filter hm), by
      simpa [List.filter_cons] using h.once⟩
  · intro x hx
    rcases Finset.mem_insert.mp hx with rfl | hx
    · exact hd
    · exact h.fresh x hx
  · apply Linked.push
    · intro p hp c hc
      obtain rfl : v = p := by simpa [top] using hp
      exact List.mem_reverse.mp hc
    · exact h.linked
  · apply Covered.push
    refine ⟨fun _ c hc => Or.inr (by simpa [Edge] using hc), ?_⟩
    refine h.covered.2.mono ?_
    intro c hc
    simp only [List.mem_cons] at hc ⊢
    tauto

/-! ## Correctness -/

theorem exists_cycle_of_search_eq_none (h : SearchInv adjacency done active stack)
    (hs : search adjacency done active stack = none) : ∃ v, TransGen (Edge adjacency) v v := by
  fun_induction search adjacency done active stack with
  | case1 => simp at hs
  | case2 done active v stack ih => exact ih h.leave hs
  | case3 done active v stack ha =>
    have hm : (v, true) ∈ stack := by simpa using (h.marked v).mp ha
    obtain ⟨p, hp⟩ := exists_top_of_mem hm
    exact ⟨v, TransGen.tail'_iff.mpr ⟨p, h.linked.2.path hp hm, h.linked.1 p hp⟩⟩
  | case4 done active v stack ha hd ih => exact ih (h.skip hd) hs
  | case5 done active v stack ha hd ih => exact ih (h.enter ha hd) hs

/-- A search that runs the stack down finishes everything on it and finds no cycle. -/
theorem search_eq_some {done' active' : Finset V} (h : SearchInv adjacency done active stack)
    (hs : search adjacency done active stack = some (done', active')) :
    SearchInv adjacency done' active' [] ∧ done ⊆ done' ∧ ∀ item ∈ stack, item.1 ∈ done' := by
  fun_induction search adjacency done active stack with
  | case1 =>
    simp only [Option.some.injEq, Prod.mk.injEq] at hs
    obtain ⟨rfl, rfl⟩ := hs
    exact ⟨h, Finset.Subset.refl _, by simp⟩
  | case2 done active v stack ih =>
    obtain ⟨hinv, hsub, hstack⟩ := ih h.leave hs
    refine ⟨hinv, (Finset.subset_insert _ _).trans hsub, ?_⟩
    intro item hitem
    rcases List.mem_cons.mp hitem with rfl | hitem
    · exact hsub (Finset.mem_insert_self _ _)
    · exact hstack item hitem
  | case3 => simp at hs
  | case4 done active v stack ha hd ih =>
    obtain ⟨hinv, hsub, hstack⟩ := ih (h.skip hd) hs
    refine ⟨hinv, hsub, ?_⟩
    intro item hitem
    rcases List.mem_cons.mp hitem with rfl | hitem
    · exact hsub hd
    · exact hstack item hitem
  | case5 done active v stack ha hd ih =>
    obtain ⟨hinv, hsub, hstack⟩ := ih (h.enter ha hd) hs
    refine ⟨hinv, hsub, ?_⟩
    intro item hitem
    rcases List.mem_cons.mp hitem with rfl | hitem
    · exact hstack (v, true) (by simp)
    · exact hstack item (by simp [hitem])

theorem searchInv_root (h : SearchInv adjacency done active []) (v : V) :
    SearchInv adjacency done active [(v, false)] := by
  refine ⟨?_, by simp, h.fresh, ?_, ?_, h.closed, h.acyclic⟩
  · intro x
    simp [h.marked x]
  · simp [Linked, top]
  · simp [Covered]

theorem searchFrom_iff {roots : List V} (h : SearchInv adjacency done active [])
    (hroots : ∀ v ∈ adjacency.keys, v ∈ done ∨ v ∈ roots) :
    searchFrom adjacency done active roots = true ↔ ∃ v, TransGen (Edge adjacency) v v := by
  induction roots generalizing done active with
  | nil =>
    simp only [searchFrom, Bool.false_eq_true, false_iff, not_exists]
    intro v hv
    obtain ⟨w, hw, _⟩ := TransGen.head'_iff.mp hv
    have hdone : v ∈ done := by simpa using hroots v (mem_keys_of_edge hw)
    exact h.acyclic v hdone hv
  | cons r roots ih =>
    simp only [searchFrom]
    split
    · rename_i hr
      apply ih h
      intro v hv
      rcases hroots v hv with hd | hd
      · exact Or.inl hd
      · rcases List.mem_cons.mp hd with rfl | hd
        · exact Or.inl hr
        · exact Or.inr hd
    · cases hs : search adjacency done active [(r, false)] with
      | none =>
        have hc := exists_cycle_of_search_eq_none (searchInv_root h r) hs
        simp [hc]
      | some result =>
        obtain ⟨done', active'⟩ := result
        obtain ⟨hinv, hsub, hstack⟩ := search_eq_some (searchInv_root h r) hs
        apply ih hinv
        intro v hv
        rcases hroots v hv with hd | hd
        · exact Or.inl (hsub hd)
        · rcases List.mem_cons.mp hd with rfl | hd
          · exact Or.inl (hstack (v, false) (by simp))
          · exact Or.inr hd

/-- The search answers `true` exactly on graphs with a directed cycle. -/
theorem hasCycle_iff (adjacency : Dict V (List V)) :
    hasCycle adjacency = true ↔ ∃ v, TransGen (Edge adjacency) v v := by
  apply searchFrom_iff
  · exact ⟨by simp, by simp, by simp, trivial, trivial, by simp, by simp⟩
  · intro v hv
    exact Or.inr hv

end Digraph
