import MiniRay.Library.Checked
import Mathlib.Data.List.Nodup
import Mathlib.Data.List.Perm.Subperm
import Mathlib.Logic.Relation

/-! Recursive depth-first search over a graph that is unfolded on demand: `expand` gives
the children of a vertex, or refuses it. The search stops at the first refused vertex and
at the first child that is still on the path; otherwise it returns the closed vertices,
each after its children. -/

namespace DepthFirst

open Checked Relation

variable {V : Type} {ε : Type}

inductive Stop (ε : Type)
  | refused (e : ε)
  | cycle
  | depth

variable {expand : V → Except ε (List V)} {path closed closed' : List V} {v : V}

def Edge (expand : V → Except ε (List V)) (v w : V) : Prop :=
  ∃ children, expand v = .ok children ∧ w ∈ children

/-- Every vertex of the list was expanded, and stands after its children. -/
def Ordered (expand : V → Except ε (List V)) (closed : List V) : Prop :=
  ∀ front v back, closed = front ++ v :: back →
    ∃ children, expand v = .ok children ∧ ∀ w ∈ children, w ∈ front

theorem ordered_nil : Ordered expand [] := by
  intro front v back h
  simp at h

variable {children : List V}

theorem Ordered.snoc (h : Ordered expand closed) (hexpand : expand v = .ok children)
    (hbefore : ∀ w ∈ children, w ∈ closed) : Ordered expand (closed ++ [v]) := by
  intro front w back heq
  rcases List.append_eq_append_iff.mp heq with ⟨rest, hfront, hrest⟩ | ⟨rest, hclosed, hrest⟩
  · -- the vertex split off is the last one
    cases rest with
    | nil =>
      simp only [List.nil_append, List.cons.injEq] at hrest
      rw [List.append_nil] at hfront
      subst hfront
      rw [← hrest.1]
      exact ⟨children, hexpand, hbefore⟩
    | cons x rest => simp at hrest
  · cases rest with
    | nil =>
      simp only [List.nil_append, List.cons.injEq] at hrest
      rw [List.append_nil] at hclosed
      subst hclosed
      rw [hrest.1]
      exact ⟨children, hexpand, hbefore⟩
    | cons x rest =>
      simp only [List.cons_append, List.cons.injEq] at hrest
      rw [← hrest.1] at hclosed
      exact h front w rest hclosed

variable {w : V}

section

variable (h : Ordered expand closed) (hv : v ∈ closed)
include h hv

theorem Ordered.mem_of_edge (he : Edge expand v w) :
    w ∈ closed := by
  obtain ⟨front, back, rfl⟩ := List.append_of_mem hv
  obtain ⟨children, hexpand, hbefore⟩ := h front v back rfl
  obtain ⟨children', hexpand', hw⟩ := he
  rw [hexpand] at hexpand'
  cases hexpand'
  exact List.mem_append_left _ (hbefore w hw)

theorem Ordered.mem_of_reach (hr : ReflTransGen (Edge expand) v w) : w ∈ closed := by
  induction hr with
  | refl => exact hv
  | tail _ he ih => exact h.mem_of_edge ih he

theorem Ordered.expanded :
    ∃ children, expand v = .ok children := by
  obtain ⟨front, back, rfl⟩ := List.append_of_mem hv
  obtain ⟨children, hexpand, -⟩ := h front v back rfl
  exact ⟨children, hexpand⟩

/-- Along an edge the position in the list goes down. -/
theorem Ordered.idxOf_lt [DecidableEq V] (he : Edge expand v w) : closed.idxOf w < closed.idxOf v :=
    by
  obtain ⟨front, back, hsplit, hfirst⟩ := List.eq_append_cons_of_mem hv
  obtain ⟨children, hexpand, hbefore⟩ := h front v back hsplit
  obtain ⟨children', hexpand', hw⟩ := he
  rw [hexpand] at hexpand'
  cases hexpand'
  have hmem : w ∈ front := hbefore w hw
  have hindex : closed.idxOf v = front.length := by
    rw [hsplit, List.idxOf_append_of_notMem hfirst, List.idxOf_cons_self, Nat.add_zero]
  rw [hindex, hsplit, List.idxOf_append_of_mem hmem]
  exact List.idxOf_lt_length_of_mem hmem

theorem Ordered.acyclic [DecidableEq V] :
    ¬ TransGen (Edge expand) v v := by
  have hlt : ∀ w, TransGen (Edge expand) v w → closed.idxOf w < closed.idxOf v := by
    intro w hr
    induction hr with
    | single he => exact h.idxOf_lt hv he
    | tail hr he ih => exact Nat.lt_trans (h.idxOf_lt (h.mem_of_reach hv hr.to_reflTransGen) he) ih
  intro hcycle
  exact Nat.lt_irrefl _ (hlt v hcycle)

end

/-! ## What one visit returns -/

/-- From `closed`, a visit of `roots` went on to `closed'`. -/
structure Explored (expand : V → Except ε (List V)) (path roots closed closed' : List V) :
    Prop where
  grows : closed <+: closed'
  found : ∀ v ∈ roots, v ∈ closed'
  ordered : Ordered expand closed'
  nodup : closed'.Nodup
  apart : ∀ v ∈ closed', v ∉ path
  reached : ∀ w ∈ closed', w ∈ closed ∨ ∃ v ∈ roots, ReflTransGen (Edge expand) v w

variable {roots : List V}

theorem Explored.known (hroots : ∀ v ∈ roots, v ∈ closed) (hordered : Ordered expand closed)
    (hnodup : closed.Nodup) (hapart : ∀ v ∈ closed, v ∉ path) :
    Explored expand path roots closed closed where
  grows := List.prefix_refl closed
  found := hroots
  ordered := hordered
  nodup := hnodup
  apart := hapart
  reached _ hw := .inl hw

theorem Explored.cons {middle : List V} (hv : Explored expand path [v] closed middle)
    (hrest : Explored expand path roots middle closed') :
    Explored expand path (v :: roots) closed closed' where
  grows := hv.grows.trans hrest.grows
  found w hw := by
    rcases List.mem_cons.mp hw with rfl | hw
    · exact hrest.grows.subset (hv.found w (List.mem_singleton_self w))
    · exact hrest.found w hw
  ordered := hrest.ordered
  nodup := hrest.nodup
  apart := hrest.apart
  reached w hw := by
    rcases hrest.reached w hw with hmiddle | ⟨root, hroot, hr⟩
    · rcases hv.reached w hmiddle with hclosed | ⟨root, hroot, hr⟩
      · exact .inl hclosed
      · rw [List.mem_singleton.mp hroot] at hr
        exact .inr ⟨v, List.mem_cons_self, hr⟩
    · exact .inr ⟨root, List.mem_cons_of_mem _ hroot, hr⟩

theorem Explored.close (h : Explored expand (v :: path) children closed closed') (hpath : v ∉ path)
    (hexpand : expand v = .ok children) :
    Explored expand path [v] closed (closed' ++ [v]) where
  grows := h.grows.trans (List.prefix_append closed' [v])
  found w hw := by
    rw [List.mem_singleton.mp hw]
    exact List.mem_append_right _ (List.mem_singleton_self v)
  ordered := h.ordered.snoc hexpand h.found
  nodup := by
    have hfresh : v ∉ closed' := fun hv => h.apart v hv List.mem_cons_self
    exact List.nodup_append.mpr ⟨h.nodup, List.nodup_singleton v, fun a ha b hb hab => by
      rw [List.mem_singleton.mp hb] at hab
      exact hfresh (hab ▸ ha)⟩
  apart w hw := by
    rcases List.mem_append.mp hw with hw | hw
    · exact fun hp => h.apart w hw (List.mem_cons_of_mem _ hp)
    · rw [List.mem_singleton.mp hw]
      exact hpath
  reached w hw := by
    rcases List.mem_append.mp hw with hw | hw
    · rcases h.reached w hw with hclosed | ⟨child, hchild, hr⟩
      · exact .inl hclosed
      · exact .inr ⟨v, List.mem_singleton_self v,
          .head ⟨children, hexpand, hchild⟩ hr⟩
    · rw [List.mem_singleton.mp hw]
      exact .inr ⟨v, List.mem_singleton_self v, .refl⟩

variable {step : List V → V → Except (Stop ε) (List V)}

/-- A loop of visits explores its roots when each visit does. -/
theorem foldlM_explored
    (hstep : ∀ v before after, Ordered expand before → before.Nodup → (∀ w ∈ before, w ∉ path) →
      step before v = .ok after → Explored expand path [v] before after)
    (hordered : Ordered expand closed) (hnodup : closed.Nodup) (hapart : ∀ w ∈ closed, w ∉ path)
    (h : roots.foldlM step closed = .ok closed') : Explored expand path roots closed closed' := by
  induction roots generalizing closed with
  | nil =>
    rw [List.foldlM_nil, pure_eq_ok] at h
    subst h
    exact .known (fun _ hv => absurd hv List.not_mem_nil) hordered hnodup hapart
  | cons v roots ih =>
    rw [List.foldlM_cons, bind_eq_ok] at h
    obtain ⟨middle, hv, hrest⟩ := h
    have hfirst := hstep v closed middle hordered hnodup hapart hv
    exact hfirst.cons (ih hfirst.ordered hfirst.nodup hfirst.apart hrest)

/-! ## Why a visit stops -/

/-- What a stop at `v` says about the graph below it. -/
def Blames (expand : V → Except ε (List V)) (v : V) : Stop ε → Prop
  | .refused e => ∃ w, ReflTransGen (Edge expand) v w ∧ expand w = .error e
  | .cycle => ∃ w, ReflTransGen (Edge expand) v w ∧ TransGen (Edge expand) w w
  | .depth => False

theorem Blames.head {stop : Stop ε} (he : Edge expand v w) (h : Blames expand w stop) :
    Blames expand v stop := by
  cases stop with
  | refused e =>
    obtain ⟨x, hr, hrefused⟩ := h
    exact ⟨x, .head he hr, hrefused⟩
  | cycle =>
    obtain ⟨x, hr, hcycle⟩ := h
    exact ⟨x, .head he hr, hcycle⟩
  | depth => exact h

theorem exists_of_foldlM_error {stop : Stop ε} (h : roots.foldlM step closed = .error stop) :
    ∃ v ∈ roots, ∃ before, step before v = .error stop := by
  induction roots generalizing closed with
  | nil =>
    rw [List.foldlM_nil] at h
    cases h
  | cons v roots ih =>
    rw [List.foldlM_cons, bind_eq_error] at h
    rcases h with hv | ⟨middle, -, hrest⟩
    · exact ⟨v, List.mem_cons_self, closed, hv⟩
    · obtain ⟨w, hw, before, hstop⟩ := ih hrest
      exact ⟨w, List.mem_cons_of_mem _ hw, before, hstop⟩

/-- The path leads to `v` through expanded vertices; the fuel covers those yet to join it. -/
structure Descends (expand : V → Except ε (List V)) (vertices path : List V) (v : V)
    (fuel : Nat) : Prop where
  walk : ∀ p ∈ path, TransGen (Edge expand) p v
  nodup : path.Nodup
  known : path ⊆ vertices
  fuelled : vertices.length < fuel + path.length

theorem Descends.child {fuel : Nat} {vertices : List V}
    (h : Descends expand vertices path v (fuel + 1)) (hpath : v ∉ path) (hvertices : v ∈ vertices)
    (hexpand : expand v = .ok children) (hw : w ∈ children) :
    Descends expand vertices (v :: path) w fuel where
  walk p hp := by
    have he : Edge expand v w := ⟨children, hexpand, hw⟩
    rcases List.mem_cons.mp hp with rfl | hp
    · exact .single he
    · exact (h.walk p hp).tail he
  nodup := List.nodup_cons.mpr ⟨hpath, h.nodup⟩
  known := List.cons_subset.mpr ⟨hvertices, h.known⟩
  fuelled := by
    have hfuelled := h.fuelled
    rw [List.length_cons]
    omega

/-! ## The search -/

section Search

variable [DecidableEq V]

/-- One visit: `path` is the stack of open vertices, the list passed on the closed ones. -/
def visit (expand : V → Except ε (List V)) :
    Nat → List V → V → List V → Except (Stop ε) (List V)
  | 0, _, _, _ => .error .depth
  | fuel + 1, path, v, closed =>
    if v ∈ path then .error .cycle
    else if v ∈ closed then .ok closed
    else match expand v with
      | .error e => .error (.refused e)
      | .ok children => do
          let closed ← children.foldlM
            (fun closed w => visit expand fuel (v :: path) w closed) closed
          return closed ++ [v]

variable {fuel : Nat}

theorem visit_explored (hordered : Ordered expand closed) (hnodup : closed.Nodup)
    (hapart : ∀ w ∈ closed, w ∉ path) (h : visit expand fuel path v closed = .ok closed') :
    Explored expand path [v] closed closed' := by
  induction fuel generalizing path v closed closed' with
  | zero => simp [visit] at h
  | succ fuel ih =>
    rw [visit] at h
    by_cases hpath : v ∈ path
    · rw [if_pos hpath] at h
      cases h
    rw [if_neg hpath] at h
    by_cases hclosed : v ∈ closed
    · rw [if_pos hclosed] at h
      cases h
      exact .known (fun w hw => (List.mem_singleton.mp hw).symm ▸ hclosed) hordered hnodup hapart
    rw [if_neg hclosed] at h
    cases hexpand : expand v with
    | error e =>
      rw [hexpand] at h
      cases h
    | ok children =>
      rw [hexpand] at h
      simp only [bind_eq_ok, pure_eq_ok] at h
      obtain ⟨after, hloop, rfl⟩ := h
      have hopen : ∀ w ∈ closed, w ∉ v :: path := by
        intro w hw hmem
        rcases List.mem_cons.mp hmem with rfl | hmem
        · exact hclosed hw
        · exact hapart w hw hmem
      have hall := foldlM_explored (fun w before after => ih) hordered hnodup hopen hloop
      exact hall.close hpath hexpand

variable {vertices : List V}

theorem visit_blames {stop : Stop ε}
    (hvertices : ∀ w children, expand w = .ok children → w ∈ vertices)
    (hdescends : Descends expand vertices path v fuel)
    (h : visit expand fuel path v closed = .error stop) : Blames expand v stop := by
  induction fuel generalizing path v closed with
  | zero =>
    -- the path would hold more vertices than there are
    have hlength : path.length ≤ vertices.length :=
      (List.subperm_of_subset hdescends.nodup hdescends.known).length_le
    have hfuelled := hdescends.fuelled
    omega
  | succ fuel ih =>
    rw [visit] at h
    by_cases hpath : v ∈ path
    · rw [if_pos hpath] at h
      cases h
      exact ⟨v, .refl, hdescends.walk v hpath⟩
    rw [if_neg hpath] at h
    by_cases hclosed : v ∈ closed
    · rw [if_pos hclosed] at h
      cases h
    rw [if_neg hclosed] at h
    cases hexpand : expand v with
    | error e =>
      rw [hexpand] at h
      cases h
      exact ⟨v, .refl, hexpand⟩
    | ok children =>
      rw [hexpand] at h
      simp only [bind_eq_error, pure_ne_error, and_false, exists_false, or_false] at h
      obtain ⟨w, hw, before, hstop⟩ := exists_of_foldlM_error h
      have hchild := hdescends.child hpath (hvertices v children hexpand) hexpand hw
      exact (ih hchild hstop).head ⟨children, hexpand, hw⟩

/-- A search from one vertex, with nothing open or closed yet. -/
def search (expand : V → Except ε (List V)) (fuel : Nat) (v : V) :
    Except (Stop ε) (List V) :=
  visit expand fuel [] v []

theorem search_explored (h : search expand fuel v = .ok closed) :
    Explored expand [] [v] [] closed :=
  visit_explored ordered_nil List.nodup_nil (fun _ hw => absurd hw List.not_mem_nil) h

theorem search_blames {stop : Stop ε}
    (hvertices : ∀ w children, expand w = .ok children → w ∈ vertices)
    (hfuel : vertices.length < fuel) (h : search expand fuel v = .error stop) :
    Blames expand v stop :=
  visit_blames hvertices ⟨fun _ hp => absurd hp List.not_mem_nil, List.nodup_nil,
    List.nil_subset _, by rw [List.length_nil, Nat.add_zero]; exact hfuel⟩ h

theorem search_mem_iff (h : search expand fuel v = .ok closed) :
    w ∈ closed ↔ ReflTransGen (Edge expand) v w := by
  have hexplored := search_explored h
  constructor
  · intro hw
    rcases hexplored.reached w hw with hnone | ⟨root, hroot, hr⟩
    · exact absurd hnone List.not_mem_nil
    · rw [List.mem_singleton.mp hroot] at hr
      exact hr
  · exact hexplored.ordered.mem_of_reach (hexplored.found v (List.mem_singleton_self v))

/-- With enough fuel a search returns unless it can reach a refused vertex or a cycle. -/
theorem search_ok_iff (hvertices : ∀ w children, expand w = .ok children → w ∈ vertices)
    (hfuel : vertices.length < fuel) :
    (∃ closed, search expand fuel v = .ok closed) ↔
      ∀ w, ReflTransGen (Edge expand) v w →
        (∃ children, expand w = .ok children) ∧ ¬ TransGen (Edge expand) w w := by
  constructor
  · rintro ⟨closed, h⟩ w hr
    have hordered := (search_explored h).ordered
    have hw := (search_mem_iff h).mpr hr
    exact ⟨hordered.expanded hw, hordered.acyclic hw⟩
  · intro hsafe
    cases h : search expand fuel v with
    | ok closed => exact ⟨closed, rfl⟩
    | error stop =>
      have hblame := search_blames hvertices hfuel h
      cases stop with
      | refused e =>
        obtain ⟨w, hr, hrefused⟩ := hblame
        obtain ⟨children, hexpand⟩ := (hsafe w hr).1
        rw [hrefused] at hexpand
        cases hexpand
      | cycle =>
        obtain ⟨w, hr, hcycle⟩ := hblame
        exact absurd hcycle (hsafe w hr).2
      | depth => exact hblame.elim

end Search

end DepthFirst
