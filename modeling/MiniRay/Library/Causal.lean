import Mathlib.Data.List.Induction

/-! Logs in which every event comes after the events it requires. -/

namespace Causal

variable {α : Type*}

def Precedes (log : List α) (x y : α) : Prop := ∀ as bs, log = as ++ y :: bs → x ∈ as

variable {log : List α} {x y : α}

theorem Precedes.mem (h : Precedes log x y) (hy : y ∈ log) : x ∈ log := by
  obtain ⟨as, bs, rfl⟩ := List.append_of_mem hy
  exact List.mem_append_left _ (h as bs rfl)

/-- One more event keeps the order if it is not `y`, or if `x` was there. -/
theorem Precedes.concat {z : α} (h : Precedes log x y) (hz : z = y → x ∈ log) :
    Precedes (log ++ [z]) x y := by
  intro as bs heq
  induction bs using List.reverseRecOn with
  | nil =>
    obtain ⟨rfl, hzy⟩ := List.append_inj' heq rfl
    exact hz (List.singleton_inj.mp hzy)
  | append_singleton bs b _ =>
    rw [← List.cons_append, ← List.append_assoc] at heq
    obtain ⟨hlog, _⟩ := List.append_inj' heq rfl
    exact h as bs hlog

/-- Every event of the log comes after all it requires. -/
def Ordered (requires : α → α → Prop) (log : List α) : Prop :=
  ∀ x y, requires x y → Precedes log x y

variable {requires : α → α → Prop}

theorem Ordered.concat {z : α} (h : Ordered requires log) (hz : ∀ x, requires x z → x ∈ log) :
    Ordered requires (log ++ [z]) := by
  intro x y hxy
  refine (h x y hxy).concat ?_
  rintro rfl
  exact hz x hxy

theorem Ordered.append {zs : List α} (h : Ordered requires log)
    (hzs : ∀ z ∈ zs, ∀ x, requires x z → x ∈ log) : Ordered requires (log ++ zs) := by
  induction zs generalizing log with
  | nil => rwa [List.append_nil]
  | cons z zs ih =>
    rw [List.append_cons]
    refine ih (h.concat (hzs z (by simp))) ?_
    intro z' hz' x hx
    exact List.mem_append_left _ (hzs z' (by simp [hz']) x hx)

theorem precedes_of_not_mem (h : y ∉ log) : Precedes log x y := by
  rintro as bs rfl
  simp at h

end Causal
