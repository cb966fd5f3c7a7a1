import Mathlib.Data.List.Induction

/-! Runs of a deterministic machine: the state after a list of actions, invariants of
all runs, and invariants of the runs whose every step meets a contract. -/

namespace Run

variable {σ α : Type*}

def run (step : σ → α → σ) (s : σ) (actions : List α) : σ := actions.foldl step s

@[simp] theorem run_nil (step : σ → α → σ) (s : σ) : run step s [] = s := rfl

@[simp] theorem run_cons (step : σ → α → σ) (s : σ) (a : α) (as : List α) :
    run step s (a :: as) = run step (step s a) as := rfl

theorem run_append (step : σ → α → σ) (s : σ) (as bs : List α) :
    run step s (as ++ bs) = run step (run step s as) bs := by
  simp [run, List.foldl_append]

@[simp] theorem run_concat (step : σ → α → σ) (s : σ) (as : List α) (a : α) :
    run step s (as ++ [a]) = step (run step s as) a := by
  simp [run]

variable {step : σ → α → σ} {s : σ}

theorem run_invariant {p : σ → Prop} (hstep : ∀ s a, p s → p (step s a)) (h : p s) (as : List α) :
    p (run step s as) := by
  induction as generalizing s with
  | nil => exact h
  | cons a as ih => exact ih (hstep s a h)

/-- What the actions of a run put out, oldest first. -/
def outputs {β : Type*} (step : σ → α → σ) (out : σ → α → List β) : σ → List α → List β
  | _, [] => []
  | s, a :: as => out s a ++ outputs step out (step s a) as

variable {β : Type*}

theorem outputs_append (step : σ → α → σ) (out : σ → α → List β) (s : σ) (as bs : List α) :
    outputs step out s (as ++ bs) =
      outputs step out s as ++ outputs step out (run step s as) bs := by
  induction as generalizing s with
  | nil => rfl
  | cons a as ih => simp [outputs, ih]

variable {out : σ → α → List β} {as : List α}

/-- A run that puts something out has a first action that does. -/
theorem exists_first_output (h : outputs step out s as ≠ []) : ∃ xs a ys, as = xs ++ a :: ys ∧
      outputs step out s xs = [] ∧ out (run step s xs) a ≠ [] := by
  induction as generalizing s with
  | nil => exact absurd rfl h
  | cons a as ih =>
    by_cases hfirst : out s a = []
    · have hrest : outputs step out (step s a) as ≠ [] := by simpa [outputs, hfirst] using h
      obtain ⟨xs, b, ys, rfl, hquiet, hout⟩ := ih hrest
      exact ⟨a :: xs, b, ys, rfl, by simp [outputs, hfirst, hquiet], hout⟩
    · exact ⟨[], a, as, rfl, rfl, hfirst⟩

variable {p : List β → σ → Prop}

/-- What one step preserves of the state and the outputs so far, every run preserves. -/
theorem outputs_invariant (hstep : ∀ h s a, p h s → p (h ++ out s a) (step s a)) (hs : p [] s)
    (as : List α) : p (outputs step out s as) (run step s as) := by
  induction as using List.reverseRecOn with
  | nil => exact hs
  | append_singleton as a ih =>
    have hnext := hstep _ _ a ih
    rw [outputs_append, run_concat]
    simpa [outputs] using hnext

/-- Every step of the run is taken in a state where its action meets the contract. -/
def Admissible (step : σ → α → σ) (ok : σ → α → Prop) : σ → List α → Prop
  | _, [] => True
  | s, a :: as => ok s a ∧ Admissible step ok (step s a) as

instance decidableAdmissible (step : σ → α → σ) (ok : σ → α → Prop)
    [∀ s a, Decidable (ok s a)] (s : σ) (as : List α) : Decidable (Admissible step ok s as) :=
  match as with
  | [] => inferInstanceAs (Decidable True)
  | a :: as =>
    haveI := decidableAdmissible step ok (step s a) as
    inferInstanceAs (Decidable (ok s a ∧ Admissible step ok (step s a) as))

variable {ok : σ → α → Prop}

theorem admissible_append {bs : List α} :
    Admissible step ok s (as ++ bs) ↔
      Admissible step ok s as ∧ Admissible step ok (run step s as) bs := by
  induction as generalizing s with
  | nil => simp [Admissible]
  | cons a as ih => simp [Admissible, ih, and_assoc]

/-- A run is admissible when each of its actions meets the contract where it is taken. -/
theorem admissible_iff :
    Admissible step ok s as ↔ ∀ xs a ys, as = xs ++ a :: ys → ok (run step s xs) a := by
  constructor
  · rintro h xs a ys rfl
    exact (admissible_append.mp h).2.1
  · induction as generalizing s with
    | nil => exact fun _ => trivial
    | cons a as ih =>
      intro h
      exact ⟨h [] a as rfl, ih fun xs b ys hb => h (a :: xs) b ys (by rw [hb, List.cons_append])⟩

variable {ok' : σ → α → Prop}

theorem Admissible.and (h : Admissible step ok s as) (h' : Admissible step ok' s as) :
    Admissible step (fun s a => ok s a ∧ ok' s a) s as := by
  induction as generalizing s with
  | nil => trivial
  | cons a as ih => exact ⟨⟨h.1, h'.1⟩, ih h.2 h'.2⟩

theorem Admissible.mono (himp : ∀ s a, ok s a → ok' s a) (h : Admissible step ok s as) :
    Admissible step ok' s as := by
  induction as generalizing s with
  | nil => trivial
  | cons a as ih => exact ⟨himp s a h.1, ih h.2⟩

/-- What every contract-abiding step preserves, every contract-abiding run preserves. -/
theorem Admissible.invariant {p : σ → Prop} (hstep : ∀ s a, ok s a → p s → p (step s a))
    (hrun : Admissible step ok s as) (h : p s) : p (run step s as) := by
  induction as generalizing s with
  | nil => exact h
  | cons a as ih => exact ih hrun.2 (hstep s a hrun.1 h)

theorem Admissible.outputs_invariant (hstep : ∀ h s a, ok s a → p h s → p (h ++ out s a) (step s a))
    (hrun : Admissible step ok s as) (hs : p [] s) : p (outputs step out s as) (run step s as) := by
  induction as using List.reverseRecOn with
  | nil => exact hs
  | append_singleton as a ih =>
    rw [admissible_append] at hrun
    have hnext := hstep _ _ a hrun.2.1 (ih hrun.1)
    rw [outputs_append, run_concat]
    simpa [outputs] using hnext

/-- Some action of the run meets the condition in the state where it is taken. -/
def Occurs (step : σ → α → σ) (p : σ → α → Prop) (s : σ) (as : List α) : Prop :=
  ∃ xs a ys, as = xs ++ a :: ys ∧ p (run step s xs) a

theorem occurs_concat {p : σ → α → Prop} {a : α} :
    Occurs step p s (as ++ [a]) ↔ Occurs step p s as ∨ p (run step s as) a := by
  constructor
  · intro h
    obtain ⟨xs, b, ys, hsplit, hp⟩ := h
    rcases List.eq_nil_or_concat ys with rfl | ⟨zs, z, rfl⟩
    · obtain ⟨rfl, hb⟩ := List.append_inj' hsplit rfl
      cases hb
      exact .inr hp
    · rw [List.concat_eq_append, ← List.cons_append, ← List.append_assoc] at hsplit
      obtain ⟨rfl, _⟩ := List.append_inj' hsplit rfl
      exact .inl ⟨xs, b, zs, rfl, hp⟩
  · intro h
    rcases h with ⟨xs, b, ys, rfl, hp⟩ | hp
    · exact ⟨xs, b, ys ++ [a], by simp, hp⟩
    · exact ⟨as, a, [], rfl, hp⟩

/-- What an action brings about and every step preserves, holds once the action occurred. -/
theorem Occurs.invariant {p : σ → α → Prop} {q : σ → Prop} (hstart : ∀ s a, p s a → q (step s a))
    (hstep : ∀ s a, q s → q (step s a)) (h : Occurs step p s as) : q (run step s as) := by
  obtain ⟨xs, a, ys, rfl, hp⟩ := h
  rw [run_append, run_cons]
  exact run_invariant hstep (hstart _ a hp) ys

end Run
