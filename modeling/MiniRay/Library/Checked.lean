import Mathlib.Data.List.Forall2
import Mathlib.Data.Fintype.Basic

/-! Checked computations: guard, bind and loop rules for `Except`, stated so that
`simp` turns "the computation returned `r`" into the conjunction of its guards. -/

namespace Checked

variable {ε : Type*} {α β : Type}

/-- Raise `e` when the condition holds. -/
def raiseIf (c : Prop) [Decidable c] (e : ε) : Except ε Unit :=
  if c then .error e else .ok ()

variable {c : Prop} {e : ε} {u : Unit}

@[simp] theorem raiseIf_eq_ok [Decidable c] : raiseIf c e = .ok u ↔ ¬ c := by
  unfold raiseIf
  split <;> simp_all

theorem raiseIf_ok [Decidable c] (h : ¬ c) : raiseIf c e = .ok () :=
  raiseIf_eq_ok.mpr h

@[simp] theorem raiseIf_eq_error [Decidable c] {e' : ε} : raiseIf c e = .error e' ↔ c ∧ e = e' := by
  unfold raiseIf
  split <;> simp_all

variable {x : Except ε α} {f : α → Except ε β}

@[simp] theorem bind_eq_ok {r : β} : x >>= f = .ok r ↔ ∃ a, x = .ok a ∧ f a = .ok r := by
  cases x <;> simp [bind, Except.bind]

variable {a : α}

theorem bind_ok_of (h : x = .ok a) (hf : ∃ r, f a = .ok r) : ∃ r, x >>= f = .ok r := by
  obtain ⟨r, hr⟩ := hf
  exact ⟨r, bind_eq_ok.mpr ⟨a, h, hr⟩⟩

@[simp] theorem bind_eq_error :
    x >>= f = .error e ↔ x = .error e ∨ ∃ a, x = .ok a ∧ f a = .error e := by
  cases x <;> simp [bind, Except.bind]

@[simp] theorem map_eq_ok {f : α → β} {r : β} : f <$> x = .ok r ↔ ∃ a, x = .ok a ∧ f a = r := by
  cases x <;> simp [Functor.map, Except.map]

@[simp] theorem map_eq_error {f : α → β} : f <$> x = .error e ↔ x = .error e := by
  cases x <;> simp [Functor.map, Except.map]

variable {r : α}

@[simp] theorem pure_eq_ok : (pure a : Except ε α) = .ok r ↔ a = r := by
  simp [pure, Except.pure]

@[simp] theorem pure_ne_error : (pure a : Except ε α) = .error e ↔ False := by
  simp [pure, Except.pure]

@[simp] theorem throw_ne_ok : (throw e : Except ε α) = .ok r ↔ False := by
  simp [throw, throwThe, MonadExceptOf.throw]

@[simp] theorem ite_eq_ok [Decidable c] {y : Except ε α} :
    (if c then x else y) = .ok r ↔ c ∧ x = .ok r ∨ ¬ c ∧ y = .ok r := by
  split <;> simp_all

@[simp] theorem mapError_eq_ok {ε' : Type*} {f : ε → ε'} : x.mapError f = .ok r ↔ x = .ok r := by
  cases x <;> simp [Except.mapError]

/-- Run a check on every element in order, stopping at the first that raises. -/
def checkAll (f : α → Except ε Unit) : List α → Except ε Unit
  | [] => .ok ()
  | x :: xs => do
      f x
      checkAll f xs

@[simp] theorem checkAll_eq_ok {f : α → Except ε Unit} {xs : List α} :
    checkAll f xs = .ok u ↔ ∀ x ∈ xs, f x = .ok () := by
  induction xs with
  | nil => simp [checkAll]
  | cons x xs ih =>
    simp only [checkAll, bind_eq_ok, ih, List.forall_mem_cons]
    exact ⟨fun ⟨_, hx, hxs⟩ => ⟨hx, hxs⟩, fun ⟨hx, hxs⟩ => ⟨(), hx, hxs⟩⟩

theorem exists_of_checkAll_error {f : α → Except ε Unit} {xs : List α}
    (h : checkAll f xs = .error e) : ∃ x ∈ xs, f x = .error e := by
  induction xs with
  | nil => simp [checkAll] at h
  | cons x xs ih =>
    simp only [checkAll, bind_eq_error] at h
    rcases h with h | ⟨_, _, h⟩
    · exact ⟨x, by simp, h⟩
    · obtain ⟨y, hy, h⟩ := ih h
      exact ⟨y, by simp [hy], h⟩

theorem mapM_eq_ok {xs : List α} {ys : List β} :
    xs.mapM f = .ok ys ↔ List.Forall₂ (fun x y => f x = .ok y) xs ys := by
  induction xs generalizing ys with
  | nil => rw [List.mapM_nil, pure_eq_ok, List.forall₂_nil_left_iff, eq_comm]
  | cons x xs ih =>
    simp only [List.mapM_cons, bind_eq_ok, ih, pure_eq_ok]
    constructor
    · rintro ⟨y, hy, ys', hys, rfl⟩
      exact .cons hy hys
    · rintro (_ | ⟨hy, hys⟩)
      exact ⟨_, hy, _, hys, rfl⟩

theorem exists_of_forall₂_right {α β : Type*} {R : α → β → Prop} {xs : List α} {ys : List β}
    (h : List.Forall₂ R xs ys) {y : β} (hy : y ∈ ys) : ∃ x ∈ xs, R x y := by
  induction h with
  | nil => cases hy
  | @cons a b xs ys hab _ ih =>
    rcases List.mem_cons.mp hy with rfl | hy
    · exact ⟨a, by simp, hab⟩
    · obtain ⟨x, hx, hxy⟩ := ih hy
      exact ⟨x, by simp [hx], hxy⟩

theorem exists_of_forall₂_left {α β : Type*} {R : α → β → Prop} {xs : List α} {ys : List β}
    (h : List.Forall₂ R xs ys) {x : α} (hx : x ∈ xs) : ∃ y ∈ ys, R x y :=
  exists_of_forall₂_right (R := Function.swap R) (List.Forall₂.flip h) hx

/-- Run a check on a value that may be absent. -/
def checkSome (f : α → Except ε Unit) : Option α → Except ε Unit
  | none => .ok ()
  | some a => f a

@[simp] theorem checkSome_eq_ok {f : α → Except ε Unit} {o : Option α} :
    checkSome f o = .ok u ↔ ∀ a, o = some a → f a = .ok () := by
  cases o <;> simp [checkSome]

/-- Raise `e` unless the condition holds, and keep its proof. -/
def certify (c : Prop) [Decidable c] (e : ε) : Except ε (PLift c) :=
  if h : c then .ok ⟨h⟩ else .error e

theorem certify_ok [Decidable c] (h : c) : certify c e = .ok ⟨h⟩ := dif_pos h

@[simp] theorem certify_eq_ok [Decidable c] {r : PLift c} : certify c e = .ok r ↔ True :=
  iff_of_true (certify_ok r.down) trivial

/-- Certify every element in order, stopping at the first that fails. -/
def certifyAll (p : α → Prop) [DecidablePred p] (e : α → ε) :
    (xs : List α) → Except ε (PLift (∀ x ∈ xs, p x))
  | [] => .ok ⟨by simp⟩
  | x :: xs => do
      let ⟨hx⟩ ← certify (p x) (e x)
      let ⟨hxs⟩ ← certifyAll p e xs
      return ⟨List.forall_mem_cons.mpr ⟨hx, hxs⟩⟩

theorem certifyAll_ok {p : α → Prop} [DecidablePred p] {e : α → ε} {xs : List α}
    (h : ∀ x ∈ xs, p x) : certifyAll p e xs = .ok ⟨h⟩ := by
  induction xs with
  | nil => rfl
  | cons x xs ih =>
    have hx := (List.forall_mem_cons.mp h).1
    have hxs := ih (List.forall_mem_cons.mp h).2
    change (certify (p x) (e x) >>= fun _ => certifyAll p e xs >>= fun _ => _) = _
    rw [certify_ok hx, hxs]
    rfl

/-! ## Which errors a computation can raise -/

/-- Every error the computation raises satisfies `P`. -/
def RaisesOnly (P : ε → Prop) (x : Except ε α) : Prop := ∀ e, x = .error e → P e

section RaisesOnly

variable {P : ε → Prop}

@[simp] theorem raisesOnly_ok : RaisesOnly P (.ok a : Except ε α) := nofun

@[simp] theorem raisesOnly_pure : RaisesOnly P (pure a : Except ε α) := nofun

variable {e : ε}

@[simp] theorem raisesOnly_error : RaisesOnly P (.error e : Except ε α) ↔ P e := by
  simp [RaisesOnly]

@[simp] theorem raisesOnly_throw : RaisesOnly P (throw e : Except ε α) ↔ P e :=
  raisesOnly_error

@[simp] theorem raisesOnly_raiseIf [Decidable c] : RaisesOnly P (raiseIf c e) ↔ (c → P e) := by
  by_cases h : c <;> simp [raiseIf, h]

variable {x : Except ε α}

@[simp] theorem raisesOnly_bind :
    RaisesOnly P (x >>= f) ↔ RaisesOnly P x ∧ ∀ a, x = .ok a → RaisesOnly P (f a) := by
  cases x <;> simp [RaisesOnly, bind, Except.bind]

@[simp] theorem raisesOnly_map {f : α → β} : RaisesOnly P (f <$> x) ↔ RaisesOnly P x := by
  simp [RaisesOnly]

@[simp] theorem raisesOnly_ite [Decidable c] {y : Except ε α} :
    RaisesOnly P (if c then x else y) ↔ (c → RaisesOnly P x) ∧ (¬ c → RaisesOnly P y) := by
  by_cases h : c <;> simp [h]

@[simp] theorem raisesOnly_checkSome {f : α → Except ε Unit} {o : Option α} :
    RaisesOnly P (checkSome f o) ↔ ∀ a, o = some a → RaisesOnly P (f a) := by
  cases o <;> simp [checkSome]

theorem raisesOnly_checkAll {f : α → Except ε Unit} {xs : List α}
    (h : ∀ x ∈ xs, RaisesOnly P (f x)) : RaisesOnly P (checkAll f xs) := by
  intro e he
  obtain ⟨x, hx, hf⟩ := exists_of_checkAll_error he
  exact h x hx e hf

end RaisesOnly

/-- The state after a call that may raise: the new one, or the old one when it raised. -/
def commit {σ : Type*} {α : Type} (s : σ) : Except ε (α × σ) → σ
  | .ok (_, s') => s'
  | .error _ => s

theorem commit_of {σ : Type*} {p : σ → Prop} {s : σ} {x : Except ε (α × σ)} (h : p s)
    (hok : ∀ a s', x = .ok (a, s') → p s') : p (commit s x) := by
  cases x with
  | error e => exact h
  | ok r => exact hok r.1 r.2 rfl

end Checked
