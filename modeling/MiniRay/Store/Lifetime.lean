import MiniRay.Store.Contents

/-! What every sequence of calls keeps: the counter, the meaning of a seal and of a read, and that
readable bytes stay until they are deleted. -/

namespace MiniRay

open Checked Run Buffer

variable {τ : Type} [DecidableEq τ]

namespace ObjectStore

variable {s : ObjectStore τ} {h : ObjectID → List (Write UInt8)} {o x : ObjectID}

/-- The writes after a call: none after a creation, one more when accepted. -/
def history (s : ObjectStore τ) (op : Op τ) (h : ObjectID → List (Write UInt8)) :
    ObjectID → List (Write UInt8) :=
  match op, (s.call op).1 with
  | .create o _, .ok _ => Function.update h o []
  | .write o data offset, .ok _ => Function.update h o (h o ++ [⟨offset.toNat, data⟩])
  | .put o data, .ok _ => Function.update h o [⟨0, data⟩]
  | _, _ => h

/-- The accepted writes of every entry since it was created. -/
def histories (s : ObjectStore τ) (h : ObjectID → List (Write UInt8)) :
    List (Op τ) → ObjectID → List (Write UInt8)
  | [] => h
  | op :: ops => histories (s.step op) (s.history op h) ops

theorem inv_step (hinv : Inv h s) (op : Op τ) : Inv (s.history op h) (s.step op) := by
  cases op with
  | create o sizeBytes =>
    cases hcall : s.create o sizeBytes with
    | error e => simpa [history, step, call, atomic, hcall] using hinv
    | ok s' => simpa [history, step, call, atomic, hcall] using hinv.create hcall
  | write o data offset =>
    cases hcall : s.write o data offset with
    | error e => simpa [history, step, call, atomic, hcall] using hinv
    | ok s' => simpa [history, step, call, atomic, hcall] using hinv.write hcall
  | seal_ o =>
    cases hcall : s.seal_ o with
    | error e => simpa [history, step, call, atomic, hcall] using hinv
    | ok s' => simpa [history, step, call, atomic, hcall] using hinv.seal hcall
  | put o data =>
    rcases hinv.put (o := o) data with ⟨e, _, hput⟩ | ⟨_, _, ready, _, _, _, hput, hready⟩
    · simpa [history, step, call, hput, Except.map] using hinv
    · simpa [history, step, call, hput, Except.map] using hready
  | get o => exact hinv
  | pin o token =>
    cases hcall : s.pin o token with
    | error e => simpa [history, step, call, atomic, hcall] using hinv
    | ok s' => simpa [history, step, call, atomic, hcall] using hinv.pin hcall
  | unpin o token =>
    cases hcall : s.unpin o token with
    | error e => simpa [history, step, call, hcall] using hinv
    | ok r => simpa [history, step, call, hcall] using hinv.unpin hcall
  | delete o => exact hinv.delete
  | abort o => exact hinv.abort

theorem inv_run (hinv : Inv h s) (ops : List (Op τ)) :
    Inv (s.histories h ops) (run step s ops) := by
  induction ops generalizing s h with
  | nil => exact hinv
  | cons op ops ih => exact ih (inv_step hinv op)

/-! ## Failures -/

theorem call_error (hinv : Inv h s) {op : Op τ} {e : ObjectStoreError}
    (hcall : (s.call op).1 = .error e) : s.step op = s := by
  have hatomic : ∀ result : Except ObjectStoreError (ObjectStore τ),
      (s.atomic result).1 = .error e → (s.atomic result).2 = s := by
    intro result hraised
    cases result with
    | error _ => rfl
    | ok _ => cases hraised
  cases op with
  | create o sizeBytes => exact hatomic _ hcall
  | write o data offset => exact hatomic _ hcall
  | seal_ o => exact hatomic _ hcall
  | put o data =>
    rcases hinv.put (o := o) data with ⟨e', _, hput⟩ | ⟨_, _, ready, _, _, _, hput, _⟩
    · simp [step, call, hput]
    · simp [call, hput, Except.map] at hcall
  | get o => rfl
  | pin o token => exact hatomic _ hcall
  | unpin o token =>
    simp only [step, call] at hcall ⊢
    cases hunpin : s.unpin o token with
    | error e' => rfl
    | ok r => simp [hunpin] at hcall
  | delete o =>
    simp only [step, call] at hcall ⊢
    unfold ObjectStore.delete at hcall ⊢
    split
    · rfl
    · next entry he =>
      split
      · rfl
      · next hpins =>
        simp [he, hpins, (hinv.removeEntry he).1, Except.map] at hcall
  | abort o =>
    simp only [step, call] at hcall ⊢
    unfold ObjectStore.abort at hcall ⊢
    split
    · rfl
    · next entry he =>
      split
      · rfl
      · next hsealed =>
        simp [he, hsealed, (hinv.removeEntry he).1, Except.map] at hcall

/-! ## What stays -/

/-- The entry is still there and shows the bytes it showed. -/
def Keeps (o : ObjectID) (e : StoreEntry τ) (s : ObjectStore τ) : Prop :=
  ∃ e', s.entries.get? o = some e' ∧
    ∀ data, e.sealedData = some data → e'.sealedData = some data

section Keeps

variable {e e' : StoreEntry τ}

omit [DecidableEq τ] in
theorem keeps_self (he : s.entries.get? o = some e) : Keeps o e s := ⟨e, he, fun _ hdata => hdata⟩

variable {current : StoreEntry τ}

omit [DecidableEq τ] in
/-- An entry is replaced by one that shows the same bytes, if any. -/
theorem keeps_setEntry (he : s.entries.get? o = some e) (hx : s.entries.get? x = some current)
    (hsame : ∀ data, current.sealedData = some data → e'.sealedData = some data) :
    Keeps o e (s.setEntry x e') := by
  by_cases heq : x = o
  · subst heq
    rw [he, Option.some.injEq] at hx
    subst hx
    exact ⟨e', Dict.get?_set_self _ _ _, hsame⟩
  · exact ⟨e, (Dict.get?_set_of_ne _ _ heq).trans he, fun _ hdata => hdata⟩

omit [DecidableEq τ] in
theorem keeps_unsealed (he : s.entries.get? o = some e) (hx : s.entries.get? x = some current)
    (hunsealed : current.isSealed = false) : Keeps o e (s.setEntry x e') := by
  refine keeps_setEntry he hx ?_
  intro data hdata
  simp [StoreEntry.isSealed, hdata] at hunsealed

variable {s' : ObjectStore τ}

omit [DecidableEq τ] in
theorem Keeps.trans (hfirst : Keeps o e s)
    (hthen : ∀ e', s.entries.get? o = some e' → Keeps o e' s') : Keeps o e s' := by
  obtain ⟨e₁, he₁, hdata₁⟩ := hfirst
  obtain ⟨e₂, he₂, hdata₂⟩ := hthen e₁ he₁
  exact ⟨e₂, he₂, fun data hdata => hdata₂ data (hdata₁ data hdata)⟩

omit [DecidableEq τ] in
theorem keeps_create {size : Int} (he : s.entries.get? o = some e)
    (hcall : s.create x size = .ok s') : Keeps o e s' := by
  obtain ⟨_, hnew, _, rfl⟩ := create_ok hcall
  exact keeps_self (Dict.get?_set_kept hnew he)

omit [DecidableEq τ] in
theorem keeps_write {data : List UInt8} {offset : Int} (he : s.entries.get? o = some e)
    (hcall : s.write x data offset = .ok s') : Keeps o e s' := by
  obtain ⟨_, current, hx, hsealed, _, _, _, rfl⟩ := write_eq_ok.mp hcall
  exact keeps_unsealed he hx hsealed

omit [DecidableEq τ] in
theorem keeps_seal (he : s.entries.get? o = some e) (hcall : s.seal_ x = .ok s') :
    Keeps o e s' := by
  obtain ⟨current, hx, hsealed, _, _, _, rfl⟩ := seal_eq_ok.mp hcall
  exact keeps_unsealed he hx hsealed

omit [DecidableEq τ] in
theorem keeps_removeEntry (he : s.entries.get? o = some e) (hne : x ≠ o) :
    Keeps o e (s.removeEntry x current).2 := by
  have hentries : (s.removeEntry x current).2.entries = s.entries.erase x := by
    unfold removeEntry
    exact apply_ite (fun r : Except ObjectStoreError Bool × ObjectStore τ => r.2.entries) _ _ _
      |>.trans (ite_self _)
  exact keeps_self (hentries ▸ (Dict.get?_erase_of_ne _ hne).trans he)

/-- Only a deletion and the abort of an unsealed entry take an entry away. -/
theorem step_keeps (hinv : Inv h s) (he : s.entries.get? o = some e) (op : Op τ) :
    Keeps o e (s.step op) ∨
      op = .delete o ∧ (s.call op).1 = .ok (.changed true) ∧ e.pinTokens = [] ∨
      op = .abort o ∧ e.isSealed = false := by
  have hatomic : ∀ result : Except ObjectStoreError (ObjectStore τ),
      (∀ s', result = .ok s' → Keeps o e s') → Keeps o e (s.atomic result).2 := by
    intro result hkeeps
    cases result with
    | error _ => exact keeps_self he
    | ok s' => exact hkeeps s' rfl
  cases op with
  | create x size => exact .inl (hatomic _ fun s' hcall => keeps_create he hcall)
  | write x data offset => exact .inl (hatomic _ fun s' hcall => keeps_write he hcall)
  | seal_ x => exact .inl (hatomic _ fun s' hcall => keeps_seal he hcall)
  | put x data =>
    refine .inl ?_
    simp only [step, call]
    rcases hinv.put (o := x) data with
      ⟨_, _, hput⟩ | ⟨_, _, ready, hcreate, hwrite, hseal, hput, _⟩
    · rw [hput]
      exact keeps_self he
    · rw [hput]
      refine (keeps_create he hcreate).trans fun e₁ he₁ => ?_
      exact (keeps_write he₁ hwrite).trans fun e₂ he₂ => keeps_seal he₂ hseal
  | get x => exact .inl (keeps_self he)
  | pin x token =>
    refine .inl (hatomic _ fun s' hcall => ?_)
    obtain ⟨current, hx, _, rfl⟩ := pin_ok hcall
    exact keeps_setEntry he hx fun _ hdata => hdata
  | unpin x token =>
    refine .inl ?_
    simp only [step, call]
    cases hcall : s.unpin x token with
    | error _ => exact keeps_self he
    | ok r =>
      obtain ⟨current, hx, hs'⟩ := unpin_ok hcall
      rw [hs']
      exact keeps_setEntry he hx fun _ hdata => hdata
  | delete x =>
    by_cases heq : x = o
    · subst heq
      by_cases hpins : e.pinTokens = []
      · have hcall : (s.call (.delete x)).1 = .ok (.changed true) := by
          simp [call, ObjectStore.delete, he, hpins, (hinv.removeEntry he).1, Except.map]
        exact .inr (.inl ⟨rfl, hcall, hpins⟩)
      · refine .inl ?_
        simp only [step, call, ObjectStore.delete, he, ne_eq, hpins, not_false_eq_true, if_true]
        exact keeps_self he
    · refine .inl ?_
      simp only [step, call, ObjectStore.delete]
      split
      · exact keeps_self he
      · split
        · exact keeps_self he
        · exact keeps_removeEntry he heq
  | abort x =>
    by_cases heq : x = o
    · subst heq
      by_cases hsealed : e.isSealed = true
      · refine .inl ?_
        simp only [step, call, ObjectStore.abort, he, hsealed, if_true]
        exact keeps_self he
      · exact .inr (.inr ⟨rfl, Bool.not_eq_true _ ▸ hsealed⟩)
    · refine .inl ?_
      simp only [step, call, ObjectStore.abort]
      split
      · exact keeps_self he
      · split
        · exact keeps_self he
        · exact keeps_removeEntry he heq

end Keeps

/-! ## The contract of the store -/

/-- A call that is not a successful deletion of the object. -/
def NotDeleting (o : ObjectID) (s : ObjectStore τ) (op : Op τ) : Prop :=
  op = .delete o → (s.call op).1 ≠ .ok (.changed true)

theorem get_step {data : List UInt8} (hinv : Inv h s) (hget : s.get o = .ok data) {op : Op τ}
    (hop : NotDeleting o s op) : (s.step op).get o = .ok data := by
  obtain ⟨e, he, hdata⟩ := get_eq_ok.mp hget
  rcases step_keeps hinv he op with hkeeps | ⟨hdelete, hreply, _⟩ | ⟨_, hunsealed⟩
  · obtain ⟨e', he', hsame⟩ := hkeeps
    exact get_eq_ok.mpr ⟨e', he', hsame data hdata⟩
  · exact absurd hreply (hop hdelete)
  · simp [StoreEntry.isSealed, hdata] at hunsealed

theorem get_run {data : List UInt8} (hinv : Inv h s) (hget : s.get o = .ok data)
    {ops : List (Op τ)} (hops : Admissible step (NotDeleting o) s ops) :
    (run step s ops).get o = .ok data := by
  induction ops generalizing s h with
  | nil => exact hget
  | cons op ops ih => exact ih (inv_step hinv op) (get_step hinv hget hops.1) hops.2

theorem pinned_step {e : StoreEntry τ} (hinv : Inv h s) (he : s.entries.get? o = some e)
    (hpins : e.pinTokens ≠ []) (op : Op τ) : Keeps o e (s.step op) := by
  rcases step_keeps hinv he op with hkeeps | ⟨_, _, hnone⟩ | ⟨_, hunsealed⟩
  · exact hkeeps
  · exact absurd hnone hpins
  · rw [(hinv.replicas o e he).pinned_sealed hpins] at hunsealed
    cases hunsealed

/-- What a store promises at any moment, given the accepted writes so far. -/
structure StoreSpec (h : ObjectID → List (Write UInt8)) (s : ObjectStore τ) : Prop where
  used : s.usedBytes = s.entries.sumBy fun e => e.sizeBytes
  bounded : s.usedBytes ≤ s.capacityBytes
  seals : ∀ o, (∃ s', s.seal_ o = .ok s') ↔
    ∃ e, s.entries.get? o = some e ∧ e.isSealed = false ∧ written (h o) = Set.Ico 0 e.sizeBytes
  reads : ∀ o e, s.entries.get? o = some e → e.isSealed = true →
    ∃ data, s.get o = .ok data ∧ data.length = e.sizeBytes ∧
      ∀ pos < e.sizeBytes, data[pos]? = lastWritten (h o) pos
  keeps : ∀ o data, s.get o = .ok data → ∀ later : List (Op τ),
    Admissible step (NotDeleting o) s later → (run step s later).get o = .ok data
  pinned : ∀ o e, s.entries.get? o = some e → e.pinTokens ≠ [] → ∀ op, Keeps o e (s.step op)
  raises : ∀ op e, (s.call op).1 = .error e → s.step op = s

end ObjectStore

end MiniRay
