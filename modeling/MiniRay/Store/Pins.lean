import MiniRay.Store.Lifetime

/-! The tokens that pin an entry, and what each call does to them. -/

namespace MiniRay

open Checked Run Buffer

variable {τ : Type} [DecidableEq τ]

namespace ObjectStore

variable {s s' : ObjectStore τ} {h : ObjectID → List (Write UInt8)} {o x : ObjectID} {t : τ}

/-- The tokens of an entry; an absent entry has none. -/
def tokens (s : ObjectStore τ) (o : ObjectID) : List τ :=
  (s.entries.get? o).elim [] StoreEntry.pinTokens

variable {e : StoreEntry τ}

omit [DecidableEq τ] in
theorem tokens_of_get? (he : s.entries.get? o = some e) : s.tokens o = e.pinTokens := by
  simp [tokens, he]

omit [DecidableEq τ] in
theorem tokens_of_none (he : s.entries.get? o = none) : s.tokens o = [] := by
  simp [tokens, he]

omit [DecidableEq τ] in
@[simp] theorem tokens_empty (capacityBytes : Nat) :
    (empty capacityBytes : ObjectStore τ).tokens o = [] := rfl

omit [DecidableEq τ] in
theorem tokens_setEntry :
    (s.setEntry x e).tokens o = if x = o then e.pinTokens else s.tokens o := by
  unfold tokens
  by_cases heq : x = o
  · subst heq
    have hget : (s.setEntry x e).entries.get? x = some e := Dict.get?_set_self _ _ _
    simp [hget]
  · have hget : (s.setEntry x e).entries.get? o = s.entries.get? o := Dict.get?_set_of_ne _ _ heq
    simp [hget, heq]

omit [DecidableEq τ] in
theorem tokens_setEntry_same (hsame : e.pinTokens = s.tokens x) :
    (s.setEntry x e).tokens o = s.tokens o := by
  rw [tokens_setEntry]
  split
  · next heq => rw [hsame, heq]
  · rfl

omit [DecidableEq τ] in
theorem tokens_removeEntry (hnone : s.tokens x = []) :
    (s.removeEntry x e).2.tokens o = s.tokens o := by
  have hentries : (s.removeEntry x e).2.entries = s.entries.erase x := by
    unfold removeEntry
    exact apply_ite (fun r : Except ObjectStoreError Bool × ObjectStore τ => r.2.entries) _ _ _
      |>.trans (ite_self _)
  unfold tokens
  rw [hentries]
  by_cases heq : x = o
  · subst heq
    rw [Dict.get?_erase_self]
    exact hnone.symm
  · rw [Dict.get?_erase_of_ne _ heq]

/-! ## The calls -/

omit [DecidableEq τ] in
theorem tokens_create {size : Int} (hcall : s.create x size = .ok s') :
    s'.tokens o = s.tokens o := by
  obtain ⟨_, hnew, _, rfl⟩ := create_ok hcall
  exact tokens_setEntry_same (tokens_of_none hnew).symm

omit [DecidableEq τ] in
theorem tokens_write {data : List UInt8} {offset : Int} (hcall : s.write x data offset = .ok s') :
    s'.tokens o = s.tokens o := by
  obtain ⟨_, e, he, _, _, _, _, rfl⟩ := write_eq_ok.mp hcall
  exact tokens_setEntry_same (tokens_of_get? he).symm

omit [DecidableEq τ] in
theorem tokens_seal (hcall : s.seal_ x = .ok s') : s'.tokens o = s.tokens o := by
  obtain ⟨e, he, _, _, _, _, rfl⟩ := seal_eq_ok.mp hcall
  exact tokens_setEntry_same (tokens_of_get? he).symm

theorem tokens_pin (hcall : s.pin x t = .ok s') :
    s'.tokens o = if x = o then (s.tokens o).insert t else s.tokens o := by
  obtain ⟨e, he, _, rfl⟩ := pin_ok hcall
  rw [tokens_setEntry]
  split
  · next heq =>
    subst heq
    rw [tokens_of_get? he]
  · rfl

theorem tokens_unpin {existed : Bool} (hcall : s.unpin x t = .ok (existed, s')) :
    s'.tokens o = if x = o then (s.tokens o).erase t else s.tokens o := by
  obtain ⟨e, he, rfl⟩ := unpin_ok hcall
  rw [tokens_setEntry]
  split
  · next heq =>
    subst heq
    rw [tokens_of_get? he]
  · rfl

omit [DecidableEq τ] in
theorem tokens_delete : (s.delete x).2.tokens o = s.tokens o := by
  unfold ObjectStore.delete
  split
  · rfl
  · next e he =>
    split
    · rfl
    · next hnone => exact tokens_removeEntry ((tokens_of_get? he).trans (not_not.mp hnone))

omit [DecidableEq τ] in
theorem tokens_abort (hinv : Inv h s) : (s.abort x).2.tokens o = s.tokens o := by
  unfold ObjectStore.abort
  split
  · rfl
  · next e he =>
    split
    · rfl
    · next hunsealed =>
      have hnone : e.pinTokens = [] := by
        by_contra hpins
        exact hunsealed ((hinv.replicas x e he).pinned_sealed hpins)
      exact tokens_removeEntry ((tokens_of_get? he).trans hnone)

/-- Only a pin and an unpin of the entry itself change its tokens. -/
theorem step_tokens (hinv : Inv h s) (op : Op τ) : (s.step op).tokens o = s.tokens o ∨
    (∃ t, op = .pin o t ∧ (s.step op).tokens o = (s.tokens o).insert t) ∨
    ∃ t, op = .unpin o t ∧ (s.step op).tokens o = (s.tokens o).erase t := by
  have hatomic : ∀ result : Except ObjectStoreError (ObjectStore τ),
      (∀ s', result = .ok s' → s'.tokens o = s.tokens o) →
        (s.atomic result).2.tokens o = s.tokens o := by
    intro result hsame
    cases result with
    | error _ => rfl
    | ok s' => exact hsame s' rfl
  cases op with
  | create x size => exact .inl (hatomic _ fun s' hcall => tokens_create hcall)
  | write x data offset => exact .inl (hatomic _ fun s' hcall => tokens_write hcall)
  | seal_ x => exact .inl (hatomic _ fun s' hcall => tokens_seal hcall)
  | put x data =>
    left
    simp only [step, call]
    rcases hinv.put (o := x) data with
      ⟨_, _, hput⟩ | ⟨_, _, _, hcreate, hwrite, hseal, hput, _⟩
    · rw [hput]
    · rw [hput, tokens_seal hseal, tokens_write hwrite, tokens_create hcreate]
  | get x => exact .inl rfl
  | pin x t =>
    simp only [step, call, atomic]
    cases hcall : s.pin x t with
    | error _ => exact .inl rfl
    | ok s' =>
      have htokens := tokens_pin (o := o) hcall
      by_cases heq : x = o
      · subst heq
        exact .inr (.inl ⟨t, rfl, by simpa using htokens⟩)
      · exact .inl (by simpa [heq] using htokens)
  | unpin x t =>
    simp only [step, call]
    cases hcall : s.unpin x t with
    | error _ => exact .inl rfl
    | ok r =>
      obtain ⟨existed, s'⟩ := r
      have htokens := tokens_unpin (o := o) hcall
      by_cases heq : x = o
      · subst heq
        exact .inr (.inr ⟨t, rfl, by simpa using htokens⟩)
      · exact .inl (by simpa [heq] using htokens)
  | delete x => exact .inl tokens_delete
  | abort x => exact .inl (tokens_abort hinv)

/-! ## One token -/

/-- The token pins the entry. -/
def Pinned (s : ObjectStore τ) (o : ObjectID) (t : τ) : Prop := t ∈ s.tokens o

instance : Decidable (s.Pinned o t) := inferInstanceAs (Decidable (_ ∈ _))

/-- The tokens of an entry are a set. -/
def DistinctPins (s : ObjectStore τ) : Prop := ∀ o, (s.tokens o).Nodup

omit [DecidableEq τ] in
theorem distinctPins_empty (capacityBytes : Nat) :
    (empty capacityBytes : ObjectStore τ).DistinctPins := fun _ => List.nodup_nil

theorem DistinctPins.step (hdistinct : s.DistinctPins) (hinv : Inv h s) (op : Op τ) :
    (ObjectStore.step s op).DistinctPins := by
  intro o
  rcases step_tokens (o := o) hinv op with hsame | ⟨t, _, hinsert⟩ | ⟨t, _, herase⟩
  · rw [hsame]
    exact hdistinct o
  · rw [hinsert]
    exact (hdistinct o).insert
  · rw [herase]
    exact (hdistinct o).erase t

/-- A call that neither pins nor unpins with this token leaves it. -/
theorem pinned_step_other (hinv : Inv h s) {op : Op τ} (hpin : op ≠ .pin o t)
    (hunpin : op ≠ .unpin o t) : (s.step op).Pinned o t ↔ s.Pinned o t := by
  unfold Pinned
  rcases step_tokens (o := o) hinv op with hsame | ⟨u, rfl, hinsert⟩ | ⟨u, rfl, herase⟩
  · rw [hsame]
  · have hne : t ≠ u := fun heq => hpin (by rw [heq])
    rw [hinsert, List.mem_insert_iff]
    simp [hne]
  · have hne : t ≠ u := fun heq => hunpin (by rw [heq])
    rw [herase, List.mem_erase_of_ne hne]

theorem pinned_pin {u : τ} (hcall : s.pin x u = .ok s') :
    s'.Pinned o t ↔ x = o ∧ u = t ∨ s.Pinned o t := by
  unfold Pinned
  rw [tokens_pin hcall]
  split
  · next heq =>
    rw [List.mem_insert_iff, eq_comm (a := t)]
    simp [heq]
  · next hne => simp [hne]

theorem pinned_unpin (hdistinct : s.DistinctPins) {u : τ} {existed : Bool}
    (hcall : s.unpin x u = .ok (existed, s')) :
    s'.Pinned o t ↔ s.Pinned o t ∧ ¬ (x = o ∧ u = t) := by
  unfold Pinned
  rw [tokens_unpin hcall]
  split
  · next heq =>
    rw [(hdistinct o).mem_erase_iff, eq_comm (a := u)]
    simp [heq, and_comm]
  · next hne => simp [hne]

omit [DecidableEq τ] in
theorem Pinned.sealed (hpinned : s.Pinned o t) (hinv : Inv h s) :
    ∃ data, s.get o = .ok data := by
  unfold Pinned tokens at hpinned
  cases he : s.entries.get? o with
  | none => simp [he] at hpinned
  | some e =>
    have hmem : t ∈ e.pinTokens := by simpa [he] using hpinned
    have hsealed := (hinv.replicas o e he).pinned_sealed (List.ne_nil_of_mem hmem)
    obtain ⟨data, hdata⟩ := Option.isSome_iff_exists.mp hsealed
    exact ⟨data, get_eq_ok.mpr ⟨e, he, hdata⟩⟩

end ObjectStore

end MiniRay
