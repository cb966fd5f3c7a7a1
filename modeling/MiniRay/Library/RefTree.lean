import Mathlib.Data.List.Basic

/-! Trees of data with references at the leaves, and traversals that visit the references in order.
A traversal may raise; its state stays as it was then. -/

/-- `shared` stands for a part that was already visited, `broken` for one that cannot be. -/
inductive RefTree (R : Type)
  | data (bytes : List UInt8)
  | shared (index : Nat)
  | broken
  | reference (r : R)
  | nil
  | cons (head tail : RefTree R)

namespace RefTree

variable {R S T σ τ ε ε' : Type}

def map (f : R → S) : RefTree R → RefTree S
  | data bytes => data bytes
  | shared index => shared index
  | broken => broken
  | reference r => reference (f r)
  | nil => nil
  | cons head tail => cons (head.map f) (tail.map f)

def refs : RefTree R → List R
  | reference r => [r]
  | cons head tail => head.refs ++ tail.refs
  | _ => []

def andThen {α β : Type} (x : Except ε α × σ) (k : α → σ → Except ε β × σ) : Except ε β × σ :=
  match x with
  | (.ok a, s) => k a s
  | (.error e, s) => (.error e, s)

/-- Replace every reference by what `f` makes of it. -/
def traverse (f : R → σ → Except ε S × σ) (bad : ε) :
    RefTree R → σ → Except ε (RefTree S) × σ
  | data bytes, s => (.ok (data bytes), s)
  | shared index, s => (.ok (shared index), s)
  | broken, s => (.error bad, s)
  | reference r, s => andThen (f r s) fun r s => (.ok (reference r), s)
  | nil, s => (.ok nil, s)
  | cons head tail, s =>
    andThen (head.traverse f bad s) fun head s =>
      andThen (tail.traverse f bad s) fun tail s => (.ok (cons head tail), s)

theorem andThen_eq_ok {α β : Type} {x : Except ε α × σ} {k : α → σ → Except ε β × σ} {b : β}
    {s : σ} (h : andThen x k = (.ok b, s)) : ∃ a s', x = (.ok a, s') ∧ k a s' = (.ok b, s) := by
  obtain ⟨result, s'⟩ := x
  cases result with
  | ok a => exact ⟨a, s', rfl, h⟩
  | error e => cases h

variable {f : R → σ → Except ε S × σ}

/-- What every visit preserves a traversal preserves, also when it raises. -/
theorem traverse_preserves (bad : ε) (P : σ → Prop) (hstep : ∀ r s, P s → P (f r s).2)
    (v : RefTree R) : ∀ s, P s → P (v.traverse f bad s).2 := by
  induction v with
  | data => exact fun _ hs => hs
  | shared => exact fun _ hs => hs
  | broken => exact fun _ hs => hs
  | nil => exact fun _ hs => hs
  | reference r =>
    intro s hs
    have hnext := hstep r s hs
    rw [traverse]
    cases hf : f r s with
    | mk result s' =>
      rw [hf] at hnext
      cases result <;> exact hnext
  | cons head tail ihHead ihTail =>
    intro s hs
    have hfirst := ihHead s hs
    rw [traverse]
    cases hhead : head.traverse f bad s with
    | mk result s' =>
      rw [hhead] at hfirst
      cases result with
      | error e => exact hfirst
      | ok first =>
        have hsecond := ihTail s' hfirst
        rw [andThen]
        cases htail : tail.traverse f bad s' with
        | mk result s'' =>
          rw [htail] at hsecond
          cases result <;> exact hsecond

/-- A second traversal undoes the first: it may raise, but only as `Fails` says, and otherwise it
keeps related states and gives `back` what was there. `Inside` bounds where the first one goes. -/
theorem traverse_undone {bad : ε} {g : S → τ → Except ε' T × τ} (bad' : ε') (Inside : σ → Prop)
    (Sim : σ → τ → Prop) (Fails : ε' → Prop) {back : T → R}
    (hback : ∀ r s, Inside (f r s).2 → Inside s)
    (hstep : ∀ r s t p s', f r s = (.ok p, s') → Inside s' → Sim s t →
      (∃ q t', g p t = (.ok q, t') ∧ Sim s' t' ∧ back q = r) ∨ ∃ e t', g p t = (.error e, t') ∧
      Fails e)
    (v : RefTree R) : ∀ {s s' : σ} {t : τ} {w : RefTree S}, v.traverse f bad s = (.ok w, s') →
      Inside s' → Sim s t →
        (∃ u t', w.traverse g bad' t = (.ok u, t') ∧ Sim s' t' ∧ u.map back = v) ∨
          ∃ e t', w.traverse g bad' t = (.error e, t') ∧ Fails e := by
  induction v with
  | data => intro s s' t w h _ hsim; cases h; exact .inl ⟨_, t, rfl, hsim, rfl⟩
  | shared => intro s s' t w h _ hsim; cases h; exact .inl ⟨_, t, rfl, hsim, rfl⟩
  | broken => intro s s' t w h; cases h
  | nil => intro s s' t w h _ hsim; cases h; exact .inl ⟨_, t, rfl, hsim, rfl⟩
  | reference r =>
    intro s s' t w h hinside hsim
    obtain ⟨p, s₁, hf, hw⟩ := andThen_eq_ok h
    cases hw
    obtain ⟨q, t', hg, hsim', hq⟩ | ⟨e, t', hg, hfails⟩ := hstep r s t p s' hf hinside hsim
    · refine .inl ⟨reference q, t', by rw [traverse, hg]; rfl, hsim', ?_⟩
      rw [map, hq]
    · exact .inr ⟨e, t', by rw [traverse, hg]; rfl, hfails⟩
  | cons head tail ihHead ihTail =>
    intro s s' t w h hinside hsim
    obtain ⟨first, s₁, hhead, h⟩ := andThen_eq_ok h
    obtain ⟨second, s₂, htail, h⟩ := andThen_eq_ok h
    cases h
    have hmiddle : Inside s₁ := by
      by_contra hout
      have hkept := traverse_preserves bad (fun s => ¬Inside s)
        (fun r s hs hin => hs (hback r s hin)) tail s₁ hout
      rw [htail] at hkept
      exact hkept hinside
    obtain ⟨u, t₁, hu, hsim₁, hmap⟩ | ⟨e, t₁, he, hfails⟩ := ihHead hhead hmiddle hsim
    · obtain ⟨u', t₂, hu', hsim₂, hmap'⟩ | ⟨e, t₂, he, hfails⟩ := ihTail htail hinside hsim₁
      · refine .inl ⟨cons u u', t₂, by rw [traverse, hu, andThen, hu']; rfl, hsim₂, ?_⟩
        rw [map, hmap, hmap']
      · exact .inr ⟨e, t₂, by rw [traverse, hu, andThen, he]; rfl, hfails⟩
    · exact .inr ⟨e, t₁, by rw [traverse, he]; rfl, hfails⟩

/-- A successful traversal visits the references one after the other, and nothing else. -/
theorem traverse_visits {bad : ε} (P : List R → σ → Prop)
    (hstep : ∀ pre r s q s', P pre s → f r s = (.ok q, s') → P (pre ++ [r]) s') (v : RefTree R) :
    ∀ {pre : List R} {s s' : σ} {w : RefTree S}, P pre s → v.traverse f bad s = (.ok w, s') →
      P (pre ++ v.refs) s' := by
  induction v with
  | data => intro pre s s' w hs h; cases h; simpa [refs] using hs
  | shared => intro pre s s' w hs h; cases h; simpa [refs] using hs
  | broken => intro pre s s' w hs h; cases h
  | nil => intro pre s s' w hs h; cases h; simpa [refs] using hs
  | reference r =>
    intro pre s s' w hs h
    obtain ⟨q, s₁, hf, hw⟩ := andThen_eq_ok h
    cases hw
    exact hstep pre r s q s' hs hf
  | cons head tail ihHead ihTail =>
    intro pre s s' w hs h
    obtain ⟨_, s₁, hhead, h⟩ := andThen_eq_ok h
    obtain ⟨_, s₂, htail, h⟩ := andThen_eq_ok h
    cases h
    have hboth := ihTail (ihHead hs hhead) htail
    rwa [List.append_assoc] at hboth

end RefTree
