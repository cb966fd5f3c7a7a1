import MiniRay.Store.ObjectStore

/-! The merged ranges of a replica cover exactly what was written to it, and its bytes are explained
by the history of its writes. -/

namespace MiniRay

open Checked Run Buffer Intervals

variable {τ : Type}

/-! ## Replicas -/

/-- A replica and the writes since its creation. Only a sealed replica has pins. -/
inductive Replica (ws : List (Write UInt8)) : StoreEntry τ → Prop
  | writing (size : Nat) (buffer : List UInt8) (ranges : List (Nat × Nat))
      (length : buffer.length = size) (holds : Holds ws buffer) (separated : Separated ranges)
      (exact : covered ranges = written ws) : Replica ws ⟨size, some buffer, none, ranges, []⟩
  | sealed (size : Nat) (data : List UInt8) (pins : List τ) (length : data.length = size)
      (holds : Holds ws data) (complete : written ws = Set.Ico 0 size) :
      Replica ws ⟨size, none, some data, [], pins⟩

namespace Replica

variable {ws : List (Write UInt8)} {e : StoreEntry τ}

theorem created (size : Nat) : Replica [] (.created size : StoreEntry τ) := by
  refine .writing size _ _ (by simp) (holds_nil _) separated_nil ?_
  simp

variable {buffer : List UInt8} {ranges : List (Nat × Nat)}

/-- The seal test says that every byte was written. -/
theorem completelyWritten_iff {size : Nat} (length : buffer.length = size) (holds : Holds ws buffer)
    (separated : Separated ranges) (exact : covered ranges = written ws) :
    (⟨size, some buffer, none, ranges, []⟩ : StoreEntry τ).completelyWritten = true ↔
      written ws = Set.Ico 0 size := by
  simp only [StoreEntry.completelyWritten, decide_eq_true_eq]
  by_cases hzero : size = 0
  · subst hzero
    have hsubset := holds.written_subset
    rw [length, Set.Ico_self] at hsubset
    simp [Set.subset_empty_iff.mp hsubset]
  · rw [separated.eq_singleton_iff (Nat.pos_of_ne_zero hzero), exact]
    simp [hzero]

theorem write {size : Nat} (length : buffer.length = size) (holds : Holds ws buffer)
    (separated : Separated ranges) (exact : covered ranges = written ws) {w : Write UInt8}
    (hw : w.offset + w.data.length ≤ size) :
    Replica (ws ++ [w]) (⟨size, some (splice buffer w.offset w.data), none,
      Intervals.insert ranges w.offset (w.offset + w.data.length), []⟩ : StoreEntry τ) := by
  subst length
  obtain ⟨hseparated, hcovered⟩ :=
    insert_spec separated (Nat.le_add_right w.offset w.data.length)
  refine .writing _ _ _ (length_splice hw) (holds.splice hw) hseparated ?_
  rw [hcovered, exact, written_concat]
  rfl

theorem pinned_sealed (h : Replica ws e) (hpins : e.pinTokens ≠ []) : e.isSealed = true := by
  cases h with
  | writing => exact absurd rfl hpins
  | sealed => rfl

end Replica

namespace ObjectStore

variable {s s' : ObjectStore τ} {h : ObjectID → List (Write UInt8)} {o : ObjectID}

/-! ## What a call does -/

def setEntry (s : ObjectStore τ) (o : ObjectID) (e : StoreEntry τ) : ObjectStore τ :=
  { s with entries := s.entries.set o e }

variable {e : StoreEntry τ}

theorem entry_eq_ok : s.entry o = .ok e ↔ s.entries.get? o = some e := by
  unfold entry
  split <;> simp [*]

theorem create_ok {size : Int} (hcall : s.create o size = .ok s') :
    0 ≤ size ∧ s.entries.get? o = none ∧ s.usedBytes + size ≤ s.capacityBytes ∧
      s' = { s with
        entries := s.entries.set o (.created size.toNat)
        usedBytes := s.usedBytes + size } := by
  simp only [create, bind_eq_ok, raiseIf_eq_ok, pure_eq_ok, exists_const, not_lt, not_not] at hcall
  obtain ⟨hsize, hnew, hfits, rfl⟩ := hcall
  exact ⟨hsize, hnew, hfits, rfl⟩

variable {data : List UInt8}

theorem write_eq_ok {offset : Int} : s.write o data offset = .ok s' ↔
    0 ≤ offset ∧ ∃ e, s.entries.get? o = some e ∧ e.isSealed = false ∧
      offset.toNat + data.length ≤ e.sizeBytes ∧ ∃ buffer, e.buffer = some buffer ∧
        s.setEntry o (StoreEntry.recordWrite
          { e with buffer := some (splice buffer offset.toNat data) }
          offset.toNat (offset.toNat + data.length)) = s' := by
  simp only [write, bind_eq_ok, raiseIf_eq_ok, exists_const, not_lt, entry_eq_ok,
    Bool.not_eq_true]
  refine and_congr_right fun _ => exists_congr fun e => ?_
  cases e.buffer with
  | none => simp
  | some buffer => simp only [pure_eq_ok, Option.some.injEq, exists_eq_left', setEntry]

theorem seal_eq_ok : s.seal_ o = .ok s' ↔
    ∃ e, s.entries.get? o = some e ∧ e.isSealed = false ∧ e.completelyWritten = true ∧
      ∃ buffer, e.buffer = some buffer ∧
        s.setEntry o { e with sealedData := some buffer, buffer := none, writtenRanges := [] } =
          s' := by
  simp only [seal_, bind_eq_ok, raiseIf_eq_ok, exists_const, entry_eq_ok, Bool.not_eq_true,
    Bool.not_eq_false]
  refine exists_congr fun e => ?_
  cases e.buffer with
  | none => simp
  | some buffer => simp only [pure_eq_ok, Option.some.injEq, exists_eq_left', setEntry]

theorem get_eq_ok : s.get o = .ok data ↔
    ∃ e, s.entries.get? o = some e ∧ e.sealedData = some data := by
  simp only [get, bind_eq_ok, entry_eq_ok]
  refine exists_congr fun e => and_congr_right fun _ => ?_
  cases e.sealedData <;> simp

section Pins

variable [DecidableEq τ]

theorem pin_ok {token : τ} (hcall : s.pin o token = .ok s') :
    ∃ e, s.entries.get? o = some e ∧ e.isSealed = true ∧
      s' = s.setEntry o { e with pinTokens := e.pinTokens.insert token } := by
  simp only [pin, bind_eq_ok, raiseIf_eq_ok, pure_eq_ok, exists_const, entry_eq_ok,
    Bool.not_eq_false] at hcall
  obtain ⟨e, he, hsealed, rfl⟩ := hcall
  exact ⟨e, he, hsealed, rfl⟩

theorem unpin_ok {token : τ} {existed : Bool} (hcall : s.unpin o token = .ok (existed, s')) :
    ∃ e, s.entries.get? o = some e ∧
      s' = s.setEntry o { e with pinTokens := e.pinTokens.erase token } := by
  simp only [unpin, bind_eq_ok, pure_eq_ok, entry_eq_ok, Prod.mk.injEq] at hcall
  obtain ⟨e, he, _, rfl⟩ := hcall
  exact ⟨e, he, rfl⟩

end Pins

/-! ## The invariant -/

/-- The counter is the sum of the sizes, and every entry is explained by its writes. -/
structure Inv (h : ObjectID → List (Write UInt8)) (s : ObjectStore τ) : Prop where
  used : s.usedBytes = s.entries.sumBy fun e => e.sizeBytes
  bounded : s.usedBytes ≤ s.capacityBytes
  replicas : ∀ o e, s.entries.get? o = some e → Replica (h o) e

theorem inv_empty (capacityBytes : Nat) : Inv h (empty capacityBytes : ObjectStore τ) :=
  ⟨rfl, Int.natCast_nonneg _, by simp [empty]⟩

theorem Inv.setEntry (hinv : Inv h s) {e' : StoreEntry τ} (he : s.entries.get? o = some e)
    {ws : List (Write UInt8)} (hreplica : Replica ws e') (hsize : e'.sizeBytes = e.sizeBytes) :
    Inv (Function.update h o ws) (s.setEntry o e') := by
  refine ⟨?_, hinv.bounded, ?_⟩
  · have hsum := Dict.sumBy_set s.entries o e' fun e => (e.sizeBytes : Int)
    rw [he, Option.map_some, Option.getD_some, hsize] at hsum
    have hused := hinv.used
    simp only [ObjectStore.setEntry]
    omega
  · intro x ex hx
    simp only [ObjectStore.setEntry, Dict.get?_set] at hx
    split at hx
    · next heq =>
      subst heq
      cases hx
      rw [Function.update_self]
      exact hreplica
    · next hne =>
      rw [Function.update_of_ne (Ne.symm hne)]
      exact hinv.replicas x ex hx

theorem Inv.create (hinv : Inv h s) {size : Int} (hcall : s.create o size = .ok s') :
    Inv (Function.update h o []) s' := by
  obtain ⟨hsize, hnew, hfits, rfl⟩ := create_ok hcall
  refine ⟨?_, hfits, ?_⟩
  · have hsum := Dict.sumBy_set s.entries o (.created size.toNat)
      fun e : StoreEntry τ => (e.sizeBytes : Int)
    rw [hnew, Option.map_none, Option.getD_none] at hsum
    have hused := hinv.used
    have hcreated : ((StoreEntry.created size.toNat : StoreEntry τ).sizeBytes : Int) = size :=
      Int.toNat_of_nonneg hsize
    simp only
    omega
  · intro x ex hx
    rcases Dict.of_get?_set_ne hx with ⟨rfl, rfl⟩ | ⟨hne, hx⟩
    · rw [Function.update_self]
      exact Replica.created _
    · rw [Function.update_of_ne (Ne.symm hne)]
      exact hinv.replicas x ex hx

theorem Inv.write (hinv : Inv h s) {offset : Int} (hcall : s.write o data offset = .ok s') :
    Inv (Function.update h o (h o ++ [⟨offset.toNat, data⟩])) s' := by
  obtain ⟨_, e, he, hsealed, hfits, buffer, hb, rfl⟩ := write_eq_ok.mp hcall
  have hreplica := hinv.replicas o e he
  cases hreplica with
  | writing size buffer' ranges length holds separated exact =>
    cases hb
    exact hinv.setEntry he (Replica.write (w := ⟨_, _⟩) length holds separated exact hfits) rfl
  | sealed => cases hsealed

theorem Inv.seal (hinv : Inv h s) (hcall : s.seal_ o = .ok s') : Inv h s' := by
  obtain ⟨e, he, hsealed, hfull, buffer, hb, rfl⟩ := seal_eq_ok.mp hcall
  have hreplica := hinv.replicas o e he
  rw [← Function.update_eq_self o h]
  cases hreplica with
  | writing size buffer' ranges length holds separated exact =>
    cases hb
    have hcomplete := (Replica.completelyWritten_iff length holds separated exact).mp hfull
    exact hinv.setEntry he (.sealed size _ [] length holds hcomplete) rfl
  | sealed => cases hsealed

theorem Inv.seal_iff (hinv : Inv h s) : (∃ s', s.seal_ o = .ok s') ↔
    ∃ e, s.entries.get? o = some e ∧ e.isSealed = false ∧
      written (h o) = Set.Ico 0 e.sizeBytes := by
  constructor
  · rintro ⟨s', hcall⟩
    obtain ⟨e, he, hsealed, hfull, _⟩ := seal_eq_ok.mp hcall
    refine ⟨e, he, hsealed, ?_⟩
    have hreplica := hinv.replicas o e he
    cases hreplica with
    | writing size buffer ranges length holds separated exact =>
      exact (Replica.completelyWritten_iff length holds separated exact).mp hfull
    | sealed => cases hsealed
  · rintro ⟨e, he, hsealed, hwritten⟩
    have hreplica := hinv.replicas o e he
    cases hreplica with
    | writing size buffer ranges length holds separated exact =>
      have hfull := (Replica.completelyWritten_iff (τ := τ) length holds separated exact).mpr
        hwritten
      exact ⟨_, seal_eq_ok.mpr ⟨_, he, rfl, hfull, buffer, rfl, rfl⟩⟩
    | sealed => cases hsealed

/-- A read shows at every position the last write that covers it. -/
theorem Inv.get (hinv : Inv h s) (hcall : s.get o = .ok data) :
    ∃ e, s.entries.get? o = some e ∧ data.length = e.sizeBytes ∧
      ∀ pos < data.length, data[pos]? = lastWritten (h o) pos := by
  obtain ⟨e, he, hdata⟩ := get_eq_ok.mp hcall
  have hreplica := hinv.replicas o e he
  refine ⟨e, he, ?_⟩
  cases hreplica with
  | writing => cases hdata
  | sealed size data' pins length holds complete =>
    cases hdata
    refine ⟨length, fun pos hpos => holds.shows pos ?_⟩
    rw [complete]
    exact ⟨Nat.zero_le pos, length ▸ hpos⟩

theorem Inv.removeEntry (hinv : Inv h s) (he : s.entries.get? o = some e) :
    (s.removeEntry o e).1 = .ok true ∧ Inv h (s.removeEntry o e).2 := by
  have hsum := Dict.sumBy_erase s.entries o fun e => (e.sizeBytes : Int)
  rw [he, Option.map_some, Option.getD_some] at hsum
  have hrest := (s.entries.erase o).sumBy_nonneg (f := fun e => (e.sizeBytes : Int))
    fun e => Int.natCast_nonneg _
  have hused := hinv.used
  have hbounded := hinv.bounded
  have hnonneg : 0 ≤ s.usedBytes - e.sizeBytes := by omega
  rw [ObjectStore.removeEntry, if_pos hnonneg]
  refine ⟨rfl, by simp only; omega, by simp only; omega, ?_⟩
  intro x ex hx
  exact hinv.replicas x ex (Dict.of_get?_erase hx).2

section Pins

variable [DecidableEq τ]

theorem Inv.pin (hinv : Inv h s) {token : τ} (hcall : s.pin o token = .ok s') : Inv h s' := by
  obtain ⟨e, he, hsealed, rfl⟩ := pin_ok hcall
  have hreplica := hinv.replicas o e he
  rw [← Function.update_eq_self o h]
  cases hreplica with
  | writing => cases hsealed
  | sealed size data pins length holds complete =>
    exact hinv.setEntry he (.sealed size data _ length holds complete) rfl

theorem Inv.unpin (hinv : Inv h s) {token : τ} {existed : Bool}
    (hcall : s.unpin o token = .ok (existed, s')) : Inv h s' := by
  obtain ⟨e, he, rfl⟩ := unpin_ok hcall
  have hreplica := hinv.replicas o e he
  rw [← Function.update_eq_self o h]
  cases hreplica with
  | writing size buffer ranges length holds separated exact =>
    exact hinv.setEntry he (.writing size buffer ranges length holds separated exact) rfl
  | sealed size data pins length holds complete =>
    exact hinv.setEntry he (.sealed size data _ length holds complete) rfl

end Pins

theorem Inv.delete (hinv : Inv h s) : Inv h (s.delete o).2 := by
  unfold ObjectStore.delete
  split
  · exact hinv
  · next e he =>
    split
    · exact hinv
    · exact (hinv.removeEntry he).2

theorem Inv.abort (hinv : Inv h s) : Inv h (s.abort o).2 := by
  unfold ObjectStore.abort
  split
  · exact hinv
  · next e he =>
    split
    · exact hinv
    · exact (hinv.removeEntry he).2

theorem write_created (he : s.entries.get? o = some (.created data.length)) :
    ∃ s' e', s.write o data 0 = .ok s' ∧ s'.entries.get? o = some e' ∧ e'.isSealed = false ∧
      e'.sizeBytes = data.length := by
  have hcall := write_eq_ok.mpr
    ⟨le_refl (0 : Int), .created data.length, he, rfl, (Nat.zero_add data.length).le, _, rfl, rfl⟩
  exact ⟨_, _, hcall, Dict.get?_set_self _ _ _, rfl, rfl⟩

theorem Inv.put (hinv : Inv h s) (data : List UInt8) :
    (∃ e, s.create o data.length = .error e ∧ s.put o data = (.error e, s)) ∨
    (∃ created written ready, s.create o data.length = .ok created ∧
      created.write o data 0 = .ok written ∧ written.seal_ o = .ok ready ∧
      s.put o data = (.ok (), ready) ∧ Inv (Function.update h o [⟨0, data⟩]) ready) := by
  unfold ObjectStore.put
  cases hcreate : s.create o data.length with
  | error e => exact .inl ⟨e, rfl, rfl⟩
  | ok created =>
    have hcreated := hinv.create hcreate
    have hnew : created.entries.get? o = some (.created data.length) := by
      obtain ⟨_, _, _, rfl⟩ := create_ok hcreate
      exact Dict.get?_set_self _ _ _
    obtain ⟨written, e, hwrite, he, hsealed, hsize⟩ := write_created hnew
    have hwritten := hcreated.write hwrite
    rw [Function.update_self, Function.update_idem] at hwritten
    obtain ⟨ready, hseal⟩ := hwritten.seal_iff.mpr ⟨e, he, hsealed, by
      rw [hsize, Function.update_self, List.nil_append]
      simp [Buffer.written, Write.interval]⟩
    exact .inr ⟨created, written, ready, rfl, hwrite, hseal, by simp only [hwrite, hseal],
      hwritten.seal hseal⟩

end ObjectStore

end MiniRay
