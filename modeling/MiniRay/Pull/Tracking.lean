import MiniRay.Pull.ObjectManager
import MiniRay.Store.Lifetime

/-! The record of an object and its store entry move together: a replica is reserved while its
transfer is configured, readable while the record is ready, and gone or sealed after a failure. -/

namespace MiniRay

open Checked Run Buffer

variable {ℓ α ω τ : Type}

structure PullRecord.Unconfigured (r : PullRecord ℓ α ω) : Prop where
  buffer : r.buffer = none
  ranges : r.writtenRanges = []
  uncreated : r.targetCreated = false

/-- The record and store entry of one object, and the chunks of its last transfer. -/
inductive Tracks (ws : List (Write UInt8)) (o : ObjectID) :
    Option (PullRecord ℓ α ω) → Option (StoreEntry τ) → Prop
  | absent : Tracks ws o none none
  | waiting (r : PullRecord ℓ α ω) (named : r.objectId = o)
      (state : r.state = .waitingForLocation) (unconfigured : r.Unconfigured) :
      Tracks ws o (some r) none
  | pulling (r : PullRecord ℓ α ω) (named : r.objectId = o) (state : r.state = .pulling)
      (transfer : r.transferId ≠ none) (unconfigured : r.Unconfigured) (fresh : ws = []) :
      Tracks ws o (some r) none
  | configured (r : PullRecord ℓ α ω) (size : Nat) (buffer : List UInt8) (checksum : String)
      (named : r.objectId = o) (state : r.state = .pulling) (transfer : r.transferId ≠ none)
      (buffer_eq : r.buffer = some buffer) (length : buffer.length = size)
      (size_eq : r.expectedSize = some (size : Int))
      (checksum_eq : r.expectedChecksum = some checksum)
      (normalized : lowerHex checksum = checksum) (created : r.targetCreated = true) :
      Tracks ws o (some r) (some ⟨size, some buffer, none, r.writtenRanges, []⟩)
  | ready (r : PullRecord ℓ α ω) (e : StoreEntry τ) (data : List UInt8) (named : r.objectId = o)
      (state : r.state = .ready) (sealedData : e.sealedData = some data)
      (size_eq : r.expectedSize = some (data.length : Int))
      (checksum_eq : r.expectedChecksum = some (Sha256.hexdigest data)) :
      Tracks ws o (some r) (some e)
  | failed (r : PullRecord ℓ α ω) (entry : Option (StoreEntry τ)) (named : r.objectId = o)
      (state : r.state = .failed) (unconfigured : r.buffer = none)
      (isSealed : ∀ e ∈ entry, e.isSealed = true) : Tracks ws o (some r) entry

/-- A record with further waiters and metadata, and what it had. -/
structure PullRecord.Rebinds (r r' : PullRecord ℓ α ω) : Prop where
  objectId : r'.objectId = r.objectId
  state : r'.state = r.state
  transferId : r'.transferId = r.transferId
  buffer : r'.buffer = r.buffer
  ranges : r'.writtenRanges = r.writtenRanges
  created : r'.targetCreated = r.targetCreated
  size : ∀ n, r.expectedSize = some n → r'.expectedSize = some n
  checksum : ∀ text, r.expectedChecksum = some text → r'.expectedChecksum = some text

namespace Tracks

variable {ws : List (Write UInt8)} {o : ObjectID} {r r' : PullRecord ℓ α ω}
  {entry : Option (StoreEntry τ)}

theorem named (h : Tracks ws o (some r) entry) : r.objectId = o := by
  cases h with
  | waiting _ named => exact named
  | pulling _ named => exact named
  | configured _ _ _ _ named => exact named
  | ready _ _ _ named => exact named
  | failed _ _ named => exact named

theorem rebind (h : Tracks ws o (some r) entry) (hr : r.Rebinds r') :
    Tracks ws o (some r') entry := by
  have hunconfigured : r.Unconfigured → r'.Unconfigured := fun hu =>
    ⟨hr.buffer.trans hu.buffer, hr.ranges.trans hu.ranges, hr.created.trans hu.uncreated⟩
  cases h with
  | waiting _ named state unconfigured =>
    exact .waiting r' (hr.objectId.trans named) (hr.state.trans state)
      (hunconfigured unconfigured)
  | pulling _ named state transfer unconfigured fresh =>
    exact .pulling r' (hr.objectId.trans named) (hr.state.trans state)
      (hr.transferId ▸ transfer) (hunconfigured unconfigured) fresh
  | configured _ size buffer checksum named state transfer buffer_eq length size_eq checksum_eq
      normalized created =>
      rw [← hr.ranges]
      exact .configured r' size buffer checksum (hr.objectId.trans named) (hr.state.trans state)
        (hr.transferId ▸ transfer) (hr.buffer.trans buffer_eq) length (hr.size _ size_eq)
        (hr.checksum _ checksum_eq) normalized (hr.created.trans created)
  | ready _ e data named state sealedData size_eq checksum_eq =>
    exact .ready r' e data (hr.objectId.trans named) (hr.state.trans state) sealedData
      (hr.size _ size_eq) (hr.checksum _ checksum_eq)
  | failed _ _ named state unconfigured isSealed =>
    exact .failed r' entry (hr.objectId.trans named) (hr.state.trans state)
      (hr.buffer.trans unconfigured) isSealed

end Tracks

namespace ObjectManager

variable {s s' : ObjectManager ℓ α ω τ} {d : ObjectID → List (Write UInt8)} {o : ObjectID}
  {r : PullRecord ℓ α ω} {e : ObjectManagerError}

/-- What holds of every object; `d` are the chunks delivered by the last transfers. -/
structure Inv (d : ObjectID → List (Write UInt8)) (s : ObjectManager ℓ α ω τ) : Prop where
  store : s.objectStore.Inv d
  agree : ∀ o, Agree (d o)
  tracks : ∀ o, Tracks (d o) o (s.pulls.get? o) (s.objectStore.entries.get? o)

/-- As `Inv`, but for one object whose record and entry are being changed. -/
structure InvBut (o : ObjectID) (d : ObjectID → List (Write UInt8))
    (s : ObjectManager ℓ α ω τ) : Prop where
  store : s.objectStore.Inv d
  agree : ∀ o, Agree (d o)
  tracks : ∀ x, x ≠ o → Tracks (d x) x (s.pulls.get? x) (s.objectStore.entries.get? x)

theorem Inv.but (h : Inv d s) (o : ObjectID) : InvBut o d s :=
  ⟨h.store, h.agree, fun x _ => h.tracks x⟩

theorem InvBut.inv (h : InvBut o d s)
    (ho : Tracks (d o) o (s.pulls.get? o) (s.objectStore.entries.get? o)) : Inv d s := by
  refine ⟨h.store, h.agree, fun x => ?_⟩
  by_cases hx : x = o
  · subst hx
    exact ho
  · exact h.tracks x hx

theorem InvBut.store_change (h : InvBut o d s) (st : ObjectStore τ) (ws : List (Write UInt8))
    (hstore : st.Inv (Function.update d o ws)) (hagree : Agree ws)
    (hothers : ∀ x, x ≠ o → st.entries.get? x = s.objectStore.entries.get? x) :
    InvBut o (Function.update d o ws) (s.setStore st) := by
  refine ⟨hstore, fun x => ?_, fun x hx => ?_⟩
  · by_cases hx : x = o
    · subst hx
      rw [Function.update_self]
      exact hagree
    · rw [Function.update_of_ne hx]
      exact h.agree x
  · rw [Function.update_of_ne hx]
    simp only [setStore, hothers x hx]
    exact h.tracks x hx

variable {st : ObjectStore τ}

theorem InvBut.setStore (h : InvBut o d s) (hstore : st.Inv d)
    (hothers : ∀ x, x ≠ o → st.entries.get? x = s.objectStore.entries.get? x) :
    InvBut o d (s.setStore st) := by
  have hchange := h.store_change st (d o) (by rwa [Function.update_eq_self]) (h.agree o) hothers
  rwa [Function.update_eq_self] at hchange

theorem InvBut.forget (h : InvBut o d s) (ho : s.objectStore.entries.get? o = none) :
    InvBut o (Function.update d o []) s := by
  refine h.store_change s.objectStore [] ⟨h.store.used, h.store.bounded, ?_⟩ agree_nil
    fun _ _ => rfl
  intro x e hx
  have hne : x ≠ o := by
    rintro rfl
    simp [ho] at hx
  rw [Function.update_of_ne hne]
  exact h.store.replicas x e hx

theorem InvBut.setRecord (h : InvBut o d s)
    (hr : Tracks (d o) o (some r) (s.objectStore.entries.get? o)) : Inv d (s.setRecord r) := by
  obtain rfl := hr.named
  have hbut : InvBut r.objectId d (s.setRecord r) :=
    ⟨h.store, h.agree, fun x hx => by
      simp only [ObjectManager.setRecord, Dict.get?_set_of_ne _ _ (Ne.symm hx)]
      exact h.tracks x hx⟩
  exact hbut.inv (by simpa only [ObjectManager.setRecord, Dict.get?_set_self] using hr)

/-! ## The store at one object -/

theorem contains_iff {sealedOnly : Bool} :
    st.contains o sealedOnly = true ↔
      ∃ e, st.entries.get? o = some e ∧ (e.isSealed = true ∨ sealedOnly = false) := by
  cases he : st.entries.get? o with
  | none => simp [ObjectStore.contains, he]
  | some e => simp [ObjectStore.contains, he]

theorem not_contains_iff {sealedOnly : Bool} :
    st.contains o sealedOnly = false ↔
      ∀ e, st.entries.get? o = some e → e.isSealed = false ∧ sealedOnly = true := by
  cases he : st.entries.get? o with
  | none => simp [ObjectStore.contains, he]
  | some e => simp [ObjectStore.contains, he]

theorem removeEntry_eq (hinv : st.Inv d) {entry : StoreEntry τ}
    (he : st.entries.get? o = some entry) :
    ∃ removed, st.removeEntry o entry = (.ok true, removed) ∧ removed.Inv d ∧
      removed.entries = st.entries.erase o := by
  obtain ⟨hok, hremoved⟩ := hinv.removeEntry he
  refine ⟨(st.removeEntry o entry).2, Prod.ext hok rfl, hremoved, ?_⟩
  simp only [ObjectStore.removeEntry]
  split
  · rfl
  · rfl

/-! ## Failures -/

section

variable (h : InvBut r.objectId d s) (hcreated : ∀ e, s.objectStore.entries.get? r.objectId =
  some e → e.isSealed = false → r.targetCreated = true)
include h hcreated

theorem failRecord_spec (message : String) :
    ∃ s', s.failRecord r message = (.ok (), s') ∧ Inv d s' := by
  by_cases hopen : ∃ e, s.objectStore.entries.get? r.objectId = some e ∧ e.isSealed = false
  · obtain ⟨e, he, hsealed⟩ := hopen
    have hcond : r.targetCreated = true ∧ s.objectStore.contains r.objectId false = true ∧
        s.objectStore.contains r.objectId true = false := by
      refine ⟨hcreated e he hsealed, contains_iff.mpr ⟨e, he, .inr rfl⟩, ?_⟩
      rw [not_contains_iff]
      intro e' he'
      cases he.symm.trans he'
      exact ⟨hsealed, rfl⟩
    obtain ⟨removed, hremove, hinv, hentries⟩ := removeEntry_eq h.store he
    have habort : s.objectStore.abort r.objectId = (.ok true, removed) := by
      simp only [ObjectStore.abort, he, hsealed, hremove]
      rfl
    refine ⟨_, by rw [failRecord, if_pos hcond, habort], ?_⟩
    have hbut : InvBut r.objectId d (s.setStore removed) := by
      refine h.setStore hinv fun x hx => ?_
      rw [hentries, Dict.get?_erase_of_ne _ (Ne.symm hx)]
    refine hbut.setRecord (.failed _ _ rfl rfl rfl ?_)
    simp [ObjectManager.setStore, hentries]
  · refine ⟨_, if_neg fun hcond => hopen ?_, ?_⟩
    · obtain ⟨_, hpresent, hnot⟩ := hcond
      obtain ⟨e, he, _⟩ := contains_iff.mp hpresent
      exact ⟨e, he, (not_contains_iff.mp hnot e he).1⟩
    · refine h.setRecord (.failed _ _ rfl rfl rfl ?_)
      intro e he
      by_contra hsealed
      exact hopen ⟨e, he, by simpa using hsealed⟩

theorem failWith_inv {β : Type} (error : ObjectManagerError) :
    ∃ s', s.failWith (β := β) r error = (.error error, s') ∧ Inv d s' := by
  obtain ⟨s', hfail, hinv⟩ := failRecord_spec h hcreated error.message
  exact ⟨s', by rw [failWith, hfail], hinv⟩

end

end ObjectManager

end MiniRay
