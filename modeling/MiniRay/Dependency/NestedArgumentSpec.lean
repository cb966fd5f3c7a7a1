import MiniRay.Dependency.NestedArguments
import Mathlib.Data.Finset.Range

/-! What the pickler numbers the unpickler accepts, and a session releases what it imported, in
reverse and once. -/

namespace MiniRay

namespace NestedArguments

variable {H E E' : Type}

/-- The transfers and their numbers agree. -/
structure NestedManifestBuilder.Coherent (b : NestedManifestBuilder) : Prop where
  numbered : ∀ {key : ObjectID × WorkerID} {i : Nat}, b.indexes.get? key = some i →
    ∃ transfer, b.manifest[i]? = some transfer ∧ (transfer.objectId, transfer.ownerWorkerId) = key
  known : ∀ {i : Nat} {transfer : NestedReferenceTransfer}, b.manifest[i]? = some transfer →
    b.indexes.get? (transfer.objectId, transfer.ownerWorkerId) = some i
  owned : ∀ {key : ObjectID × WorkerID} {i : Nat}, b.indexes.get? key = some i →
    b.owners.get? key.1 = some key.2

namespace NestedManifestBuilder

theorem coherent_empty : empty.Coherent where
  numbered h := by cases h
  known h := by simp [empty] at h
  owned h := by cases h

/-- The one case analysis of a numbered reference: an old number, or the next one. -/
theorem persistentId_eq_ok {exporter : Exporter E} {r : ContainedRef}
    {b b' : NestedManifestBuilder} {id : PersistentId} (hb : b.Coherent)
    (h : persistentId exporter r b = (.ok id, b')) :
    b'.Coherent ∧ ∃ (i : Nat) (transfer : NestedReferenceTransfer), id = .index i ∧
      b'.manifest[i]? = some transfer ∧ transfer.objectId = r.objectId ∧
      transfer.ownerWorkerId = r.ownerWorkerId ∧
      (b'.manifest = b.manifest ∨
        i = b.manifest.length ∧ b'.manifest = b.manifest ++ [transfer]) := by
  unfold persistentId at h
  dsimp only at h
  by_cases howner : (b.owners.setDefault r.objectId r.ownerWorkerId).get? r.objectId =
      some r.ownerWorkerId
  · rw [if_neg (not_not_intro howner)] at h
    have hkept : ∀ {key : ObjectID × WorkerID} {i : Nat}, b.indexes.get? key = some i →
        (b.owners.setDefault r.objectId r.ownerWorkerId).get? key.1 = some key.2 := fun hkey =>
      Dict.get?_setDefault_kept (hb.owned hkey)
    cases hindex : b.indexes.get? (r.objectId, r.ownerWorkerId) with
    | some i =>
      simp only [hindex, Prod.mk.injEq, Except.ok.injEq] at h
      obtain ⟨rfl, rfl⟩ := h
      obtain ⟨transfer, htransfer, hkey⟩ := hb.numbered hindex
      rw [Prod.mk.injEq] at hkey
      exact ⟨⟨hb.numbered, hb.known, hkept⟩, i, transfer, rfl, htransfer, hkey.1, hkey.2,
        .inl rfl⟩
    | none =>
      cases exporter with
      | none => simp [hindex] at h
      | some exportRef =>
        cases hexport : exportRef b.manifest r with
        | error e => simp [hindex, hexport] at h
        | ok transfer =>
          simp only [hindex, hexport] at h
          by_cases hchanged : transfer.objectId ≠ r.objectId ∨
              transfer.ownerWorkerId ≠ r.ownerWorkerId
          · simp [hchanged] at h
          rw [if_neg hchanged, Prod.mk.injEq, Except.ok.injEq] at h
          obtain ⟨rfl, rfl⟩ := h
          obtain ⟨hobject, hworker⟩ := not_or.mp hchanged
          rw [not_not] at hobject hworker
          have hnew : ∀ {i : Nat} {old : NestedReferenceTransfer},
              b.manifest[i]? = some old →
                (r.objectId, r.ownerWorkerId) ≠ (old.objectId, old.ownerWorkerId) := by
            intro i old hold hsame
            have hknown := hb.known hold
            rw [← hsame, hindex] at hknown
            cases hknown
          refine ⟨⟨?_, ?_, ?_⟩, _, transfer, rfl, by simp, hobject, hworker, .inr ⟨rfl, rfl⟩⟩
          · intro key i hkey
            rcases Dict.of_get?_set hkey with ⟨hsame, rfl⟩ | hkey
            · exact ⟨transfer, by simp, by rw [hobject, hworker, hsame]⟩
            · obtain ⟨old, hold, hkeys⟩ := hb.numbered hkey
              have hlt := (List.getElem?_eq_some_iff.mp hold).1
              exact ⟨old, by rw [List.getElem?_append_left hlt, hold], hkeys⟩
          · intro i old hold
            by_cases hlt : i < b.manifest.length
            · rw [List.getElem?_append_left hlt] at hold
              rw [Dict.get?_set, if_neg (hnew hold)]
              exact hb.known hold
            · have hbound := (List.getElem?_eq_some_iff.mp hold).1
              rw [List.length_append, List.length_singleton] at hbound
              have hlast : i = b.manifest.length := by omega
              rw [hlast, List.getElem?_concat_length] at hold
              obtain rfl := Option.some.inj hold
              rw [hobject, hworker, Dict.get?_set_self, hlast]
          · intro key i hkey
            rw [Dict.get?_set] at hkey
            by_cases hsame : (r.objectId, r.ownerWorkerId) = key
            · rw [← hsame]
              exact howner
            · rw [if_neg hsame] at hkey
              exact hkept hkey
  · rw [if_pos howner] at h
    cases h

theorem manifest_grows (exporter : Exporter E) (r : ContainedRef) (b : NestedManifestBuilder) :
    b.manifest <+: (persistentId exporter r b).2.manifest := by
  unfold persistentId
  dsimp only
  split
  · exact List.prefix_rfl
  · split
    · exact List.prefix_rfl
    · split
      · exact List.prefix_rfl
      · split
        · exact List.prefix_rfl
        · split
          · exact List.prefix_rfl
          · exact List.prefix_append _ _

end NestedManifestBuilder

/-! ## Custody of a session -/

/-- Handles are either all held or all released. -/
structure ImportSession.Custody (s : ImportSession H) : Prop where
  held : s.rolledBack = false → s.closed = false → s.acquired = s.imported ∧ s.released = []
  given : s.rolledBack = true ∨ s.closed = true →
    s.acquired = [] ∧ s.released = s.imported.reverse

/-- The session's handles are handles of the transfers they are kept for. -/
def ImportSession.Faithful (identity : H → ContainedRef) (s : ImportSession H) : Prop :=
  ∀ (transfer : NestedReferenceTransfer) (value : H), s.values.get? transfer = some value →
    identity value = ⟨transfer.objectId, transfer.ownerWorkerId⟩

/-- An importer returns a handle of the object and owner it was asked for. -/
def Callbacks.Faithful (identity : H → ContainedRef) (c : Callbacks H E) : Prop :=
  ∀ (before : List H) (transfer : NestedReferenceTransfer) (value : H),
    c.importNested before transfer = .ok value →
      identity value = ⟨transfer.objectId, transfer.ownerWorkerId⟩

namespace ImportSession

variable (c : Callbacks H E)

variable {s : ImportSession H}

theorem isOpen_iff :
    s.isOpen = true ↔ s.committed = false ∧ s.rolledBack = false ∧ s.closed = false := by
  simp [isOpen, and_assoc]

theorem custody_new : (new : ImportSession H).Custody := ⟨fun _ _ => ⟨rfl, rfl⟩, by simp [new]⟩

theorem releaseLoop_eq (held released : List H) :
    releaseLoop c held released = released ++ held := by
  induction held generalizing released with
  | nil => simp [releaseLoop]
  | cons value held ih =>
    rw [releaseLoop]
    cases c.release released value <;> simp [ih]

variable {t : ImportSession H}

theorem custody_releaseAll (hs : s.acquired = s.imported) (hreleased : s.released = [])
    (ht : t.acquired = s.acquired) (ht' : t.released = s.released)
    (himported : t.imported = s.imported) :
    (releaseAll c t).acquired = [] ∧
      (releaseAll c t).released = (releaseAll c t).imported.reverse := by
  refine ⟨rfl, ?_⟩
  simp only [releaseAll, releaseLoop_eq]
  rw [ht, ht', himported, hs, hreleased, List.nil_append]

theorem custody_rollback (hs : s.Custody) : (s.rollback c).Custody := by
  unfold rollback
  by_cases hopen : s.isOpen = true
  · obtain ⟨-, hrolled, hclosed⟩ := isOpen_iff.mp hopen
    obtain ⟨hacquired, hreleased⟩ := hs.held hrolled hclosed
    have hgiven := custody_releaseAll c (t := { s with rolledBack := true }) hacquired hreleased
      rfl rfl rfl
    rw [hopen]
    exact ⟨nofun, fun _ => hgiven⟩
  · rw [Bool.not_eq_true] at hopen
    rw [hopen]
    exact hs

theorem custody_close (hs : s.Custody) : (s.close c).Custody ∧ (s.close c).closed = true := by
  unfold close
  cases hclosed : s.closed with
  | true => exact ⟨hs, hclosed⟩
  | false =>
    refine ⟨⟨fun _ => nofun, fun _ => ?_⟩, rfl⟩
    cases hrolled : s.rolledBack with
    | false =>
      obtain ⟨hacquired, hreleased⟩ := hs.held hrolled hclosed
      exact custody_releaseAll c (t := { s with closed := true }) hacquired hreleased rfl rfl
        rfl
    | true =>
      obtain ⟨hacquired, hreleased⟩ := hs.given (.inl hrolled)
      refine ⟨rfl, ?_⟩
      simp [releaseAll, hacquired, releaseLoop, hreleased]

theorem custody_commit (hs : s.Custody) : s.commit.Custody := by
  unfold commit
  cases s.rolledBack || s.closed with
  | true => exact hs
  | false => exact ⟨hs.held, hs.given⟩

theorem custody_import (hs : s.Custody) (hopen : s.isOpen = true) (value : H)
    (hrolled : t.rolledBack = s.rolledBack) (hclosed : t.closed = s.closed)
    (hacquired : t.acquired = s.acquired ++ [value])
    (himported : t.imported = s.imported ++ [value]) (hreleased : t.released = s.released) :
    t.Custody := by
  obtain ⟨-, hnot, hnot'⟩ := isOpen_iff.mp hopen
  obtain ⟨hheld, hnone⟩ := hs.held hnot hnot'
  constructor
  · intro _ _
    rw [hacquired, himported, hheld, hreleased, hnone]
    exact ⟨rfl, rfl⟩
  · intro hgiven
    rw [hrolled, hclosed, hnot, hnot'] at hgiven
    simp at hgiven

theorem resolve_cases (transfer : NestedReferenceTransfer) (hopen : s.isOpen = true) :
    (∃ value, s.values.get? transfer = some value ∧ resolve c transfer s = (.ok value, s)) ∨
      (∃ e, resolve c transfer s = (.error (.importer e), s)) ∨
      ∃ value, c.importNested s.imported transfer = .ok value ∧
        resolve c transfer s = (.ok value, { s with
          values := s.values.set transfer value
          acquired := s.acquired ++ [value]
          imported := s.imported ++ [value] }) := by
  unfold resolve
  rw [hopen]
  cases hvalue : s.values.get? transfer with
  | some value => exact .inl ⟨value, rfl, by simp⟩
  | none =>
    cases himport : c.importNested s.imported transfer with
    | error e => exact .inr (.inl ⟨e, by simp⟩)
    | ok value => exact .inr (.inr ⟨value, rfl, by simp⟩)

theorem resolve_closed (transfer : NestedReferenceTransfer) (hopen : s.isOpen = false) :
    resolve c transfer s = (.error .notOpen, s) := by
  simp [resolve, hopen]

theorem custody_resolve (transfer : NestedReferenceTransfer) (hs : s.Custody) :
    (resolve c transfer s).2.Custody := by
  cases hopen : s.isOpen with
  | false =>
    rw [resolve_closed c transfer hopen]
    exact hs
  | true =>
    obtain ⟨value, -, h⟩ | ⟨e, h⟩ | ⟨value, -, h⟩ := resolve_cases c transfer hopen
    · rw [h]
      exact hs
    · rw [h]
      exact hs
    · rw [h]
      exact custody_import hs hopen value rfl rfl rfl rfl rfl

theorem custody_resolveExported (key : ExportedReference) (hs : s.Custody) :
    (resolveExported c key s).2.Custody := by
  unfold resolveExported
  cases hopen : s.isOpen with
  | false => exact hs
  | true =>
    cases hcallback : c.importExported with
    | none => exact hs
    | some importExported =>
      cases hvalue : s.exportedValues.get? key with
      | some value => exact hs
      | none =>
        cases himport : importExported s.imported key with
        | error e => simpa [hvalue, himport] using hs
        | ok value =>
          simp only [himport]
          exact custody_import hs hopen value rfl rfl rfl rfl rfl

end ImportSession

/-! ## Loading what was encoded -/

section Load

variable (c : Callbacks H E) {identity : H → ContainedRef}

/-- The unpickler has used what the pickler has numbered. -/
structure Follows (identity : H → ContainedRef) (b : NestedManifestBuilder) (u : Unpickler H) :
    Prop where
  coherent : b.Coherent
  firstUse : u.firstUse = List.range b.manifest.length
  seen : u.seen = Finset.range b.manifest.length
  isOpen : u.session.isOpen = true
  faithful : u.session.Faithful identity

variable {s : ImportSession H}

theorem resolve_faithful (hc : c.Faithful identity) (hopen : s.isOpen = true)
    (hs : s.Faithful identity) (transfer : NestedReferenceTransfer) :
    (∃ value s', s.resolve c transfer = (.ok value, s') ∧ s'.isOpen = true ∧
        s'.Faithful identity ∧ identity value = ⟨transfer.objectId, transfer.ownerWorkerId⟩) ∨
      ∃ e s', s.resolve c transfer = (.error (.importer e), s') := by
  obtain ⟨value, hvalue, h⟩ | ⟨e, h⟩ | ⟨value, himport, h⟩ := s.resolve_cases c transfer hopen
  · exact .inl ⟨value, s, h, hopen, hs, hs _ _ hvalue⟩
  · exact .inr ⟨e, s, h⟩
  · refine .inl ⟨value, _, h, hopen, ?_, hc _ _ _ himport⟩
    intro transfer' value' hvalue'
    dsimp only at hvalue'
    rcases Dict.of_get?_set hvalue' with ⟨hsame, rfl⟩ | hvalue'
    · rw [← hsame]
      exact hc _ _ _ himport
    · exact hs _ _ hvalue'

variable {manifest : List NestedReferenceTransfer} {u : Unpickler H}

theorem persistentLoad_index {i : Nat} {transfer : NestedReferenceTransfer}
    (hget : manifest[i]? = some transfer) (hnext : i ∉ u.seen → i = u.firstUse.length) :
    persistentLoad c manifest (.index i) u =
      ((u.session.resolve c transfer).1, { u with
        seen := insert i u.seen
        firstUse := if i ∈ u.seen then u.firstUse else u.firstUse ++ [i]
        session := (u.session.resolve c transfer).2 }) := by
  obtain ⟨hlt, hvalue⟩ := List.getElem?_eq_some_iff.mp hget
  have hbound : ¬((i : Int) < 0 ∨ manifest.length ≤ (i : Int).toNat) := by omega
  have horder : ¬((i : Int).toNat ∉ u.seen ∧ (i : Int).toNat ≠ u.firstUse.length) := by
    rintro ⟨hnew, hne⟩
    exact hne (hnext hnew)
  rw [persistentLoad, dif_neg hbound, if_neg horder]
  by_cases hseen : i ∈ u.seen
  · simp [hseen, hvalue, Finset.insert_eq_self.mpr hseen]
  · simp [hseen, hvalue]

variable {exporter : Exporter E'}

theorem persistentLoad_follows (hc : c.Faithful identity) (r : ContainedRef)
    (b : NestedManifestBuilder) (u : Unpickler H) (id : PersistentId) (b' : NestedManifestBuilder)
    (h : NestedManifestBuilder.persistentId exporter r b = (.ok id, b'))
    (hinside : b'.manifest <+: manifest) (hu : Follows identity b u) :
    (∃ value u', persistentLoad c manifest id u = (.ok value, u') ∧ Follows identity b' u' ∧
        identity value = r) ∨
      ∃ e u', persistentLoad c manifest id u = (.error e, u') ∧ ∃ e', e = .importer e' := by
  obtain ⟨hcoherent, i, transfer, rfl, hget, hobject, howner, hgrown⟩ :=
    NestedManifestBuilder.persistentId_eq_ok hu.coherent h
  have hlt := (List.getElem?_eq_some_iff.mp hget).1
  have hmanifest : manifest[i]? = some transfer := by
    obtain ⟨rest, rfl⟩ := hinside
    rw [List.getElem?_append_left hlt, hget]
  have hnext : i ∉ u.seen → i = u.firstUse.length := by
    rw [hu.seen, hu.firstUse, List.length_range, Finset.mem_range]
    intro hnew
    obtain hsame | ⟨hlast, -⟩ := hgrown
    · rw [hsame] at hlt
      exact absurd hlt hnew
    · exact hlast
  have hload := persistentLoad_index c hmanifest hnext
  have hused : insert i u.seen = Finset.range b'.manifest.length ∧
      (if i ∈ u.seen then u.firstUse else u.firstUse ++ [i]) =
        List.range b'.manifest.length := by
    rw [hu.seen, hu.firstUse]
    obtain hsame | ⟨hlast, hmore⟩ := hgrown
    · rw [hsame] at hlt ⊢
      have hmem := Finset.mem_range.mpr hlt
      rw [if_pos hmem, Finset.insert_eq_self.mpr hmem]
      exact ⟨rfl, rfl⟩
    · have hmem : i ∉ Finset.range b.manifest.length := by simp [hlast]
      rw [if_neg hmem, hmore, List.length_append, List.length_singleton, hlast,
        Finset.range_add_one, List.range_succ]
      exact ⟨rfl, rfl⟩
  obtain ⟨value, s', hresolve, hopen, hfaithful, hidentity⟩ | ⟨e, s', hresolve⟩ :=
    resolve_faithful c hc hu.isOpen hu.faithful transfer
  · rw [hresolve] at hload
    refine .inl ⟨value, _, hload, ⟨hcoherent, hused.2, hused.1, hopen, hfaithful⟩, ?_⟩
    rw [hidentity, hobject, howner]
  · rw [hresolve] at hload
    exact .inr ⟨_, _, hload, e, rfl⟩

variable {argument : InlineArg}

/-- An encoded argument is loaded as it was, unless an importer raises. -/
theorem load_encoded (hc : c.Faithful identity) {value : RefTree ContainedRef}
    (h : encodeTaskArgument exporter value = .ok argument) (hopen : s.isOpen = true)
    (hs : s.Faithful identity) :
    (∃ result u, load c argument s = (.ok result, u) ∧ result.map identity = value ∧
        u.session.isOpen = true ∧ u.session.Faithful identity) ∨
      ∃ e u, load c argument s = (.error (.importer e), u) := by
  unfold encodeTaskArgument at h
  cases htraverse : value.traverse (NestedManifestBuilder.persistentId exporter) .notSerializable
      .empty with
  | mk result b =>
    rw [htraverse] at h
    cases result with
    | error e => cases h
    | ok data =>
      obtain rfl := Except.ok.inj h
      have hstart : Follows identity .empty ⟨[], ∅, s⟩ :=
        ⟨NestedManifestBuilder.coherent_empty, rfl, rfl, hopen, hs⟩
      have hundone := RefTree.traverse_undone (g := persistentLoad c b.manifest)
        (.unpickling "pickle data was truncated") (fun b' => b'.manifest <+: b.manifest)
        (Follows identity) (fun e => ∃ e', e = .importer e')
        (fun r b' hin => (b'.manifest_grows exporter r).trans hin)
        (fun r b₁ u id b₂ => persistentLoad_follows c hc r b₁ u id b₂)
        value htraverse List.prefix_rfl hstart
      unfold load
      obtain ⟨result, u, hresult, hu, hmap⟩ | ⟨_, u, hresult, e, rfl⟩ := hundone
      · refine .inl ⟨result, u, ?_, hmap, hu.isOpen, hu.faithful⟩
        simp [hresult, hu.firstUse]
      · exact .inr ⟨e, u, by simp only [hresult]⟩

/-! ## Index streams -/

/-- Every index is new and the next one, or old; none is out of range and none is left. -/
structure InFirstUseOrder (ids : List PersistentId) (n : Nat) : Prop where
  bounded : ∀ id ∈ ids, ∃ i < n, id = .index (i : Nat)
  used : ∀ i < n, .index (i : Nat) ∈ ids
  ordered : ∀ {front : List PersistentId} {i : Nat} {rest : List PersistentId},
    ids = front ++ .index i :: rest → ∀ j < i, .index (j : Nat) ∈ front

/-- What an unpickler knows after the ids it took. -/
structure Visited (ids : List PersistentId) (u : Unpickler H) : Prop where
  seen : u.seen = Finset.range u.firstUse.length
  firstUse : u.firstUse = List.range u.firstUse.length
  order : InFirstUseOrder ids u.firstUse.length

/-- The one case analysis of an id that was taken: an old index, or the next one. -/
theorem persistentLoad_eq_ok {id : PersistentId} {u' : Unpickler H} {value : H}
    (h : persistentLoad c manifest id u = (.ok value, u')) :
    ∃ i : Nat, id = .index i ∧ i < manifest.length ∧
      (i ∈ u.seen ∧ u'.seen = u.seen ∧ u'.firstUse = u.firstUse ∨
        i ∉ u.seen ∧ i = u.firstUse.length ∧ u'.seen = insert i u.seen ∧
          u'.firstUse = u.firstUse ++ [i]) := by
  cases id with
  | unsupported => cases h
  | notInteger => cases h
  | index index =>
    rw [persistentLoad] at h
    by_cases hbound : index < 0 ∨ manifest.length ≤ index.toNat
    · rw [dif_pos hbound] at h
      cases h
    rw [dif_neg hbound] at h
    have hindex : (index.toNat : Int) = index := by omega
    refine ⟨index.toNat, by rw [hindex], by omega, ?_⟩
    by_cases hseen : index.toNat ∈ u.seen
    · simp only [hseen, not_true_eq_false, false_and, if_false, if_true, Prod.mk.injEq] at h
      rw [← h.2]
      exact .inl ⟨hseen, rfl, rfl⟩
    · by_cases hnext : index.toNat = u.firstUse.length
      · rw [if_neg (by tauto), if_neg hseen, Prod.mk.injEq] at h
        rw [← h.2]
        exact .inr ⟨hseen, hnext, rfl, rfl⟩
      · rw [if_pos ⟨hseen, hnext⟩] at h
        cases h

theorem persistentLoad_visited (manifest : List NestedReferenceTransfer) (ids : List PersistentId)
    (id : PersistentId) (u : Unpickler H) (value : H) (u' : Unpickler H) (hu : Visited ids u)
    (h : persistentLoad c manifest id u = (.ok value, u')) : Visited (ids ++ [id]) u' := by
  obtain ⟨i, rfl, -, hcases⟩ := persistentLoad_eq_ok c h
  -- Everything below an index that is taken was taken before.
  have hbelow : i ≤ u.firstUse.length → ∀ {front : List PersistentId} {k : Nat}
      {rest : List PersistentId}, ids ++ [.index (i : Nat)] = front ++ .index k :: rest →
        ∀ j < k, .index (j : Nat) ∈ front := by
    intro hi front k rest hsplit j hj
    obtain ⟨middle, hfront, hrest⟩ | ⟨middle, hids, hrest⟩ := List.append_eq_append_iff.mp hsplit
    · cases middle with
      | nil =>
        rw [List.append_nil] at hfront
        obtain ⟨hlast, -⟩ := List.cons.inj hrest
        have hsame : i = k := by
          have hindex := PersistentId.index.inj hlast
          omega
        rw [hfront]
        exact hu.order.used j (by omega)
      | cons x middle =>
        obtain ⟨-, hnil⟩ := List.cons.inj hrest
        simp at hnil
    · cases middle with
      | nil =>
        rw [List.nil_append] at hrest
        rw [List.append_nil] at hids
        obtain ⟨hlast, -⟩ := List.cons.inj hrest
        have hsame : i = k := by
          have hindex := PersistentId.index.inj hlast
          omega
        rw [← hids]
        exact hu.order.used j (by omega)
      | cons x middle =>
        obtain ⟨hx, -⟩ := List.cons.inj hrest
        exact hu.order.ordered (show ids = front ++ .index k :: middle by rw [hids, hx]) j hj
  obtain ⟨hseen, hseen', hfirst⟩ | ⟨-, hlast, hseen', hfirst⟩ := hcases
  · rw [hu.seen, Finset.mem_range] at hseen
    refine ⟨by rw [hseen', hfirst, hu.seen], by rw [hfirst]; exact hu.firstUse, ?_⟩
    rw [hfirst]
    refine ⟨?_, fun j hj => List.mem_append_left _ (hu.order.used j hj), hbelow hseen.le⟩
    intro id hid
    obtain hid | hid := List.mem_append.mp hid
    · exact hu.order.bounded id hid
    · exact ⟨i, hseen, List.mem_singleton.mp hid⟩
  · have hlength : u'.firstUse.length = i + 1 := by
      rw [hfirst, List.length_append, List.length_singleton, hlast]
    refine ⟨by rw [hseen', hlength, hu.seen, ← hlast, Finset.range_add_one], ?_, ?_⟩
    · rw [hlength, hfirst, List.range_succ, hlast]
      exact congrArg (· ++ [u.firstUse.length]) hu.firstUse
    · rw [hlength]
      refine ⟨?_, ?_, hbelow hlast.le⟩
      · intro id hid
        obtain hid | hid := List.mem_append.mp hid
        · obtain ⟨j, hj, rfl⟩ := hu.order.bounded id hid
          exact ⟨j, by omega, rfl⟩
        · exact ⟨i, by omega, List.mem_singleton.mp hid⟩
      · intro j hj
        by_cases hjlast : j = i
        · exact List.mem_append_right _ (by rw [hjlast]; exact List.mem_singleton_self _)
        · exact List.mem_append_left _ (hu.order.used j (by omega))

theorem load_order {value : RefTree H} (h : load c argument s = (.ok value, u)) :
    InFirstUseOrder argument.data.refs argument.nestedRefs.length := by
  unfold load at h
  cases htraverse : argument.data.traverse (persistentLoad c argument.nestedRefs)
      (.unpickling "pickle data was truncated") ⟨[], ∅, s⟩ with
  | mk result u' =>
    rw [htraverse] at h
    cases result with
    | error e => cases h
    | ok result =>
      dsimp only at h
      by_cases htrailing : argument.trailing = true
      · rw [if_pos htrailing] at h
        cases h
      rw [if_neg htrailing] at h
      by_cases hcomplete : u'.firstUse = List.range argument.nestedRefs.length
      · have hstart : Visited [] (⟨[], ∅, s⟩ : Unpickler H) :=
          ⟨rfl, rfl, by simp, by simp, by simp⟩
        have hvisited := RefTree.traverse_visits Visited
          (persistentLoad_visited c argument.nestedRefs) argument.data hstart
          htraverse
        have hlength : u'.firstUse.length = argument.nestedRefs.length := by
          rw [hcomplete, List.length_range]
        rw [← hlength]
        exact hvisited.order
      · rw [if_pos hcomplete] at h
        cases h

theorem load_session {P : ImportSession H → Prop}
    (hresolve : ∀ transfer s, P s → P (s.resolve c transfer).2) (argument : InlineArg)
    (s : ImportSession H) (hs : P s) : P (load c argument s).2.session := by
  have hstep : ∀ id (u : Unpickler H), P u.session →
      P (persistentLoad c argument.nestedRefs id u).2.session := by
    intro id u hu
    cases id with
    | unsupported => exact hu
    | notInteger => exact hu
    | index index =>
      rw [persistentLoad]
      split
      · exact hu
      · split
        · exact hu
        · refine hresolve _ _ ?_
          split <;> exact hu
  have hall := RefTree.traverse_preserves (.unpickling "pickle data was truncated")
    (fun u : Unpickler H => P u.session) hstep argument.data ⟨[], ∅, s⟩ hs
  unfold load
  cases htraverse : argument.data.traverse (persistentLoad c argument.nestedRefs)
      (.unpickling "pickle data was truncated") ⟨[], ∅, s⟩ with
  | mk result u =>
    rw [htraverse] at hall
    cases result with
    | error e => exact hall
    | ok value =>
      dsimp only
      split
      · exact hall
      · split <;> exact hall

end Load

/-! ## Runs of one session -/

inductive SessionOp
  | decode (argument : InlineArg)
  | resolveExported (key : ExportedReference)
  | commit
  | rollback
  | close

/-- One call on a session, whatever it returns or raises. -/
def sessionStep (c : Callbacks H E) (s : ImportSession H) : SessionOp → ImportSession H
  | .decode argument => (decodeInlineArgument c argument s).2
  | .resolveExported key => (s.resolveExported c key).2
  | .commit => s.commit
  | .rollback => s.rollback c
  | .close => s.close c

def sessionRun (c : Callbacks H E) (ops : List SessionOp) : ImportSession H :=
  ops.foldl (sessionStep c) .new

section Runs

variable (c : Callbacks H E) {identity : H → ContainedRef}

theorem decode_eq (argument : InlineArg) (s : ImportSession H) :
    (decodeInlineArgument c argument s).2 = (load c argument s).2.session ∨
      (∃ e, (decodeInlineArgument c argument s).1 = .error e) ∧
        (decodeInlineArgument c argument s).2 = (load c argument s).2.session.rollback c := by
  unfold decodeInlineArgument
  cases load c argument s with
  | mk result u =>
    cases result with
    | ok value => exact .inl rfl
    | error e => exact .inr ⟨⟨e, rfl⟩, rfl⟩

variable {s : ImportSession H}

theorem custody_step (hs : s.Custody) (op : SessionOp) : (sessionStep c s op).Custody := by
  cases op with
  | decode argument =>
    have hload := load_session c (P := ImportSession.Custody)
      (fun transfer s hs => s.custody_resolve c transfer hs) argument s hs
    rw [sessionStep]
    obtain h | ⟨-, h⟩ := decode_eq c argument s
    · rw [h]
      exact hload
    · rw [h]
      exact ImportSession.custody_rollback c hload
  | resolveExported key => exact ImportSession.custody_resolveExported c key hs
  | commit => exact ImportSession.custody_commit hs
  | rollback => exact ImportSession.custody_rollback c hs
  | close => exact (ImportSession.custody_close c hs).1

theorem custody_run (ops : List SessionOp) : (sessionRun c ops).Custody := by
  have hfold : ∀ (ops : List SessionOp) (s : ImportSession H), s.Custody →
      (ops.foldl (sessionStep c) s).Custody := by
    intro ops
    induction ops with
    | nil => exact fun _ hs => hs
    | cons op ops ih => exact fun s hs => ih _ (custody_step c hs op)
  exact hfold ops _ ImportSession.custody_new

theorem faithful_resolve (hc : c.Faithful identity) (transfer : NestedReferenceTransfer)
    (s : ImportSession H) (hs : s.Faithful identity) :
    (s.resolve c transfer).2.Faithful identity := by
  cases hopen : s.isOpen with
  | false =>
    rw [ImportSession.resolve_closed c transfer hopen]
    exact hs
  | true =>
    obtain ⟨value, s', h, -, hs', -⟩ | ⟨e, h⟩ := resolve_faithful c hc hopen hs transfer
    · rw [h]
      exact hs'
    · obtain ⟨value, -, h'⟩ | ⟨e, h'⟩ | ⟨value, -, h'⟩ := s.resolve_cases c transfer hopen
      · rw [h']
        exact hs
      · rw [h']
        exact hs
      · obtain ⟨s', hs'⟩ := h
        rw [h'] at hs'
        cases hs'

theorem faithful_new (identity : H → ContainedRef) :
    (ImportSession.new : ImportSession H).Faithful identity := by
  intro transfer value h
  cases h

theorem faithful_cleared : (s.releaseAll c).Faithful identity := by
  intro transfer value h
  cases h

theorem faithful_rollback (hs : s.Faithful identity) : (s.rollback c).Faithful identity := by
  unfold ImportSession.rollback
  split
  · exact hs
  · exact faithful_cleared c

theorem faithful_step (hc : c.Faithful identity) (hs : s.Faithful identity) (op : SessionOp) :
    (sessionStep c s op).Faithful identity := by
  cases op with
  | decode argument =>
    have hload : (load c argument s).2.session.Faithful identity :=
      load_session c (P := fun s => s.Faithful identity)
        (fun transfer s hs => faithful_resolve c hc transfer s hs) argument s hs
    rw [sessionStep]
    obtain h | ⟨-, h⟩ := decode_eq c argument s
    · rw [h]
      exact hload
    · rw [h]
      exact faithful_rollback c hload
  | resolveExported key =>
    rw [sessionStep, ImportSession.resolveExported]
    split
    · exact hs
    · split
      · exact hs
      · split
        · exact hs
        · split <;> exact hs
  | commit =>
    rw [sessionStep, ImportSession.commit]
    split <;> exact hs
  | rollback => exact faithful_rollback c hs
  | close =>
    rw [sessionStep, ImportSession.close]
    split
    · exact hs
    · exact faithful_cleared c

theorem faithful_run (hc : c.Faithful identity) (ops : List SessionOp) :
    (sessionRun c ops).Faithful identity := by
  have hfold : ∀ (ops : List SessionOp) (s : ImportSession H), s.Faithful identity →
      (ops.foldl (sessionStep c) s).Faithful identity := by
    intro ops
    induction ops with
    | nil => exact fun _ hs => hs
    | cons op ops ih => exact fun s hs => ih _ (faithful_step c hc hs op)
  exact hfold ops _ (faithful_new identity)

end Runs

/-- A total importer of handles that are the references themselves. -/
def plainCallbacks : Callbacks ContainedRef Empty where
  importNested _ transfer := .ok ⟨transfer.objectId, transfer.ownerWorkerId⟩
  importExported := none
  release _ _ := false

/-- The index stream of an encoder, by loading it with handles that nobody refuses. -/
theorem encode_order {exporter : Exporter E} {value : RefTree ContainedRef} {argument : InlineArg}
    (h : encodeTaskArgument exporter value = .ok argument) :
    InFirstUseOrder argument.data.refs argument.nestedRefs.length := by
  have hplain : plainCallbacks.Faithful id := fun _ _ _ h => (Except.ok.inj h).symm
  obtain ⟨result, u, hload, -⟩ | ⟨e, -⟩ := load_encoded plainCallbacks hplain h
    (s := .new) rfl (faithful_new id)
  · exact load_order plainCallbacks hload
  · exact e.elim

/-- Encoding, decoding and the custody of one session. -/
structure NestedArgumentSpec (c : Callbacks H E) (identity : H → ContainedRef) : Prop where
  /-- The encoder numbers in first-use order, and uses every item of its manifest. -/
  numbered : ∀ {E' : Type} {exporter : Exporter E'} {value : RefTree ContainedRef}
    {argument : InlineArg}, encodeTaskArgument exporter value = .ok argument →
      InFirstUseOrder argument.data.refs argument.nestedRefs.length
  /-- An open session loads it back, with handles of the same objects and owners. -/
  decoded : c.Faithful identity → ∀ {E' : Type} {exporter : Exporter E'}
    {value : RefTree ContainedRef} {argument : InlineArg} (ops : List SessionOp),
      encodeTaskArgument exporter value = .ok argument → (sessionRun c ops).isOpen = true →
        (∃ result, (decodeInlineArgument c argument (sessionRun c ops)).1 = .ok result ∧
            result.map identity = value) ∨
          ∃ e, (decodeInlineArgument c argument (sessionRun c ops)).1 = .error (.importer e)
  /-- No other stream is accepted. -/
  rejected : ∀ {argument : InlineArg} {s : ImportSession H} {result : RefTree H},
    (decodeInlineArgument c argument s).1 = .ok result →
      InFirstUseOrder argument.data.refs argument.nestedRefs.length
  /-- A rollback or a close releases everything, last import first, and nothing else does. -/
  custody : ∀ ops, (sessionRun c ops).Custody
  /-- A decode that fails rolls an open session back. -/
  failed : ∀ {argument : InlineArg} {e : LoadError E} (ops : List SessionOp),
    (sessionRun c ops).isOpen = true →
      (decodeInlineArgument c argument (sessionRun c ops)).1 = .error e →
        (sessionRun c (ops ++ [.decode argument])).rolledBack = true
  rolledBack : ∀ ops, (sessionRun c ops).isOpen = true →
    (sessionRun c (ops ++ [.rollback])).rolledBack = true
  closed : ∀ ops, (sessionRun c (ops ++ [.close])).closed = true

theorem nestedArgumentSpec (c : Callbacks H E) (identity : H → ContainedRef) :
    NestedArgumentSpec c identity where
  numbered := encode_order
  decoded hc _ _ _ _ ops h hopen := by
    unfold decodeInlineArgument
    obtain ⟨result, u, hload, hmap, -⟩ | ⟨e, u, hload⟩ :=
      load_encoded c hc h hopen (faithful_run c hc ops)
    · exact .inl ⟨result, by rw [hload], hmap⟩
    · exact .inr ⟨e, by rw [hload]⟩
  rejected {argument s result} h := by
    unfold decodeInlineArgument at h
    cases hload : load c argument s with
    | mk loaded u =>
      rw [hload] at h
      cases loaded with
      | error e => cases h
      | ok value => exact load_order c hload
  custody := custody_run c
  failed {argument e} ops hopen h := by
    rw [sessionRun, List.foldl_append]
    change (decodeInlineArgument c argument (sessionRun c ops)).2.rolledBack = true
    have hkept : (load c argument (sessionRun c ops)).2.session.isOpen = true :=
      load_session c (P := fun s => s.isOpen = true) (fun transfer s hs => by
        obtain ⟨value, -, h⟩ | ⟨e, h⟩ | ⟨value, -, h⟩ := s.resolve_cases c transfer hs <;>
          rw [h] <;> exact hs) argument _ hopen
    unfold decodeInlineArgument at h ⊢
    cases hload : load c argument (sessionRun c ops) with
    | mk result u =>
      rw [hload] at h hkept
      cases result with
      | ok value => cases h
      | error e =>
        dsimp only
        rw [ImportSession.rollback, hkept]
        rfl
  rolledBack ops hopen := by
    rw [sessionRun, List.foldl_append]
    change ((sessionRun c ops).rollback c).rolledBack = true
    rw [ImportSession.rollback, hopen]
    rfl
  closed ops := by
    rw [sessionRun, List.foldl_append]
    exact (ImportSession.custody_close c (custody_run c ops)).2

end NestedArguments

end MiniRay
