import MiniRay.EnhancedPublication.Facts
import MiniRay.Library.Framing

/-! The strings behind the transfer fingerprint, the manifest digest and the put reference, read
back field by field. -/

namespace MiniRay

namespace PublicationEncoding

open Framing (Fits Collide)

/-! ## The hashed strings -/

def transferBytes (t : PreparedContainedTransfer) : List UInt8 :=
  utf8 "miniray-prepared-contained-transfer-v1" ++ [0] ++
    feedObject t.containedObjectId ++ framed t.containedOwnerWorkerId.value.bytes ++
    framed (utf8 t.containedOwnerAddress.host) ++
    framed (Sha256.bigEndian 8 t.containedOwnerAddress.port) ++ feedSource t.source ++
    feedHold t.provisionalHold ++ feedHold t.finalHold

def manifestBytes (header : OutputPublicationHeader) (slots : List OutputSlotManifest) :
    List UInt8 :=
  utf8 "miniray-output-publication-manifest-v2" ++ [0] ++
    feedPublication header.publicationId ++ framed header.jobId.value.bytes ++
    framed header.executorWorkerId.value.bytes ++ framed header.ownerWorkerId.value.bytes ++
    framed header.nodeIncarnation.nodeId.value.bytes ++
    framed (Sha256.bigEndian 8 header.nodeIncarnation.nodePid) ++
    framed (Sha256.bigEndian 8 header.nodeIncarnation.registrationEpoch) ++
    framed (Sha256.bigEndian 8 slots.length) ++ slots.flatMap feedSlot

theorem manifestDigest_eq (header : OutputPublicationHeader) (slots : List OutputSlotManifest) :
    manifestDigest header slots = Sha256.hexdigest (manifestBytes header slots) := rfl

def putBytes (p : PutPublication) : List UInt8 :=
  utf8 "miniray-enhanced-put-v1" ++ [0] ++ p.parts.flatMap framed

theorem reference_digest_eq (p : PutPublication) :
    p.reference.digest = Sha256.hexdigest (putBytes p) := rfl

/-! ## What can be framed

`to_bytes(8)` raises for a longer text, so nothing else is ever hashed. -/

def sourceTexts : ContainedPublicationSource → List String
  | .owned _ => []
  | .borrowed source =>
    match source.originalSource with
    | .contained hold => [source.borrowerToken, hold.transferToken]
    | .taskHold _ => [source.borrowerToken]

def transferTexts (t : PreparedContainedTransfer) : List String :=
  t.containedOwnerAddress.host :: t.provisionalHold.transferToken ::
    t.finalHold.transferToken :: sourceTexts t.source

/-- The fingerprint of the transfer does not raise. -/
def Encodable (t : PreparedContainedTransfer) : Prop :=
  t.Framable ∧ ∀ text ∈ transferTexts t, Fits (utf8 text)

/-! ## Fields -/

variable {x y : List UInt8}

theorem framed_inj {a b : List UInt8} (ha : Fits a) (hb : Fits b)
    (h : framed a ++ x = framed b ++ y) : a = b ∧ x = y :=
  Framing.frame_append_inj ha hb h

theorem fits_of_length {a : List UInt8} {n : Nat} (h : a.length = n) (hn : n < 256 ^ 8) : Fits a :=
  h.trans_lt hn

theorem fits_id (v : OpaqueValue) : Fits v.bytes :=
  fits_of_length (Sha256.bigEndian_length 16 _) (by decide)

theorem framedId_inj {v w : OpaqueValue} (h : framed v.bytes ++ x = framed w.bytes ++ y) :
    v = w ∧ x = y := by
  obtain ⟨hbytes, hrest⟩ := framed_inj (fits_id v) (fits_id w) h
  exact ⟨OpaqueValue.bytes_inj hbytes, hrest⟩

theorem framedNat_inj {m n : Nat} (hm : Uint64 m) (hn : Uint64 n)
    (h : framed (Sha256.bigEndian 8 m) ++ x = framed (Sha256.bigEndian 8 n) ++ y) :
    m = n ∧ x = y := by
  have hfits : ∀ k, Fits (Sha256.bigEndian 8 k) := fun k =>
    fits_of_length (Sha256.bigEndian_length 8 k) (by decide)
  obtain ⟨hbytes, hrest⟩ := framed_inj (hfits m) (hfits n) h
  have hbound : 2 ^ 64 = 256 ^ 8 := by decide
  unfold Uint64 at hm hn
  rw [hbound] at hm hn
  exact ⟨Framing.bigEndian_inj hm hn hbytes, hrest⟩

variable {s t : String}

theorem framedText_inj (hs : Fits (utf8 s)) (ht : Fits (utf8 t))
    (h : framed (utf8 s) ++ x = framed (utf8 t) ++ y) : s = t ∧ x = y := by
  obtain ⟨hbytes, hrest⟩ := framed_inj hs ht h
  exact ⟨Framing.toUTF8_inj hbytes, hrest⟩

theorem feedObject_inj {o o' : ObjectID} (ho : Uint64 o.returnIndex) (ho' : Uint64 o'.returnIndex)
    (h : feedObject o ++ x = feedObject o' ++ y) : o = o' ∧ x = y := by
  simp only [feedObject, List.append_assoc] at h
  obtain ⟨htask, h⟩ := framedId_inj h
  obtain ⟨hindex, hrest⟩ := framedNat_inj ho ho' h
  obtain ⟨⟨task⟩, index⟩ := o
  obtain ⟨⟨task'⟩, index'⟩ := o'
  cases htask
  cases hindex
  exact ⟨rfl, hrest⟩

theorem feedHold_inj {p q : ContainedReferenceHold} (hp : p.Framable) (hq : q.Framable)
    (hptext : Fits (utf8 p.transferToken)) (hqtext : Fits (utf8 q.transferToken))
    (h : feedHold p ++ x = feedHold q ++ y) : p = q ∧ x = y := by
  simp only [feedHold, List.append_assoc] at h
  obtain ⟨hobject, h⟩ := feedObject_inj hp hq h
  obtain ⟨howner, h⟩ := framedId_inj h
  obtain ⟨htoken, hrest⟩ := framedText_inj hptext hqtext h
  obtain ⟨object, ⟨owner⟩, token, hne⟩ := p
  obtain ⟨object', ⟨owner'⟩, token', hne'⟩ := q
  cases hobject
  cases howner
  cases htoken
  exact ⟨rfl, hrest⟩

theorem kindValue_inj : ∀ {k k' : TaskReferenceHoldKind}, utf8 k.value = utf8 k'.value →
    k = k' := by
  intro k k'
  cases k <;> cases k' <;> decide

theorem tierValue_inj : ∀ {v v' : ResultStorage}, utf8 v.value = utf8 v'.value → v = v' := by
  intro v v'
  cases v <;> cases v' <;> decide

theorem fits_kind (k : TaskReferenceHoldKind) : Fits (utf8 k.value) := by
  cases k <;> exact fits_of_length rfl (by decide)

theorem fits_tier (v : ResultStorage) : Fits (utf8 v.value) := by
  cases v <;> exact fits_of_length rfl (by decide)

theorem tags_differ (hs : Fits (utf8 s)) (ht : Fits (utf8 t)) (hne : utf8 s ≠ utf8 t) :
    framed (utf8 s) ++ x ≠ framed (utf8 t) ++ y :=
  fun h => hne (framed_inj hs ht h).1

/-! ## Transfers -/

/-- The part of a borrowed source that says where the borrower came from. -/
def feedOriginal : BorrowSource → List UInt8
  | .contained hold => framed (utf8 "contained") ++ framed (utf8 "typed") ++ feedHold hold
  | .taskHold hold =>
    framed (utf8 "task") ++ framed (utf8 hold.kind.value) ++
      framed hold.submittingWorkerId.value.bytes ++ framed hold.taskId.value.bytes ++
      framed hold.originAttemptId.taskId.value.bytes ++
      framed (Sha256.bigEndian 8 hold.originAttemptId.attemptNumber)

theorem feedSource_borrowed (source : BorrowedContainedSource) :
    feedSource (.borrowed source) = framed (utf8 "borrowed") ++
      framed source.borrowerWorkerId.value.bytes ++ framed (utf8 source.borrowerToken) ++
        feedOriginal source.originalSource := by
  rw [feedSource]
  cases source.originalSource <;> rfl

variable {hold' : TaskReferenceHold}

theorem feedTaskHold_inj {hold : TaskReferenceHold} (hn : Uint64 hold.originAttemptId.attemptNumber)
    (hn' : Uint64 hold'.originAttemptId.attemptNumber)
    (h : feedOriginal (.taskHold hold) ++ x = feedOriginal (.taskHold hold') ++ y) :
    hold = hold' ∧ x = y := by
  simp only [feedOriginal, List.append_assoc] at h
  obtain ⟨hkind, h⟩ := framed_inj (fits_kind _) (fits_kind _) (List.append_cancel_left h)
  obtain ⟨hworker, h⟩ := framedId_inj h
  obtain ⟨htask, h⟩ := framedId_inj h
  obtain ⟨horigin, h⟩ := framedId_inj h
  obtain ⟨hnumber, hrest⟩ := framedNat_inj hn hn' h
  obtain ⟨kind, ⟨worker⟩, ⟨task⟩, ⟨⟨origin⟩, number⟩, horiginTask⟩ := hold
  obtain ⟨kind', ⟨worker'⟩, ⟨task'⟩, ⟨⟨origin'⟩, number'⟩, horiginTask'⟩ := hold'
  cases kindValue_inj hkind
  cases hworker
  cases htask
  cases horigin
  cases hnumber
  exact ⟨rfl, hrest⟩

theorem contained_ne_taskHold {hold : ContainedReferenceHold} :
    feedOriginal (.contained hold) ++ x ≠ feedOriginal (.taskHold hold') ++ y := by
  intro h
  simp only [feedOriginal, List.append_assoc] at h
  exact tags_differ (s := "contained") (t := "task") (by decide) (by decide) (by decide) h

variable {source : BorrowedContainedSource}

theorem owned_ne_borrowed {owner : WorkerID} :
    feedSource (.owned owner) ++ x ≠ feedSource (.borrowed source) ++ y := by
  intro h
  simp only [feedSource, List.append_assoc] at h
  exact tags_differ (s := "owned") (t := "borrowed") (by decide) (by decide) (by decide) h

theorem feedOriginal_inj {o o' : BorrowSource}
    (ho : ∀ hold, o = .contained hold → hold.Framable ∧ Fits (utf8 hold.transferToken))
    (ho' : ∀ hold, o' = .contained hold → hold.Framable ∧ Fits (utf8 hold.transferToken))
    (hn : ∀ hold, o = .taskHold hold → Uint64 hold.originAttemptId.attemptNumber)
    (hn' : ∀ hold, o' = .taskHold hold → Uint64 hold.originAttemptId.attemptNumber)
    (h : feedOriginal o ++ x = feedOriginal o' ++ y) : o = o' ∧ x = y := by
  cases o with
  | contained hold =>
    cases o' with
    | contained hold' =>
      simp only [feedOriginal, List.append_assoc] at h
      have hhold := List.append_cancel_left (List.append_cancel_left h)
      have hsame := feedHold_inj (ho _ rfl).1 (ho' _ rfl).1 (ho _ rfl).2 (ho' _ rfl).2 hhold
      exact hsame.imp_left (congrArg BorrowSource.contained)
    | taskHold => exact absurd h contained_ne_taskHold
  | taskHold hold =>
    cases o' with
    | contained => exact absurd h.symm contained_ne_taskHold
    | taskHold hold' =>
      have hsame := feedTaskHold_inj (hn _ rfl) (hn' _ rfl) h
      exact hsame.imp_left (congrArg BorrowSource.taskHold)

/-- Every number and every text of the source can be framed. -/
structure SourceEncodable (source : BorrowedContainedSource) : Prop where
  token : Fits (utf8 source.borrowerToken)
  contained : ∀ hold, source.originalSource = .contained hold →
    hold.Framable ∧ Fits (utf8 hold.transferToken)
  taskHold : ∀ hold, source.originalSource = .taskHold hold →
    Uint64 hold.originAttemptId.attemptNumber

theorem sourceEncodable (hframable : ContainedPublicationSource.Framable (.borrowed source))
    (htexts : ∀ text ∈ sourceTexts (.borrowed source), Fits (utf8 text)) :
    SourceEncodable source := by
  obtain ⟨borrower, token, original, hne⟩ := source
  cases original with
  | contained hold =>
    refine ⟨htexts _ List.mem_cons_self, ?_, nofun⟩
    intro _ hhold
    cases hhold
    exact ⟨hframable, htexts _ (List.mem_cons_of_mem _ List.mem_cons_self)⟩
  | taskHold hold =>
    refine ⟨htexts _ List.mem_cons_self, nofun, ?_⟩
    intro _ hhold
    cases hhold
    exact hframable

theorem feedSource_inj {s s' : ContainedPublicationSource} (hs : s.Framable) (hs' : s'.Framable)
    (htexts : ∀ text ∈ sourceTexts s, Fits (utf8 text))
    (htexts' : ∀ text ∈ sourceTexts s', Fits (utf8 text))
    (h : feedSource s ++ x = feedSource s' ++ y) : s = s' ∧ x = y := by
  cases s with
  | owned owner =>
    cases s' with
    | owned owner' =>
      simp only [feedSource, List.append_assoc] at h
      obtain ⟨howner, hrest⟩ := framedId_inj (List.append_cancel_left h)
      cases owner
      cases owner'
      cases howner
      exact ⟨rfl, hrest⟩
    | borrowed => exact absurd h owned_ne_borrowed
  | borrowed source =>
    cases s' with
    | owned => exact absurd h.symm owned_ne_borrowed
    | borrowed source' =>
      have hsource := sourceEncodable hs htexts
      have hsource' := sourceEncodable hs' htexts'
      rw [feedSource_borrowed, feedSource_borrowed] at h
      simp only [List.append_assoc] at h
      obtain ⟨hborrower, h⟩ := framedId_inj (List.append_cancel_left h)
      obtain ⟨htoken, h⟩ := framedText_inj hsource.token hsource'.token h
      obtain ⟨horiginal, hrest⟩ := feedOriginal_inj hsource.contained hsource'.contained
        hsource.taskHold hsource'.taskHold h
      obtain ⟨⟨borrower⟩, token, original, hne⟩ := source
      obtain ⟨⟨borrower'⟩, token', original', hne'⟩ := source'
      cases hborrower
      cases htoken
      cases horiginal
      exact ⟨rfl, hrest⟩

/-- The string of a transfer determines it. -/
theorem transferBytes_inj {t t' : PreparedContainedTransfer} (ht : Encodable t)
    (ht' : Encodable t') (h : transferBytes t = transferBytes t') : t = t' := by
  have hnil : transferBytes t ++ [] = transferBytes t' ++ [] := by rw [h]
  simp only [transferBytes, List.append_assoc] at hnil
  have h := List.append_cancel_left (List.append_cancel_left hnil)
  obtain ⟨⟨hobject, hsource, hprovisional, hfinal⟩, htexts⟩ := ht
  obtain ⟨⟨hobject', hsource', hprovisional', hfinal'⟩, htexts'⟩ := ht'
  simp only [transferTexts, List.forall_mem_cons] at htexts htexts'
  have hport : ∀ address : Address, Uint64 address.port := fun address =>
    address.port_bound.2.trans_lt (by decide)
  obtain ⟨hid, h⟩ := feedObject_inj hobject hobject' h
  obtain ⟨howner, h⟩ := framedId_inj h
  obtain ⟨hhost, h⟩ := framedText_inj htexts.1 htexts'.1 h
  obtain ⟨hnumber, h⟩ := framedNat_inj (hport _) (hport _) h
  obtain ⟨hsources, h⟩ := feedSource_inj hsource hsource' htexts.2.2.2 htexts'.2.2.2 h
  obtain ⟨hprovisionals, h⟩ := feedHold_inj hprovisional hprovisional' htexts.2.1 htexts'.2.1 h
  obtain ⟨hfinals, -⟩ := feedHold_inj hfinal hfinal' htexts.2.2.1 htexts'.2.2.1 h
  obtain ⟨object, ⟨owner⟩, ⟨host, port, _, _⟩, source, provisional, final, _, _, _, _⟩ := t
  obtain ⟨object', ⟨owner'⟩, ⟨host', port', _, _⟩, source', provisional', final', _, _, _, _⟩ := t'
  cases hid
  cases howner
  cases hhost
  cases hnumber
  cases hsources
  cases hprovisionals
  cases hfinals
  rfl

theorem transfers_eq_or_collide {ts ts' : List PreparedContainedTransfer}
    (hts : ∀ t ∈ ts, Encodable t) (hts' : ∀ t ∈ ts', Encodable t)
    (h : ts.map preparedContainedTransferFingerprint =
      ts'.map preparedContainedTransferFingerprint) :
    ts = ts' ∨ ∃ t ∈ ts, ∃ t' ∈ ts', Collide (transferBytes t) (transferBytes t') := by
  induction ts generalizing ts' with
  | nil =>
    cases ts' with
    | nil => exact .inl rfl
    | cons => exact absurd h nofun
  | cons t ts ih =>
    cases ts' with
    | nil => exact absurd h nofun
    | cons t' ts' =>
      obtain ⟨hhead, htail⟩ := List.cons.inj h
      rw [List.forall_mem_cons] at hts hts'
      obtain hbytes | hcollide := Framing.eq_or_collide hhead
      · have hsame := transferBytes_inj hts.1 hts'.1 hbytes
        obtain htails | ⟨u, hu, u', hu', hcollide⟩ := ih hts.2 hts'.2 htail
        · exact .inl (by rw [hsame, htails])
        · exact .inr ⟨u, List.mem_cons_of_mem _ hu, u', List.mem_cons_of_mem _ hu', hcollide⟩
      · exact .inr ⟨t, List.mem_cons_self, t', List.mem_cons_self, hcollide⟩

theorem fits_fingerprint (t : PreparedContainedTransfer) :
    Fits (preparedContainedTransferFingerprint t) := by
  refine fits_of_length (n := 32) ?_ (by decide)
  simp [preparedContainedTransferFingerprint, Sha256.digest, Sha256.Words.toList]

theorem fits_fingerprints (ts : List PreparedContainedTransfer) :
    ∀ a ∈ ts.map preparedContainedTransferFingerprint, Fits a := by
  intro a ha
  obtain ⟨t, -, rfl⟩ := List.mem_map.mp ha
  exact fits_fingerprint t

/-! ## Checksums -/

def digit (c : Char) : Nat := if c ≤ '9' then c.toNat - 48 else c.toNat - 87

theorem fromHex_cons (a b : Char) (rest : List Char) :
    fromHex (a :: b :: rest) = UInt8.ofNat (16 * digit a + digit b) :: fromHex rest := rfl

variable {c : Char}

theorem isLowerHexDigit_iff : Sha256.isLowerHexDigit c = true ↔
    48 ≤ c.toNat ∧ c.toNat ≤ 57 ∨ 97 ≤ c.toNat ∧ c.toNat ≤ 102 := by
  unfold Sha256.isLowerHexDigit
  rw [Bool.or_eq_true, Bool.and_eq_true, Bool.and_eq_true, decide_eq_true_iff, decide_eq_true_iff,
    decide_eq_true_iff, decide_eq_true_iff]
  exact Iff.rfl

theorem digit_eq (h : Sha256.isLowerHexDigit c = true) :
    c.toNat ≤ 57 ∧ c.toNat = digit c + 48 ∨ 97 ≤ c.toNat ∧ c.toNat = digit c + 87 := by
  have hrange := isLowerHexDigit_iff.mp h
  unfold digit
  by_cases hle : c ≤ '9'
  · have hnum : c.toNat ≤ 57 := hle
    rw [if_pos hle]
    omega
  · have hnum : ¬c.toNat ≤ 57 := hle
    rw [if_neg hle]
    omega

theorem digit_lt (h : Sha256.isLowerHexDigit c = true) : digit c < 16 := by
  have hrange := isLowerHexDigit_iff.mp h
  have hdigit := digit_eq h
  omega

theorem digit_inj {d : Char} (hc : Sha256.isLowerHexDigit c = true)
    (hd : Sha256.isLowerHexDigit d = true) (h : digit c = digit d) : c = d := by
  have hcd := digit_eq hc
  have hdd := digit_eq hd
  have hclt := digit_lt hc
  have hdlt := digit_lt hd
  have hcrange := isLowerHexDigit_iff.mp hc
  have hdrange := isLowerHexDigit_iff.mp hd
  have hnum : c.toNat = d.toNat := by omega
  exact Char.toNat_inj.mp hnum

theorem fromHex_inj : ∀ {n : Nat} {cs ds : List Char}, cs.length = 2 * n → ds.length = 2 * n →
    (∀ c ∈ cs, Sha256.isLowerHexDigit c = true) → (∀ d ∈ ds, Sha256.isLowerHexDigit d = true) →
      fromHex cs = fromHex ds → cs = ds
  | 0, cs, ds, hcs, hds, _, _, _ => by
      rw [List.length_eq_zero_iff.mp hcs, List.length_eq_zero_iff.mp hds]
  | n + 1, cs, ds, hcs, hds, hlower, hlower', h => by
      match cs, ds with
      | a :: b :: cs, a' :: b' :: ds =>
        simp only [List.forall_mem_cons] at hlower hlower'
        obtain ⟨ha, hb, hrest⟩ := hlower
        obtain ⟨ha', hb', hrest'⟩ := hlower'
        rw [fromHex_cons, fromHex_cons] at h
        obtain ⟨hbyte, htail⟩ := List.cons.inj h
        have hnum := congrArg UInt8.toNat hbyte
        rw [UInt8.toNat_ofNat', UInt8.toNat_ofNat'] at hnum
        have hbounds := And.intro (digit_lt ha) (digit_lt hb)
        have hbounds' := And.intro (digit_lt ha') (digit_lt hb')
        have hfirst : digit a = digit a' := by omega
        have hsecond : digit b = digit b' := by omega
        have hlength : cs.length = 2 * n := by
          rw [List.length_cons, List.length_cons] at hcs
          omega
        have hlength' : ds.length = 2 * n := by
          rw [List.length_cons, List.length_cons] at hds
          omega
        have hlist := fromHex_inj hlength hlength' hrest hrest' htail
        rw [digit_inj ha ha' hfirst, digit_inj hb hb' hsecond, hlist]
      | [], _ => simp at hcs
      | [_], _ => simp at hcs; omega
      | _, [] => simp at hds
      | _, [_] => simp at hds; omega

theorem length_fromHex : ∀ {n : Nat} {cs : List Char}, cs.length = 2 * n →
    (fromHex cs).length = n
  | 0, cs, h => by
      rw [List.length_eq_zero_iff.mp h]
      rfl
  | n + 1, cs, h => by
      match cs with
      | a :: b :: cs =>
        have hrest : cs.length = 2 * n := by
          rw [List.length_cons, List.length_cons] at h
          omega
        rw [fromHex_cons, List.length_cons, length_fromHex hrest]
      | [] => simp at h
      | [_] => simp at h; omega

theorem checksum_inj (hs : Sha256.IsLowerHexDigest s) (ht : Sha256.IsLowerHexDigest t)
    (h : fromHex s.toList = fromHex t.toList) : s = t :=
  String.toList_inj.mp <| fromHex_inj (n := 32) hs.1 ht.1 (List.all_eq_true.mp hs.2)
    (List.all_eq_true.mp ht.2) h

theorem fits_checksum (hs : Sha256.IsLowerHexDigest s) : Fits (fromHex s.toList) :=
  fits_of_length (length_fromHex (n := 32) hs.1) (by decide)

/-! ## Slots -/

/-- The digest of a manifest with this slot does not raise. -/
def SlotEncodable (slot : OutputSlotManifest) : Prop :=
  Uint64 slot.objectId.returnIndex ∧ Uint64 slot.transfers.length ∧
    ∀ t ∈ slot.transfers, Encodable t

/-- Two slots that differ in nothing but transfers of equal fingerprints. -/
structure SameSlot (slot slot' : OutputSlotManifest) : Prop where
  object : slot.objectId = slot'.objectId
  tier : slot.tier = slot'.tier
  size : slot.sizeBytes = slot'.sizeBytes
  checksum : slot.checksum = slot'.checksum
  fingerprints : slot.transfers.map preparedContainedTransferFingerprint =
    slot'.transfers.map preparedContainedTransferFingerprint

variable {slot slot' : OutputSlotManifest}

theorem feedSlot_inj (hslot : SlotEncodable slot) (hslot' : SlotEncodable slot')
    (h : feedSlot slot ++ x = feedSlot slot' ++ y) : SameSlot slot slot' ∧ x = y := by
  simp only [feedSlot, List.append_assoc] at h
  obtain ⟨hobject, h⟩ := feedObject_inj hslot.1 hslot'.1 h
  obtain ⟨htier, h⟩ := framed_inj (fits_tier _) (fits_tier _) h
  obtain ⟨hsize, h⟩ := framedNat_inj slot.size_uint slot'.size_uint h
  obtain ⟨hchecksum, h⟩ := framed_inj (fits_checksum slot.checksum_hex)
    (fits_checksum slot'.checksum_hex) h
  obtain ⟨hcount, h⟩ := framedNat_inj hslot.2.1 hslot'.2.1 h
  have hframes : ∀ ts : List PreparedContainedTransfer,
      (ts.flatMap fun t => framed (preparedContainedTransferFingerprint t)) =
        (ts.map preparedContainedTransferFingerprint).flatMap Framing.frame := by
    intro ts
    rw [List.flatMap_map]
    rfl
  rw [hframes, hframes] at h
  obtain ⟨hprints, hrest⟩ := Framing.flatMap_frame_append_inj (fits_fingerprints _)
    (fits_fingerprints _) (by rw [List.length_map, List.length_map, hcount]) h
  have hsum := checksum_inj slot.checksum_hex slot'.checksum_hex hchecksum
  exact ⟨⟨hobject, tierValue_inj htier, hsize, hsum, hprints⟩, hrest⟩

theorem SameSlot.eq_or_collide (h : SameSlot slot slot') (hslot : SlotEncodable slot)
    (hslot' : SlotEncodable slot') :
    slot = slot' ∨ ∃ t ∈ slot.transfers, ∃ t' ∈ slot'.transfers,
      Collide (transferBytes t) (transferBytes t') := by
  obtain htransfers | hcollide := transfers_eq_or_collide hslot.2.2 hslot'.2.2 h.fingerprints
  · left
    obtain ⟨hobject, htier, hsize, hchecksum, -⟩ := h
    cases slot
    cases slot'
    cases hobject
    cases htier
    cases hsize
    cases hchecksum
    cases htransfers
    rfl
  · exact .inr hcollide

/-- The transfers of two lists of slots, two of which the hash does not tell apart. -/
def TransfersCollide (slots slots' : List OutputSlotManifest) : Prop :=
  ∃ slot ∈ slots, ∃ slot' ∈ slots', ∃ t ∈ slot.transfers, ∃ t' ∈ slot'.transfers,
    Collide (transferBytes t) (transferBytes t')

variable {slots slots' : List OutputSlotManifest}

theorem slots_inj (hslots : ∀ slot ∈ slots, SlotEncodable slot)
    (hslots' : ∀ slot ∈ slots', SlotEncodable slot) (hcount : slots.length = slots'.length)
    (h : slots.flatMap feedSlot = slots'.flatMap feedSlot) :
    slots = slots' ∨ TransfersCollide slots slots' := by
  induction slots generalizing slots' with
  | nil => exact .inl (List.length_eq_zero_iff.mp hcount.symm).symm
  | cons slot slots ih =>
    cases slots' with
    | nil => exact nomatch hcount
    | cons slot' slots' =>
      rw [List.forall_mem_cons] at hslots hslots'
      rw [List.flatMap_cons, List.flatMap_cons] at h
      obtain ⟨hsame, hrest⟩ := feedSlot_inj hslots.1 hslots'.1 h
      obtain hslot | ⟨t, ht, t', ht', hcollide⟩ := hsame.eq_or_collide hslots.1 hslots'.1
      · obtain htails | ⟨s, hs, s', hs', hcollide⟩ :=
          ih hslots.2 hslots'.2 (Nat.succ.inj hcount) hrest
        · exact .inl (by rw [hslot, htails])
        · exact .inr ⟨s, List.mem_cons_of_mem _ hs, s', List.mem_cons_of_mem _ hs', hcollide⟩
      · exact .inr ⟨slot, List.mem_cons_self, slot', List.mem_cons_self, t, ht, t', ht', hcollide⟩

/-! ## Manifests -/

theorem feedPublication_inj {p p' : OutputPublicationID}
    (h : feedPublication p ++ x = feedPublication p' ++ y) : p = p' ∧ x = y := by
  simp only [feedPublication, List.append_assoc] at h
  obtain ⟨hlease, h⟩ := framedId_inj h
  obtain ⟨htask, h⟩ := framedId_inj h
  obtain ⟨hattempt, h⟩ := framedNat_inj p.attempt_uint p'.attempt_uint h
  have hzero : ∀ q : OutputPublicationID, Uint64 q.output.returnIndex := fun q => by
    change Uint64 0
    decide
  obtain ⟨-, hrest⟩ := feedObject_inj (hzero p) (hzero p') h
  obtain ⟨⟨lease⟩, ⟨⟨⟨task⟩, outputs, hsingle⟩, ⟨attemptTask, number⟩, hown⟩, _⟩ := p
  obtain ⟨⟨lease'⟩, ⟨⟨⟨task'⟩, outputs', hsingle'⟩, ⟨attemptTask', number'⟩, hown'⟩, _⟩ := p'
  cases hlease
  cases htask
  cases hattempt
  cases hsingle
  cases hsingle'
  cases hown
  cases hown'
  exact ⟨rfl, hrest⟩

/-- `_manifest_digest` does not raise. -/
def ManifestEncodable (slots : List OutputSlotManifest) : Prop :=
  Uint64 slots.length ∧ ∀ slot ∈ slots, SlotEncodable slot

theorem manifestBytes_inj {header header' : OutputPublicationHeader}
    (hslots : ManifestEncodable slots) (hslots' : ManifestEncodable slots')
    (h : manifestBytes header slots = manifestBytes header' slots') :
    header = header' ∧ (slots = slots' ∨ TransfersCollide slots slots') := by
  simp only [manifestBytes, List.append_assoc] at h
  obtain ⟨hid, h⟩ := feedPublication_inj (List.append_cancel_left (List.append_cancel_left h))
  obtain ⟨hjob, h⟩ := framedId_inj h
  obtain ⟨hexecutor, h⟩ := framedId_inj h
  obtain ⟨howner, h⟩ := framedId_inj h
  obtain ⟨hnode, h⟩ := framedId_inj h
  obtain ⟨hpid, h⟩ := framedNat_inj header.node_uint.1 header'.node_uint.1 h
  obtain ⟨hepoch, h⟩ := framedNat_inj header.node_uint.2 header'.node_uint.2 h
  obtain ⟨hcount, h⟩ := framedNat_inj hslots.1 hslots'.1 h
  refine ⟨?_, slots_inj hslots.2 hslots'.2 hcount h⟩
  obtain ⟨id, ⟨job⟩, ⟨executor⟩, ⟨owner⟩, ⟨⟨node⟩, pid, epoch, _⟩, _⟩ := header
  obtain ⟨id', ⟨job'⟩, ⟨executor'⟩, ⟨owner'⟩, ⟨⟨node'⟩, pid', epoch', _⟩, _⟩ := header'
  cases hid
  cases hjob
  cases hexecutor
  cases howner
  cases hnode
  cases hpid
  cases hepoch
  rfl

/-! ## Puts -/

/-- The reference of the put does not raise. -/
def PutEncodable (p : PutPublication) : Prop :=
  (∀ part ∈ p.parts, Fits part) ∧ ∀ t ∈ p.manifest.transfers, Encodable t

theorem putBytes_inj {p p' : PutPublication} (hp : PutEncodable p) (hp' : PutEncodable p')
    (h : putBytes p = putBytes p') :
    p = p' ∨ ∃ t ∈ p.manifest.transfers, ∃ t' ∈ p'.manifest.transfers,
      Collide (transferBytes t) (transferBytes t') := by
  have hparts : p.parts = p'.parts :=
    Framing.flatMap_frame_inj hp.1 hp'.1 (List.append_cancel_left h)
  simp only [PutPublication.parts, List.cons_append, List.nil_append, List.cons.injEq] at hparts
  obtain ⟨hjob, howner, htask, hindex, hhost, hport, htier, hsize, hchecksum, hprints⟩ := hparts
  obtain htransfers | hcollide := transfers_eq_or_collide hp.2 hp'.2 hprints
  · left
    have hjobs := OpaqueValue.bytes_inj hjob
    have howners := OpaqueValue.bytes_inj howner
    have htasks := OpaqueValue.bytes_inj htask
    have hindices := Framing.repr_inj (Framing.toUTF8_inj hindex)
    have hhosts := Framing.toUTF8_inj hhost
    have hports := Framing.repr_inj (Framing.toUTF8_inj hport)
    have hsizes := Framing.repr_inj (Framing.toUTF8_inj hsize)
    have hchecksums := Framing.toUTF8_inj hchecksum
    have htiers := tierValue_inj htier
    obtain ⟨⟨job⟩, ⟨host, port, _, _⟩, ⟨⟨⟨task⟩, index⟩, ⟨owner⟩, tier, size, sum, ts, _, _, _, _,
      _, _⟩⟩ := p
    obtain ⟨⟨job'⟩, ⟨host', port', _, _⟩, ⟨⟨⟨task'⟩, index'⟩, ⟨owner'⟩, tier', size', sum', ts', _,
      _, _, _, _, _⟩⟩ := p'
    cases hjobs
    cases howners
    cases htasks
    cases hindices
    cases hhosts
    cases hports
    cases hsizes
    cases hchecksums
    cases htiers
    cases htransfers
    rfl
  · exact .inr hcollide

/-! ## The encodings -/

/-- What the hashed strings and their digests say; a collision is always one of the hash. -/
structure PublicationEncodingSpec : Prop where
  transfers : ∀ {t t' : PreparedContainedTransfer}, Encodable t → Encodable t' →
    transferBytes t = transferBytes t' → t = t'
  fingerprints : ∀ {t t' : PreparedContainedTransfer}, Encodable t → Encodable t' →
    preparedContainedTransferFingerprint t = preparedContainedTransferFingerprint t' →
      t = t' ∨ Collide (transferBytes t) (transferBytes t')
  manifests : ∀ {header header' : OutputPublicationHeader} {slots slots' : List OutputSlotManifest},
    ManifestEncodable slots → ManifestEncodable slots' →
      manifestBytes header slots = manifestBytes header' slots' →
        header = header' ∧ (slots = slots' ∨ TransfersCollide slots slots')
  digests : ∀ {m m' : OutputPublicationManifest}, ManifestEncodable m.slots →
    ManifestEncodable m'.slots → m.manifestDigest = m'.manifestDigest →
      m = m' ∨ Collide (manifestBytes m.header m.slots) (manifestBytes m'.header m'.slots) ∨
        TransfersCollide m.slots m'.slots
  puts : ∀ {p p' : PutPublication}, PutEncodable p → PutEncodable p' →
    p.reference.digest = p'.reference.digest →
      p = p' ∨ Collide (putBytes p) (putBytes p') ∨ ∃ t ∈ p.manifest.transfers,
        ∃ t' ∈ p'.manifest.transfers, Collide (transferBytes t) (transferBytes t')

theorem publicationEncodingSpec : PublicationEncodingSpec where
  transfers := transferBytes_inj
  fingerprints ht ht' h := (Framing.eq_or_collide h).imp_left (transferBytes_inj ht ht')
  manifests := manifestBytes_inj
  digests {m m'} hm hm' h := by
    rw [m.digest_eq, m'.digest_eq, manifestDigest_eq, manifestDigest_eq] at h
    obtain hbytes | hcollide := Framing.eq_or_collide (Framing.digest_of_hexdigest h)
    · obtain ⟨hheader, hslots | hcollide⟩ := manifestBytes_inj hm hm' hbytes
      · left
        obtain ⟨header, slots, digest, _, hdigest⟩ := m
        obtain ⟨header', slots', digest', _, hdigest'⟩ := m'
        cases hheader
        cases hslots
        cases hdigest
        cases hdigest'
        rfl
      · exact .inr (.inr hcollide)
    · exact .inr (.inl hcollide)
  puts {p p'} hp hp' h := by
    rw [reference_digest_eq, reference_digest_eq] at h
    obtain hbytes | hcollide := Framing.eq_or_collide (Framing.digest_of_hexdigest h)
    · exact (putBytes_inj hp hp' hbytes).imp_right .inr
    · exact .inr (.inl hcollide)

end PublicationEncoding

end MiniRay
