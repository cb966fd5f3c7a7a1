import MiniRay.OutputHandoff
import MiniRay.PutHandoff
import Mathlib.Data.List.Nodup
import Mathlib.Data.List.Pairwise

/-! Each transfer stands for two holds of its child. A discard settles holds, not transfers, so two
obligations of one value are one. -/

namespace MiniRay

abbrev ContainedObligation := ObjectID × WorkerID × ContainedReferenceHold

namespace PreparedContainedTransfer

def finalObligation (t : PreparedContainedTransfer) : ContainedObligation :=
  (t.containedObjectId, t.containedOwnerWorkerId, t.finalHold)

def provisionalObligation (t : PreparedContainedTransfer) : ContainedObligation :=
  (t.containedObjectId, t.containedOwnerWorkerId, t.provisionalHold)

def obligations (transfers : List PreparedContainedTransfer) : List ContainedObligation :=
  transfers.flatMap fun t => [t.finalObligation, t.provisionalObligation]

/-- The final token of the second transfer reads as the provisional token of the first. -/
def Shadows (t t' : PreparedContainedTransfer) : Prop :=
  t.containedObjectId = t'.containedObjectId ∧
    t'.finalHold.transferToken = "provisional:" ++ t.finalHold.transferToken

theorem finalHold_eq {t t' : PreparedContainedTransfer} (h : t.provisionalHold = t'.provisionalHold)
    (howner : t.finalHold.containerOwnerWorkerId = t'.finalHold.containerOwnerWorkerId) :
    t.finalHold = t'.finalHold := by
  have hcontainer : t.finalHold.containerObjectId = t'.finalHold.containerObjectId := by
    rw [← t.share_outer, ← t'.share_outer, h]
  have htoken : t.finalHold.transferToken = t'.finalHold.transferToken := by
    have hnames : t.provisionalHold.transferToken = t'.provisionalHold.transferToken := by rw [h]
    rw [t.token_namespace, t'.token_namespace, h, howner] at hnames
    by_cases hsame : t'.provisionalHold.containerOwnerWorkerId =
        t'.finalHold.containerOwnerWorkerId
    · rw [if_pos hsame, if_pos hsame] at hnames
      have hchars := congrArg String.toList hnames
      rw [String.toList_append, String.toList_append, List.append_cancel_left_eq] at hchars
      exact String.toList_inj.mp hchars
    · rwa [if_neg hsame, if_neg hsame] at hnames
  cases hp : t.finalHold
  cases hq : t'.finalHold
  simp only [hp, hq] at hcontainer howner htoken
  cases hcontainer
  cases howner
  cases htoken
  rfl

variable {ts : List PreparedContainedTransfer}

/-- The obligations of distinct final holds are distinct unless custody is mixed up. -/
theorem obligations_nodup_iff (hkeys : (ts.map fun t => (t.containedObjectId, t.finalHold)).Nodup) :
    (obligations ts).Nodup ↔ ∀ t ∈ ts, ∀ t' ∈ ts, t.containedObjectId = t'.containedObjectId →
      t.containedOwnerWorkerId = t'.containedOwnerWorkerId → t.provisionalHold ≠ t'.finalHold ∧
        (t.finalHold.containerOwnerWorkerId ≠ t'.finalHold.containerOwnerWorkerId →
          t.provisionalHold ≠ t'.provisionalHold) := by
  unfold obligations
  rw [List.nodup_flatMap]
  constructor
  · rintro ⟨-, hpairs⟩ t ht t' ht' hobject howner
    have hsymm : Std.Symm (Function.onFun List.Disjoint fun t : PreparedContainedTransfer =>
        [t.finalObligation, t.provisionalObligation]) := ⟨fun _ _ hab _ ha hb =>
          hab hb ha⟩
    have hapart : t ≠ t' → List.Disjoint [t.finalObligation, t.provisionalObligation]
        [t'.finalObligation, t'.provisionalObligation] := hpairs.forall ht ht'
    constructor
    · intro hsame
      by_cases heq : t = t'
      · exact t.custody_change (heq ▸ hsame)
      have hvalue : t.provisionalObligation = t'.finalObligation := by
        rw [provisionalObligation, finalObligation, hobject, howner, hsame]
      exact hapart heq (by simp) (a := t.provisionalObligation) (by simp [hvalue])
    · intro hfinal hsame
      have heq : t ≠ t' := fun heq => hfinal (by rw [heq])
      have hvalue : t.provisionalObligation = t'.provisionalObligation := by
        rw [provisionalObligation, provisionalObligation, hobject, howner, hsame]
      exact hapart heq (by simp) (a := t.provisionalObligation) (by simp [hvalue])
  · intro hdistinct
    constructor
    · intro t _
      have hne : t.finalObligation ≠ t.provisionalObligation := fun heq =>
        t.custody_change (Prod.ext_iff.mp (Prod.ext_iff.mp heq).2).2.symm
      simpa using hne
    · have hpairs := List.pairwise_map.mp hkeys
      refine hpairs.imp_of_mem ?_
      intro t t' ht ht' hkey
      have hfinal : t.finalObligation ≠ t'.finalObligation := by
        intro heq
        simp only [finalObligation, Prod.mk.injEq] at heq
        exact hkey (Prod.ext heq.1 heq.2.2)
      have hcross : t.finalObligation ≠ t'.provisionalObligation := by
        intro heq
        simp only [finalObligation, provisionalObligation, Prod.mk.injEq] at heq
        exact (hdistinct t' ht' t ht heq.1.symm heq.2.1.symm).1 heq.2.2.symm
      have hcross' : t.provisionalObligation ≠ t'.finalObligation := by
        intro heq
        simp only [finalObligation, provisionalObligation, Prod.mk.injEq] at heq
        exact (hdistinct t ht t' ht' heq.1 heq.2.1).1 heq.2.2
      have hprovisional : t.provisionalObligation ≠ t'.provisionalObligation := by
        intro heq
        simp only [provisionalObligation, Prod.mk.injEq] at heq
        by_cases howner :
            t.finalHold.containerOwnerWorkerId = t'.finalHold.containerOwnerWorkerId
        · exact hkey (Prod.ext heq.1 (finalHold_eq heq.2.2 howner))
        · exact (hdistinct t ht t' ht' heq.1 heq.2.1).2 howner heq.2.2
      simp [hfinal.symm, hcross.symm, hcross'.symm, hprovisional.symm]

theorem obligations_nodup_of_custody {outer : ObjectID} {executor owner : WorkerID}
    (hkeys : (ts.map fun t => (t.containedObjectId, t.finalHold)).Nodup)
    (hcontainer : ∀ t ∈ ts, t.finalHold.containerObjectId = outer)
    (hexecutor : ∀ t ∈ ts, t.provisionalHold.containerOwnerWorkerId = executor)
    (howner : ∀ t ∈ ts, t.finalHold.containerOwnerWorkerId = owner)
    (hchild : ∀ t ∈ ts, ∀ t' ∈ ts, t.containedObjectId = t'.containedObjectId →
      t.containedOwnerWorkerId = t'.containedOwnerWorkerId) :
    (obligations ts).Nodup ↔ executor = owner → ∀ t ∈ ts, ∀ t' ∈ ts, ¬t.Shadows t' := by
  rw [obligations_nodup_iff hkeys]
  constructor
  · rintro h hsame t ht t' ht' ⟨hobject, htoken⟩
    refine (h t ht t' ht' hobject (hchild t ht t' ht' hobject)).1 ?_
    have hcontainers : t.provisionalHold.containerObjectId = t'.finalHold.containerObjectId := by
      rw [t.share_outer, hcontainer t ht, hcontainer t' ht']
    have howners : t.provisionalHold.containerOwnerWorkerId =
        t'.finalHold.containerOwnerWorkerId := by
      rw [hexecutor t ht, howner t' ht', hsame]
    have htokens : t.provisionalHold.transferToken = t'.finalHold.transferToken := by
      rw [t.token_namespace, if_pos (by rw [hexecutor t ht, howner t ht, hsame]), htoken]
    cases hp : t.provisionalHold
    cases hq : t'.finalHold
    simp only [hp, hq] at hcontainers howners htokens
    cases hcontainers
    cases howners
    cases htokens
    rfl
  · intro h t ht t' ht' hobject _
    refine ⟨?_, fun hne => absurd ((howner t ht).trans (howner t' ht').symm) hne⟩
    intro hsame
    have howners : executor = owner := by
      rw [← hexecutor t ht, ← howner t' ht', hsame]
    refine h howners t ht t' ht' ⟨hobject, ?_⟩
    rw [← hsame, t.token_namespace, if_pos (by rw [hexecutor t ht, howner t ht, howners])]

end PreparedContainedTransfer

open PreparedContainedTransfer

theorem expected_eq_obligations (m : OutputPublicationManifest) :
    NodeLostOutputResolution.expected m = obligations m.slot.transfers := rfl

/-- Which manifests have pairwise distinct obligations. -/
structure ContainedObligationsSpec (slot : OutputSlotManifest) (m : OutputPublicationManifest)
    (p : PutManifest) : Prop where
  slot : (obligations slot.transfers).Nodup ↔ ∀ t ∈ slot.transfers, ∀ t' ∈ slot.transfers,
    t.containedObjectId = t'.containedObjectId →
      t.containedOwnerWorkerId = t'.containedOwnerWorkerId → t.provisionalHold ≠ t'.finalHold ∧
        (t.finalHold.containerOwnerWorkerId ≠ t'.finalHold.containerOwnerWorkerId →
          t.provisionalHold ≠ t'.provisionalHold)
  manifest : (NodeLostOutputResolution.expected m).Nodup ↔
    m.header.executorWorkerId = m.header.ownerWorkerId →
      ∀ t ∈ m.slot.transfers, ∀ t' ∈ m.slot.transfers, ¬t.Shadows t'
  put : (obligations p.transfers).Nodup ↔
    ∀ t ∈ p.transfers, ∀ t' ∈ p.transfers, ¬t.Shadows t'

theorem containedObligationsSpec (slot : OutputSlotManifest) (m : OutputPublicationManifest)
    (p : PutManifest) : ContainedObligationsSpec slot m p where
  slot := obligations_nodup_iff slot.hold_keys
  manifest := by
    have hmem : m.slot ∈ m.slots := by
      rw [m.slots_eq]
      exact List.mem_singleton_self _
    have hcustody := m.inputs.custody m.slot hmem
    have hflat : m.slots.flatMap OutputSlotManifest.transfers = m.slot.transfers := by
      rw [m.slots_eq]
      simp
    have howners := m.inputs.child_owners
    rw [hflat] at howners
    rw [expected_eq_obligations]
    refine obligations_nodup_of_custody m.slot.hold_keys m.slot.own_transfers
      (fun t ht => (hcustody t ht).1) (fun t ht => (hcustody t ht).2.1) ?_
    intro t ht t' ht' hobject
    exact howners _ (List.mem_map_of_mem ht) _ (List.mem_map_of_mem ht') hobject
  put := by
    have hkeys : (p.transfers.map fun t => (t.containedObjectId, t.finalHold)).Nodup := by
      refine List.Nodup.of_map Prod.snd ?_
      rw [List.map_map]
      exact p.final_holds
    have hholds : ∀ t ∈ p.transfers, ∀ hold ∈ [t.provisionalHold, t.finalHold],
        hold.containerObjectId = p.objectId ∧ hold.containerOwnerWorkerId = p.ownerWorkerId :=
      fun t ht => (p.own_transfers t ht).1
    have hiff := obligations_nodup_of_custody hkeys (fun t ht => (hholds t ht _ (by simp)).1)
      (fun t ht => (hholds t ht t.provisionalHold (by simp)).2)
      (fun t ht => (hholds t ht t.finalHold (by simp)).2) fun t ht t' ht' hobject => by
        have hroute := p.child_routes _ (List.mem_map_of_mem ht) _ (List.mem_map_of_mem ht') hobject
        exact congrArg Prod.fst hroute
    exact hiff.trans ⟨fun h => h rfl, fun h _ => h⟩

/-! ## Two transfers with three holds -/

namespace Sample

/-- A child of the executor itself, which is the owner of the output. -/
def ownedTransfer (token : String) (h : token ≠ "") (h' : "provisional:" ++ token ≠ "") :
    PreparedContainedTransfer where
  containedObjectId := ⟨⟨9⟩, 0⟩
  containedOwnerWorkerId := ⟨3⟩
  containedOwnerAddress := default
  source := .owned ⟨3⟩
  provisionalHold := ⟨⟨⟨1⟩, 0⟩, ⟨3⟩, "provisional:" ++ token, h'⟩
  finalHold := ⟨⟨⟨1⟩, 0⟩, ⟨3⟩, token, h⟩
  owned_source := PreparedContainedTransfer.sample.owned_source
  share_outer := rfl
  custody_change := fun hsame => by
    have htoken := congrArg (fun hold => hold.transferToken.length) hsame
    simp at htoken
  token_namespace := rfl

def shadowed : PreparedContainedTransfer := ownedTransfer "t" (by decide) (by decide)

def shadowing : PreparedContainedTransfer := ownedTransfer "provisional:t" (by decide) (by decide)

theorem framable_owned {token : String} {h : token ≠ ""} {h' : "provisional:" ++ token ≠ ""} :
    (ownedTransfer token h h').Framable := by
  refine ⟨?_, trivial, ?_, ?_⟩ <;> exact Nat.zero_lt_of_lt (Nat.lt_succ_self _)

theorem finalHold_ne : shadowed.finalHold ≠ shadowing.finalHold := fun h =>
  absurd (congrArg ContainedReferenceHold.transferToken h) (by decide)

def emptyChecksum : String := Sha256.hexdigest []

def shadowedSlot : OutputSlotManifest where
  objectId := ⟨⟨1⟩, 0⟩
  tier := .inline
  sizeBytes := 0
  checksum := emptyChecksum
  transfers := [shadowed, shadowing]
  size_uint := by decide
  checksum_hex := emptyChecksum_hex
  framable := by
    intro t ht
    simp only [List.mem_cons, List.not_mem_nil, or_false] at ht
    obtain rfl | rfl := ht <;> exact framable_owned
  own_transfers := by
    intro t ht
    simp only [List.mem_cons, List.not_mem_nil, or_false] at ht
    obtain rfl | rfl := ht <;> rfl
  hold_keys := by
    simp [finalHold_ne]

def ownHeader : OutputPublicationHeader := { OutputPublicationHeader.sample with ownerWorkerId :=
    ⟨3⟩ }

def shadowedManifest : OutputPublicationManifest :=
  .create ownHeader [shadowedSlot]
    { slot_ids := rfl
      custody := by
        intro slot hslot t ht
        obtain rfl := List.mem_singleton.mp hslot
        simp only [shadowedSlot, List.mem_cons, List.not_mem_nil, or_false] at ht
        obtain rfl | rfl := ht <;> exact ⟨rfl, rfl, rfl⟩
      child_owners := by
        intro a ha b hb _
        simp only [shadowedSlot, List.flatMap_cons, List.flatMap_nil, List.append_nil,
          List.map_cons,
          List.map_nil, List.mem_cons, List.not_mem_nil, or_false] at ha hb
        obtain rfl | rfl := ha <;> obtain rfl | rfl := hb <;> rfl }

end Sample

/-- The provisional hold of the first transfer is the final hold of the second. -/
theorem shadowed_obligations_repeat : ∃ m : OutputPublicationManifest,
    ¬(NodeLostOutputResolution.expected m).Nodup := by
  refine ⟨Sample.shadowedManifest, fun hnodup => ?_⟩
  have hexpected : NodeLostOutputResolution.expected Sample.shadowedManifest =
      [Sample.shadowed.finalObligation, Sample.shadowed.provisionalObligation,
        Sample.shadowing.finalObligation, Sample.shadowing.provisionalObligation] := rfl
  have hsame : Sample.shadowed.provisionalObligation = Sample.shadowing.finalObligation := rfl
  rw [hexpected, hsame] at hnodup
  simp at hnodup

end MiniRay
