import MiniRay.Lease.Dependencies

/-! Every call that changes the entry of a lease takes one of a few steps, and each step keeps what
the entry has witnessed. -/

namespace MiniRay

open Checked

/-! ## Steps of an entry -/

/-- The calls that drop a candidate, move the cursor, or do neither. -/
inductive EntryEvent
  | kept
  | discarded (descriptor : ObjectStoreDescriptor)
  | scanned

namespace DependencyEntry

/-- What a call that returned did to the entry of its lease. -/
inductive Step (nodeId : NodeID) : EntryEvent → DependencyEntry → DependencyEntry → Prop
  | same {e : DependencyEntry} : Step nodeId .kept e e
  | begun {e : DependencyEntry} {d : ObjectStoreDescriptor}
      (expected : d ∈ e.request.expected nodeId) (unsettled : e.settled = false) :
      Step nodeId .kept e { e with pending := e.pending.set d.objectId d }
  | discarded {e : DependencyEntry} {d : ObjectStoreDescriptor}
      (candidate : e.pending.get? d.objectId = some d) :
      Step nodeId (.discarded d) e { e with pending := e.pending.erase d.objectId }
  | witnessed {e : DependencyEntry} {d : ObjectStoreDescriptor}
      (expected : d ∈ e.request.expected nodeId)
      (known : e.descriptors.get? d.objectId = some d) :
      Step nodeId .kept e { e with pending := e.pending.erase d.objectId }
  | recorded {e : DependencyEntry} {d : ObjectStoreDescriptor}
      (expected : d ∈ e.request.expected nodeId) (unsettled : e.settled = false)
      (unknown : e.descriptors.get? d.objectId = none) :
      Step nodeId .kept e { e with
        descriptors := e.descriptors.set d.objectId d
        pending := e.pending.erase d.objectId }
  | acknowledged {e : DependencyEntry} {inventory : LeaseDependencyInventory}
      (clean : e.pending.items = []) :
      Step nodeId .kept e { e with acknowledged := some inventory }
  | abandoned {e : DependencyEntry} {death : WorkerDeathRecord} :
      Step nodeId .kept e { e with submitterDeath := some death }
  | scanned {e : DependencyEntry} {cursor : Nat} :
      Step nodeId .scanned e { e with handoffCursor := cursor }
  | receipted {e : DependencyEntry} {o : ObjectID} {receipt : AbandonedReceipt} :
      Step nodeId .kept e { e with ownerReceipts := e.ownerReceipts.setDefault o receipt }
  | completed {e : DependencyEntry} (clean : e.pending.items = []) :
      Step nodeId .kept e { e with abandonedComplete := true }

variable {nodeId : NodeID} {e e' : DependencyEntry} {event : EntryEvent}

theorem checked_spec {descriptor : ObjectStoreDescriptor} {u : Unit}
    (h : e.checked nodeId descriptor = .ok u) : descriptor ∈ e.request.expected nodeId := by
  simp only [checked, bind_eq_ok, mapError_eq_ok] at h
  obtain ⟨inventory, hmake, _⟩ := h
  obtain ⟨hrequest, hnode, hdescriptors⟩ := LeaseDependencyInventory.make_spec hmake
  have hsubset := inventory.subset.subset
  rw [hrequest, hnode, hdescriptors] at hsubset
  exact hsubset (by simp)

variable {d : ObjectStoreDescriptor}

theorem begin_step (h : e.begin_ nodeId d = .ok e') :
    Step nodeId .kept e e' ∧ (e'.pending.get? d.objectId = some d ∨
      e'.descriptors.get? d.objectId = some d) := by
  simp only [begin_, bind_eq_ok] at h
  obtain ⟨_, hchecked, h⟩ := h
  have hexpected := checked_spec hchecked
  split at h
  · simp only [bind_eq_ok, raiseIf_eq_ok, not_not, pure_eq_ok] at h
    obtain ⟨_, hknown, rfl⟩ := h
    exact ⟨.same, .inr hknown⟩
  · rename_i hsettled
    simp only [bind_eq_ok, raiseIf_eq_ok, not_not, pure_eq_ok] at h
    obtain ⟨_, hpending, rfl⟩ := h
    refine ⟨?_, .inl hpending⟩
    cases hold : e.pending.get? d.objectId with
    | none =>
      have hset : e.pending.setDefault d.objectId d = e.pending.set d.objectId d := by
        simp [Dict.setDefault, hold]
      rw [hset]
      exact .begun hexpected (by simpa using hsettled)
    | some previous =>
      have hset : e.pending.setDefault d.objectId d = e.pending := by
        simp [Dict.setDefault, hold]
      rw [hset]
      exact .same

theorem discardUnsealed_step {request : RequestWorkerLease}
    (h : e.discardUnsealed request d = .ok e') : Step nodeId (.discarded d) e e' := by
  simp only [discardUnsealed, bind_eq_ok, raiseIf_eq_ok, pure_eq_ok, not_or, not_not] at h
  obtain ⟨_, ⟨_, hcandidate⟩, rfl⟩ := h
  exact .discarded hcandidate

theorem record_step (h : e.record nodeId d = .ok e') :
    Step nodeId .kept e e' ∧ e'.descriptors.get? d.objectId = some d := by
  simp only [record, bind_eq_ok] at h
  obtain ⟨_, hchecked, h⟩ := h
  have hexpected := checked_spec hchecked
  split at h
  · rename_i previous hknown
    simp only [bind_eq_ok, raiseIf_eq_ok, not_not, pure_eq_ok] at h
    obtain ⟨_, rfl, rfl⟩ := h
    exact ⟨.witnessed hexpected hknown, hknown⟩
  · rename_i hunknown
    simp only [bind_eq_ok, raiseIf_eq_ok, pure_eq_ok] at h
    obtain ⟨_, hsettled, rfl⟩ := h
    exact ⟨.recorded hexpected (by simpa using hsettled) hunknown, Dict.get?_set_self _ _ _⟩

variable {held : Dict ObjectID ObjectStoreDescriptor}

theorem mem_ordered :
    d ∈ e.ordered held ↔ ∃ item ∈ e.request.dependencies, held.get? item.objectId = some d :=
  List.mem_filterMap

variable {inventory : LeaseDependencyInventory}

theorem snapshot_spec (h : e.snapshot nodeId = .ok inventory) : e.pending.items = [] ∧
      inventory.leaseRequest = e.request ∧ inventory.nodeId = nodeId ∧
      inventory.descriptors = e.ordered e.descriptors := by
  simp only [snapshot, bind_eq_ok, raiseIf_eq_ok, not_not, mapError_eq_ok] at h
  obtain ⟨_, hclean, hmake⟩ := h
  exact ⟨hclean, LeaseDependencyInventory.make_spec hmake⟩

theorem acknowledge_step {fresh : Bool} (h : e.acknowledge nodeId inventory = .ok (fresh, e')) :
    Step nodeId .kept e e' := by
  simp only [acknowledge, bind_eq_ok] at h
  obtain ⟨actual, hactual, _, _, h⟩ := h
  split at h
  · simp only [bind_eq_ok, pure_eq_ok] at h
    obtain ⟨_, _, heq⟩ := h
    cases heq
    exact .same
  · simp only [pure_eq_ok] at h
    cases h
    exact .acknowledged (snapshot_spec hactual).1

theorem abandon_step {death : WorkerDeathRecord} (h : e.abandon death = .ok e') :
    Step nodeId .kept e e' := by
  simp only [abandon, bind_eq_ok, pure_eq_ok] at h
  obtain ⟨_, _, _, _, _, _, rfl⟩ := h
  exact .abandoned

variable {found : Option ObjectStoreDescriptor}

theorem nextAbandonedDescriptor_step
    (h : e.nextAbandonedDescriptor nodeId inventory = .ok (found, e')) :
    Step nodeId .scanned e e' := by
  simp only [nextAbandonedDescriptor, bind_eq_ok] at h
  obtain ⟨_, _, _, _, h⟩ := h
  split at h
  · cases pure_eq_ok.mp h
    exact .scanned
  · cases pure_eq_ok.mp h
    exact .scanned

theorem nextAbandonedDescriptor_spec
    (h : e.nextAbandonedDescriptor nodeId inventory = .ok (found, e')) :
    e.snapshot nodeId = .ok inventory ∧
      ((found = none ∧ e' = e ∧
          ∀ d ∈ inventory.descriptors, e.ownerReceipts.get? d.objectId ≠ none) ∨
        ∃ index d, inventory.descriptors[index]? = some d ∧ found = some d ∧
          e.ownerReceipts.get? d.objectId = none ∧
          e' = { e with handoffCursor := (index + 1) % inventory.descriptors.length } ∧
          ∀ other x, inventory.descriptors[other]? = some x →
            e.ownerReceipts.get? x.objectId = none → other = index ∨
              RoundRobin.ahead inventory.descriptors.length e'.handoffCursor other <
                RoundRobin.ahead inventory.descriptors.length e.handoffCursor other) := by
  simp only [nextAbandonedDescriptor, bind_eq_ok, raiseIf_eq_ok, not_not] at h
  obtain ⟨actual, hactual, _, rfl, h⟩ := h
  refine ⟨hactual, ?_⟩
  split at h
  · rename_i hnext
    cases pure_eq_ok.mp h
    refine .inl ⟨rfl, rfl, fun d hd hnone => ?_⟩
    obtain ⟨index, hindex, hget⟩ := List.getElem_of_mem hd
    have hrejected := RoundRobin.next_eq_none hnext hindex
    simp [hindex, hget, hnone] at hrejected
  · rename_i index hnext
    cases pure_eq_ok.mp h
    obtain ⟨hindex, haccepted⟩ := RoundRobin.next_some hnext
    have hget : actual.descriptors[index]? = some actual.descriptors[index] :=
      List.getElem?_eq_getElem hindex
    rw [hget, Option.any_some, Option.isNone_iff_eq_none] at haccepted
    refine .inr ⟨index, _, hget, hget, haccepted, rfl, fun other x hother hnone => ?_⟩
    have hlt := (List.getElem?_eq_some_iff.mp hother).1
    have hnearer := RoundRobin.next_nearer hnext hlt (by simp [hother, hnone])
    exact hnearer.imp Eq.symm id

theorem recordAbandonedReceipt_step {receipt : AbandonedReceipt} {fresh : Bool}
    (h : e.recordAbandonedReceipt nodeId inventory d receipt = .ok (fresh, e')) :
    Step nodeId .kept e e' := by
  simp only [recordAbandonedReceipt, bind_eq_ok, pure_eq_ok] at h
  obtain ⟨_, _, _, _, _, _, _, _, heq⟩ := h
  cases heq
  exact .receipted

theorem completeAbandoned_step (h : e.completeAbandoned nodeId inventory = .ok e') :
    Step nodeId .kept e e' := by
  simp only [completeAbandoned, bind_eq_ok, pure_eq_ok] at h
  obtain ⟨actual, hactual, _, _, _, _, rfl⟩ := h
  exact .completed (snapshot_spec hactual).1

/-! ## The invariant -/

/-- What is held is a localized dependency of the bound request. -/
def Expected (request : RequestWorkerLease) (nodeId : NodeID)
    (held : Dict ObjectID ObjectStoreDescriptor) : Prop :=
  ∀ o d, held.get? o = some d → d.objectId = o ∧ d ∈ request.expected nodeId

structure Valid (nodeId : NodeID) (e : DependencyEntry) : Prop where
  pending : Expected e.request nodeId e.pending
  descriptors : Expected e.request nodeId e.descriptors
  clean : e.settled = true → e.pending.items = []

section Expected

variable {request : RequestWorkerLease} {held held' : Dict ObjectID ObjectStoreDescriptor}

theorem Expected.set (h : Expected request nodeId held) (hd : d ∈ request.expected nodeId) :
    Expected request nodeId (held.set d.objectId d) := by
  intro o x hx
  rcases Dict.of_get?_set hx with ⟨ho, rfl⟩ | hx
  · exact ⟨ho, hd⟩
  · exact h o x hx

theorem Expected.erase (h : Expected request nodeId held) (o : ObjectID) :
    Expected request nodeId (held.erase o) := by
  intro x d hd
  exact h x d (Dict.of_get?_erase hd).2

theorem Expected.agree (h : Expected request nodeId held) (h' : Expected request nodeId held')
    {o : ObjectID} {d' : ObjectStoreDescriptor} (hd : held.get? o = some d)
    (hd' : held'.get? o = some d') : d = d' := by
  obtain ⟨hobject, hmem⟩ := h o d hd
  obtain ⟨hobject', hmem'⟩ := h' o d' hd'
  exact RequestWorkerLease.expected_unique hmem hmem' (hobject.trans hobject'.symm)

end Expected

theorem valid_new (nodeId : NodeID) (request : RequestWorkerLease) :
    Valid nodeId { request := request } where
  pending := fun o d h => by simp at h
  descriptors := fun o d h => by simp at h
  clean := fun _ => rfl

theorem erase_nil (h : held.items = []) (o : ObjectID) : (held.erase o).items = [] := by
  rw [Dict.eq_empty h]
  rfl

theorem Step.valid (hstep : Step nodeId event e e') (h : Valid nodeId e) : Valid nodeId e' := by
  cases hstep with
  | same | abandoned | scanned | receipted => exact ⟨h.pending, h.descriptors, h.clean⟩
  | begun expected unsettled =>
    refine ⟨h.pending.set expected, h.descriptors, fun hsettled => ?_⟩
    exact absurd hsettled (by simp_all [settled])
  | discarded =>
    exact ⟨h.pending.erase _, h.descriptors, fun hsettled => erase_nil (h.clean hsettled) _⟩
  | witnessed expected known =>
    exact ⟨h.pending.erase _, h.descriptors, fun hsettled => erase_nil (h.clean hsettled) _⟩
  | recorded expected unsettled unknown =>
    refine ⟨h.pending.erase _, h.descriptors.set expected, fun hsettled => ?_⟩
    exact absurd hsettled (by simp_all [settled])
  | acknowledged clean => exact ⟨h.pending, h.descriptors, fun _ => clean⟩
  | completed clean => exact ⟨h.pending, h.descriptors, fun _ => clean⟩

/-! ## What every step keeps -/

structure Keeps (e e' : DependencyEntry) : Prop where
  request : e'.request = e.request
  settled : e.settled = true → e'.settled = true ∧ e'.descriptors = e.descriptors
  recorded : ∀ o d, e.descriptors.get? o = some d → e'.descriptors.get? o = some d
  receipts : ∀ o r, e.ownerReceipts.get? o = some r → e'.ownerReceipts.get? o = some r

theorem Keeps.rfl : Keeps e e :=
  ⟨.refl _, fun h => ⟨h, .refl _⟩, fun _ _ h => h, fun _ _ h => h⟩

theorem Keeps.trans {e₁ e₂ e₃ : DependencyEntry} (h : Keeps e₁ e₂) (h' : Keeps e₂ e₃) :
    Keeps e₁ e₃ where
  request := h'.request.trans h.request
  settled hsettled := by
    have hfirst := h.settled hsettled
    have hsecond := h'.settled hfirst.1
    exact ⟨hsecond.1, hsecond.2.trans hfirst.2⟩
  recorded o d hd := h'.recorded o d (h.recorded o d hd)
  receipts o r hr := h'.receipts o r (h.receipts o r hr)

theorem Step.keeps (hstep : Step nodeId event e e') : Keeps e e' := by
  cases hstep with
  | same | begun | discarded | witnessed | abandoned | scanned =>
    exact ⟨.refl _, fun h => ⟨h, .refl _⟩, fun _ _ h => h, fun _ _ h => h⟩
  | acknowledged | completed =>
    exact ⟨.refl _, fun h => ⟨by simp [DependencyEntry.settled], .refl _⟩, fun _ _ h => h,
      fun _ _ h => h⟩
  | @recorded _ x expected unsettled unknown =>
    refine ⟨.refl _, fun h => absurd h (by simp [unsettled]), fun o d hd => ?_, fun _ _ h => h⟩
    exact Dict.get?_set_kept unknown hd
  | @receipted _ o receipt =>
    refine ⟨.refl _, fun h => ⟨h, .refl _⟩, fun _ _ h => h, fun x r hr => ?_⟩
    by_cases hx : o = x
    · subst hx
      rw [Dict.get?_setDefault_self, hr]
      rfl
    · rw [Dict.get?_setDefault_of_ne _ _ hx, hr]

/-- The entry holds the replica, as a candidate or as a recorded one. -/
def Holds (e : DependencyEntry) (d : ObjectStoreDescriptor) : Prop :=
  e.pending.get? d.objectId = some d ∨ e.descriptors.get? d.objectId = some d

theorem Step.holds (hstep : Step nodeId event e e') (hvalid : Valid nodeId e) (h : e.Holds d)
    (hkept : event ≠ .discarded d) : e'.Holds d := by
  have hrecorded := hstep.keeps.recorded d.objectId d
  rcases h with h | h
  · cases hstep with
    | same | acknowledged | completed | abandoned | scanned | receipted => exact .inl h
    | @begun _ x expected unsettled =>
      left
      by_cases hx : x.objectId = d.objectId
      · have hd := hvalid.pending _ _ h
        have hsame := RequestWorkerLease.expected_unique expected hd.2 hx
        rw [hsame]
        exact Dict.get?_set_self _ _ _
      · exact (Dict.get?_set_of_ne _ _ hx).trans h
    | @discarded _ x candidate =>
      have hx : x.objectId ≠ d.objectId := fun hx => by
        rw [hx, h] at candidate
        cases candidate
        exact hkept rfl
      exact .inl ((Dict.get?_erase_of_ne _ hx).trans h)
    | @witnessed _ x expected known =>
      by_cases hx : x.objectId = d.objectId
      · have hd := hvalid.pending _ _ h
        have hsame := RequestWorkerLease.expected_unique expected hd.2 hx
        rw [hsame] at known
        exact .inr known
      · exact .inl ((Dict.get?_erase_of_ne _ hx).trans h)
    | @recorded _ x expected unsettled unknown =>
      by_cases hx : x.objectId = d.objectId
      · have hd := hvalid.pending _ _ h
        have hsame := RequestWorkerLease.expected_unique expected hd.2 hx
        rw [hsame]
        exact .inr (Dict.get?_set_self _ _ _)
      · exact .inl ((Dict.get?_erase_of_ne _ hx).trans h)
  · exact .inr (hrecorded h)

end DependencyEntry

end MiniRay
