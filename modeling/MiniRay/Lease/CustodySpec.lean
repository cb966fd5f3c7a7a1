import MiniRay.Lease.Custody

/-! Whatever was begun or recorded stays held until its lease is settled or the exact candidate is
discarded, and the handoff of an abandoned inventory comes round to each of its replicas. -/

namespace MiniRay

open Checked Run

inductive CustodyCall
  | bind (request : RequestWorkerLease)
  | begin_ (request : RequestWorkerLease) (descriptor : ObjectStoreDescriptor)
  | discardUnsealed (request : RequestWorkerLease) (descriptor : ObjectStoreDescriptor)
  | record (request : RequestWorkerLease) (descriptor : ObjectStoreDescriptor)
  | snapshot (leaseId : LeaseID)
  | acknowledge (inventory : LeaseDependencyInventory)
  | abandon (leaseId : LeaseID) (death : WorkerDeathRecord)
  | nextAbandonedDescriptor (inventory : LeaseDependencyInventory)
  | recordAbandonedReceipt (inventory : LeaseDependencyInventory)
      (descriptor : ObjectStoreDescriptor) (receipt : AbandonedReceipt)
  | completeAbandoned (inventory : LeaseDependencyInventory)

inductive CustodyAnswer
  | done
  | flag (fresh : Bool)
  | inventory (inventory : Option LeaseDependencyInventory)
  | descriptor (descriptor : Option ObjectStoreDescriptor)

namespace CustodyCall

def leaseId : CustodyCall → LeaseID
  | .bind request => request.leaseId
  | .begin_ request _ => request.leaseId
  | .discardUnsealed request _ => request.leaseId
  | .record request _ => request.leaseId
  | .snapshot leaseId => leaseId
  | .acknowledge inventory => inventory.leaseRequest.leaseId
  | .abandon leaseId _ => leaseId
  | .nextAbandonedDescriptor inventory => inventory.leaseRequest.leaseId
  | .recordAbandonedReceipt inventory _ _ => inventory.leaseRequest.leaseId
  | .completeAbandoned inventory => inventory.leaseRequest.leaseId

def event : CustodyCall → EntryEvent
  | .discardUnsealed _ descriptor => .discarded descriptor
  | .nextAbandonedDescriptor _ => .scanned
  | _ => .kept

/-- The call begins or records a replica for the lease. -/
def Witnesses (leaseId : LeaseID) (d : ObjectStoreDescriptor) : CustodyCall → Prop
  | .begin_ request descriptor => request.leaseId = leaseId ∧ descriptor = d
  | .record request descriptor => request.leaseId = leaseId ∧ descriptor = d
  | _ => False

end CustodyCall

namespace LeaseDependencyCustody

open DependencyEntry (Step Keeps Holds Valid)

def answer {α : Type} (f : α → CustodyAnswer)
    (result : Except CustodyError α × LeaseDependencyCustody) :
    Except CustodyError CustodyAnswer × LeaseDependencyCustody := (f <$> result.1, result.2)

def exec (s : LeaseDependencyCustody) :
    CustodyCall → Except CustodyError CustodyAnswer × LeaseDependencyCustody
  | .bind request => answer (fun _ => .done) (s.bind request)
  | .begin_ request descriptor => answer (fun _ => .done) (s.begin_ request descriptor)
  | .discardUnsealed request descriptor =>
    answer (fun _ => .done) (s.discardUnsealed request descriptor)
  | .record request descriptor => answer (fun _ => .done) (s.record request descriptor)
  | .snapshot leaseId => answer .inventory (s.snapshot leaseId, s)
  | .acknowledge inventory => answer .flag (s.acknowledge inventory)
  | .abandon leaseId death => answer (fun _ => .done) (s.abandon leaseId death)
  | .nextAbandonedDescriptor inventory => answer .descriptor (s.nextAbandonedDescriptor inventory)
  | .recordAbandonedReceipt inventory descriptor receipt =>
    answer .flag (s.recordAbandonedReceipt inventory descriptor receipt)
  | .completeAbandoned inventory => answer (fun _ => .done) (s.completeAbandoned inventory)

def step (s : LeaseDependencyCustody) (call : CustodyCall) : LeaseDependencyCustody :=
  (s.exec call).2

def Returned (s : LeaseDependencyCustody) (call : CustodyCall) : Prop :=
  ∃ a, (s.exec call).1 = .ok a

/-! ## What a call does to the registry -/

/-- The entry of the lease stays, steps if the call returned, or is first bound. -/
inductive EntryChange (nodeId : NodeID) (leaseId : LeaseID) (returned : Prop)
    (event : EntryEvent) : Option DependencyEntry → Option DependencyEntry → Prop
  | unchanged {entry : Option DependencyEntry} :
      EntryChange nodeId leaseId returned event entry entry
  | stepped {e e' : DependencyEntry} (answered : returned) (taken : Step nodeId event e e') :
      EntryChange nodeId leaseId returned event (some e) (some e')
  | bound {request : RequestWorkerLease} {e' : DependencyEntry} (own : request.leaseId = leaseId)
      (taken : Step nodeId .kept { request := request } e') :
      EntryChange nodeId leaseId returned event none (some e')

structure Changes (s s' : LeaseDependencyCustody) (leaseId : LeaseID) (returned : Prop)
    (event : EntryEvent) : Prop where
  nodeId : s'.nodeId = s.nodeId
  others : ∀ other, other ≠ leaseId → s'.entries.get? other = s.entries.get? other
  entry : EntryChange s.nodeId leaseId returned event (s.entries.get? leaseId)
    (s'.entries.get? leaseId)

variable {s s' : LeaseDependencyCustody} {leaseId : LeaseID} {event : EntryEvent}

variable {returned : Prop}

theorem Changes.rfl : Changes s s leaseId returned event :=
  ⟨.refl _, fun _ _ => .refl _, .unchanged⟩

variable {α : Type}

variable {missing : CustodyError} {f : DependencyEntry → Except CustodyError (α × DependencyEntry)}

theorem onEntry_changes (hreturned : (∃ a, (s.onEntry leaseId missing f).1 = .ok a) → returned)
    (hf : ∀ e a e', f e = .ok (a, e') → Step s.nodeId event e e') :
    Changes s (s.onEntry leaseId missing f).2 leaseId returned event := by
  unfold onEntry at hreturned ⊢
  cases hentry : s.entries.get? leaseId with
  | none => exact .rfl
  | some e =>
    simp only [hentry] at hreturned ⊢
    cases hresult : f e with
    | error error => exact .rfl
    | ok result =>
      simp only [hresult] at hreturned ⊢
      refine ⟨.refl _, fun other hother => Dict.get?_set_of_ne _ _ (Ne.symm hother), ?_⟩
      rw [hentry, Dict.get?_set_self]
      exact .stepped (hreturned ⟨_, .refl _⟩) (hf _ _ _ hresult)

theorem onEntry_returned {a : α} (h : (s.onEntry leaseId missing f).1 = .ok a) :
    ∃ e e', s.entries.get? leaseId = some e ∧ f e = .ok (a, e') ∧
      (s.onEntry leaseId missing f).2.entries.get? leaseId = some e' := by
  unfold onEntry at h ⊢
  cases hentry : s.entries.get? leaseId with
  | none => simp [hentry] at h
  | some e =>
    simp only [hentry] at h ⊢
    cases hresult : f e with
    | error error => simp [hresult] at h
    | ok result =>
      simp only [hresult, Except.ok.injEq] at h ⊢
      subst h
      exact ⟨e, result.2, .refl _, hresult, Dict.get?_set_self _ _ _⟩

theorem bind_changes (request : RequestWorkerLease) :
    Changes s (s.bind request).2 request.leaseId returned event := by
  unfold bind
  cases hentry : s.entries.get? request.leaseId with
  | some previous => exact .rfl
  | none =>
    refine ⟨.refl _, fun other hother => Dict.get?_set_of_ne _ _ (Ne.symm hother), ?_⟩
    rw [hentry, Dict.get?_set_self]
    exact .bound (.refl _) .same

variable {request : RequestWorkerLease}

theorem bound_changes {f : DependencyEntry → Except CustodyError DependencyEntry}
    (hreturned : (∃ a, (s.bound request f).1 = .ok a) → returned)
    (hf : ∀ e e', f e = .ok e' → Step s.nodeId .kept e e') :
    Changes s (s.bound request f).2 request.leaseId returned .kept := by
  have hbind : Changes s (s.bind request).2 request.leaseId returned .kept := bind_changes request
  unfold bound at hreturned ⊢
  cases hresult : s.bind request with
  | mk result bound =>
    rw [hresult] at hbind
    simp only [hresult] at hreturned
    cases result with
    | error e => exact hbind
    | ok u =>
      have hkept : ∀ e a e', ((fun e => ((), e)) <$> f e) = .ok (a, e') →
          Step bound.nodeId .kept e e' := by
        intro e a e' h
        rw [map_eq_ok] at h
        obtain ⟨_, h, heq⟩ := h
        cases heq
        rw [hbind.nodeId]
        exact hf _ _ h
      have hlater := onEntry_changes hreturned hkept
      refine ⟨hlater.nodeId.trans hbind.nodeId,
        fun other hother => (hlater.others other hother).trans (hbind.others other hother), ?_⟩
      have hentry := hlater.entry
      rw [hbind.nodeId] at hentry
      -- the entry was there before, or `bind` put a fresh one in place
      unfold bind at hresult
      cases hold : s.entries.get? request.leaseId with
      | some previous =>
        simp only [hold, Prod.mk.injEq] at hresult
        obtain ⟨_, rfl⟩ := hresult
        rwa [hold] at hentry
      | none =>
        simp only [hold, Prod.mk.injEq] at hresult
        obtain ⟨_, rfl⟩ := hresult
        rw [Dict.get?_set_self] at hentry
        generalize (onEntry _ _ _ _).2.entries.get? request.leaseId = after at hentry
        cases hentry with
        | unchanged => exact .bound (.refl _) .same
        | stepped answered taken => exact .bound (.refl _) taken

theorem bound_returned {f : DependencyEntry → Except CustodyError DependencyEntry} {u : Unit}
    (h : (s.bound request f).1 = .ok u) :
    ∃ e e', f e = .ok e' ∧ (s.bound request f).2.entries.get? request.leaseId = some e' := by
  unfold bound at h ⊢
  cases hresult : s.bind request with
  | mk result bound =>
    cases result with
    | error e => simp [hresult] at h
    | ok _ =>
      simp only [hresult] at h ⊢
      obtain ⟨e, e', _, hf, hafter⟩ := onEntry_returned h
      rw [map_eq_ok] at hf
      obtain ⟨_, hf, heq⟩ := hf
      cases heq
      exact ⟨e, e', hf, hafter⟩

theorem returned_of_answer {f : α → CustodyAnswer}
    {result : Except CustodyError α × LeaseDependencyCustody} (h : ∃ a, result.1 = .ok a) :
    ∃ a, (answer f result).1 = .ok a := by
  obtain ⟨a, ha⟩ := h
  exact ⟨f a, map_eq_ok.mpr ⟨a, ha, .refl _⟩⟩

theorem of_unit_map {e' : DependencyEntry} {x : Except CustodyError DependencyEntry} {u : Unit}
    (h : (fun entry => ((), entry)) <$> x = .ok (u, e')) : x = .ok e' := by
  rw [map_eq_ok] at h
  obtain ⟨_, h, heq⟩ := h
  cases heq
  exact h

theorem exec_changes (s : LeaseDependencyCustody) (call : CustodyCall) :
    Changes s (s.step call) call.leaseId (s.Returned call) call.event := by
  cases call with
  | bind request => exact bind_changes request
  | begin_ request d =>
    exact bound_changes returned_of_answer fun _ _ h => (DependencyEntry.begin_step h).1
  | discardUnsealed request d =>
    exact onEntry_changes returned_of_answer fun _ _ _ h =>
      DependencyEntry.discardUnsealed_step (of_unit_map h)
  | record request d =>
    exact bound_changes returned_of_answer fun _ _ h => (DependencyEntry.record_step h).1
  | snapshot leaseId => exact .rfl
  | acknowledge inventory =>
    exact onEntry_changes returned_of_answer fun _ _ _ h => DependencyEntry.acknowledge_step h
  | abandon leaseId death =>
    exact onEntry_changes returned_of_answer fun _ _ _ h =>
      DependencyEntry.abandon_step (of_unit_map h)
  | nextAbandonedDescriptor inventory =>
    exact onEntry_changes returned_of_answer fun _ _ _ h =>
      DependencyEntry.nextAbandonedDescriptor_step h
  | recordAbandonedReceipt inventory d receipt =>
    exact onEntry_changes returned_of_answer fun _ _ _ h =>
      DependencyEntry.recordAbandonedReceipt_step h
  | completeAbandoned inventory =>
    exact onEntry_changes returned_of_answer fun _ _ _ h =>
      DependencyEntry.completeAbandoned_step (of_unit_map h)

/-! ## Invariants -/

/-- Entries stand under their own lease and are valid. -/
def Inv (s : LeaseDependencyCustody) : Prop :=
  ∀ leaseId e, s.entries.get? leaseId = some e →
    e.request.leaseId = leaseId ∧ Valid s.nodeId e

theorem inv_new (nodeId : NodeID) : (new nodeId).Inv := fun _ _ h => by simp [new] at h

theorem step_inv (s : LeaseDependencyCustody) (call : CustodyCall) (h : s.Inv) :
    (s.step call).Inv := by
  intro leaseId e he
  have hchanges := s.exec_changes call
  rw [hchanges.nodeId]
  by_cases hlease : leaseId = call.leaseId
  · subst hlease
    have hentry := hchanges.entry
    rw [he] at hentry
    generalize hold : s.entries.get? call.leaseId = old at hentry
    cases hentry with
    | unchanged => exact h _ _ hold
    | stepped answered taken =>
      obtain ⟨hrequest, hvalid⟩ := h _ _ hold
      exact ⟨taken.keeps.request ▸ hrequest, taken.valid hvalid⟩
    | bound own taken =>
      exact ⟨taken.keeps.request ▸ own, taken.valid (DependencyEntry.valid_new _ _)⟩
  · rw [hchanges.others _ hlease] at he
    exact h _ _ he

theorem run_inv (nodeId : NodeID) (calls : List CustodyCall) : (run step (new nodeId) calls).Inv :=
  run_invariant (p := Inv) step_inv (inv_new nodeId) calls

variable {e : DependencyEntry}

theorem step_keeps (call : CustodyCall) (he : s.entries.get? leaseId = some e) :
    ∃ e', (s.step call).entries.get? leaseId = some e' ∧ Keeps e e' := by
  have hchanges := s.exec_changes call
  by_cases hlease : leaseId = call.leaseId
  · subst hlease
    have hentry := hchanges.entry
    rw [he] at hentry
    generalize (s.step call).entries.get? call.leaseId = new at hentry
    cases hentry with
    | unchanged => exact ⟨e, .refl _, .rfl⟩
    | stepped answered taken => exact ⟨_, .refl _, taken.keeps⟩
  · exact ⟨e, (hchanges.others _ hlease).trans he, .rfl⟩

theorem run_keeps (calls : List CustodyCall) (he : s.entries.get? leaseId = some e) :
    ∃ e', (run step s calls).entries.get? leaseId = some e' ∧ Keeps e e' := by
  induction calls generalizing s e with
  | nil => exact ⟨e, he, .rfl⟩
  | cons call calls ih =>
    obtain ⟨e₁, he₁, hfirst⟩ := step_keeps call he
    obtain ⟨e₂, he₂, hrest⟩ := ih he₁
    exact ⟨e₂, he₂, hfirst.trans hrest⟩

/-! ## Replicas stay held -/

/-- The call discarded the exact candidate of this lease. -/
def Discards (leaseId : LeaseID) (d : ObjectStoreDescriptor) (s : LeaseDependencyCustody)
    (call : CustodyCall) : Prop :=
  (∃ request, call = .discardUnsealed request d ∧ request.leaseId = leaseId) ∧ s.Returned call

variable {call : CustodyCall} {d : ObjectStoreDescriptor}

theorem witnesses_holds (hwitness : call.Witnesses leaseId d) (hreturned : s.Returned call) :
    ∃ e, (s.step call).entries.get? leaseId = some e ∧ e.Holds d := by
  obtain ⟨a, ha⟩ := hreturned
  cases call with
  | begin_ request x =>
    obtain ⟨rfl, rfl⟩ := hwitness
    obtain ⟨u, hu, _⟩ := map_eq_ok.mp ha
    obtain ⟨e, e', hbegin, hafter⟩ := bound_returned hu
    exact ⟨e', hafter, (DependencyEntry.begin_step hbegin).2⟩
  | record request x =>
    obtain ⟨rfl, rfl⟩ := hwitness
    obtain ⟨u, hu, _⟩ := map_eq_ok.mp ha
    obtain ⟨e, e', hrecord, hafter⟩ := bound_returned hu
    exact ⟨e', hafter, .inr (DependencyEntry.record_step hrecord).2⟩
  | _ => exact hwitness.elim

theorem step_holds (hinv : s.Inv) (h : ∃ e, s.entries.get? leaseId = some e ∧ e.Holds d)
    (hkept : ¬ Discards leaseId d s call) :
    ∃ e, (s.step call).entries.get? leaseId = some e ∧ e.Holds d := by
  obtain ⟨e, he, hholds⟩ := h
  have hchanges := s.exec_changes call
  by_cases hlease : leaseId = call.leaseId
  · subst hlease
    have hentry := hchanges.entry
    rw [he] at hentry
    generalize hnew : (s.step call).entries.get? call.leaseId = new at hentry
    cases hentry with
    | unchanged => exact ⟨e, .refl _, hholds⟩
    | stepped answered taken =>
      refine ⟨_, .refl _, taken.holds (hinv _ _ he).2 hholds fun hevent => ?_⟩
      cases call with
      | discardUnsealed request x =>
        cases hevent
        exact hkept ⟨⟨request, .refl _, .refl _⟩, answered⟩
      | _ => cases hevent
  · exact ⟨e, (hchanges.others _ hlease).trans he, hholds⟩

theorem hasPending_of_holds (he : s.entries.get? leaseId = some e) (hholds : e.Holds d)
    (hopen : e.settled = false) : s.hasPending = true := by
  refine List.any_eq_true.mpr ⟨e, Dict.mem_values_iff.mpr ⟨leaseId, he⟩, ?_⟩
  have hnonempty : ∀ held : Dict ObjectID ObjectStoreDescriptor,
      held.get? d.objectId = some d → held.items ≠ [] := by
    intro held hget hnil
    rw [Dict.items_eq_nil_iff.mp hnil] at hget
    cases hget
  rcases hholds with h | h
  · simp [DependencyEntry.hasPending, hnonempty _ h]
  · simp [DependencyEntry.hasPending, hnonempty _ h, hopen]

/-! ## The round of an abandoned handoff -/

/-- The answers a run gives for one inventory. -/
def handoffs (inventory : LeaseDependencyInventory) (s : LeaseDependencyCustody)
    (call : CustodyCall) : List (Option ObjectStoreDescriptor) :=
  match call with
  | .nextAbandonedDescriptor inventory' =>
    if inventory' = inventory then (s.nextAbandonedDescriptor inventory).1.toOption.toList else []
  | _ => []

/-- The owner's receipt of this replica is recorded. -/
def Receipted (s : LeaseDependencyCustody) (leaseId : LeaseID) (o : ObjectID) : Prop :=
  ∃ e receipt, s.entries.get? leaseId = some e ∧ e.ownerReceipts.get? o = some receipt

/-- The next scan of the inventory meets the replica after `steps` others at most. -/
def Ready (inventory : LeaseDependencyInventory) (d : ObjectStoreDescriptor) (steps : Nat)
    (s : LeaseDependencyCustody) : Prop :=
  ∃ e index, s.entries.get? inventory.leaseRequest.leaseId = some e ∧
    e.request = inventory.leaseRequest ∧ s.nodeId = inventory.nodeId ∧
    e.ordered e.descriptors = inventory.descriptors ∧ inventory.descriptors[index]? = some d ∧
    RoundRobin.ahead inventory.descriptors.length e.handoffCursor index = steps

/-- The entry recorded a replica the inventory does not have. -/
def Outgrown (inventory : LeaseDependencyInventory) (s : LeaseDependencyCustody) : Prop :=
  ∃ e x, s.entries.get? inventory.leaseRequest.leaseId = some e ∧
    x ∈ e.ordered e.descriptors ∧ x ∉ inventory.descriptors

variable {inventory : LeaseDependencyInventory}

theorem Outgrown.after (h : Outgrown inventory s) (call : CustodyCall) :
    Outgrown inventory (s.step call) := by
  obtain ⟨e, x, he, hx, hnew⟩ := h
  obtain ⟨e', he', hkeeps⟩ := step_keeps call he
  obtain ⟨item, hitem, hget⟩ := DependencyEntry.mem_ordered.mp hx
  refine ⟨e', x, he', DependencyEntry.mem_ordered.mpr ⟨item, ?_, hkeeps.recorded _ _ hget⟩, hnew⟩
  rw [hkeeps.request]
  exact hitem

variable {found : Option ObjectStoreDescriptor}

theorem scan_returned (h : (s.nextAbandonedDescriptor inventory).1 = .ok found) :
    ∃ e e', s.entries.get? inventory.leaseRequest.leaseId = some e ∧
      e.nextAbandonedDescriptor s.nodeId inventory = .ok (found, e') ∧
      (s.step (.nextAbandonedDescriptor inventory)).entries.get?
        inventory.leaseRequest.leaseId = some e' :=
  onEntry_returned h

theorem Outgrown.no_scan (h : Outgrown inventory s) :
    (s.nextAbandonedDescriptor inventory).1 ≠ .ok found := by
  intro hscan
  obtain ⟨e, x, he, hx, hnew⟩ := h
  obtain ⟨e₁, _, he₁, hnext, _⟩ := scan_returned hscan
  obtain rfl := Option.some.inj (he.symm.trans he₁)
  have hsnapshot := (DependencyEntry.nextAbandonedDescriptor_spec hnext).1
  rw [(DependencyEntry.snapshot_spec hsnapshot).2.2.2] at hnew
  exact hnew hx

theorem Ready.scan {k : Nat} (h : Ready inventory d k s)
    (hscan : (s.nextAbandonedDescriptor inventory).1 = .ok found) :
    found = some d ∨ Receipted s inventory.leaseRequest.leaseId d.objectId ∨
      ∃ k' < k, Ready inventory d k' (s.step (.nextAbandonedDescriptor inventory)) := by
  obtain ⟨e, index, he, hrequest, hnode, hordered, hindex, hahead⟩ := h
  obtain ⟨e₁, e', he₁, hnext, he'⟩ := scan_returned hscan
  obtain rfl := Option.some.inj (he.symm.trans he₁)
  have hmem : d ∈ inventory.descriptors := List.mem_of_getElem? hindex
  cases hreceipt : e.ownerReceipts.get? d.objectId with
  | some receipt => exact .inr (.inl ⟨e, receipt, he, hreceipt⟩)
  | none =>
    rcases (DependencyEntry.nextAbandonedDescriptor_spec hnext).2 with
      ⟨_, _, hall⟩ | ⟨place, x, hplace, hfound, _, heq, hnearer⟩
    · exact absurd hreceipt (hall d hmem)
    · rcases hnearer index d hindex hreceipt with hsame | hless
      · rw [hsame, hplace] at hindex
        exact .inl (hfound.trans hindex)
      · refine .inr (.inr ⟨_, hahead ▸ hless, e', index, he', ?_, ?_, ?_, hindex, .refl _⟩)
        · rw [heq]
          exact hrequest
        · rw [(s.exec_changes _).nodeId]
          exact hnode
        · rw [heq]
          exact hordered

theorem Ready.other {k : Nat} (h : Ready inventory d k s) (hinv : s.Inv)
    (hother : s.Returned call → call ≠ .nextAbandonedDescriptor inventory) :
    Ready inventory d k (s.step call) ∨ Outgrown inventory (s.step call) := by
  obtain ⟨e, index, he, hrequest, hnode, hordered, hindex, hahead⟩ := h
  have hchanges := s.exec_changes call
  have hnode' := hchanges.nodeId.trans hnode
  by_cases hlease : inventory.leaseRequest.leaseId = call.leaseId
  · have hentry := hchanges.entry
    rw [← hlease, he] at hentry
    generalize hnew : (s.step call).entries.get? inventory.leaseRequest.leaseId = new at hentry
    cases hentry with
    | unchanged => exact .inl ⟨e, index, hnew, hrequest, hnode', hordered, hindex, hahead⟩
    | stepped answered taken =>
      generalize hevent : call.event = event at taken
      cases taken with
      | same | begun | discarded | witnessed | acknowledged | abandoned | receipted | completed =>
        exact .inl ⟨_, index, hnew, hrequest, hnode', hordered, hindex, hahead⟩
      | scanned =>
        exfalso
        cases call with
        | nextAbandonedDescriptor inventory' =>
          obtain ⟨found, hfound⟩ := answered
          obtain ⟨found, hfound, _⟩ := map_eq_ok.mp hfound
          obtain ⟨e₁, _, he₁, hnext, _⟩ := scan_returned hfound
          have hlease' : inventory.leaseRequest.leaseId = inventory'.leaseRequest.leaseId :=
            hlease
          rw [← hlease', he] at he₁
          cases he₁
          have hsnapshot := (DependencyEntry.nextAbandonedDescriptor_spec hnext).1
          obtain ⟨_, hsame, hnodes, hdescriptors⟩ := DependencyEntry.snapshot_spec hsnapshot
          refine hother ⟨_, map_eq_ok.mpr ⟨_, hfound, .refl _⟩⟩ (congrArg _ ?_)
          cases inventory
          cases inventory'
          simp_all
        | _ => cases hevent
      | @recorded _ x expected unsettled unknown =>
        right
        obtain ⟨item, hitem, rfl⟩ := List.mem_map.mp expected
        refine ⟨_, _, hnew, DependencyEntry.mem_ordered.mpr
          ⟨item, hitem, Dict.get?_set_self _ _ _⟩, fun hin => ?_⟩
        rw [← hordered] at hin
        obtain ⟨item', hitem', hget⟩ := DependencyEntry.mem_ordered.mp hin
        obtain ⟨hobject, _⟩ := (hinv _ _ he).2.descriptors _ _ hget
        rw [hobject, hget] at unknown
        cases unknown
  · left
    exact ⟨e, index, (hchanges.others _ hlease).trans he, hrequest, hnode', hordered, hindex,
      hahead⟩

/-- The answers so far returned the replica, or fewer than a round of them were given. -/
def Rounding (inventory : LeaseDependencyInventory) (d : ObjectStoreDescriptor)
    (answers : List (Option ObjectStoreDescriptor)) (s : LeaseDependencyCustody) : Prop :=
  some d ∈ answers ∨ Receipted s inventory.leaseRequest.leaseId d.objectId ∨
    (∃ k, Ready inventory d k s ∧ answers.length + k < inventory.descriptors.length) ∨
    (Outgrown inventory s ∧ answers.length < inventory.descriptors.length)

theorem Receipted.after {o : ObjectID} (h : Receipted s leaseId o) (call : CustodyCall) :
    Receipted (s.step call) leaseId o := by
  obtain ⟨e, receipt, he, hreceipt⟩ := h
  obtain ⟨e', he', hkeeps⟩ := step_keeps call he
  exact ⟨e', receipt, he', hkeeps.receipts _ _ hreceipt⟩

theorem handoffs_scan (h : (s.nextAbandonedDescriptor inventory).1 = .ok found) :
    handoffs inventory s (.nextAbandonedDescriptor inventory) = [found] := by
  rw [handoffs, if_pos rfl, h]
  rfl

theorem handoffs_other
    (h : ∀ found, (s.nextAbandonedDescriptor inventory).1 = .ok found →
      call ≠ .nextAbandonedDescriptor inventory) :
    handoffs inventory s call = [] := by
  cases call with
  | nextAbandonedDescriptor inventory' =>
    simp only [handoffs]
    split
    · rename_i heq
      cases hscan : (s.nextAbandonedDescriptor inventory).1 with
      | error e => rfl
      | ok found => exact absurd (by rw [heq]) (h found hscan)
    · rfl
  | _ => rfl

theorem Rounding.after {answers : List (Option ObjectStoreDescriptor)}
    (h : Rounding inventory d answers s) (hinv : s.Inv) (call : CustodyCall) :
    Rounding inventory d (answers ++ handoffs inventory s call) (s.step call) := by
  rcases h with h | h | ⟨k, hready, hless⟩ | ⟨hpast, hless⟩
  · exact .inl (List.mem_append_left _ h)
  · exact .inr (.inl (h.after call))
  · by_cases hscan : call = .nextAbandonedDescriptor inventory ∧
        ∃ found, (s.nextAbandonedDescriptor inventory).1 = .ok found
    · obtain ⟨rfl, found, hfound⟩ := hscan
      rw [handoffs_scan hfound]
      rcases hready.scan hfound with rfl | hreceipt | ⟨k', hk, hready'⟩
      · exact .inl (by simp)
      · exact .inr (.inl (hreceipt.after _))
      · refine .inr (.inr (.inl ⟨k', hready', ?_⟩))
        simp only [List.length_append, List.length_singleton]
        omega
    · have hquiet : handoffs inventory s call = [] :=
        handoffs_other fun found hfound hcall => hscan ⟨hcall, found, hfound⟩
      rw [hquiet, List.append_nil]
      have hother : s.Returned call → call ≠ .nextAbandonedDescriptor inventory := by
        rintro ⟨a, ha⟩ rfl
        obtain ⟨found, hfound, _⟩ := map_eq_ok.mp ha
        exact hscan ⟨rfl, found, hfound⟩
      rcases hready.other hinv hother with hready' | hpast
      · exact .inr (.inr (.inl ⟨k, hready', hless⟩))
      · exact .inr (.inr (.inr ⟨hpast, by omega⟩))
  · have hquiet : handoffs inventory s call = [] :=
      handoffs_other fun found hfound _ => hpast.no_scan hfound
    rw [hquiet, List.append_nil]
    exact .inr (.inr (.inr ⟨hpast.after call, hless⟩))

theorem Rounding.over (hinv : s.Inv) (h : Rounding inventory d [] s) (calls : List CustodyCall) :
    Rounding inventory d (outputs step (handoffs inventory) s calls) (run step s calls) :=
  (outputs_invariant (p := fun answers t => t.Inv ∧ Rounding inventory d answers t)
    (fun _ t call ht => ⟨step_inv t call ht.1, ht.2.after ht.1 call⟩) ⟨hinv, h⟩ calls).2

theorem rounding_of_scan (hd : d ∈ inventory.descriptors)
    (hscan : (s.nextAbandonedDescriptor inventory).1 = .ok found) : Rounding inventory d [] s := by
  obtain ⟨e, _, he, hnext, _⟩ := scan_returned hscan
  have hsnapshot := (DependencyEntry.nextAbandonedDescriptor_spec hnext).1
  obtain ⟨_, hrequest, hnode, hordered⟩ := DependencyEntry.snapshot_spec hsnapshot
  obtain ⟨index, hindex, hget⟩ := List.getElem_of_mem hd
  refine .inr (.inr (.inl ⟨_, ⟨e, index, he, hrequest.symm, hnode.symm, hordered.symm,
    List.getElem?_eq_some_iff.mpr ⟨hindex, hget⟩, rfl⟩, ?_⟩))
  simpa using RoundRobin.ahead_lt (by omega) e.handoffCursor index

/-! ## The registry over its runs -/

structure CustodySpec (nodeId : NodeID) : Prop where
  /-- A settled inventory is clean and final. -/
  settled : ∀ calls more leaseId e,
    (run step (new nodeId) calls).entries.get? leaseId = some e → e.settled = true →
      e.pending.items = [] ∧ ∃ e',
        (run step (new nodeId) (calls ++ more)).entries.get? leaseId = some e' ∧
          e'.settled = true ∧ e'.descriptors = e.descriptors ∧ e'.pending.items = []
  /-- What was begun or recorded stays held, and is pending work until the lease is settled. -/
  kept : ∀ calls call more leaseId d, call.Witnesses leaseId d →
    (run step (new nodeId) calls).Returned call →
    ¬ Occurs step (Discards leaseId d) ((run step (new nodeId) calls).step call) more →
      ∃ e, (run step (new nodeId) (calls ++ call :: more)).entries.get? leaseId = some e ∧
        e.Holds d ∧
        (e.settled = false → (run step (new nodeId) (calls ++ call :: more)).hasPending = true)
  /-- One object has one replica, whether candidate or recorded. -/
  agree : ∀ calls leaseId e o d d',
    (run step (new nodeId) calls).entries.get? leaseId = some e →
      e.pending.get? o = some d → e.descriptors.get? o = some d' → d = d'
  /-- The first receipt of an object is final. -/
  receipts : ∀ calls more leaseId e o receipt,
    (run step (new nodeId) calls).entries.get? leaseId = some e →
      e.ownerReceipts.get? o = some receipt → ∃ e',
        (run step (new nodeId) (calls ++ more)).entries.get? leaseId = some e' ∧
          e'.ownerReceipts.get? o = some receipt
  /-- A scan of the exact inventory does not raise. -/
  answers : ∀ calls inventory,
    (run step (new nodeId) calls).snapshot inventory.leaseRequest.leaseId = .ok (some inventory) →
      ∃ found, ((run step (new nodeId) calls).nextAbandonedDescriptor inventory).1 = .ok found
  /-- A scan returns nothing exactly when every replica has its receipt. -/
  exhausted : ∀ calls inventory found,
    ((run step (new nodeId) calls).nextAbandonedDescriptor inventory).1 = .ok found →
      (found = none ↔ ∀ d ∈ inventory.descriptors,
        Receipted (run step (new nodeId) calls) inventory.leaseRequest.leaseId d.objectId)
  /-- A round of scans returns each replica that has no receipt yet. -/
  round : ∀ calls more inventory d, d ∈ inventory.descriptors →
    inventory.descriptors.length ≤
      (outputs step (handoffs inventory) (run step (new nodeId) calls) more).length →
    ¬ Receipted (run step (new nodeId) (calls ++ more)) inventory.leaseRequest.leaseId d.objectId →
      some d ∈ outputs step (handoffs inventory) (run step (new nodeId) calls) more

theorem scan_answers (h : s.snapshot inventory.leaseRequest.leaseId = .ok (some inventory)) :
    ∃ found, (s.nextAbandonedDescriptor inventory).1 = .ok found := by
  unfold snapshot at h
  cases he : s.entries.get? inventory.leaseRequest.leaseId with
  | none => simp [he] at h
  | some e =>
    simp only [he, map_eq_ok, Option.some.injEq, exists_eq_right] at h
    have hok : ∃ result, e.nextAbandonedDescriptor s.nodeId inventory = .ok result := by
      unfold DependencyEntry.nextAbandonedDescriptor
      refine bind_ok_of h (bind_ok_of (raiseIf_ok (by simp)) ?_)
      dsimp only
      split
      · exact ⟨_, rfl⟩
      · exact ⟨_, rfl⟩
    obtain ⟨⟨found, e'⟩, hok⟩ := hok
    exact ⟨found, by simp [nextAbandonedDescriptor, onEntry, he, hok]⟩

theorem scan_exhausted (h : (s.nextAbandonedDescriptor inventory).1 = .ok found) : found = none ↔
      ∀ d ∈ inventory.descriptors, Receipted s inventory.leaseRequest.leaseId d.objectId := by
  obtain ⟨e, e', he, hnext, _⟩ := scan_returned h
  rcases (DependencyEntry.nextAbandonedDescriptor_spec hnext).2 with
    ⟨hfound, _, hall⟩ | ⟨index, x, hindex, hfound, hopen, _, _⟩
  · refine iff_of_true hfound fun d hd => ?_
    obtain ⟨receipt, hreceipt⟩ := Option.ne_none_iff_exists'.mp (hall d hd)
    exact ⟨e, receipt, he, hreceipt⟩
  · refine iff_of_false (by simp [hfound]) fun hall => ?_
    obtain ⟨e₁, receipt, he₁, hreceipt⟩ := hall x (List.mem_of_getElem? hindex)
    cases he.symm.trans he₁
    rw [hopen] at hreceipt
    cases hreceipt

variable {more : List CustodyCall}

theorem run_holds (hinv : s.Inv) (h : ∃ e, s.entries.get? leaseId = some e ∧ e.Holds d)
    (hkept : ¬ Occurs step (Discards leaseId d) s more) :
    ∃ e, (run step s more).entries.get? leaseId = some e ∧ e.Holds d := by
  induction more generalizing s with
  | nil => exact h
  | cons call more ih =>
    have hcall : ¬ Discards leaseId d s call := fun hd => hkept ⟨[], call, more, rfl, hd⟩
    refine ih (step_inv s call hinv) (step_holds hinv h hcall) fun hlater => hkept ?_
    obtain ⟨xs, a, ys, rfl, hd⟩ := hlater
    exact ⟨call :: xs, a, ys, rfl, hd⟩

theorem round_returns (hinv : s.Inv) (hd : d ∈ inventory.descriptors)
    (hlength : inventory.descriptors.length ≤ (outputs step (handoffs inventory) s more).length)
    (hopen : ¬ Receipted (run step s more) inventory.leaseRequest.leaseId d.objectId) :
    some d ∈ outputs step (handoffs inventory) s more := by
  have hsome : outputs step (handoffs inventory) s more ≠ [] := by
    intro hnil
    rw [hnil] at hlength
    exact absurd (List.length_pos_of_mem hd) (by simpa using hlength)
  obtain ⟨xs, call, ys, rfl, hquiet, hout⟩ := exists_first_output hsome
  rw [outputs_append, hquiet, List.nil_append] at hlength ⊢
  rw [run_append] at hopen
  have hinv' : (run step s xs).Inv := run_invariant (p := Inv) step_inv hinv xs
  generalize run step s xs = t at *
  have hscan : ∃ found, (t.nextAbandonedDescriptor inventory).1 = .ok found := by
    by_contra hnone
    exact hout (handoffs_other fun found hfound => absurd ⟨found, hfound⟩ hnone)
  obtain ⟨found, hfound⟩ := hscan
  rcases (rounding_of_scan hd hfound).over hinv' (call :: ys) with
    h | h | ⟨k, _, hless⟩ | ⟨_, hless⟩
  · exact h
  · exact absurd h hopen
  · omega
  · omega

end LeaseDependencyCustody

end MiniRay
