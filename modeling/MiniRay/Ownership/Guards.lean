import MiniRay.Ownership.Types

/-! # Lookups and guards of the owner table -/

namespace MiniRay

open Checked

def ReferenceHistory.Dead (h : ReferenceHistory) (w : WorkerID) : Prop :=
  (h.deadWorkerCleanups.get? w).isSome

instance (h : ReferenceHistory) (w : WorkerID) : Decidable (h.Dead w) :=
  inferInstanceAs (Decidable (_ = true))

/-- The fence of a borrower's Worker, when its token names one. -/
def ReferenceHistory.BorrowerIsDead (h : ReferenceHistory) (token : ReferenceToken) : Prop :=
  ∃ w ∈ borrowerWorkerId token, h.Dead w

instance (h : ReferenceHistory) (token : ReferenceToken) : Decidable (h.BorrowerIsDead token) := by
  unfold ReferenceHistory.BorrowerIsDead
  cases borrowerWorkerId token with
  | none => exact isFalse (by simp)
  | some w => exact decidable_of_iff (h.Dead w) (by simp)

namespace ObjectOwnerTable

variable {ε : Type}

/-! ## Lookups -/

def entry (self : ObjectOwnerTable ε) (objectId : ObjectID) :
    Except Raised (ObjectOwnerEntry ε) :=
  match self.entries.get? objectId with
  | some e => .ok e
  | none => .error ⟨.unknownObject, "owner does not know object " ++ objectId.repr⟩

variable {self : ObjectOwnerTable ε} {o : ObjectID} {e : ObjectOwnerEntry ε}

@[simp] theorem entry_eq_ok : self.entry o = .ok e ↔ self.entries.get? o = some e := by
  unfold entry
  cases self.entries.get? o <;> simp

/-- A lookup that remembers the identity the entry is filed under. -/
def keyedEntry (self : ObjectOwnerTable ε) (objectId : ObjectID) :
    Except Raised {e : ObjectOwnerEntry ε // e.objectId = objectId} :=
  match h : self.entries.get? objectId with
  | some e => .ok ⟨e, self.keyed objectId e h⟩
  | none => .error ⟨.unknownObject, "owner does not know object " ++ objectId.repr⟩

@[simp] theorem keyedEntry_eq_ok {e : {e : ObjectOwnerEntry ε // e.objectId = o}} :
    self.keyedEntry o = .ok e ↔ self.entries.get? o = some e.val := by
  unfold keyedEntry
  split
  · next e₀ h => simp [h, Subtype.ext_iff]
  · next h => simp [h]

/-- A subscript, which raises `KeyError`. -/
def subscript (self : ObjectOwnerTable ε) (objectId : ObjectID) :
    Except Raised {e : ObjectOwnerEntry ε // e.objectId = objectId} :=
  match h : self.entries.get? objectId with
  | some e => .ok ⟨e, self.keyed objectId e h⟩
  | none => .error ⟨.keyError, objectId.repr⟩

@[simp] theorem subscript_eq_ok {e : {e : ObjectOwnerEntry ε // e.objectId = o}} :
    self.subscript o = .ok e ↔ self.entries.get? o = some e.val := by
  unfold subscript
  split
  · next e₀ h => simp [h, Subtype.ext_iff]
  · next h => simp [h]

theorem get?_objectId (h : self.entries.get? o = some e) :
    self.entries.get? e.objectId = some e := by
  rw [self.keyed o e h, h]

def IsCollected (self : ObjectOwnerTable ε) (o : ObjectID) : Prop := (self.collected.get? o).isSome

instance (self : ObjectOwnerTable ε) (o : ObjectID) : Decidable (self.IsCollected o) :=
  inferInstanceAs (Decidable (_ = true))

/-! ## Guards -/

def requireNotCollecting (e : ObjectOwnerEntry ε) (message : String) : Except Raised Unit :=
  raiseIf (e.collectionPending = true) ⟨.objectCollectionInProgress, message⟩

variable {u : Unit}

@[simp] theorem requireNotCollecting_eq_ok {m : String} :
    requireNotCollecting e m = .ok u ↔ e.collectionPending = false := by
  simp [requireNotCollecting]

def collectionIsPending (objectId : ObjectID) : String :=
  "object metadata collection is pending for " ++ objectId.repr

/-- An attempt must belong to the object's task. -/
def requireAttempt (objectId : ObjectID) (attemptId : Option AttemptID) : Except Raised Unit :=
  raiseIf (∃ a ∈ attemptId, a.taskId ≠ objectId.taskId)
    ⟨.valueError, "attempt_id must belong to object_id.task_id"⟩

@[simp] theorem requireAttempt_eq_ok {a : Option AttemptID} :
    requireAttempt o a = .ok u ↔ ∀ x, a = some x → x.taskId = o.taskId := by
  simp [requireAttempt]

def requireNoOutputRetirement (e : ObjectOwnerEntry ε) : Except Raised Unit :=
  raiseIf (e.outputRetirementId ≠ none)
    ⟨.outputOwnerRetirementInProgress,
      "output retirement cleanup is still pending for " ++ e.objectId.repr⟩

@[simp] theorem requireNoOutputRetirement_eq_ok :
    requireNoOutputRetirement e = .ok u ↔ e.outputRetirementId = none := by
  simp [requireNoOutputRetirement]

def requireOutputMembershipsRetired (e : ObjectOwnerEntry ε) : Except Raised Unit :=
  raiseIf (e.outputPublication ≠ none)
    ⟨.outputOwnerPublicationCollectionRequired,
      "output attempt cannot advance before old publication retirement"⟩

@[simp] theorem requireOutputMembershipsRetired_eq_ok :
    requireOutputMembershipsRetired e = .ok u ↔ e.outputPublication = none := by
  simp [requireOutputMembershipsRetired]

def requireLiveWorker (self : ObjectOwnerTable ε) (workerId : WorkerID) : Except Raised Unit :=
  raiseIf (self.Dead workerId)
    ⟨.deadWorkerReference, "dead Worker cannot add an object reference"⟩

@[simp] theorem requireLiveWorker_eq_ok {w : WorkerID} :
    self.requireLiveWorker w = .ok u ↔ ¬ self.Dead w := by
  simp [requireLiveWorker]

def CurrentAttemptRetired (self : ObjectOwnerTable ε) (e : ObjectOwnerEntry ε) : Prop :=
  ∃ a ∈ e.currentAttempt, (e.objectId, a) ∈ self.retiredOutputAttempts

instance (self : ObjectOwnerTable ε) (e : ObjectOwnerEntry ε) :
    Decidable (self.CurrentAttemptRetired e) := by
  unfold CurrentAttemptRetired
  cases e.currentAttempt with
  | none => exact isFalse (by simp)
  | some a => exact decidable_of_iff ((e.objectId, a) ∈ self.retiredOutputAttempts) (by simp)

def requirePublishable (self : ObjectOwnerTable ε) (e : ObjectOwnerEntry ε) (allowLost : Bool) :
    Except Raised Unit := do
  raiseIf (self.CurrentAttemptRetired e)
    ⟨.invalidObjectTransition, "retired output attempt cannot publish a result"⟩
  raiseIf (¬ (e.state = .pending ∨ allowLost = true ∧ e.state = .lost))
    ⟨.invalidObjectTransition,
      "cannot publish " ++ e.objectId.repr ++ " from state " ++ e.state.value⟩
  raiseIf (e.locationAttempts.items ≠ [])
    ⟨.invalidObjectTransition,
      "cannot publish " ++ e.objectId.repr ++ " while old locations remain"⟩

@[simp] theorem requirePublishable_eq_ok {allowLost : Bool} :
    self.requirePublishable e allowLost = .ok u ↔
      ¬ self.CurrentAttemptRetired e ∧
        (e.state = .pending ∨ allowLost = true ∧ e.state = .lost) ∧
        e.locationAttempts.items = [] := by
  simp only [requirePublishable, bind_eq_ok, raiseIf_eq_ok, exists_and_left, exists_const, not_not]

/-! ## Task lineage -/

def TaskLineageObligation.edge (producer : ObjectID) (obligation : TaskLineageObligation) :
    LineageReferenceEdge :=
  ⟨producer, obligation.dependencyObjectId, obligation.token, obligation.token_ne⟩

/-- The dependency releases the object's collection has to claim. -/
def finalTaskLineage (self : ObjectOwnerTable ε) (objectId : ObjectID) :
    Except Raised (List LineageReferenceEdge) :=
  match self.taskLineage.get? objectId.taskId with
  | none => .ok []
  | some authority => do
      raiseIf (authority.outputIds ≠ [objectId])
        ⟨.invalidObjectTransition, "collection object is outside task lineage manifest"⟩
      return Sorted.sorted (authority.obligations.image (TaskLineageObligation.edge objectId))

variable {s s' : ObjectOwnerTable ε}

theorem finalTaskLineage_congr (h : s'.taskLineage.get? o.taskId = s.taskLineage.get? o.taskId) :
    s'.finalTaskLineage o = s.finalTaskLineage o := by
  rw [finalTaskLineage, finalTaskLineage, h]

/-- Removing the lineage of a single object leaves other objects' claims alone. -/
theorem finalTaskLineage_erase {x : ObjectID} (h : s'.taskLineage = s.taskLineage.erase o.taskId)
    (hx : x ≠ o)
    (howner : ∀ authority, s.taskLineage.get? o.taskId = some authority → authority.outputIds = [o])
    {l : List LineageReferenceEdge} (hl : s.finalTaskLineage x = .ok l) :
    s'.finalTaskLineage x = .ok l := by
  rw [← hl]
  apply finalTaskLineage_congr
  rw [h, Dict.get?_erase]
  split
  · next ht =>
      cases ha : s.taskLineage.get? x.taskId with
      | none => rfl
      | some authority =>
        have ho := howner authority (ht ▸ ha)
        simp only [finalTaskLineage, ha, bind_eq_ok, raiseIf_eq_ok, not_not] at hl
        obtain ⟨_, hids, _⟩ := hl
        rw [ho, List.singleton_inj] at hids
        exact absurd hids.symm hx
  · rfl

end ObjectOwnerTable

end MiniRay
