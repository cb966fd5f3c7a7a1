import MiniRay.Ownership.ContainedReferences
import MiniRay.Ownership.Results

/-! Installing one Worker's death retires exactly the references that name it. Later additions are
fenced by the installed proof. -/

namespace MiniRay

open Checked

/-! ## One entry -/

namespace ReferenceFields

def borrowedBy (workerId : WorkerID) (f : ReferenceFields) : Finset ReferenceToken :=
  f.borrowedTokens.filter fun token => borrowerWorkerId token = some workerId

def submittedBy (workerId : WorkerID) (f : ReferenceFields) : Finset TaskReferenceHold :=
  f.submittedTokens.filter fun hold => hold.submittingWorkerId = workerId

def retainedBy (workerId : WorkerID) (f : ReferenceFields) : Finset TaskReferenceHold :=
  f.retainedTokens.filter fun hold => hold.submittingWorkerId = workerId

def containedBy (workerId : WorkerID) (f : ReferenceFields) : Finset ContainedReferenceHold :=
  f.containedHolds.filter fun hold => hold.containerOwnerWorkerId = workerId

/-- The entry holds a reference that names the Worker. -/
def IsAffected (workerId : WorkerID) (f : ReferenceFields) : Prop :=
  f.borrowedBy workerId ≠ ∅ ∨ f.submittedBy workerId ≠ ∅ ∨ f.retainedBy workerId ≠ ∅ ∨
    f.containedBy workerId ≠ ∅

instance (workerId : WorkerID) (f : ReferenceFields) : Decidable (f.IsAffected workerId) :=
  inferInstanceAs (Decidable (_ ∨ _))

/-- The source bindings of the dead Worker's borrowers stay. -/
def withoutWorker (workerId : WorkerID) (f : ReferenceFields) : ReferenceFields := { f with
  borrowedTokens := f.borrowedTokens \ f.borrowedBy workerId
  releasedBorrowedTokens := f.releasedBorrowedTokens ∪ f.borrowedBy workerId
  submittedTokens := f.submittedTokens \ f.submittedBy workerId
  retainedTokens := f.retainedTokens \ f.retainedBy workerId
  releasedRetainedTokens := f.releasedRetainedTokens ∪ f.retainedBy workerId
  containedHolds := f.containedHolds \ f.containedBy workerId }

theorem withoutWorker_holds {w : WorkerID} {f : ReferenceFields} (ref : Reference) :
    (f.withoutWorker w).Holds ref ↔ f.Holds ref ∧ ref.workerId ≠ some w := by
  cases ref <;>
    simp only [Holds, withoutWorker, borrowedBy, submittedBy, retainedBy, containedBy,
      Reference.workerId, Finset.mem_sdiff, Finset.mem_filter, ne_eq, Option.some.injEq] <;>
    simp +contextual

end ReferenceFields

def ObjectOwnerEntry.withoutWorker {ε : Type} (workerId : WorkerID) (e : ObjectOwnerEntry ε) :
    ObjectOwnerEntry ε :=
  { e with toReferenceFields := e.toReferenceFields.withoutWorker workerId }

theorem ObjectOwnerEntry.withoutWorker_objectId {ε : Type} (workerId : WorkerID)
    (e : ObjectOwnerEntry ε) : (e.withoutWorker workerId).objectId = e.objectId := rfl

namespace ObjectOwnerTable

variable {ε : Type} {self s' : ObjectOwnerTable ε} {keeps : ObjectID → ReferenceToken → Prop}
  {c : CallerConditions}

/-! ## All entries -/

/-- The identities one death retires, paired with the object that held them. -/
def retiredBy {τ : Type} [DecidableEq τ] (self : ObjectOwnerTable ε)
    (f : ObjectOwnerEntry ε → Finset τ) : Finset (ObjectID × τ) :=
  self.entries.items.foldr (fun item found => (f item.2).image (item.1, ·) ∪ found) ∅

theorem mem_retiredBy {τ : Type} [DecidableEq τ] {f : ObjectOwnerEntry ε → Finset τ}
    {o : ObjectID} {t : τ} :
    (o, t) ∈ self.retiredBy f ↔ ∃ e, self.entries.get? o = some e ∧ t ∈ f e := by
  have hitems : ∀ items : List (ObjectID × ObjectOwnerEntry ε),
      (o, t) ∈ items.foldr (fun item found => (f item.2).image (item.1, ·) ∪ found) ∅ ↔
        ∃ e, (o, e) ∈ items ∧ t ∈ f e := by
    intro items
    induction items with
    | nil => simp
    | cons item items ih =>
      obtain ⟨o', e'⟩ := item
      simp only [List.foldr_cons, Finset.mem_union, ih, Finset.mem_image, Prod.mk.injEq,
        List.mem_cons]
      constructor
      · rintro (⟨t', ht, rfl, rfl⟩ | ⟨e, he, ht⟩)
        · exact ⟨e', .inl ⟨rfl, rfl⟩, ht⟩
        · exact ⟨e, .inr he, ht⟩
      · rintro ⟨e, ⟨rfl, rfl⟩ | he, ht⟩
        · exact .inl ⟨t, ht, rfl, rfl⟩
        · exact .inr ⟨e, he, ht⟩
  simp only [retiredBy, hitems, Dict.get?_eq_some_iff]

/-- What the table remembers of the references one death retires. -/
def buryWorker (self : ObjectOwnerTable ε) (record : DeadWorkerReferenceRecord)
    (cleanup : DeadWorkerReferenceCleanup) : ReferenceHistory :=
  { self.toReferenceHistory with
    releasedBorrowedTokens := self.releasedBorrowedTokens ∪ cleanup.releasedBorrowerTokens
    releasedSubmittedTokens := self.releasedSubmittedTokens ∪ cleanup.releasedSubmittedHolds
    releasedRetainedTokens := self.releasedRetainedTokens ∪ cleanup.releasedRetainedHolds
    releasedContainedHolds := self.releasedContainedHolds ∪ cleanup.releasedContainedHolds
    deadWorkerIds := self.deadWorkerIds.set record.deathId record.workerId
    deadWorkerCleanups := self.deadWorkerCleanups.set record.workerId cleanup }

/-- The receipt of one scan over all entries. -/
def deathCleanup (self : ObjectOwnerTable ε) (record : DeadWorkerReferenceRecord) :
    DeadWorkerReferenceCleanup :=
  let w := record.workerId
  { record := record
    affectedObjectIds := self.scanOrder fun e => decide (e.IsAffected w)
    collectableObjectIds :=
      self.scanOrder fun e => decide (e.IsAffected w) && !(e.withoutWorker w).isLive
    releasedBorrowerTokens := self.retiredBy fun e => e.borrowedBy w
    releasedSubmittedHolds := self.retiredBy fun e => e.submittedBy w
    releasedRetainedHolds := self.retiredBy fun e => e.retainedBy w
    releasedContainedHolds := self.retiredBy fun e => e.containedBy w }

def installDeadWorker (self : ObjectOwnerTable ε) (workerId : WorkerID) (deathId : String) :
    Except Raised (DeadWorkerReferenceCleanup × ObjectOwnerTable ε) := do
  let ⟨hid⟩ ← certify (deathId ≠ "") ⟨.typeError, "death_id must be a non-empty string"⟩
  let record : DeadWorkerReferenceRecord := ⟨workerId, deathId, hid⟩
  match self.deadWorkerCleanups.get? workerId with
  | some previous => do
      raiseIf (previous.record.deathId ≠ deathId)
        ⟨.deadWorkerReferenceConflict, "Worker death proof conflicts with its tombstone"⟩
      return (previous, self)
  | none => do
      raiseIf (∃ previous ∈ self.deadWorkerIds.get? deathId, previous ≠ workerId)
        ⟨.deadWorkerReferenceConflict, "death_id was already installed for another Worker"⟩
      let cleanup := self.deathCleanup record
      return (cleanup, {
        self.mapEntries (.withoutWorker workerId)
          (ObjectOwnerEntry.withoutWorker_objectId workerId) with
        toReferenceHistory := self.buryWorker record cleanup })

variable {w : WorkerID} {deathId : String} {cleanup : DeadWorkerReferenceCleanup}

theorem installDeadWorker_cases (h : self.installDeadWorker w deathId = .ok (cleanup, s')) :
    (self.deadWorkerCleanups.get? w = some cleanup ∧ s' = self) ∨
      ∃ record, record.workerId = w ∧ cleanup = self.deathCleanup record ∧
        s' = { self.mapEntries (.withoutWorker w) (ObjectOwnerEntry.withoutWorker_objectId w) with
          toReferenceHistory := self.buryWorker record cleanup } := by
  simp only [installDeadWorker, bind_eq_ok] at h
  obtain ⟨⟨hid⟩, _, h⟩ := h
  cases hp : self.deadWorkerCleanups.get? w with
  | some previous =>
    simp only [hp, bind_eq_ok, pure_eq_ok, Prod.mk.injEq] at h
    obtain ⟨_, _, rfl, rfl⟩ := h
    exact .inl ⟨rfl, rfl⟩
  | none =>
    simp only [hp, bind_eq_ok, pure_eq_ok, Prod.mk.injEq] at h
    obtain ⟨_, _, rfl, rfl⟩ := h
    exact .inr ⟨⟨w, deathId, hid⟩, rfl, rfl, rfl⟩

theorem installDeadWorker_keeps (h : self.installDeadWorker w deathId = .ok (cleanup, s'))
    {v : WorkerID} {known : DeadWorkerReferenceCleanup}
    (hv : self.deadWorkerCleanups.get? v = some known) :
    s'.deadWorkerCleanups.get? v = some known := by
  simp only [installDeadWorker, bind_eq_ok] at h
  obtain ⟨_, _, h⟩ := h
  cases hp : self.deadWorkerCleanups.get? w with
  | some previous =>
    simp only [hp, bind_eq_ok, pure_eq_ok, Prod.mk.injEq] at h
    obtain ⟨_, _, _, rfl⟩ := h
    exact hv
  | none =>
    simp only [hp, bind_eq_ok, pure_eq_ok, Prod.mk.injEq] at h
    obtain ⟨_, _, _, rfl⟩ := h
    simpa only [buryWorker] using Dict.get?_set_kept hp hv

theorem withoutWorker_move {record : DeadWorkerReferenceRecord} {o : ObjectID} {idle : Prop}
    {e : ObjectOwnerEntry ε} (he : self.entries.get? o = some e) :
    ReferenceMove self.toReferenceHistory (self.buryWorker record (self.deathCleanup record)) o
      idle e.toReferenceFields (e.withoutWorker record.workerId).toReferenceFields := by
  refine .released (fun ref => e.Holds ref ∧ ref.workerId = some record.workerId) ?_ ?_
  · intro ref
    rw [ObjectOwnerEntry.withoutWorker, ReferenceFields.withoutWorker_holds]
    tauto
  · rintro (t | t | t | t | t | t) <;>
      simp [ReferenceFields.Gone, buryWorker, deathCleanup, mem_retiredBy, he,
        ObjectOwnerEntry.withoutWorker, ReferenceFields.withoutWorker, ReferenceFields.borrowedBy,
        ReferenceFields.submittedBy, ReferenceFields.retainedBy, ReferenceFields.containedBy,
        ReferenceFields.Holds, Reference.workerId, Reference.IsLocal]

theorem installDeadWorker_references (h : self.installDeadWorker w deathId = .ok (cleanup, s')) :
    ReferenceSpec keeps self s' := by
  rcases installDeadWorker_cases h with ⟨_, rfl⟩ | ⟨record, rfl, rfl, rfl⟩
  · exact .refl _
  · refine .of_moves ?_ ?_ rfl ?_ ?_
    · intro o e he
      exact ⟨e.withoutWorker record.workerId, by simp [he], withoutWorker_move he⟩
    · intro o ho
      refine ⟨by simp [ho], ⟨?_, ?_, ?_, ?_⟩⟩ <;>
        simp [buryWorker, deathCleanup, mem_retiredBy, ho]
    · intro w hw
      simp only [ReferenceHistory.Dead, buryWorker, Dict.get?_set] at hw ⊢
      split
      · rfl
      · exact hw
    · intro w hw
      simp only [ReferenceHistory.Dead, buryWorker, Dict.get?_set] at hw
      split at hw
      · next hrecord =>
          refine .inr fun o ref href => ?_
          rintro ⟨e', he', hh⟩
          simp only [get?_mapEntries, Option.map_eq_some_iff] at he'
          obtain ⟨e, _, rfl⟩ := he'
          exact ((ReferenceFields.withoutWorker_holds ref).mp hh).2 (hrecord ▸ href)
      · exact .inl hw

theorem installDeadWorker_results (h : self.installDeadWorker w deathId = .ok (cleanup, s')) :
    ResultSpec c self s' := by
  rcases installDeadWorker_cases h with ⟨_, rfl⟩ | ⟨record, rfl, rfl, rfl⟩
  · exact .refl _
  · refine .of_kept ?_ (Finset.Subset.refl _) rfl
    intro o
    simp only [get?_mapEntries, Option.map_map]
    rfl

end ObjectOwnerTable

end MiniRay
