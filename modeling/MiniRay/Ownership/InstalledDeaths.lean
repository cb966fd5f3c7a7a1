import MiniRay.Ownership.Records

/-! A death enters the table through one call only, and stays there as it was recorded. -/

namespace MiniRay

open Checked

def Op.InstallsDeath {ε : Type} (op : Op ε) : Bool :=
  match op with
  | .installDeadWorker .. => true
  | _ => false

namespace ObjectOwnerTable

variable {ε : Type} {s s' : ObjectOwnerTable ε}

/-- An installation leaves exactly its own receipt, the first one when it is repeated. -/
structure InstallsReceipt (w : WorkerID) (deathId : String) (cleanup : DeadWorkerReferenceCleanup)
    (s s' : ObjectOwnerTable ε) : Prop where
  receipt : s'.deadWorkerCleanups.get? w = some cleanup
  exact_id : cleanup.record.deathId = deathId
  repeated : ∀ known, s.deadWorkerCleanups.get? w = some known → cleanup = known ∧ s' = s
  own : s.deadWorkerCleanups.get? w = none → cleanup.record.workerId = w
  others : ∀ v, v ≠ w → s'.deadWorkerCleanups.get? v = s.deadWorkerCleanups.get? v

variable {cleanup : DeadWorkerReferenceCleanup}

theorem installDeadWorker_receipt {w : WorkerID} {deathId : String}
    (h : s.installDeadWorker w deathId = .ok (cleanup, s')) :
    InstallsReceipt w deathId cleanup s s' := by
  simp only [installDeadWorker, bind_eq_ok] at h
  obtain ⟨⟨hid⟩, _, h⟩ := h
  cases hp : s.deadWorkerCleanups.get? w with
  | some previous =>
    simp only [hp, bind_eq_ok, raiseIf_eq_ok, pure_eq_ok, Prod.mk.injEq, not_not] at h
    obtain ⟨_, hsame, rfl, rfl⟩ := h
    refine ⟨hp, hsame, fun known hk => ?_, fun hnone => ?_, fun _ _ => rfl⟩
    · rw [hp] at hk
      exact ⟨Option.some.inj hk, rfl⟩
    · rw [hp] at hnone
      cases hnone
  | none =>
    simp only [hp, bind_eq_ok, pure_eq_ok, Prod.mk.injEq] at h
    obtain ⟨_, _, rfl, rfl⟩ := h
    refine ⟨Dict.get?_set_self _ _ _, rfl, fun known hk => ?_, fun _ => rfl, fun v hv => ?_⟩
    · rw [hp] at hk
      cases hk
    · exact Dict.get?_set_of_ne _ _ (Ne.symm hv)

theorem InstallsReceipt.kept {w : WorkerID} {deathId : String}
    (h : InstallsReceipt w deathId cleanup s s') {v : WorkerID} {known : DeadWorkerReferenceCleanup}
    (hv : s.deadWorkerCleanups.get? v = some known) :
    s'.deadWorkerCleanups.get? v = some known := by
  by_cases hw : v = w
  · rw [hw] at hv ⊢
    rw [(h.repeated known hv).2, hv]
  · rw [h.others v hw, hv]

variable [BEq ε]

theorem step_deaths (s : ObjectOwnerTable ε) (op : Op ε) (hop : Op.InstallsDeath op = false) :
    (s.step op).deadWorkerCleanups = s.deadWorkerCleanups := by
  by_cases hpublishes : Op.Publishes op
  · rw [step_references s op hpublishes]
  by_cases hchanges : Op.ChangesReferences op
  · exact (step_changes s op hchanges).dead
  refine (step_sameRecords s op (fun hcontained => ?_) hpublishes).deaths
  cases op with
  | installDeadWorker => cases hop
  | _ => first | exact hcontained.elim | exact hchanges trivial

end ObjectOwnerTable

end MiniRay
