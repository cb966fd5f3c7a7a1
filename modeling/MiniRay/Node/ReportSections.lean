import MiniRay.Node.ResourceReports

/-! A section uses the root through its calls only, and never takes the version back. -/

namespace MiniRay

open Run

def ResourceLedger.Called (l l' : ResourceLedger) : Prop :=
  ∃ ops, l' = run ResourceLedger.step l ops

namespace ResourceLedger

variable {l l' l'' : ResourceLedger}

theorem Called.refl (l : ResourceLedger) : l.Called l := ⟨[], rfl⟩

theorem Called.trans (h : l.Called l') (h' : l'.Called l'') : l.Called l'' := by
  obtain ⟨ops, rfl⟩ := h
  obtain ⟨ops', rfl⟩ := h'
  exact ⟨ops ++ ops', (run_append _ _ _ _).symm⟩

theorem called_step (l : ResourceLedger) (op : Op) : l.Called (l.step op) := ⟨[op], rfl⟩

theorem Called.balanced (h : l.Called l') (hl : l.Balanced) : l'.Balanced := by
  obtain ⟨ops, rfl⟩ := h
  exact balanced_run hl ops

theorem Called.total (h : l.Called l') (hl : l.Balanced) : l'.total = l.total := by
  obtain ⟨ops, rfl⟩ := h
  exact run_total hl ops

theorem Balanced.fitsIn (h : l.Balanced) : l.publicAvailable.fitsIn l.total = true := by
  rw [ResourceVector.fitsIn, List.all_eq_true]
  intro item hitem
  rw [decide_eq_true_eq, ← ResourceVector.units_of_mem hitem]
  have htotal := h.le_total item.1
  simp only [publicAvailable, ResourceVector.units_fromUnits, Dict.get?_mapValues]
  simp only [signedAvailable] at htotal
  cases hunits : l.availableUnits.get? item.1 with
  | none => simp
  | some units =>
    rw [hunits] at htotal
    simp only [Option.map_some, Option.getD_some] at htotal ⊢
    split <;> omega

end ResourceLedger

open ResourceLedger

theorem BlockingLease.openEpisode_called (lease : BlockingLease) (request : BlockingNotification) :
    lease.ledger.Called (lease.openEpisode request).2.ledger := by
  have hstep : (lease.ledger.yieldCpu lease.allocationToken).2 =
      lease.ledger.step (.yieldCpu lease.allocationToken) := rfl
  have hcalled := lease.ledger.called_step (.yieldCpu lease.allocationToken)
  rw [← hstep] at hcalled
  unfold BlockingLease.openEpisode
  cases hresult : lease.ledger.yieldCpu lease.allocationToken with
  | mk result ledger =>
    rw [hresult] at hcalled
    cases result with
    | error raised => exact hcalled
    | ok yielded =>
      dsimp only
      split <;> exact hcalled

theorem BlockingLease.closeEpisode_called (lease : BlockingLease)
    (request : BlockingNotification) :
    lease.ledger.Called (lease.closeEpisode request).2.ledger := by
  have hstep : (lease.ledger.reacquireCpu lease.allocationToken).2 =
      lease.ledger.step (.reacquireCpu lease.allocationToken) := rfl
  have hcalled := lease.ledger.called_step (.reacquireCpu lease.allocationToken)
  rw [← hstep] at hcalled
  unfold BlockingLease.closeEpisode
  dsimp only
  split
  · exact .refl _
  · cases hresult : lease.ledger.reacquireCpu lease.allocationToken with
    | mk result ledger =>
      rw [hresult] at hcalled
      rcases result with _ | (_ | _) <;> exact hcalled

theorem BlockingLease.notify_called (lease : BlockingLease) (request : BlockingNotification) :
    lease.ledger.Called (lease.notify request).2.ledger := by
  have hopen := lease.openEpisode_called request
  have hclose := lease.closeEpisode_called request
  unfold BlockingLease.notify
  split
  · unfold BlockingLease.notifyBlocked
    split
    · exact .refl _
    · split
      · exact .refl _
      · split
        · split <;> exact .refl _
        · split
          · exact .refl _
          · split
            · exact .refl _
            · exact hopen
  · unfold BlockingLease.notifyUnblocked
    split
    · exact .refl _
    · split
      · exact .refl _
      · split
        · split
          · exact hclose
          · exact .refl _
        · split
          · exact .refl _
          · split <;> exact .refl _

namespace ReportingNode

variable {n n' n'' : ReportingNode}

/-- What one section does to what a report is made of. -/
structure Enters (n n' : ReportingNode) : Prop where
  root : n.root.Called n'.root
  version : n.resourceReportVersion ≤ n'.resourceReportVersion
  reported : n'.resourceReportedVersion = n.resourceReportedVersion
  registered : n'.registeredWithGcs = n.registeredWithGcs
  nodePid : n'.nodePid = n.nodePid
  epoch : n'.registrationEpoch = n.registrationEpoch

theorem Enters.refl (n : ReportingNode) : n.Enters n := ⟨.refl _, Nat.le_refl _, rfl, rfl, rfl, rfl⟩

theorem Enters.trans (h : n.Enters n') (h' : n'.Enters n'') : n.Enters n'' :=
  ⟨h.root.trans h'.root, Nat.le_trans h.version h'.version, h'.reported.trans h.reported,
    h'.registered.trans h.registered, h'.nodePid.trans h.nodePid, h'.epoch.trans h.epoch⟩

theorem enters_markPending (n : ReportingNode) : n.Enters n.markPending :=
  ⟨.refl _, Nat.le_succ _, rfl, rfl, rfl, rfl⟩

theorem enters_markIf (n : ReportingNode) (condition : Bool) : n.Enters (n.markIf condition) := by
  unfold markIf
  split
  · exact n.enters_markPending
  · exact .refl n

theorem Enters.markIf (h : n.Enters n') (condition : Bool) : n.Enters (n'.markIf condition) :=
  h.trans (n'.enters_markIf condition)

theorem enters_setReservations {reservations : BundleReservationLedger}
    (h : n.root.Called reservations.resources) : n.Enters (n.setReservations reservations) :=
  ⟨h, Nat.le_refl _, rfl, rfl, rfl, rfl⟩

theorem enters_setRoot {root : ResourceLedger} (h : n.root.Called root) :
    n.Enters (n.setRoot root) :=
  ⟨h, Nat.le_refl _, rfl, rfl, rfl, rfl⟩

theorem enters_setLedger (ref : LedgerRef) {ledger : ResourceLedger}
    (h : (n.ledger ref).Called ledger) : n.Enters (n.setLedger ref ledger) := by
  cases ref with
  | none => exact enters_setRoot h
  | some key => exact enters_setReservations (.refl _)

theorem Enters.withLeases (h : n.Enters n') (leases : Dict LeaseID ReportingLease) :
    n.Enters { n' with leases := leases } :=
  ⟨h.root, h.version, h.reported, h.registered, h.nodePid, h.epoch⟩

theorem Enters.withActors (h : n.Enters n') (actorTokens : List AllocationToken) :
    n.Enters { n' with actorTokens := actorTokens } :=
  ⟨h.root, h.version, h.reported, h.registered, h.nodePid, h.epoch⟩

theorem Enters.remember (h : n.Enters n') (key : ReservationKey) :
    n.Enters (n'.remember key) := by
  unfold ReportingNode.remember
  split
  · exact h
  · exact ⟨h.root, h.version, h.reported, h.registered, h.nodePid, h.epoch⟩

/-! ## Leases -/

theorem ledger_of_grantLedger {ref : LedgerRef} {found : ResourceLedger}
    (h : n.grantLedger ref = some found) : n.ledger ref = found := by
  cases ref with
  | none => exact Option.some.inj h
  | some place =>
    obtain ⟨key, index⟩ := place
    simp only [grantLedger, BundleReservationLedger.ledgerFor] at h
    split at h
    · cases h
    · split at h
      · cases h
      · split at h
        · cases h
        · split at h
          · cases h
          · rename_i found hfound
            simp only [ledger, hfound]
            exact Option.some.inj h

theorem enters_grant (n : ReportingNode) (leaseId : LeaseID) (identity : BlockingIdentity)
    (ref : LedgerRef) (resources : ResourceVector) (token : AllocationToken) (fault : Bool) :
    n.Enters (n.grant leaseId identity ref resources token fault) := by
  unfold grant
  split
  · exact .refl n
  · split
    · exact .refl n
    · rename_i ledger hledger
      split
      · exact .refl n
      · have hstep : (ledger.tryAllocate resources (some token) token).2 =
            ledger.step (.tryAllocate resources (some token) token) := rfl
        have hcalled : (n.ledger ref).Called
            (ledger.tryAllocate resources (some token) token).2 := by
          rw [ledger_of_grantLedger hledger, hstep]
          exact ledger.called_step _
        split
        · rename_i allocated charged hallocate
          rw [hallocate] at hcalled
          split
          · exact enters_setLedger ref (hcalled.trans (charged.called_step (.release allocated)))
          · exact ((enters_setLedger ref hcalled).withLeases _).markIf _
        · rename_i charged hallocate
          rw [hallocate] at hcalled
          exact enters_setLedger ref hcalled

theorem enters_start (n : ReportingNode) (leaseId : LeaseID) : n.Enters (n.start leaseId) := by
  unfold start
  split
  · exact .refl n
  · exact (Enters.refl n).withLeases _

theorem enters_notify (n : ReportingNode) (leaseId : LeaseID) (request : BlockingNotification) :
    n.Enters (n.notify leaseId request) := by
  unfold notify
  split
  · exact .refl n
  · rename_i lease hlease
    have hcalled := BlockingLease.notify_called
      { lease.record with ledger := n.ledger lease.allocationLedger } request
    exact (enters_setLedger lease.allocationLedger hcalled).withLeases _

theorem finalizeRemoving_called (keys : List ReservationKey)
    (reservations : BundleReservationLedger) : reservations.resources.Called
      (finalizeRemoving keys reservations).2.resources := by
  induction keys generalizing reservations with
  | nil => exact .refl _
  | cons key rest ih =>
    simp only [finalizeRemoving]
    split
    · exact ih reservations
    · split
      · exact ih reservations
      · have hfirst : reservations.resources.Called
            (reservations.finalizeRemove key).2.resources :=
          reservations.finalizeRemove_run key
        split
        · rename_i raised after hfinal
          rw [hfinal] at hfirst
          exact hfirst
        · rename_i done after hfinal
          rw [hfinal] at hfirst
          exact hfirst.trans (ih after)

theorem enters_finalizeRemoving (n : ReportingNode) :
    n.Enters n.finalizeRemovingPlacementGroups := by
  have hcalled := finalizeRemoving_called n.placementGroups n.bundleReservations
  unfold finalizeRemovingPlacementGroups
  split
  · rename_i raised reservations hfinal
    rw [hfinal] at hcalled
    exact enters_setReservations hcalled
  · rename_i finalized reservations hfinal
    rw [hfinal] at hcalled
    exact (enters_setReservations hcalled).markIf _

theorem enters_releaseRecord (n : ReportingNode) (leaseId : LeaseID)
    (state : LeaseExecutionState) : n.Enters (n.releaseRecord leaseId state) := by
  unfold releaseRecord
  split
  · exact .refl n
  · rename_i lease hlease
    split
    · exact .refl n
    · dsimp only
      have hcalled := (n.ledger lease.allocationLedger).called_step
        (.release lease.record.allocationToken)
      have hstep : ((n.ledger lease.allocationLedger).release lease.record.allocationToken).2 =
        (n.ledger lease.allocationLedger).step (.release lease.record.allocationToken) := rfl
      rw [← hstep] at hcalled
      split
      · rename_i raised ledger hrelease
        rw [hrelease] at hcalled
        exact enters_setLedger _ hcalled
      · rename_i released ledger hrelease
        rw [hrelease] at hcalled
        exact (((enters_setLedger lease.allocationLedger hcalled).markIf _).withLeases _).trans
          (enters_finalizeRemoving _)

/-! ## Placement groups and actors -/

theorem enters_prepare (n : ReportingNode) (key : ReservationKey) (items : List BundleItem)
    (random : AllocationToken) : n.Enters (n.preparePlacementGroup key items random) := by
  have hcalled : n.root.Called (n.bundleReservations.prepare key items random).2.resources :=
    n.bundleReservations.step_run (.prepare key items random)
  unfold preparePlacementGroup
  split
  · rename_i raised reservations hprepare
    rw [hprepare] at hcalled
    exact enters_setReservations hcalled
  · rename_i accepted reservations hprepare
    rw [hprepare] at hcalled
    exact ((enters_setReservations hcalled).remember key).markIf _

theorem enters_commit (n : ReportingNode) (key : ReservationKey) :
    n.Enters (n.commitPlacementGroup key) := by
  unfold commitPlacementGroup
  split
  · exact .refl n
  · exact enters_setReservations (n.bundleReservations.step_run (.commit key))

theorem enters_abort (n : ReportingNode) (key : ReservationKey) :
    n.Enters (n.abortPlacementGroup key) := by
  have hcalled : n.root.Called (n.bundleReservations.abort key).2.resources :=
    n.bundleReservations.step_run (.abort key)
  unfold abortPlacementGroup
  split
  · rename_i raised reservations habort
    rw [habort] at hcalled
    exact (enters_setReservations hcalled).remember key
  · rename_i removed reservations habort
    rw [habort] at hcalled
    exact ((enters_setReservations hcalled).remember key).markIf _

theorem beginRemoveEach_called (keys : List ReservationKey)
    (reservations : BundleReservationLedger) : reservations.resources.Called
      (beginRemoveEach keys reservations).2.resources := by
  induction keys generalizing reservations with
  | nil => exact .refl _
  | cons key rest ih =>
    have hfirst : reservations.resources.Called (reservations.beginRemove key).2.resources :=
      reservations.step_run (.beginRemove key)
    simp only [beginRemoveEach]
    split
    · rename_i raised after hbegin
      rw [hbegin] at hfirst
      exact hfirst
    · rename_i accepted after hbegin
      rw [hbegin] at hfirst
      exact hfirst.trans (ih after)

theorem enters_beginRemoveAll (n : ReportingNode) : n.Enters n.beginRemoveAll := by
  have hcalled := beginRemoveEach_called n.placementGroups n.bundleReservations
  unfold beginRemoveAll
  split
  · rename_i reservations hbegin
    rw [hbegin] at hcalled
    exact enters_setReservations hcalled
  · rename_i reservations hbegin
    rw [hbegin] at hcalled
    exact ((enters_setReservations hcalled).trans (enters_finalizeRemoving _)).markIf _

theorem enters_reserveActor (n : ReportingNode) (resources : ResourceVector)
    (token : AllocationToken) : n.Enters (n.reserveActor resources token) := by
  have hstep : (n.root.tryAllocate resources (some token) token).2 =
      n.root.step (.tryAllocate resources (some token) token) := rfl
  have hcalled := n.root.called_step (.tryAllocate resources (some token) token)
  rw [← hstep] at hcalled
  unfold reserveActor
  split
  · rename_i allocated root hallocate
    rw [hallocate] at hcalled
    exact (enters_setRoot hcalled).withActors _
  · rename_i root hallocate
    rw [hallocate] at hcalled
    exact enters_setRoot hcalled

theorem enters_releaseActor (n : ReportingNode) (token : AllocationToken) (exited : Bool) :
    n.Enters (n.releaseActor token exited) := by
  have hstep : (n.root.release token).2 = n.root.step (.release token) := rfl
  have hcalled := n.root.called_step (.release token)
  rw [← hstep] at hcalled
  unfold releaseActor
  split
  · exact .refl n
  · split
    · rename_i raised root hrelease
      rw [hrelease] at hcalled
      exact enters_setRoot hcalled
    · rename_i released root hrelease
      rw [hrelease] at hcalled
      exact ((enters_setRoot hcalled).withActors _).markIf _

theorem enters (n : ReportingNode) (entry : Section) : n.Enters (n.enter entry) := by
  cases entry with
  | grant leaseId identity ref resources token fault =>
    exact n.enters_grant leaseId identity ref resources token fault
  | start leaseId => exact n.enters_start leaseId
  | notify leaseId request => exact n.enters_notify leaseId request
  | releaseRecord leaseId state => exact n.enters_releaseRecord leaseId state
  | preparePlacementGroup key items random => exact n.enters_prepare key items random
  | commitPlacementGroup key => exact n.enters_commit key
  | abortPlacementGroup key => exact n.enters_abort key
  | beginRemoveAll => exact n.enters_beginRemoveAll
  | reserveActor resources token => exact n.enters_reserveActor resources token
  | releaseActor token exited => exact n.enters_releaseActor token exited
  | markPending => exact n.enters_markPending

end ReportingNode

end MiniRay
