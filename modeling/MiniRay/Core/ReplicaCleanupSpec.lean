import MiniRay.Core.ReplicaCleanupSteps

/-! Over all runs of an open Core: proofs are exact and final, one drive at a time is out for a
drop, an event, a timer or the reference-event thread comes back for what is pending, and the last
completion of an object leads to a collection check. -/

namespace MiniRay

namespace LateCleanup

variable {q q' : ReplicaCleanupQueue} {s : CoreState}

def KeepsCompleted (drives drives' : Dict Driving Drive) : Prop :=
  ∀ driving drive, drives.get? driving = some drive → ∃ next,
    drives'.get? driving = some next ∧ drive.completed ⊆ next.completed

theorem KeepsCompleted.refl (drives : Dict Driving Drive) : KeepsCompleted drives drives :=
  fun _ drive h => ⟨drive, h, List.Subset.refl _⟩

theorem KeepsCompleted.set {drives : Dict Driving Drive} {driving : Driving} {drive : Drive}
    (h : ∀ old, drives.get? driving = some old → old.completed ⊆ drive.completed) :
    KeepsCompleted drives (drives.set driving drive) := by
  intro other old hold
  by_cases hsame : driving = other
  · subst hsame
    exact ⟨drive, Dict.get?_set_self .., h old hold⟩
  · exact ⟨old, (Dict.get?_set_of_ne _ _ hsame).trans hold, List.Subset.refl _⟩

theorem KeepsCompleted.set_of {drives : Dict Driving Drive} {driving : Driving} {old new : Drive}
    (hold : drives.get? driving = some old) (hsub : old.completed ⊆ new.completed) :
    KeepsCompleted drives (drives.set driving new) :=
  .set fun _ hget => Option.some.inj (hold.symm.trans hget) ▸ hsub

/-! ## Records stay -/

theorem schedule_evolves : Evolves s.cleanup (scheduleLateReplicaCleanup s).cleanup := by
  rw [(schedule_keeps s).1]
  exact .refl _

theorem retain_evolves (request : DropObjectReplica) :
    Evolves s.cleanup (retainRetiredReplicaCleanup s request).cleanup := by
  simp only [retainRetiredReplicaCleanup]
  cases s.processExit request.nodeId with
  | none => exact (enqueue_evolves request).trans (schedule_evolves (s := { s with
      cleanup := s.cleanup.enqueue request }))
  | some death =>
    exact ((enqueue_evolves request).trans (acknowledgeNodeDeath_evolves death)).trans
      (schedule_evolves (s := { s with
        cleanup := ((s.cleanup.enqueue request).acknowledgeNodeDeath death).2 }))

theorem handleNodeDeath_evolves (death : NodeDeathRecord) :
    Evolves s.cleanup (handleNodeDeath s death).cleanup := by
  simp only [handleNodeDeath]
  cases s.deadNodes.get? death.nodeId with
  | some old => exact .refl _
  | none =>
    simp only []
    by_cases hreason : death.reason = .processExit
    · rw [if_pos hreason]
      exact acknowledgeNodeDeath_evolves death
    · rw [if_neg hreason]
      exact .refl _

theorem startDrive_cases (driving : Driving) : (startDrive s driving).cleanup = s.cleanup ∧
    KeepsCompleted s.drives (startDrive s driving).drives := by
  simp only [startDrive]
  cases hdrive : s.drives.get? driving with
  | some drive => exact ⟨rfl, .refl _⟩
  | none => exact ⟨rfl, .set fun old hold => by cases hdrive.symm.trans hold⟩

theorem takeEvent_cases : (takeEvent s).cleanup = s.cleanup ∧
    KeepsCompleted s.drives (takeEvent s).drives := by
  simp only [takeEvent]
  cases s.drives.get? .referenceThread with
  | some drive => exact ⟨rfl, .refl _⟩
  | none =>
    cases s.mailbox with
    | nil => exact ⟨rfl, .refl _⟩
    | cons event rest =>
      cases event with
      | retryReplicaCleanup => exact startDrive_cases (s := { s with mailbox := rest }) _
      | retryInlineGc objectId =>
        simp only []
        by_cases hopen : s.cleanup.hasPending (some objectId) = true
        · rw [if_pos hopen, (schedule_keeps _).1, (schedule_keeps _).2.2]
          exact ⟨rfl, .refl _⟩
        · rw [if_neg hopen]
          exact ⟨rfl, .refl _⟩
      | other => exact ⟨rfl, .refl _⟩

theorem driveNext_cases (driving : Driving) :
    KeepsCompleted s.drives (driveNext s driving).drives ∧
      ((driveNext s driving).cleanup = s.cleanup ∨
        (∃ death request, s.processExit request = some death ∧
          (driveNext s driving).cleanup = (s.cleanup.acknowledgeNodeDeath death).2) ∨
        ∃ request current, s.cleanup.get? request = some current ∧
          (driveNext s driving).cleanup =
            s.cleanup.set request { current with inFlight := true }) := by
  simp only [driveNext]
  cases hdrive : s.drives.get? driving with
  | none => exact ⟨.refl _, .inl rfl⟩
  | some drive =>
    obtain ⟨requests, phase, completed⟩ := drive
    cases phase with
    | sent request => exact ⟨.refl _, .inl rfl⟩
    | answered request => exact ⟨.refl _, .inl rfl⟩
    | next =>
      cases requests with
      | nil => exact ⟨.refl _, .inl rfl⟩
      | cons request rest =>
        simp only []
        cases hexit : s.processExit request.nodeId with
        | some death =>
          exact ⟨.set_of hdrive (List.subset_append_left _ _),
            .inr (.inl ⟨death, request.nodeId, hexit, rfl⟩)⟩
        | none =>
          simp only []
          cases hclaim : s.cleanup.claim request with
          | mk claimed next =>
            cases claimed with
            | false => exact ⟨.set_of hdrive (List.Subset.refl _), .inl rfl⟩
            | true =>
              obtain ⟨current, hcurrent, -, -, hset⟩ := claim_true hclaim
              exact ⟨.set_of hdrive (List.Subset.refl _),
                .inr (.inr ⟨request, current, hcurrent, hset⟩)⟩

theorem driveAnswer_cases (h : Inv s) (driving : Driving) (reply : Option DropObjectReplicaReply) :
    KeepsCompleted s.drives (driveAnswer s driving reply).drives ∧
      ((driveAnswer s driving reply).cleanup = s.cleanup ∨ ∃ request current proof drive,
        s.cleanup.get? request = some current ∧ current.proof = none ∧ current.inFlight = true ∧
        (driveAnswer s driving reply).cleanup =
          s.cleanup.set request { current with proof := some proof } ∧
        (driveAnswer s driving reply).drives.get? driving = some drive ∧
        request.objectId ∈ drive.completed) := by
  simp only [driveAnswer]
  cases hdrive : s.drives.get? driving with
  | none => exact ⟨.refl _, .inl rfl⟩
  | some drive =>
    obtain ⟨requests, phase, completed⟩ := drive
    cases phase with
    | next => exact ⟨.refl _, .inl rfl⟩
    | answered request => exact ⟨.refl _, .inl rfl⟩
    | sent request =>
      simp only []
      cases reply with
      | none => exact ⟨.set_of hdrive (List.Subset.refl _), .inl rfl⟩
      | some reply =>
        rw [Option.map_some]
        cases hack : s.cleanup.acknowledge request reply with
        | mk acknowledged next =>
          cases acknowledged with
          | false => exact ⟨.set_of hdrive (List.Subset.refl _), .inl rfl⟩
          | true =>
            obtain ⟨-, -, current, hcurrent, hproof, hset⟩ := acknowledge_true hack
            obtain ⟨found, hfound, hflight⟩ :=
              h.drives.flights driving _ request hdrive (.inl rfl)
            rw [hcurrent] at hfound
            cases hfound
            exact ⟨.set_of hdrive (List.subset_append_left _ _),
              .inr ⟨request, current, _, _, hcurrent, hproof, hflight, hset,
                Dict.get?_set_self .., List.mem_append_right _ (List.mem_singleton_self _)⟩⟩

theorem driveRetire_cases (driving : Driving) :
    KeepsCompleted s.drives (driveRetire s driving).drives ∧
      ((driveRetire s driving).cleanup = s.cleanup ∨ ∃ request current drive,
        s.cleanup.get? request = some current ∧
        (driveRetire s driving).cleanup =
          s.cleanup.set request { current with inFlight := false } ∧
        (driveRetire s driving).drives.get? driving = some drive ∧
        ((driveRetire s driving).cleanup.hasPending (some request.objectId) = false →
          request.objectId ∈ drive.completed)) := by
  simp only [driveRetire]
  cases hdrive : s.drives.get? driving with
  | none => exact ⟨.refl _, .inl rfl⟩
  | some drive =>
    obtain ⟨requests, phase, completed⟩ := drive
    cases phase with
    | next => exact ⟨.refl _, .inl rfl⟩
    | sent request => exact ⟨.refl _, .inl rfl⟩
    | answered request =>
      refine ⟨.set_of hdrive ?_, ?_⟩
      · simp only []
        split
        · exact List.Subset.refl _
        · exact List.subset_append_left _ _
      · simp only []
        rcases unclaim_spec s.cleanup request with ⟨-, hsame⟩ | ⟨current, hcurrent, hset⟩
        · exact .inl hsame
        · refine .inr ⟨request, current, _, hcurrent, hset, Dict.get?_set_self .., ?_⟩
          intro hclosed
          rw [hclosed]
          exact List.mem_append_right _ (List.mem_singleton_self _)

theorem driveFinish_cleanup (driving : Driving) : (driveFinish s driving).cleanup = s.cleanup := by
  simp only [driveFinish]
  cases s.drives.get? driving with
  | none => rfl
  | some drive =>
    obtain ⟨requests, phase, completed⟩ := drive
    cases phase with
    | sent request => rfl
    | answered request => rfl
    | next =>
      cases requests with
      | cons request rest => rfl
      | nil =>
        simp only []
        generalize hs' : enqueueInlineGcChecks { s with drives := s.drives.erase driving }
          completed.eraseDups = s'
        have hcleanup : s'.cleanup = s.cleanup := by
          rw [← hs']
          rfl
        by_cases hretry : s'.cleanup.hasPending none = true ∧ driving = .referenceThread ∧
            s'.scheduled = false
        · rw [if_pos hretry]
          exact hcleanup
        · rw [if_neg hretry]
          exact hcleanup

theorem timerFires_cleanup : (timerFires s).cleanup = s.cleanup := by
  simp only [timerFires]
  by_cases hnone : s.timers = 0
  · rw [if_pos hnone]
  · rw [if_neg hnone]

theorem step_evolves (h : Inv s) (a : Action) : Evolves s.cleanup (step s a).cleanup := by
  cases a with
  | retain request => exact retain_evolves request
  | handleNodeDeath death => exact handleNodeDeath_evolves death
  | scheduleLate => exact schedule_evolves
  | enqueueCheck objectId => exact .refl _
  | enqueueOther => exact .refl _
  | takeEvent =>
    change Evolves s.cleanup (takeEvent s).cleanup
    rw [takeEvent_cases.1]
    exact .refl _
  | startShutdownDrive thread =>
    change Evolves s.cleanup (startDrive s _).cleanup
    rw [(startDrive_cases _).1]
    exact .refl _
  | driveNext driving =>
    change Evolves s.cleanup (driveNext s driving).cleanup
    rcases (driveNext_cases driving).2 with hsame | ⟨death, nodeId, -, hbury⟩ |
      ⟨request, current, hcurrent, hset⟩
    · rw [hsame]
      exact .refl _
    · rw [hbury]
      exact acknowledgeNodeDeath_evolves death
    · rw [hset]
      exact .set hcurrent fun _ hproof => hproof
  | driveAnswer driving reply =>
    change Evolves s.cleanup (driveAnswer s driving reply).cleanup
    rcases (driveAnswer_cases h driving reply).2 with hsame | hproven
    · rw [hsame]
      exact .refl _
    · obtain ⟨request, current, proof, drive, hcurrent, hnone, -, hset, -, -⟩ := hproven
      rw [hset]
      apply Evolves.set hcurrent
      intro old hold
      rw [hnone] at hold
      cases hold
  | driveRetire driving =>
    change Evolves s.cleanup (driveRetire s driving).cleanup
    rcases (driveRetire_cases driving).2 with
      hsame | ⟨request, current, drive, hcurrent, hset, -, -⟩
    · rw [hsame]
      exact .refl _
    · rw [hset]
      exact .set hcurrent fun _ hproof => hproof
  | driveFinish driving =>
    change Evolves s.cleanup (driveFinish s driving).cleanup
    rw [driveFinish_cleanup]
    exact .refl _
  | timerFires =>
    change Evolves s.cleanup (timerFires s).cleanup
    rw [timerFires_cleanup]
    exact .refl _

/-! ## Completions -/

/-- What is open stays open. -/
structure Persists (q q' : ReplicaCleanupQueue) : Prop where
  pending : ∀ request, Pending q request → Pending q' request
  unfinished : ∀ request, Unfinished q request → Unfinished q' request

theorem Persists.refl (q : ReplicaCleanupQueue) : Persists q q :=
  ⟨fun _ h => h, fun _ h => h⟩

theorem Persists.of_records
    (h : ∀ request current, q.get? request = some current → ∃ next, q'.get? request = some next ∧
      next.proof = current.proof ∧ (current.inFlight = true → next.inFlight = true)) :
    Persists q q' := by
  refine ⟨?_, ?_⟩
  · rintro request ⟨current, hcurrent, hnone⟩
    obtain ⟨next, hnext, hproof, -⟩ := h request current hcurrent
    exact ⟨next, hnext, hproof.trans hnone⟩
  · rintro request ⟨current, hcurrent, hopen⟩
    obtain ⟨next, hnext, hproof, hflight⟩ := h request current hcurrent
    exact ⟨next, hnext, hopen.imp (fun hnone => hproof.trans hnone) hflight⟩

variable {request : DropObjectReplica}

theorem Persists.claim {current : CleanupRecord} (hcurrent : q.get? request = some current) :
    Persists q (q.set request { current with inFlight := true }) := by
  apply Persists.of_records
  intro other old hold
  by_cases hsame : request = other
  · subst hsame
    rw [hcurrent] at hold
    cases hold
    exact ⟨_, Dict.get?_set_self .., rfl, fun _ => rfl⟩
  · exact ⟨old, (Dict.get?_set_of_ne _ _ hsame).trans hold, rfl, id⟩

theorem Persists.enqueue (q : ReplicaCleanupQueue) (request : DropObjectReplica) :
    Persists q (q.enqueue request) := by
  apply Persists.of_records
  intro other old hold
  refine ⟨old, ?_, rfl, id⟩
  rw [get?_enqueue, if_neg]
  · exact hold
  · rintro ⟨rfl, hnone⟩
    rw [hnone] at hold
    cases hold

variable {death : NodeDeathRecord}

theorem unfinished_acknowledgeNodeDeath (h : Unfinished q request) :
    Unfinished (q.acknowledgeNodeDeath death).2 request ∨
      (Pending q request ∧ request.nodeId = death.nodeId) := by
  obtain ⟨current, hcurrent, hopen⟩ := h
  by_cases hbury : request.nodeId = death.nodeId ∧ current.proof = none
  · exact .inr ⟨⟨current, hcurrent, hbury.2⟩, hbury.1⟩
  · refine .inl ⟨current, ?_, hopen⟩
    rw [get?_acknowledgeNodeDeath, hcurrent, Option.map_some, if_neg hbury]

theorem Base.persists_bury (h : Base s) {nodeId : NodeID}
    (hexit : s.processExit nodeId = some death) :
    Persists s.cleanup (s.cleanup.acknowledgeNodeDeath death).2 := by
  obtain ⟨hdead, hreason⟩ := processExit_some hexit
  have hnode := h.named _ _ hdead
  have helsewhere : ∀ request, Pending s.cleanup request → request.nodeId ≠ death.nodeId := by
    intro request hpending hsame
    exact h.queue.buried request death hpending (by rw [hsame, hnode]; exact hdead) hreason
  refine ⟨?_, ?_⟩
  · intro request hpending
    exact pending_acknowledgeNodeDeath.mpr ⟨hpending, helsewhere request hpending⟩
  · intro request hopen
    rcases unfinished_acknowledgeNodeDeath hopen with hopen | ⟨hpending, hsame⟩
    · exact hopen
    · exact absurd hsame (helsewhere request hpending)

theorem retain_persists (h : Inv s) (request : DropObjectReplica) :
    Persists s.cleanup (retainRetiredReplicaCleanup s request).cleanup := by
  simp only [retainRetiredReplicaCleanup]
  cases hexit : s.processExit request.nodeId with
  | none =>
    simp only [(schedule_keeps _).1]
    exact .enqueue _ request
  | some death =>
    simp only [(schedule_keeps _).1]
    have hold := h.toBase.persists_bury hexit
    refine ⟨?_, ?_⟩
    · intro other hpending
      have hother := (pending_acknowledgeNodeDeath.mp (hold.pending other hpending)).2
      exact pending_acknowledgeNodeDeath.mpr
        ⟨(Persists.enqueue _ request).pending other hpending, hother⟩
    · intro other hopen
      have hkept := (Persists.enqueue s.cleanup request).unfinished other hopen
      rcases unfinished_acknowledgeNodeDeath hkept with
        hkept | ⟨⟨current, hcurrent, hnone⟩, hnode⟩
      · exact hkept
      · -- an old record on a dead Node is proven, and the new one is another
        obtain ⟨old, hold', -⟩ := hopen
        rw [get?_enqueue, if_neg] at hcurrent
        · have hne := pending_acknowledgeNodeDeath.mp
            (hold.pending other ⟨current, hcurrent, hnone⟩)
          exact absurd hnode hne.2
        · rintro ⟨rfl, hnew⟩
          rw [hnew] at hold'
          cases hold'

/-- A check of the object is queued, or a drive will queue one when it ends. -/
def CheckDue (s : CoreState) (objectId : ObjectID) : Prop :=
  .retryInlineGc objectId ∈ s.mailbox ∨
    ∃ driving drive, s.drives.get? driving = some drive ∧ objectId ∈ drive.completed

theorem handleNodeDeath_checks (death : NodeDeathRecord) :
    Persists s.cleanup (handleNodeDeath s death).cleanup ∨
      (handleNodeDeath s death).cleanup = (s.cleanup.acknowledgeNodeDeath death).2 ∧
        ∀ objectId ∈ (s.cleanup.acknowledgeNodeDeath death).1,
          CheckDue (handleNodeDeath s death) objectId := by
  simp only [handleNodeDeath]
  cases s.deadNodes.get? death.nodeId with
  | some old => exact .inl (.refl _)
  | none =>
    simp only []
    by_cases hreason : death.reason = .processExit
    · rw [if_pos hreason]
      refine .inr ⟨rfl, ?_⟩
      intro objectId hobject
      exact .inl (List.mem_append_right _ (List.mem_map_of_mem hobject))
    · rw [if_neg hreason]
      exact .inl (.refl _)

theorem step_persists (h : Inv s) (a : Action) : Persists s.cleanup (step s a).cleanup ∨
    (∃ death, a = .handleNodeDeath death) ∨ (∃ driving reply, a = .driveAnswer driving reply) ∨
      ∃ driving, a = .driveRetire driving := by
  cases a with
  | retain request => exact .inl (retain_persists h request)
  | handleNodeDeath death => exact .inr (.inl ⟨death, rfl⟩)
  | driveAnswer driving reply => exact .inr (.inr (.inl ⟨driving, reply, rfl⟩))
  | driveRetire driving => exact .inr (.inr (.inr ⟨driving, rfl⟩))
  | enqueueCheck objectId => exact .inl (.refl _)
  | enqueueOther => exact .inl (.refl _)
  | scheduleLate =>
    left
    simp only [step, (schedule_keeps s).1]
    exact .refl _
  | takeEvent =>
    left
    simp only [step, takeEvent_cases.1]
    exact .refl _
  | startShutdownDrive thread =>
    left
    simp only [step, (startDrive_cases _).1]
    exact .refl _
  | driveFinish driving =>
    left
    simp only [step, driveFinish_cleanup]
    exact .refl _
  | timerFires =>
    left
    simp only [step, timerFires_cleanup]
    exact .refl _
  | driveNext driving =>
    left
    simp only [step]
    rcases (driveNext_cases driving).2 with hsame | ⟨death, nodeId, hexit, hbury⟩ |
      ⟨request, current, hcurrent, hset⟩
    · rw [hsame]
      exact .refl _
    · rw [hbury]
      exact h.toBase.persists_bury hexit
    · rw [hset]
      exact .claim hcurrent

theorem step_proves (h : Inv s) (a : Action) (hpending : Pending s.cleanup request)
    (hlast : ∀ other, Pending (step s a).cleanup other → other.objectId ≠ request.objectId) :
    CheckDue (step s a) request.objectId := by
  have hproven : ¬ Pending (step s a).cleanup request := fun hopen => hlast request hopen rfl
  rcases step_persists h a with hpersists | ⟨death, rfl⟩ | ⟨driving, reply, rfl⟩ | ⟨driving, rfl⟩
  · exact absurd (hpersists.pending request hpending) hproven
  · rcases handleNodeDeath_checks (s := s) death with hpersists | ⟨hbury, hchecks⟩
    · exact absurd (hpersists.pending request hpending) hproven
    · apply hchecks
      have hnode : request.nodeId = death.nodeId := by
        by_contra hne
        have hopen := pending_acknowledgeNodeDeath.mpr ⟨hpending, hne⟩
        rw [← hbury] at hopen
        exact hproven hopen
      exact mem_acknowledgeNodeDeath.mpr ⟨request, hpending, hnode, rfl⟩
  · change ¬ Pending (driveAnswer s driving reply).cleanup request at hproven
    rcases (driveAnswer_cases h driving reply).2 with hsame | hanswered
    · rw [hsame] at hproven
      exact absurd hpending hproven
    · obtain ⟨answered, current, proof, drive, hcurrent, -, -, hset, hdrive, hcompleted⟩ :=
        hanswered
      by_cases hsame : answered = request
      · rw [← hsame]
        exact .inr ⟨driving, drive, hdrive, hcompleted⟩
      · rw [hset] at hproven
        obtain ⟨old, hold, hnone⟩ := hpending
        exact absurd ⟨old, (Dict.get?_set_of_ne _ _ hsame).trans hold, hnone⟩ hproven
  · change ¬ Pending (driveRetire s driving).cleanup request at hproven
    rcases (driveRetire_cases (s := s) driving).2 with
      hsame | ⟨retired, current, -, hcurrent, hset, -⟩
    · rw [hsame] at hproven
      exact absurd hpending hproven
    · rw [hset] at hproven
      obtain ⟨old, hold, hnone⟩ := hpending
      by_cases hsame : retired = request
      · subst hsame
        rw [hcurrent] at hold
        cases hold
        exact absurd ⟨_, Dict.get?_set_self .., hnone⟩ hproven
      · exact absurd ⟨old, (Dict.get?_set_of_ne _ _ hsame).trans hold, hnone⟩ hproven

theorem step_finishes (h : Inv s) (a : Action) (hopen : Unfinished s.cleanup request)
    (hlast : ∀ other, Unfinished (step s a).cleanup other → other.objectId ≠ request.objectId) :
    CheckDue (step s a) request.objectId := by
  have hdone : ¬ Unfinished (step s a).cleanup request := fun hmore => hlast request hmore rfl
  rcases step_persists h a with hpersists | ⟨death, rfl⟩ | ⟨driving, reply, rfl⟩ | ⟨driving, rfl⟩
  · exact absurd (hpersists.unfinished request hopen) hdone
  · rcases handleNodeDeath_checks (s := s) death with hpersists | ⟨hbury, hchecks⟩
    · exact absurd (hpersists.unfinished request hopen) hdone
    · apply hchecks
      have hcases : Unfinished (s.cleanup.acknowledgeNodeDeath death).2 request ∨
          (Pending s.cleanup request ∧ request.nodeId = death.nodeId) :=
        unfinished_acknowledgeNodeDeath hopen
      rcases hcases with hmore | ⟨hpending, hnode⟩
      · rw [← hbury] at hmore
        exact absurd hmore hdone
      · exact mem_acknowledgeNodeDeath.mpr ⟨request, hpending, hnode, rfl⟩
  · change ¬ Unfinished (driveAnswer s driving reply).cleanup request at hdone
    rcases (driveAnswer_cases h driving reply).2 with hsame | hanswered
    · rw [hsame] at hdone
      exact absurd hopen hdone
    · obtain ⟨answered, current, proof, -, hcurrent, -, hflight, hset, -, -⟩ := hanswered
      rw [hset] at hdone
      obtain ⟨old, hold, hmore⟩ := hopen
      by_cases hsame : answered = request
      · subst hsame
        exact absurd ⟨_, Dict.get?_set_self .., .inr hflight⟩ hdone
      · exact absurd ⟨old, (Dict.get?_set_of_ne _ _ hsame).trans hold, hmore⟩ hdone
  · rcases (driveRetire_cases (s := s) driving).2 with hsame |
      ⟨retired, current, drive, hcurrent, hset, hdrive, hcompleted⟩
    · change ¬ Unfinished (driveRetire s driving).cleanup request at hdone
      rw [hsame] at hdone
      exact absurd hopen hdone
    · have hretired : retired = request := by
        by_contra hne
        obtain ⟨old, hold, hmore⟩ := hopen
        apply hdone
        change Unfinished (driveRetire s driving).cleanup request
        rw [hset]
        exact ⟨old, (Dict.get?_set_of_ne _ _ hne).trans hold, hmore⟩
      subst hretired
      have hclosed :
          (driveRetire s driving).cleanup.hasPending (some retired.objectId) = false := by
        rw [← Bool.not_eq_true, hasPending_some]
        rintro ⟨other, hother, hobject⟩
        exact hlast other hother hobject
      exact .inr ⟨driving, drive, hdrive, hcompleted hclosed⟩

/-! ## Drives that end -/

theorem driveFinish_keeps (driving : Driving) :
    KeepsCompleted s.drives (driveFinish s driving).drives ∨
      ∃ drive, s.drives.get? driving = some drive ∧
        (driveFinish s driving).drives = s.drives.erase driving ∧
        ∀ objectId ∈ drive.completed,
          .retryInlineGc objectId ∈ (driveFinish s driving).mailbox := by
  simp only [driveFinish]
  cases hdrive : s.drives.get? driving with
  | none => exact .inl (.refl _)
  | some drive =>
    obtain ⟨requests, phase, completed⟩ := drive
    cases phase with
    | sent request => exact .inl (.refl _)
    | answered request => exact .inl (.refl _)
    | next =>
      cases requests with
      | cons request rest => exact .inl (.refl _)
      | nil =>
        right
        have hmail : ∀ objectId ∈ completed, ReferenceEvent.retryInlineGc objectId ∈
            s.mailbox ++ completed.eraseDups.map .retryInlineGc := by
          intro objectId hobject
          apply List.mem_append_right
          exact List.mem_map_of_mem (List.mem_eraseDups.mpr hobject)
        simp only []
        by_cases hretry : (enqueueInlineGcChecks { s with drives := s.drives.erase driving }
            completed.eraseDups).cleanup.hasPending none = true ∧
            driving = .referenceThread ∧ (enqueueInlineGcChecks
              { s with drives := s.drives.erase driving }
              completed.eraseDups).scheduled = false
        · rw [if_pos hretry]
          exact ⟨_, rfl, rfl, hmail⟩
        · rw [if_neg hretry]
          exact ⟨_, rfl, rfl, hmail⟩

theorem step_keeps (h : Inv s) (a : Action) : KeepsCompleted s.drives (step s a).drives ∨
    ∃ driving drive, s.drives.get? driving = some drive ∧
      (step s a).drives = s.drives.erase driving ∧
      ∀ objectId ∈ drive.completed, .retryInlineGc objectId ∈ (step s a).mailbox := by
  cases a with
  | enqueueCheck objectId => exact .inl (.refl _)
  | enqueueOther => exact .inl (.refl _)
  | takeEvent => exact .inl takeEvent_cases.2
  | startShutdownDrive thread => exact .inl (startDrive_cases _).2
  | driveNext driving => exact .inl (driveNext_cases driving).1
  | driveAnswer driving reply => exact .inl (driveAnswer_cases h driving reply).1
  | driveRetire driving => exact .inl (driveRetire_cases driving).1
  | driveFinish driving =>
    rcases driveFinish_keeps (s := s) driving with hkeeps | ⟨drive, hfinish⟩
    · exact .inl hkeeps
    · exact .inr ⟨driving, drive, hfinish⟩
  | scheduleLate =>
    left
    simp only [step, (schedule_keeps s).2.2]
    exact .refl _
  | retain request =>
    left
    simp only [step, retainRetiredReplicaCleanup]
    cases s.processExit request.nodeId with
    | none =>
      simp only [(schedule_keeps _).2.2]
      exact .refl _
    | some death =>
      simp only [(schedule_keeps _).2.2]
      exact .refl _
  | handleNodeDeath death =>
    left
    simp only [step, handleNodeDeath]
    cases s.deadNodes.get? death.nodeId with
    | some old => exact .refl _
    | none =>
      simp only []
      by_cases hreason : death.reason = .processExit
      · rw [if_pos hreason]
        exact .refl _
      · rw [if_neg hreason]
        exact .refl _
  | timerFires =>
    left
    simp only [step, timerFires]
    by_cases hnone : s.timers = 0
    · rw [if_pos hnone]
      exact .refl _
    · rw [if_neg hnone]
      exact .refl _

theorem step_hands (h : Inv s) (a : Action) {driving : Driving} {drive : Drive}
    {objectId : ObjectID}
    (hdrive : s.drives.get? driving = some drive) (hobject : objectId ∈ drive.completed) :
    CheckDue (step s a) objectId := by
  rcases step_keeps h a with hkeeps | ⟨ended, last, hlast, herase, hchecks⟩
  · obtain ⟨next, hnext, hsub⟩ := hkeeps driving drive hdrive
    exact .inr ⟨driving, next, hnext, hsub hobject⟩
  · by_cases hsame : ended = driving
    · rw [hsame, hdrive] at hlast
      cases hlast
      exact .inl (hchecks objectId hobject)
    · refine .inr ⟨driving, drive, ?_, hobject⟩
      rw [herase, Dict.get?_erase_of_ne _ hsame]
      exact hdrive

/-! ## All runs -/

/-- What every run of an open Core keeps of its late drops. -/
structure CleanupSpec : Prop where
  /-- A drop that was kept stays known, and its first proof is never replaced. -/
  kept : ∀ actions a, Evolves (Run.run step {} actions).cleanup
    (step (Run.run step {} actions) a).cleanup
  /-- A proof is an exact reply that deleted, or the committed process death of the Node. -/
  exact : ∀ actions request current proof,
    (Run.run step {} actions).cleanup.get? request = some current →
    current.proof = some proof → Settles (Run.run step {} actions).deadNodes request proof
  /-- One drive at a time has an RPC out for a drop. -/
  oneRpc : ∀ actions driving driving' drive drive' request,
    (Run.run step {} actions).drives.get? driving = some drive →
    (Run.run step {} actions).drives.get? driving' = some drive' →
    drive.phase = .sent request → drive'.phase = .sent request → driving = driving'
  /-- An event, a timer or the reference-event thread comes back for a pending drop. -/
  driven : ∀ actions, (∃ request, Pending (Run.run step {} actions).cleanup request) →
    .retryReplicaCleanup ∈ (Run.run step {} actions).mailbox ∨
      0 < (Run.run step {} actions).timers ∨
      ∃ drive, (Run.run step {} actions).drives.get? .referenceThread = some drive
  /-- The event starts a drive over all that is pending. -/
  tries : ∀ actions rest, (Run.run step {} actions).drives.get? .referenceThread = none →
    (Run.run step {} actions).mailbox = .retryReplicaCleanup :: rest →
    ∃ drive, (takeEvent (Run.run step {} actions)).drives.get? .referenceThread = some drive ∧
      ∀ request, Pending (Run.run step {} actions).cleanup request → request ∈ drive.requests
  /-- A check is due when the last pending drop of an object gets its proof, -/
  checked : ∀ actions a request, Pending (Run.run step {} actions).cleanup request →
    (∀ other, Pending (step (Run.run step {} actions) a).cleanup other →
      other.objectId ≠ request.objectId) →
    CheckDue (step (Run.run step {} actions) a) request.objectId
  /-- when the last one leaves its RPC, -/
  finished : ∀ actions a request, Unfinished (Run.run step {} actions).cleanup request →
    (∀ other, Unfinished (step (Run.run step {} actions) a).cleanup other →
      other.objectId ≠ request.objectId) →
    CheckDue (step (Run.run step {} actions) a) request.objectId
  /-- and until the drive that owes it ends and queues it. -/
  handed : ∀ actions a driving drive objectId,
    (Run.run step {} actions).drives.get? driving = some drive → objectId ∈ drive.completed →
    CheckDue (step (Run.run step {} actions) a) objectId

theorem late_cleanup_kept : CleanupSpec := by
  refine ⟨?_, ?_, ?_, ?_, ?_, ?_, ?_, ?_⟩
  · exact fun actions a => step_evolves (run_inv actions) a
  · exact fun actions => (run_inv actions).queue.proofs
  · intro actions driving driving' drive drive' request hdrive hdrive' hsent hsent'
    exact (run_inv actions).drives.alone driving driving' drive drive' request hdrive hdrive'
      (.inl hsent) (.inl hsent')
  · intro actions hpending
    have hinv := run_inv actions
    rcases hinv.driven hpending with hflag | hdrive
    · have hwakes := hinv.flag
      rw [if_pos hflag, CoreState.wakes] at hwakes
      by_cases htimers : 0 < (Run.run step {} actions).timers
      · exact .inr (.inl htimers)
      · refine .inl (List.count_pos_iff.mp ?_)
        omega
    · exact .inr (.inr hdrive)
  · intro actions rest hidle hmailbox
    refine ⟨{ requests := (Run.run step {} actions).cleanup.pending }, ?_, ?_⟩
    · simp only [takeEvent, startDrive, hidle, hmailbox]
      exact Dict.get?_set_self ..
    · exact fun request hpending => mem_pending.mpr hpending
  · exact fun actions a request => step_proves (run_inv actions) a
  · exact fun actions a request => step_finishes (run_inv actions) a
  · exact fun actions a driving drive objectId => step_hands (run_inv actions) a

/-! ## A location of a dead Node -/

namespace Sample

def lostNode : NodeDeathRecord :=
  ⟨"exit", ⟨5⟩, 10, 1, 2, 1, .processExit, "exited", by decide, by decide, by decide⟩

def lateDrop : DropObjectReplica where
  objectId := ⟨⟨3⟩, 0⟩
  producerAttemptId := ⟨⟨3⟩, 0⟩
  ownerWorkerId := ⟨4⟩
  nodeId := ⟨5⟩
  checksum := String.ofList (List.replicate 64 '0')
  attempt_task := rfl
  checksum_hex := by decide

/-- The Core after the death of a Node and a late location on it. -/
def lateLocation : CoreState :=
  step (Run.run step {} [.handleNodeDeath lostNode]) (.retain lateDrop)

theorem lateLocation_proven :
    lateLocation.cleanup.get? lateDrop = some ⟨some (.death lostNode), false⟩ := by decide +kernel

theorem lateLocation_idle : lateLocation.cleanup.pending = [] := by decide +kernel

theorem lateLocation_silent : lateLocation.mailbox = [] := by decide +kernel

theorem lateLocation_undriven : lateLocation.drives = .empty := Dict.eq_empty (by decide +kernel)

end Sample

/-- A late location of a dead Node completes its drop at once, and no check follows. -/
theorem completion_without_check : ¬ ∀ actions a request current proof,
    (step (Run.run step {} actions) a).cleanup.get? request = some current →
    current.proof = some proof →
    (∀ old, (Run.run step {} actions).cleanup.get? request = some old → old.proof = none) →
    (∀ other, Pending (step (Run.run step {} actions) a).cleanup other →
      other.objectId ≠ request.objectId) →
    CheckDue (step (Run.run step {} actions) a) request.objectId := by
  intro h
  have hnone : ∀ other, ¬ Pending Sample.lateLocation.cleanup other := by
    intro other hpending
    have hmem := mem_pending.mpr hpending
    rw [Sample.lateLocation_idle] at hmem
    cases hmem
  have hdue : CheckDue Sample.lateLocation Sample.lateDrop.objectId :=
    h [.handleNodeDeath Sample.lostNode] (.retain Sample.lateDrop) Sample.lateDrop _ _
      Sample.lateLocation_proven rfl (fun old hold => nomatch hold)
      (fun other hpending => absurd hpending (hnone other))
  rcases hdue with hmail | ⟨driving, drive, hdrive, -⟩
  · rw [Sample.lateLocation_silent] at hmail
    cases hmail
  · rw [Sample.lateLocation_undriven] at hdrive
    cases hdrive

end LateCleanup

end MiniRay
