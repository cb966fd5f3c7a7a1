import MiniRay.Core.ReplicaCleanupRuns

/-! Every locked section keeps the invariant. -/

namespace MiniRay

namespace LateCleanup

variable {q q' : ReplicaCleanupQueue} {s : CoreState}

/-! ## The invariant -/

/-- The drive has an RPC out for the request, or has not left its `finally` yet. -/
def Drive.Holds (drive : Drive) (request : DropObjectReplica) : Prop :=
  drive.phase = .sent request ∨ drive.phase = .answered request

/-- Drives name known drops, and each drop is held by the one drive that claimed it. -/
structure DriveInv (q : ReplicaCleanupQueue) (drives : Dict Driving Drive) : Prop where
  known : ∀ driving drive, drives.get? driving = some drive → ∀ request ∈ drive.requests,
    ∃ current, q.get? request = some current
  flights : ∀ driving drive request, drives.get? driving = some drive → drive.Holds request →
    ∃ current, q.get? request = some current ∧ current.inFlight = true
  alone : ∀ driving driving' drive drive' request, drives.get? driving = some drive →
    drives.get? driving' = some drive' → drive.Holds request → drive'.Holds request →
    driving = driving'

/-- The events and timers that will start a drive of the reference-event thread. -/
def CoreState.wakes (s : CoreState) : Nat := s.mailbox.count .retryReplicaCleanup + s.timers

structure Base (s : CoreState) : Prop where
  named : ∀ nodeId death, s.deadNodes.get? nodeId = some death → death.nodeId = nodeId
  queue : QueueInv s.deadNodes s.cleanup
  drives : DriveInv s.cleanup s.drives
  /-- The flag stands for exactly one event or timer. -/
  flag : s.wakes = if s.scheduled then 1 else 0

structure Inv (s : CoreState) : Prop extends Base s where
  /-- Somebody will come back while a drop is pending. -/
  driven : (∃ request, Pending s.cleanup request) →
    s.scheduled = true ∨ ∃ drive, s.drives.get? .referenceThread = some drive

theorem Inv.initial : Inv {} := by
  refine ⟨⟨?_, ⟨?_, ?_⟩, ⟨?_, ?_, ?_⟩, rfl⟩, ?_⟩
  · exact fun nodeId death h => nomatch h
  · exact fun request current proof h => nomatch h
  · exact fun request death h => nomatch h.choose_spec.1
  · exact fun driving drive h => nomatch h
  · exact fun driving drive request h => nomatch h
  · exact fun driving driving' drive drive' request h => nomatch h
  · exact fun h => nomatch h.choose_spec.choose_spec.1

theorem processExit_some {nodeId : NodeID} {death : NodeDeathRecord}
    (h : s.processExit nodeId = some death) :
    s.deadNodes.get? nodeId = some death ∧ death.reason = .processExit := by
  simp only [CoreState.processExit] at h
  cases hdead : s.deadNodes.get? nodeId with
  | none =>
    rw [hdead] at h
    cases h
  | some found =>
    simp only [hdead] at h
    by_cases hreason : found.reason = .processExit
    · rw [if_pos hreason] at h
      cases h
      exact ⟨rfl, hreason⟩
    · rw [if_neg hreason] at h
      cases h

theorem processExit_none {nodeId : NodeID} (h : s.processExit nodeId = none) :
    ∀ death, s.deadNodes.get? nodeId = some death → death.reason ≠ .processExit := by
  intro death hdead hreason
  simp only [CoreState.processExit, hdead, if_pos hreason] at h
  cases h

/-! ## Drives under changes of the queue -/

variable {drives : Dict Driving Drive}

theorem DriveInv.evolve (h : DriveInv q drives)
    (hkept : ∀ request current, q.get? request = some current →
      ∃ next, q'.get? request = some next ∧ (current.inFlight = true → next.inFlight = true)) :
    DriveInv q' drives := by
  refine ⟨?_, ?_, h.alone⟩
  · intro driving drive hdrive request hrequest
    obtain ⟨current, hcurrent⟩ := h.known driving drive hdrive request hrequest
    obtain ⟨next, hnext, -⟩ := hkept request current hcurrent
    exact ⟨next, hnext⟩
  · intro driving drive request hdrive hholds
    obtain ⟨current, hcurrent, hflight⟩ := h.flights driving drive request hdrive hholds
    obtain ⟨next, hnext, hkeeps⟩ := hkept request current hcurrent
    exact ⟨next, hnext, hkeeps hflight⟩

variable {request : DropObjectReplica} {current : CleanupRecord}

variable {next : CleanupRecord}

theorem DriveInv.setRecord (h : DriveInv q drives) (hcurrent : q.get? request = some current)
    (hflight : current.inFlight = true → next.inFlight = true) :
    DriveInv (q.set request next) drives := by
  apply h.evolve
  intro other old hold
  by_cases hsame : request = other
  · subst hsame
    rw [hcurrent] at hold
    cases hold
    exact ⟨next, Dict.get?_set_self .., hflight⟩
  · exact ⟨old, by rw [Dict.get?_set_of_ne _ _ hsame]; exact hold, id⟩

theorem DriveInv.enqueue (h : DriveInv q drives) (request : DropObjectReplica) :
    DriveInv (q.enqueue request) drives := by
  apply h.evolve
  intro other old hold
  refine ⟨old, ?_, id⟩
  rw [get?_enqueue, if_neg]
  · exact hold
  · rintro ⟨rfl, hnone⟩
    rw [hnone] at hold
    cases hold

theorem DriveInv.bury (h : DriveInv q drives) (death : NodeDeathRecord) :
    DriveInv (q.acknowledgeNodeDeath death).2 drives := by
  apply h.evolve
  intro other old hold
  rw [get?_acknowledgeNodeDeath, hold]
  refine ⟨_, rfl, fun hflight => ?_⟩
  by_cases hbury : other.nodeId = death.nodeId ∧ old.proof = none
  · simpa [hbury] using hflight
  · simpa [hbury] using hflight

variable {driving : Driving}

theorem DriveInv.setDrive (h : DriveInv q drives) {drive : Drive}
    (hknown : ∀ request ∈ drive.requests, ∃ current, q.get? request = some current)
    (hholds : ∀ request, drive.Holds request → ∃ old, drives.get? driving = some old ∧
      old.Holds request) :
    DriveInv q (drives.set driving drive) := by
  have hold : ∀ other found request, (drives.set driving drive).get? other = some found →
      found.Holds request → ∃ old, drives.get? other = some old ∧ old.Holds request := by
    intro other found request hfound hheld
    rcases Dict.of_get?_set hfound with ⟨rfl, rfl⟩ | hfound
    · exact hholds request hheld
    · exact ⟨found, hfound, hheld⟩
  refine ⟨?_, ?_, ?_⟩
  · intro other found hfound
    rcases Dict.of_get?_set hfound with ⟨rfl, rfl⟩ | hfound
    · exact hknown
    · exact h.known other found hfound
  · intro other found request hfound hheld
    obtain ⟨old, hget, hheld⟩ := hold other found request hfound hheld
    exact h.flights other old request hget hheld
  · intro other other' found found' request hfound hfound' hheld hheld'
    obtain ⟨old, hget, hheld⟩ := hold other found request hfound hheld
    obtain ⟨old', hget', hheld'⟩ := hold other' found' request hfound' hheld'
    exact h.alone other other' old old' request hget hget' hheld hheld'

theorem DriveInv.claim (h : DriveInv q drives) (hcurrent : q.get? request = some current)
    (hfree : current.inFlight = false) {rest : List DropObjectReplica}
    (hrest : ∀ r ∈ rest, ∃ current, q.get? r = some current) {completed : List ObjectID} :
    DriveInv (q.set request { current with inFlight := true })
      (drives.set driving ⟨rest, .sent request, completed⟩) := by
  have hnobody : ∀ other drive, drives.get? other = some drive → ¬ drive.Holds request := by
    intro other drive hdrive hholds
    obtain ⟨found, hfound, hflight⟩ := h.flights other drive request hdrive hholds
    rw [hcurrent] at hfound
    cases hfound
    rw [hfree] at hflight
    cases hflight
  have hmore : DriveInv (q.set request { current with inFlight := true }) drives :=
    h.setRecord hcurrent (fun _ => rfl)
  have hmine : ∀ r, Drive.Holds ⟨rest, .sent request, completed⟩ r → r = request := by
    intro r hr
    rcases hr with hr | hr
    · cases hr
      rfl
    · cases hr
  refine ⟨?_, ?_, ?_⟩
  · intro other drive hdrive
    rcases Dict.of_get?_set hdrive with ⟨rfl, rfl⟩ | hdrive
    · intro r hr
      obtain ⟨found, hfound⟩ := hrest r hr
      by_cases hr : request = r
      · exact ⟨_, by rw [hr]; exact Dict.get?_set_self ..⟩
      · exact ⟨found, by rw [Dict.get?_set_of_ne _ _ hr]; exact hfound⟩
    · exact hmore.known other drive hdrive
  · intro other drive r hdrive hholds
    rcases Dict.of_get?_set hdrive with ⟨rfl, rfl⟩ | hdrive
    · rw [hmine r hholds]
      exact ⟨_, Dict.get?_set_self .., rfl⟩
    · exact hmore.flights other drive r hdrive hholds
  · intro other other' drive drive' r hdrive hdrive' hholds hholds'
    by_cases hsame : driving = other
    · rcases Dict.of_get?_set hdrive' with ⟨hsame', _⟩ | hdrive'
      · exact hsame.symm.trans hsame'
      · subst hsame
        rw [Dict.get?_set_self] at hdrive
        cases hdrive
        rw [hmine r hholds] at hholds'
        exact absurd hholds' (hnobody other' drive' hdrive')
    · rw [Dict.get?_set_of_ne _ _ hsame] at hdrive
      rcases Dict.of_get?_set hdrive' with ⟨rfl, rfl⟩ | hdrive'
      · rw [hmine r hholds'] at hholds
        exact absurd hholds (hnobody other drive hdrive)
      · exact h.alone other other' drive drive' r hdrive hdrive' hholds hholds'

theorem DriveInv.release (h : DriveInv q drives) {old : Drive}
    (hold : drives.get? driving = some old) (hheld : old.Holds request)
      (completed : List ObjectID) :
    DriveInv (q.unclaim request) (drives.set driving ⟨old.requests, .next, completed⟩) := by
  have hidle : ∀ r, ¬ Drive.Holds ⟨old.requests, .next, completed⟩ r := by
    intro r hr
    rcases hr with hr | hr
    · cases hr
    · cases hr
  have hkept : ∀ r current, q.get? r = some current → ∃ next,
      (q.unclaim request).get? r = some next ∧
        (r ≠ request → current.inFlight = true → next.inFlight = true) := by
    intro r current hcurrent
    rcases unclaim_spec q request with ⟨-, hsame⟩ | ⟨found, hfound, hset⟩
    · rw [hsame]
      exact ⟨current, hcurrent, fun _ => id⟩
    · rw [hset]
      by_cases hr : request = r
      · subst hr
        exact ⟨_, Dict.get?_set_self .., fun hne => absurd rfl hne⟩
      · exact ⟨current, by rw [Dict.get?_set_of_ne _ _ hr]; exact hcurrent, fun _ => id⟩
  have hdrives : DriveInv q (drives.set driving ⟨old.requests, .next, completed⟩) :=
    h.setDrive (h.known driving old hold) (fun r hr => absurd hr (hidle r))
  refine ⟨?_, ?_, hdrives.alone⟩
  · intro other drive hdrive r hr
    obtain ⟨current, hcurrent⟩ := hdrives.known other drive hdrive r hr
    obtain ⟨next, hnext, -⟩ := hkept r current hcurrent
    exact ⟨next, hnext⟩
  · intro other drive r hdrive hholds
    obtain ⟨current, hcurrent, hflight⟩ := hdrives.flights other drive r hdrive hholds
    obtain ⟨next, hnext, hkeeps⟩ := hkept r current hcurrent
    refine ⟨next, hnext, hkeeps ?_ hflight⟩
    -- nobody else holds what this drive held
    rintro rfl
    rcases Dict.of_get?_set_ne hdrive with ⟨rfl, rfl⟩ | ⟨hsame, hdrive⟩
    · exact hidle _ hholds
    · exact hsame (h.alone driving other old drive _ hold hdrive hheld hholds)

theorem DriveInv.erase (h : DriveInv q drives) (driving : Driving) :
    DriveInv q (drives.erase driving) := by
  have hold : ∀ other drive, (drives.erase driving).get? other = some drive →
      drives.get? other = some drive := by
    intro other drive hdrive
    by_cases hsame : driving = other
    · subst hsame
      rw [Dict.get?_erase_self] at hdrive
      cases hdrive
    · rwa [Dict.get?_erase_of_ne _ hsame] at hdrive
  refine ⟨?_, ?_, ?_⟩
  · exact fun other drive hdrive => h.known other drive (hold other drive hdrive)
  · exact fun other drive r hdrive => h.flights other drive r (hold other drive hdrive)
  · exact fun other other' drive drive' r hdrive hdrive' =>
      h.alone other other' drive drive' r (hold other drive hdrive) (hold other' drive' hdrive')

/-! ## Events -/

theorem Base.enqueueChecks (h : Base s) (objectIds : List ObjectID) :
    Base (enqueueInlineGcChecks s objectIds) := by
  refine ⟨h.named, h.queue, h.drives, ?_⟩
  have hcount : (objectIds.map ReferenceEvent.retryInlineGc).count .retryReplicaCleanup = 0 := by
    rw [List.count_eq_zero]
    intro hmem
    obtain ⟨objectId, -, heq⟩ := List.mem_map.mp hmem
    cases heq
  change (s.mailbox ++ _).count _ + s.timers = _
  rw [List.count_append, hcount, Nat.add_zero]
  exact h.flag

theorem schedule_keeps (s : CoreState) : (scheduleLateReplicaCleanup s).cleanup = s.cleanup ∧
    (scheduleLateReplicaCleanup s).deadNodes = s.deadNodes ∧
    (scheduleLateReplicaCleanup s).drives = s.drives := by
  simp only [scheduleLateReplicaCleanup]
  by_cases hidle : s.cleanup.hasPending none = false ∨ s.scheduled = true
  · rw [if_pos hidle]
    exact ⟨rfl, rfl, rfl⟩
  · rw [if_neg hidle]
    exact ⟨rfl, rfl, rfl⟩

theorem Base.schedule (h : Base s) : Inv (scheduleLateReplicaCleanup s) := by
  simp only [scheduleLateReplicaCleanup]
  by_cases hidle : s.cleanup.hasPending none = false ∨ s.scheduled = true
  · rw [if_pos hidle]
    refine ⟨h, ?_⟩
    rintro ⟨request, hpending⟩
    rcases hidle with hnone | hflag
    · have hopen := hasPending_none.mpr ⟨request, hpending.unfinished⟩
      rw [hnone] at hopen
      cases hopen
    · exact .inl hflag
  · rw [if_neg hidle]
    refine ⟨⟨h.named, h.queue, h.drives, ?_⟩, fun _ => .inl rfl⟩
    have hflag := h.flag
    have hunscheduled : s.scheduled = false := Bool.not_eq_true _ ▸ (not_or.mp hidle).2
    rw [hunscheduled] at hflag
    change (s.mailbox ++ [ReferenceEvent.retryReplicaCleanup]).count _ + s.timers = 1
    rw [List.count_append, List.count_singleton_self]
    change s.mailbox.count _ + s.timers = 0 at hflag
    omega

theorem retain_inv (h : Inv s) (request : DropObjectReplica) :
    Inv (retainRetiredReplicaCleanup s request) := by
  simp only [retainRetiredReplicaCleanup]
  cases hexit : s.processExit request.nodeId with
  | none =>
    refine Base.schedule ⟨h.named, ?_, h.drives.enqueue request, h.flag⟩
    exact h.queue.enqueue (processExit_none hexit)
  | some death =>
    obtain ⟨hdead, hreason⟩ := processExit_some hexit
    have hnode := h.named _ _ hdead
    refine Base.schedule ⟨h.named, ?_, (h.drives.enqueue request).bury death, h.flag⟩
    exact h.queue.enqueueBuried hdead (by rw [hnode]; exact hdead) hreason hnode.symm

theorem handleNodeDeath_inv (h : Inv s) (death : NodeDeathRecord) :
    Inv (handleNodeDeath s death) := by
  simp only [handleNodeDeath]
  cases hnew : s.deadNodes.get? death.nodeId with
  | some old => exact h
  | none =>
    simp only []
    have hnamed : ∀ nodeId found, (s.deadNodes.set death.nodeId death).get? nodeId = some found →
        found.nodeId = nodeId := by
      intro nodeId found hfound
      rcases Dict.of_get?_set hfound with ⟨hsame, rfl⟩ | hfound
      · exact hsame
      · exact h.named nodeId found hfound
    by_cases hreason : death.reason = .processExit
    · rw [if_pos hreason]
      have hbase : Base { s with
          deadNodes := s.deadNodes.set death.nodeId death
          cleanup := (s.cleanup.acknowledgeNodeDeath death).2 } :=
        ⟨hnamed, h.queue.exit hnew hreason, h.drives.bury death, h.flag⟩
      refine ⟨hbase.enqueueChecks _, ?_⟩
      rintro ⟨request, hpending⟩
      exact h.driven ⟨request, (pending_acknowledgeNodeDeath.mp hpending).1⟩
    · rw [if_neg hreason]
      exact ⟨⟨hnamed, h.queue.expect hnew hreason, h.drives, h.flag⟩, h.driven⟩

/-! ## Drives -/

theorem DriveInv.start (h : DriveInv q drives) (driving : Driving) :
    DriveInv q (drives.set driving { requests := q.pending }) := by
  apply h.setDrive
  · intro request hrequest
    obtain ⟨current, hcurrent, -⟩ := mem_pending.mp hrequest
    exact ⟨current, hcurrent⟩
  · intro request hholds
    rcases hholds with hholds | hholds
    · cases hholds
    · cases hholds

theorem startDrive_shutdown_inv (h : Inv s) (thread : Nat) :
    Inv (startDrive s (.shutdown thread)) := by
  simp only [startDrive]
  cases s.drives.get? (.shutdown thread) with
  | some drive => exact h
  | none =>
    refine ⟨⟨h.named, h.queue, h.drives.start _, ?_⟩, ?_⟩
    · simp only [reduceCtorEq, if_false]
      exact h.flag
    · intro hpending
      have hne : Driving.shutdown thread ≠ .referenceThread := fun hsame => nomatch hsame
      rcases h.driven hpending with hflag | ⟨drive, hdrive⟩
      · left
        simpa using hflag
      · right
        exact ⟨drive, (Dict.get?_set_of_ne _ _ hne).trans hdrive⟩

theorem takeEvent_inv (h : Inv s) : Inv (takeEvent s) := by
  simp only [takeEvent]
  cases hbusy : s.drives.get? .referenceThread with
  | some drive => exact h
  | none =>
    cases hmailbox : s.mailbox with
    | nil => exact h
    | cons event rest =>
      have hflag := h.flag
      simp only [CoreState.wakes, hmailbox] at hflag
      cases event with
      | retryReplicaCleanup =>
        simp only [startDrive, hbusy]
        rw [List.count_cons_self] at hflag
        refine ⟨⟨h.named, h.queue, h.drives.start _, ?_⟩, ?_⟩
        · simp only [CoreState.wakes, if_true]
          by_cases hscheduled : s.scheduled = true
          · rw [if_pos hscheduled] at hflag
            simp only [Bool.false_eq_true, if_false]
            omega
          · rw [if_neg hscheduled] at hflag
            omega
        · intro _
          exact .inr ⟨_, Dict.get?_set_self ..⟩
      | retryInlineGc objectId =>
        have hne : ReferenceEvent.retryInlineGc objectId ≠ .retryReplicaCleanup :=
          fun hsame => nomatch hsame
        rw [List.count_cons_of_ne hne] at hflag
        have hbase : Base { s with mailbox := rest } :=
          ⟨h.named, h.queue, h.drives, hflag⟩
        simp only []
        by_cases hopen : s.cleanup.hasPending (some objectId) = true
        · rw [if_pos hopen]
          exact hbase.schedule
        · rw [if_neg hopen]
          exact ⟨hbase, h.driven⟩
      | other =>
        rw [List.count_cons_of_ne (by decide)] at hflag
        exact ⟨⟨h.named, h.queue, h.drives, hflag⟩, h.driven⟩

theorem timerFires_inv (h : Inv s) : Inv (timerFires s) := by
  simp only [timerFires]
  by_cases hnone : s.timers = 0
  · rw [if_pos hnone]
    exact h
  · rw [if_neg hnone]
    refine ⟨⟨h.named, h.queue, h.drives, ?_⟩, h.driven⟩
    have hflag := h.flag
    simp only [CoreState.wakes] at hflag ⊢
    rw [List.count_append, List.count_singleton_self, ← hflag]
    omega

theorem Inv.moveDrive (h : Inv s) {drive : Drive} {next : ReplicaCleanupQueue}
    (hqueue : QueueInv s.deadNodes next)
    (hpending : ∀ request, Pending next request → Pending s.cleanup request)
    (hdrives : DriveInv next (s.drives.set driving drive)) :
    Inv { s with cleanup := next, drives := s.drives.set driving drive } := by
  refine ⟨⟨h.named, hqueue, hdrives, h.flag⟩, ?_⟩
  rintro ⟨request, hopen⟩
  rcases h.driven ⟨request, hpending request hopen⟩ with hflag | ⟨found, hfound⟩
  · exact .inl hflag
  · right
    by_cases hsame : driving = .referenceThread
    · rw [← hsame]
      exact ⟨drive, Dict.get?_set_self ..⟩
    · exact ⟨found, by rw [Dict.get?_set_of_ne _ _ hsame]; exact hfound⟩

theorem pending_set (hcurrent : q.get? request = some current) {other : DropObjectReplica}
    (h : Pending (q.set request next) other) (hproof : next.proof = none → current.proof = none) :
    Pending q other := by
  obtain ⟨found, hfound, hnone⟩ := h
  rcases Dict.of_get?_set hfound with ⟨rfl, rfl⟩ | hfound
  · exact ⟨current, hcurrent, hproof hnone⟩
  · exact ⟨found, hfound, hnone⟩

theorem driveNext_inv (h : Inv s) (driving : Driving) : Inv (driveNext s driving) := by
  simp only [driveNext]
  cases hdrive : s.drives.get? driving with
  | none => exact h
  | some drive =>
    obtain ⟨requests, phase, completed⟩ := drive
    have hknown := h.drives.known driving _ hdrive
    cases phase with
    | sent request => exact h
    | answered request => exact h
    | next =>
      cases requests with
      | nil => exact h
      | cons request rest =>
        have hrest : ∀ r ∈ rest, ∃ current, s.cleanup.get? r = some current :=
          fun r hr => hknown r (List.mem_cons_of_mem _ hr)
        have hidle : ∀ (drive : Drive), drive.phase = .next → ∀ r, ¬ drive.Holds r := by
          intro drive hphase r hholds
          rcases hholds with hholds | hholds
          · rw [hphase] at hholds
            cases hholds
          · rw [hphase] at hholds
            cases hholds
        simp only []
        cases hexit : s.processExit request.nodeId with
        | some death =>
          obtain ⟨hdead, hreason⟩ := processExit_some hexit
          have hnode := h.named _ _ hdead
          simp only []
          refine h.moveDrive (h.queue.bury (by rw [hnode]; exact hdead) hreason)
            (fun r hr => (pending_acknowledgeNodeDeath.mp hr).1) ?_
          refine DriveInv.bury (DriveInv.setDrive h.drives hrest ?_) death
          exact fun r hr => absurd hr (hidle _ rfl r)
        | none =>
          simp only []
          cases hclaim : s.cleanup.claim request with
          | mk claimed next =>
            cases claimed with
            | false =>
              refine h.moveDrive h.queue (fun r hr => hr) ?_
              apply h.drives.setDrive hrest
              exact fun r hr => absurd hr (hidle _ rfl r)
            | true =>
              obtain ⟨current, hcurrent, -, hfree, rfl⟩ := claim_true hclaim
              refine h.moveDrive (h.queue.setFlight hcurrent true)
                (fun r hr => pending_set hcurrent hr id) ?_
              exact h.drives.claim hcurrent hfree hrest

theorem driveAnswer_inv (h : Inv s) (driving : Driving) (reply : Option DropObjectReplicaReply) :
    Inv (driveAnswer s driving reply) := by
  simp only [driveAnswer]
  cases hdrive : s.drives.get? driving with
  | none => exact h
  | some drive =>
    obtain ⟨requests, phase, completed⟩ := drive
    have hknown := h.drives.known driving _ hdrive
    cases phase with
    | next => exact h
    | answered request => exact h
    | sent request =>
      have hholds : ∀ (after : List ObjectID) r,
          Drive.Holds ⟨requests, .answered request, after⟩ r →
            ∃ old, s.drives.get? driving = some old ∧ old.Holds r := by
        intro after r hr
        rcases hr with hr | hr
        · cases hr
        · cases hr
          exact ⟨_, hdrive, .inl rfl⟩
      have hquiet : Inv { s with
          drives := s.drives.set driving ⟨requests, .answered request, completed⟩ } :=
        h.moveDrive h.queue (fun r hr => hr)
          (h.drives.setDrive hknown (hholds completed))
      simp only []
      cases reply with
      | none => exact hquiet
      | some reply =>
        rw [Option.map_some]
        cases hack : s.cleanup.acknowledge request reply with
        | mk acknowledged next =>
          cases acknowledged with
          | false => exact hquiet
          | true =>
            obtain ⟨hidentity, hstatus, current, hcurrent, hproof, rfl⟩ :=
              acknowledge_true hack
            refine h.moveDrive (h.queue.prove hidentity hstatus)
              (fun r hr => pending_set hcurrent hr (fun hnone => nomatch hnone)) ?_
            have hmoved : DriveInv s.cleanup (s.drives.set driving
                ⟨requests, .answered request, completed ++ [request.objectId]⟩) :=
              h.drives.setDrive hknown (hholds _)
            exact hmoved.setRecord hcurrent id

theorem driveRetire_inv (h : Inv s) (driving : Driving) : Inv (driveRetire s driving) := by
  simp only [driveRetire]
  cases hdrive : s.drives.get? driving with
  | none => exact h
  | some drive =>
    obtain ⟨requests, phase, completed⟩ := drive
    cases phase with
    | next => exact h
    | sent request => exact h
    | answered request =>
      simp only []
      have hrelease := h.drives.release hdrive (.inr rfl)
      rcases unclaim_spec s.cleanup request with ⟨-, hsame⟩ | ⟨current, hcurrent, hset⟩
      · refine h.moveDrive (by rw [hsame]; exact h.queue) ?_ (hrelease _)
        intro r hr
        rw [hsame] at hr
        exact hr
      · refine h.moveDrive ?_ ?_ (hrelease _)
        · rw [hset]
          exact h.queue.setFlight hcurrent false
        · intro r hr
          rw [hset] at hr
          exact pending_set hcurrent hr id

theorem driveFinish_inv (h : Inv s) (driving : Driving) : Inv (driveFinish s driving) := by
  simp only [driveFinish]
  cases hdrive : s.drives.get? driving with
  | none => exact h
  | some drive =>
    obtain ⟨requests, phase, completed⟩ := drive
    cases phase with
    | sent request => exact h
    | answered request => exact h
    | next =>
      cases requests with
      | cons request rest => exact h
      | nil =>
        simp only []
        have herased : Base { s with drives := s.drives.erase driving } :=
          ⟨h.named, h.queue, h.drives.erase driving, h.flag⟩
        have hbase := herased.enqueueChecks completed.eraseDups
        generalize hs' : enqueueInlineGcChecks { s with drives := s.drives.erase driving }
          completed.eraseDups = s' at hbase ⊢
        have hcleanup : s'.cleanup = s.cleanup := by
          rw [← hs']
          rfl
        have hscheduled : s'.scheduled = s.scheduled := by
          rw [← hs']
          rfl
        have hdrives : s'.drives = s.drives.erase driving := by
          rw [← hs']
          rfl
        by_cases hretry : s'.cleanup.hasPending none = true ∧ driving = .referenceThread ∧
            s'.scheduled = false
        · rw [if_pos hretry]
          refine ⟨⟨hbase.named, hbase.queue, hbase.drives, ?_⟩, fun _ => .inl rfl⟩
          have hflag := hbase.flag
          rw [hretry.2.2] at hflag
          simp only [CoreState.wakes, Bool.false_eq_true, if_false, if_true] at hflag ⊢
          omega
        · rw [if_neg hretry]
          refine ⟨hbase, ?_⟩
          rintro ⟨request, hopen⟩
          have hpending := hasPending_none.mpr ⟨request, hopen.unfinished⟩
          rw [hcleanup] at hopen
          rcases h.driven ⟨request, hopen⟩ with hflag | ⟨found, hfound⟩
          · exact .inl (hscheduled.trans hflag)
          · by_cases hsame : driving = .referenceThread
            · left
              by_contra hflag
              exact hretry ⟨hpending, hsame, Bool.not_eq_true _ ▸ hflag⟩
            · right
              rw [hdrives]
              exact ⟨found, by rw [Dict.get?_erase_of_ne _ hsame]; exact hfound⟩

theorem step_inv (h : Inv s) (a : Action) : Inv (step s a) := by
  cases a with
  | retain request => exact retain_inv h request
  | handleNodeDeath death => exact handleNodeDeath_inv h death
  | scheduleLate => exact h.toBase.schedule
  | enqueueCheck objectId =>
    have hbase := h.toBase.enqueueChecks [objectId]
    exact ⟨hbase, h.driven⟩
  | enqueueOther =>
    refine ⟨⟨h.named, h.queue, h.drives, ?_⟩, h.driven⟩
    have hflag := h.flag
    simp only [CoreState.wakes, step] at hflag ⊢
    rw [List.count_append, List.count_eq_zero.mpr (by decide : _ ∉ [ReferenceEvent.other])]
    exact hflag
  | takeEvent => exact takeEvent_inv h
  | startShutdownDrive thread => exact startDrive_shutdown_inv h thread
  | driveNext driving => exact driveNext_inv h driving
  | driveAnswer driving reply => exact driveAnswer_inv h driving reply
  | driveRetire driving => exact driveRetire_inv h driving
  | driveFinish driving => exact driveFinish_inv h driving
  | timerFires => exact timerFires_inv h

theorem run_inv (actions : List Action) : Inv (Run.run step {} actions) :=
  Run.run_invariant (p := Inv) (fun _ a h => step_inv h a) .initial actions

end LateCleanup

end MiniRay
