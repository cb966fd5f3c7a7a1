import MiniRay.Node.ActorWorkers
import MiniRay.Resources.Tenancy

/-! What one section may do to the Node's Actors, and what it preserves. -/

namespace MiniRay

open ResourceLedger

namespace ActorHost

variable {s s' : ActorHost} {actorId : ActorID} {request : ReserveActorWorkerRequest}
  {reply : ReserveActorWorkerReply} {allocated : AllocationToken}

/-- What an Actor's published Worker holds, or the one that is being started. -/
def reservation (s : ActorHost) (actorId : ActorID) :
    Option (ReserveActorWorkerRequest × AllocationToken) :=
  match s.actorWorkers.get? actorId with
  | some record => some (record.request, record.allocationToken)
  | none => (s.creations.get? actorId).map fun creation => (creation.request, creation.allocated)

def lifetime (reserved : ReserveActorWorkerRequest × AllocationToken) : AllocationRecord :=
  ⟨reserved.2, reserved.1.resources, .active⟩

/-- The lifetime resources that each Actor is charged for. -/
def charge (s : ActorHost) (actorId : ActorID) : Option AllocationRecord :=
  (s.reservation actorId).map lifetime

/-- The request restarts exactly the incarnation that ended. -/
structure Authorizes (previous : ActorGenerationOutcome) (request : ReserveActorWorkerRequest) :
    Prop where
  restart : request.restart = some previous.exitRecord
  routeEpoch : request.routeEpoch = previous.exitRecord.routeEpoch + 2
  spec : SameActorLifetimeSpec previous.request request

/-- A generation that the Node may run. -/
structure Admitted (s : ActorHost) (request : ReserveActorWorkerRequest) : Prop where
  target : request.targetNodeId = s.node.nodeId
  unfinished : s.actorGenerationOutcomes.get? request.generation = none
  authorized : request.generation.generation ≠ 0 → ∃ previous,
    s.actorGenerationOutcomes.get? ⟨request.actorId, request.generation.generation - 1⟩ =
      some previous ∧ Authorizes previous request

inductive Answers (s : ActorHost) (request : ReserveActorWorkerRequest)
    (reply : ReserveActorWorkerReply) : Prop
  | current (record : ActorWorkerRecord) (live : s.actorWorkers.get? request.actorId = some record)
      (same : record.request = request) (replayed : record.reply = reply)
  | terminal (outcome : ActorGenerationOutcome)
      (ended : s.actorGenerationOutcomes.get? request.generation = some outcome)
      (same : outcome.request = request) (replayed : outcome.reply = reply)
  | rejected (failure : ActorWorkerFailure) (error : String) (explained : error ≠ "")
      (refused : reply = rejectedActorWorker request error explained failure)
      (live : ∀ record, s.actorWorkers.get? request.actorId = some record →
        record.request = request → request.targetNodeId ≠ s.node.nodeId)
      (ended : ∀ outcome, s.actorGenerationOutcomes.get? request.generation = some outcome →
        outcome.request = request → request.targetNodeId ≠ s.node.nodeId)
      (stopping : s.Fenced → request.targetNodeId = s.node.nodeId →
        s.actorGenerationOutcomes.get? request.generation = none → failure = .nodeStopping)

/-- Nothing about the Actors changes. -/
structure SameActors (s s' : ActorHost) : Prop where
  node : s'.node = s.node
  ledger : s'.ledger = s.ledger
  actorWorkers : s'.actorWorkers = s.actorWorkers
  outcomes : s'.actorGenerationOutcomes = s.actorGenerationOutcomes
  creations : s'.creations = s.creations
  replies : s'.replies = s.replies
  fenced : s.Fenced → s'.Fenced
  sweeps : ∀ tid, (s'.sweeps.get? tid).isSome → (s.sweeps.get? tid).isSome ∨ s'.Fenced

theorem SameActors.rfl : SameActors s s :=
  ⟨Eq.refl _, Eq.refl _, Eq.refl _, Eq.refl _, Eq.refl _, Eq.refl _, id, fun _ => .inl⟩

inductive Step (s : ActorHost) : ActorHost → Prop
  | quiet {s' : ActorHost} (same : SameActors s s') : Step s s'
  | answered {request : ReserveActorWorkerRequest} {reply : ReserveActorWorkerReply}
      (answers : s.Answers request reply) : Step s (s.answer request reply)
  | used {op : ResourceLedger.Op} (other : op.subject ∉ s.lifetimeTokens) :
      Step s { s with ledger := s.ledger.step op }
  | reserved {request : ReserveActorWorkerRequest} {allocated : AllocationToken}
      {ledger : ResourceLedger} (free : s.creations.get? request.actorId = none)
      (vacant : s.actorWorkers.get? request.actorId = none) (admitted : s.Admitted request)
      (unfenced : ¬ s.Fenced) (fresh : s.ledger.records.get? allocated = none)
      (recharges : s.ledger.Recharges ledger ⟨allocated, request.resources, .active⟩) :
      Step s { s with
        ledger := ledger
        creations := s.creations.set request.actorId (.starting request allocated) }
  | advanced {actorId : ActorID} {creation next : ActorCreation} {spawned : Nat}
      (creating : s.creations.get? actorId = some creation)
      (same : next.request = creation.request ∧ next.allocated = creation.allocated) :
      Step s { s with spawned := spawned, creations := s.creations.set actorId next }
  | published {actorId : ActorID} {request : ReserveActorWorkerRequest}
      {allocated : AllocationToken} {startup : ActorWorkerStartup} {process : ActorProcess}
      (creating : s.creations.get? actorId = some (.publishing request allocated startup process))
      (unfenced : ¬ s.Fenced) :
      Step s ({ s with
        actorWorkerIdsSeen := startup.workerId :: s.actorWorkerIdsSeen
        actorWorkerPidsSeen := startup.workerPid :: s.actorWorkerPidsSeen
        actorWorkers := s.actorWorkers.set request.actorId
          ⟨request, allocated, process, startup, s.acceptedReply request startup⟩
        creations := s.creations.erase actorId }.answer request (s.acceptedReply request startup))
  | failed {actorId : ActorID} {request : ReserveActorWorkerRequest}
      {allocated : AllocationToken} {error : StartupError}
      (creating : s.creations.get? actorId = some (.failing request allocated error)) :
      Step s ({ s with
        ledger := (s.ledger.release allocated).2
        creations := s.creations.erase actorId }.answer request
          (rejectedActorWorker request error.text error.text_ne error.failure))
  | exited {actorId : ActorID} {record : ActorWorkerRecord} {exitCode : Int}
      {detectionId : String} (detected : detectionId ≠ "")
      (live : s.actorWorkers.get? actorId = some record)
      (dead : s.exited.get? record.process.handle = some exitCode) :
      Step s { s with
        ledger := (s.ledger.release record.allocationToken).2
        actorWorkers := s.actorWorkers.erase actorId
        actorGenerationOutcomes := s.actorGenerationOutcomes.set record.request.generation
          ⟨record.request, record.reply, s.exitRecord record detectionId detected exitCode⟩ }
  | stopped {actorId : ActorID} {record : ActorWorkerRecord} {sweeps : Dict Nat ActorSweep}
      (live : s.actorWorkers.get? actorId = some record)
      (known : ∀ tid, (sweeps.get? tid).isSome → (s.sweeps.get? tid).isSome)
      (swept : ∃ tid, (s.sweeps.get? tid).isSome) :
      Step s { s with
        sweeps := sweeps
        ledger := (s.ledger.release record.allocationToken).2
        actorWorkers := s.actorWorkers.erase actorId }

/-! ## The invariant -/

structure Ended (s : ActorHost) (g : ActorGeneration) (outcome : ActorGenerationOutcome) :
    Prop where
  target : outcome.request.targetNodeId = s.node.nodeId
  generation : outcome.request.generation = g
  exited : outcome.exitRecord.generation = g
  routeEpoch : outcome.exitRecord.routeEpoch = outcome.request.routeEpoch

/-- Where an accepted reply is kept, unless a Node that is shutting down forgot it. -/
inductive Remembered (s : ActorHost) (request : ReserveActorWorkerRequest)
    (reply : ReserveActorWorkerReply) : Prop
  | current (record : ActorWorkerRecord) (live : s.actorWorkers.get? request.actorId = some record)
      (same : record.request = request) (kept : record.reply = reply)
  | terminal (outcome : ActorGenerationOutcome)
      (ended : s.actorGenerationOutcomes.get? request.generation = some outcome)
      (same : outcome.request = request) (kept : outcome.reply = reply)
  | forgotten (fenced : s.Fenced)
      (unended : s.actorGenerationOutcomes.get? request.generation = none)
      (gone : ∀ x, s.reservation request.actorId = some x →
        x.1.generation ≠ request.generation)

structure Inv (s : ActorHost) : Prop where
  tenancy : Tenancy s.charge s.ledger
  worker : ∀ a r, s.actorWorkers.get? a = some r →
    r.request.actorId = a ∧ s.creations.get? a = none
  creation : ∀ a c, s.creations.get? a = some c → c.request.actorId = a
  admitted : ∀ a x, s.reservation a = some x → s.Admitted x.1
  outcome : ∀ g o, s.actorGenerationOutcomes.get? g = some o → s.Ended g o
  replied : ∀ x ∈ s.replies, (∃ endpoint, x.2.outcome = .accepted endpoint) →
    x.1.targetNodeId = s.node.nodeId ∧ s.Remembered x.1 x.2
  swept : ∀ tid, (s.sweeps.get? tid).isSome → s.Fenced

theorem Inv.exclusive (h : s.Inv) {c : ActorCreation} (hc : s.creations.get? actorId = some c) :
    s.actorWorkers.get? actorId = none := by
  by_contra hlive
  obtain ⟨record, hrecord⟩ := Option.ne_none_iff_exists'.mp hlive
  have hnone := (h.worker actorId record hrecord).2
  rw [hc] at hnone
  cases hnone

variable {record : ActorWorkerRecord}

theorem reservation_of_worker (h : s.actorWorkers.get? actorId = some record) :
    s.reservation actorId = some (record.request, record.allocationToken) := by
  simp [reservation, h]

theorem Inv.reservation_of_creation (h : s.Inv) {c : ActorCreation}
    (hc : s.creations.get? actorId = some c) :
    s.reservation actorId = some (c.request, c.allocated) := by
  simp [reservation, h.exclusive hc, hc]

variable {x : ReserveActorWorkerRequest × AllocationToken}

theorem Inv.own (h : s.Inv) (hx : s.reservation actorId = some x) : x.1.actorId = actorId := by
  unfold reservation at hx
  split at hx
  · next record hrecord =>
    obtain rfl := Option.some.inj hx
    exact (h.worker actorId record hrecord).1
  · rw [Option.map_eq_some_iff] at hx
    obtain ⟨c, hc, rfl⟩ := hx
    exact h.creation actorId c hc

theorem mem_lifetimeTokens {r : AllocationRecord} (h : s.charge actorId = some r) :
    r.token ∈ s.lifetimeTokens := by
  unfold charge reservation at h
  rw [Option.map_eq_some_iff] at h
  obtain ⟨x, hx, rfl⟩ := h
  split at hx
  · next record hrecord =>
    obtain rfl := Option.some.inj hx
    refine List.mem_append_left _ (List.mem_map.mpr ⟨record, ?_, rfl⟩)
    exact Dict.mem_values_iff.mpr ⟨actorId, hrecord⟩
  · rw [Option.map_eq_some_iff] at hx
    obtain ⟨c, hc, rfl⟩ := hx
    refine List.mem_append_right _ (List.mem_map.mpr ⟨c, ?_, rfl⟩)
    exact Dict.mem_values_iff.mpr ⟨actorId, hc⟩

theorem Inv.release (h : s.Inv) (hx : s.reservation actorId = some x) : ∃ ledger : ResourceLedger,
    s.ledger.release x.2 = (.ok true, ledger) ∧
      s.ledger.Recharges ledger ⟨x.2, x.1.resources, .released⟩ := by
  have hcharge : s.charge actorId = some (lifetime x) := by simp [charge, hx]
  obtain ⟨hcharged, hlive⟩ := h.tenancy.charged _ _ hcharge
  exact release_live h.tenancy.balanced hcharged hlive

/-! ## One section -/

theorem generationRejection_none (h : s.generationRejection request = none) :
    request.generation.generation ≠ 0 → ∃ previous,
      s.actorGenerationOutcomes.get? ⟨request.actorId, request.generation.generation - 1⟩ =
        some previous ∧ Authorizes previous request := by
  intro hrestart
  unfold generationRejection at h
  rw [if_neg hrestart] at h
  split at h
  · next previous restart hprevious hproof =>
    split_ifs at h with hexit hepoch hspec
    have hsame : restart = previous.exitRecord := not_not.mp hexit
    refine ⟨previous, hprevious, ?_, ?_, hspec⟩
    · rw [hproof, hsame]
    · rw [← hsame]
      exact not_not.mp hepoch
  · cases h

theorem generationRejection_some (h : s.generationRejection request = some reply) :
    ∃ error, ∃ explained : error ≠ "",
      reply = rejectedActorWorker request error explained .invalidRequest := by
  unfold generationRejection at h
  split at h
  · split at h
    · cases h
      exact ⟨_, _, rfl⟩
    · cases h
  · split at h
    · split_ifs at h
      · cases h
        exact ⟨_, _, rfl⟩
      · cases h
        exact ⟨_, _, rfl⟩
      · cases h
        exact ⟨_, _, rfl⟩
    · cases h
      exact ⟨_, _, rfl⟩

theorem Inv.unfinished (h : s.Inv) (hrecord : s.actorWorkers.get? actorId = some record) :
    s.actorGenerationOutcomes.get? record.request.generation = none :=
  (h.admitted actorId _ (reservation_of_worker hrecord)).unfinished

theorem Answers.of_unknown {failure : ActorWorkerFailure} {error : String}
    {explained : error ≠ ""}
    (hlive : ∀ record, s.actorWorkers.get? request.actorId = some record →
      record.request ≠ request)
    (hended : ∀ outcome, s.actorGenerationOutcomes.get? request.generation = some outcome →
      outcome.request ≠ request)
    (hstopping : s.Fenced → s.actorGenerationOutcomes.get? request.generation = none →
      failure = .nodeStopping) :
    s.Answers request (rejectedActorWorker request error explained failure) :=
  .rejected failure error explained rfl
    (fun record hrecord hsame => absurd hsame (hlive record hrecord))
    (fun outcome houtcome hsame => absurd hsame (hended outcome houtcome))
    (fun hfenced _ hnone => hstopping hfenced hnone)

theorem Inv.admission_answers (h : s.Inv) (hreply : s.admission request = some reply) :
    s.Answers request reply := by
  unfold admission at hreply
  split at hreply
  · next terminal hterminal =>
    split at hreply
    · next hsame =>
      cases hreply
      exact .terminal terminal hterminal hsame rfl
    · next hother =>
      cases hreply
      refine .of_unknown (fun record hrecord hsame => ?_) (fun outcome houtcome => ?_)
        (fun _ hnone => ?_)
      · have hunfinished := h.unfinished hrecord
        rw [hsame, hterminal] at hunfinished
        cases hunfinished
      · obtain rfl := Option.some.inj (hterminal.symm.trans houtcome)
        exact hother
      · rw [hterminal] at hnone
        cases hnone
  · next hunended =>
    have hended : ∀ outcome, s.actorGenerationOutcomes.get? request.generation = some outcome →
        outcome.request ≠ request := fun outcome houtcome => by
      rw [hunended] at houtcome
      cases houtcome
    split at hreply
    · next previous hprevious =>
      split at hreply
      · next hsame =>
        cases hreply
        exact .current previous hprevious hsame rfl
      · next hother =>
        have hlive : ∀ record, s.actorWorkers.get? request.actorId = some record →
            record.request ≠ request := fun record hrecord => by
          obtain rfl := Option.some.inj (hprevious.symm.trans hrecord)
          exact hother
        split at hreply
        · cases hreply
          exact .of_unknown hlive hended fun _ _ => rfl
        · next hunfenced =>
          cases hreply
          exact .of_unknown hlive hended fun hfenced => absurd hfenced hunfenced
    · next hvacant =>
      have hlive : ∀ record, s.actorWorkers.get? request.actorId = some record →
          record.request ≠ request := fun record hrecord => by
        rw [hvacant] at hrecord
        cases hrecord
      split at hreply
      · cases hreply
        exact .of_unknown hlive hended fun _ _ => rfl
      · next hunfenced =>
        obtain ⟨error, explained, rfl⟩ := generationRejection_some hreply
        exact .of_unknown hlive hended fun hfenced => absurd hfenced hunfenced

theorem admission_none (htarget : request.targetNodeId = s.node.nodeId)
    (h : s.admission request = none) :
    s.Admitted request ∧ s.actorWorkers.get? request.actorId = none ∧ ¬ s.Fenced := by
  unfold admission at h
  split at h
  · split at h <;> cases h
  · next hunended =>
    split at h
    · split_ifs at h
    · next hvacant =>
      split at h
      · cases h
      · next hunfenced =>
        exact ⟨⟨htarget, hunended, generationRejection_none h⟩, hvacant, hunfenced⟩

theorem Inv.reserve_step (h : s.Inv) (request : ReserveActorWorkerRequest)
    {allocationToken : AllocationToken}
    (hfresh : s.ledger.records.get? allocationToken = none) :
    Step s (s.reserve request allocationToken) := by
  unfold reserve
  split
  · next htarget =>
    exact .answered (.rejected _ _ _ rfl (fun _ _ _ => htarget) (fun _ _ _ => htarget)
      fun _ hsame => absurd hsame htarget)
  · next htarget =>
    have hsame : request.targetNodeId = s.node.nodeId := not_not.mp htarget
    split
    · exact .quiet .rfl
    · next hfree =>
      rw [Option.not_isSome_iff_eq_none] at hfree
      cases hadmission : s.admission request with
      | some reply => exact .answered (h.admission_answers hadmission)
      | none =>
        obtain ⟨hadmitted, hvacant, hunfenced⟩ := admission_none hsame hadmission
        dsimp only
        obtain ⟨e, hresult, _⟩ | ⟨hresult, hknown⟩ | ⟨ledger, hresult, _, hrecharges⟩ :=
          allocate_spec h.tenancy.balanced request.resources (some allocationToken)
            allocationToken
        · unfold tryAllocate
          rw [hresult]
          cases e with
          | insufficientResources requested available =>
            refine .answered (.of_unknown (fun record hrecord => ?_)
              (fun outcome houtcome => ?_) fun hfenced => absurd hfenced hunfenced)
            · rw [hvacant] at hrecord
              cases hrecord
            · rw [hadmitted.unfinished] at houtcome
              cases houtcome
          | allocationToken | allocationAlreadyReleased | assertionError => exact .quiet .rfl
        · rw [Option.getD_some, hfresh] at hknown
          cases hknown
        · unfold tryAllocate
          rw [hresult]
          exact .reserved hfree hvacant hadmitted hunfenced hfresh hrecharges

theorem spawn_step (s : ActorHost) (actorId : ActorID) (outcome : SpawnOutcome) :
    Step s (s.spawn actorId outcome) := by
  unfold spawn
  split
  · next request allocated hcreating =>
    cases outcome with
    | failed error => exact .advanced hcreating ⟨rfl, rfl⟩
    | started startup pid =>
      dsimp only
      split
      · exact .advanced hcreating ⟨rfl, rfl⟩
      · exact .advanced hcreating ⟨rfl, rfl⟩
  · exact .quiet .rfl

theorem publishError_none {startup : ActorWorkerStartup} (h : s.publishError startup = none) :
    ¬ s.Fenced := by
  unfold publishError at h
  split_ifs at h with hfenced
  exact hfenced

theorem publish_step (s : ActorHost) (actorId : ActorID) : Step s (s.publish actorId) := by
  unfold publish
  split
  · next request allocated startup process hcreating =>
    cases herror : s.publishError startup with
    | some error => exact .advanced hcreating ⟨rfl, rfl⟩
    | none => exact .published hcreating (publishError_none herror)
  · exact .quiet .rfl

theorem failStart_step (s : ActorHost) (actorId : ActorID) : Step s (s.failStart actorId) := by
  unfold failStart
  split
  · next request allocated error hcreating => exact .failed hcreating
  · exact .quiet .rfl

theorem processExit_step (s : ActorHost) (handle : Nat) (exitCode : Int) :
    Step s (s.processExit handle exitCode) := by
  unfold processExit
  split
  · exact .quiet ⟨rfl, rfl, rfl, rfl, rfl, rfl, id, fun _ => .inl⟩
  · exact .quiet .rfl

theorem Inv.exit_step (h : s.Inv) (actorId : ActorID) (generation : ActorGeneration)
    (handle : Nat) (detectionId : String) (detected : detectionId ≠ "") :
    (∃ exited, (s.handleUnexpectedExit actorId generation handle detectionId detected).1 =
      .ok exited) ∧
    Step s (s.handleUnexpectedExit actorId generation handle detectionId detected).2 := by
  unfold handleUnexpectedExit
  split
  · next exitCode record hdead hlive =>
    split
    · exact ⟨⟨false, rfl⟩, .quiet .rfl⟩
    · next hsame =>
      push Not at hsame
      obtain ⟨hhandle, hgeneration⟩ := hsame
      obtain ⟨ledger, hresult, _⟩ := h.release (reservation_of_worker hlive)
      have hexited : Step s { s with
          ledger := (s.ledger.release record.allocationToken).2
          actorWorkers := s.actorWorkers.erase actorId
          actorGenerationOutcomes := s.actorGenerationOutcomes.set record.request.generation
            ⟨record.request, record.reply, s.exitRecord record detectionId detected exitCode⟩ } :=
        .exited detected hlive (by rw [hhandle]; exact hdead)
      simp only [hresult] at hexited ⊢
      refine ⟨⟨true, rfl⟩, ?_⟩
      rw [← hgeneration]
      exact hexited
  · exact ⟨⟨false, rfl⟩, .quiet .rfl⟩

theorem collect_quiet {requestId : Option String} {sweeps : Dict Nat ActorSweep}
    (h : s.Fenced) : Step s { s with actorFinalizeRequestId := requestId, sweeps := sweeps } :=
  .quiet ⟨rfl, rfl, rfl, rfl, rfl, rfl, id, fun _ _ => .inr h⟩

theorem collectFinalize_step (s : ActorHost) (tid : Nat) (requestId : Option String) :
    Step s (s.collectFinalize tid requestId) := by
  unfold collectFinalize
  dsimp only
  split
  · exact .quiet .rfl
  · next hstart =>
    push Not at hstart
    split_ifs
    · exact .quiet .rfl
    · exact collect_quiet hstart.1
    · exact collect_quiet hstart.1

theorem collectDrain_step (s : ActorHost) (tid : Nat) : Step s (s.collectDrain tid) := by
  unfold collectDrain
  split
  · exact .quiet .rfl
  · next hstart =>
    push Not at hstart
    split_ifs
    · exact .quiet .rfl
    · exact collect_quiet (.inr hstart.1)

theorem sweepNext_step (s : ActorHost) (tid : Nat) (stoppedCleanly : Bool) :
    Step s (s.sweepNext tid stoppedCleanly) := by
  unfold sweepNext
  split
  · next finalizing actorId record records hsweep =>
    have hknown : ∀ tid', ((s.sweeps.set tid ⟨finalizing, records⟩).get? tid').isSome →
        (s.sweeps.get? tid').isSome := fun tid' hsome => by
      rw [Dict.get?_set] at hsome
      split at hsome
      · next hsame => rw [← hsame, hsweep]; rfl
      · exact hsome
    have hquiet : Step s { s with sweeps := s.sweeps.set tid ⟨finalizing, records⟩ } :=
      .quiet ⟨rfl, rfl, rfl, rfl, rfl, rfl, id, fun tid' hsome => .inl (hknown tid' hsome)⟩
    dsimp only
    split
    · unfold releaseStopped
      split
      · next hlive => exact .stopped hlive hknown ⟨tid, by rw [hsweep]; rfl⟩
      · exact hquiet
    · exact hquiet
  · refine .quiet ⟨rfl, rfl, rfl, rfl, rfl, rfl, id, fun tid' hsome => .inl ?_⟩
    change ((s.sweeps.erase tid).get? tid').isSome at hsome
    rw [Dict.get?_erase] at hsome
    split at hsome
    · cases hsome
    · exact hsome
  · exact .quiet .rfl

theorem Inv.step_spec (h : s.Inv) (action : Action) : Step s (s.step action) := by
  cases action with
  | reserve request allocationToken =>
    simp only [step]
    split
    · next hfresh => exact h.reserve_step request hfresh
    · exact .quiet .rfl
  | spawn actorId outcome => exact s.spawn_step actorId outcome
  | publish actorId => exact s.publish_step actorId
  | failStart actorId => exact s.failStart_step actorId
  | processExit handle exitCode => exact s.processExit_step handle exitCode
  | handleUnexpectedExit actorId generation handle detectionId detected =>
    exact (h.exit_step actorId generation handle detectionId detected).2
  | stop => exact .quiet ⟨rfl, rfl, rfl, rfl, rfl, rfl, fun _ => .inl rfl, fun _ => .inl⟩
  | beginDrain requestId =>
    simp only [step, beginDrain]
    split
    · exact .quiet ⟨rfl, rfl, rfl, rfl, rfl, rfl, fun _ => .inr (by simp), fun _ => .inl⟩
    · exact .quiet .rfl
  | collectFinalize tid requestId => exact s.collectFinalize_step tid requestId
  | collectDrain tid => exact s.collectDrain_step tid
  | sweepNext tid stoppedCleanly => exact s.sweepNext_step tid stoppedCleanly
  | useLedger op =>
    simp only [step]
    split
    · exact .quiet .rfl
    · next hother => exact .used hother

end ActorHost

end MiniRay
