import MiniRay.Node.ActorReservations

/-! The invariant of the Node's Actors, and the fate of a reservation, a published Worker and an
answered request. -/

namespace MiniRay

open Run ResourceLedger

namespace ActorHost

variable {s s' : ActorHost} {actorId : ActorID} {request : ReserveActorWorkerRequest}
  {reply : ReserveActorWorkerReply} {x : ReserveActorWorkerRequest × AllocationToken}

/-! ## Reservations -/

theorem reservation_congr (hworker : s'.actorWorkers.get? actorId = s.actorWorkers.get? actorId)
    (hcreation : s'.creations.get? actorId = s.creations.get? actorId) :
    s'.reservation actorId = s.reservation actorId := by
  unfold reservation
  rw [hworker, hcreation]

theorem reservation_none (hworker : s.actorWorkers.get? actorId = none)
    (hcreation : s.creations.get? actorId = none) : s.reservation actorId = none := by
  simp [reservation, hworker, hcreation]

theorem charge_congr (h : s'.reservation actorId = s.reservation actorId) :
    s'.charge actorId = s.charge actorId := by
  unfold charge
  rw [h]

inductive Reserves (s s' : ActorHost) : Prop
  | same (ledger : s'.ledger = s.ledger) (same : ∀ a, s'.reservation a = s.reservation a)
  | used (op : ResourceLedger.Op) (ledger : s'.ledger = s.ledger.step op)
      (other : op.subject ∉ s.lifetimeTokens) (same : ∀ a, s'.reservation a = s.reservation a)
  | gained (request : ReserveActorWorkerRequest) (allocated : AllocationToken)
      (vacant : s.reservation request.actorId = none) (admitted : s.Admitted request)
      (unfenced : ¬ s.Fenced) (fresh : s.ledger.records.get? allocated = none)
      (recharges : s.ledger.Recharges s'.ledger ⟨allocated, request.resources, .active⟩)
      (changed : ∀ a, s'.reservation a =
        if a = request.actorId then some (request, allocated) else s.reservation a)
  | dropped (actorId : ActorID) (x : ReserveActorWorkerRequest × AllocationToken)
      (held : s.reservation actorId = some x)
      (recharges : s.ledger.Recharges s'.ledger ⟨x.2, x.1.resources, .released⟩)
      (changed : ∀ a, s'.reservation a = if a = actorId then none else s.reservation a)

theorem Reserves.of_released (h : s.Inv) (hx : s.reservation actorId = some x)
    (hledger : s'.ledger = (s.ledger.release x.2).2)
    (hchanged : ∀ a, s'.reservation a = if a = actorId then none else s.reservation a) :
    Reserves s s' := by
  obtain ⟨ledger, hresult, hrecharges⟩ := h.release hx
  rw [hresult] at hledger
  dsimp only at hledger
  rw [← hledger] at hrecharges
  exact .dropped actorId x hx hrecharges hchanged

theorem Step.reserves (hstep : Step s s') (h : s.Inv) : Reserves s s' := by
  cases hstep with
  | quiet same =>
    refine .same same.ledger fun a => reservation_congr ?_ ?_
    · rw [same.actorWorkers]
    · rw [same.creations]
  | answered answers => exact .same rfl fun a => rfl
  | @used op other => exact .used op rfl other fun a => rfl
  | @reserved request allocated ledger free vacant admitted unfenced fresh recharges =>
    refine .gained request allocated (reservation_none vacant free) admitted unfenced fresh
      recharges fun a => ?_
    split
    · next hsame =>
      subst hsame
      simp [reservation, vacant, ActorCreation.request, ActorCreation.allocated]
    · next hother =>
      exact reservation_congr rfl (Dict.get?_set_of_ne _ _ (Ne.symm hother))
  | @advanced actorId creation next spawned creating same =>
    refine .same rfl fun a => ?_
    by_cases ha : a = actorId
    · subst ha
      rw [h.reservation_of_creation creating]
      simp [reservation, h.exclusive creating, same]
    · exact reservation_congr rfl (Dict.get?_set_of_ne _ _ (Ne.symm ha))
  | @published actorId request allocated startup process creating unfenced =>
    obtain rfl : request.actorId = actorId := h.creation _ _ creating
    refine .same rfl fun a => ?_
    by_cases ha : a = request.actorId
    · subst ha
      rw [h.reservation_of_creation creating]
      simp [reservation, answer, ActorCreation.request, ActorCreation.allocated]
    · exact reservation_congr (Dict.get?_set_of_ne _ _ (Ne.symm ha))
        (Dict.get?_erase_of_ne _ (Ne.symm ha))
  | @failed actorId request allocated error creating =>
    refine .of_released h (h.reservation_of_creation creating) rfl fun a => ?_
    split
    · next hsame =>
      subst hsame
      exact reservation_none (h.exclusive creating) (Dict.get?_erase_self _ _)
    · next hother => exact reservation_congr rfl (Dict.get?_erase_of_ne _ (Ne.symm hother))
  | @exited actorId record exitCode detectionId detected live dead =>
    refine .of_released h (reservation_of_worker live) rfl fun a => ?_
    split
    · next hsame =>
      subst hsame
      exact reservation_none (Dict.get?_erase_self _ _) (h.worker _ _ live).2
    · next hother => exact reservation_congr (Dict.get?_erase_of_ne _ (Ne.symm hother)) rfl
  | @stopped actorId record sweeps live known swept =>
    refine .of_released h (reservation_of_worker live) rfl fun a => ?_
    split
    · next hsame =>
      subst hsame
      exact reservation_none (Dict.get?_erase_self _ _) (h.worker _ _ live).2
    · next hother => exact reservation_congr (Dict.get?_erase_of_ne _ (Ne.symm hother)) rfl

theorem Reserves.charges (hreserves : Reserves s s') :
    Tenancy.Step s.charge s.ledger s'.charge s'.ledger := by
  cases hreserves with
  | same ledger same =>
    rw [ledger]
    exact .same fun a => charge_congr (same a)
  | used op ledger other same =>
    rw [ledger]
    refine .used op (fun a => charge_congr (same a)) fun a r hr heq => ?_
    exact other (heq ▸ mem_lifetimeTokens hr)
  | gained request allocated vacant admitted unfenced fresh recharges changed =>
    refine .gained (k := request.actorId) (by simp [charge, vacant]) fresh recharges fun a => ?_
    unfold charge
    rw [changed]
    split <;> rfl
  | dropped actorId x held recharges changed =>
    refine .dropped (k := actorId) (r := lifetime x) (by simp [charge, held]) recharges
      fun a => ?_
    unfold charge
    rw [changed]
    split <;> rfl

theorem Reserves.old (hreserves : Reserves s s') (hx : s'.reservation actorId = some x) :
    s.reservation actorId = some x ∨ (s.reservation actorId = none ∧ s.Admitted x.1 ∧ ¬ s.Fenced ∧
      s.ledger.records.get? x.2 = none) := by
  cases hreserves with
  | same _ same => exact .inl ((same actorId).symm.trans hx)
  | used _ _ _ same => exact .inl ((same actorId).symm.trans hx)
  | gained request allocated vacant admitted unfenced fresh _ changed =>
    rw [changed] at hx
    split at hx
    · next hsame =>
      obtain rfl := Option.some.inj hx
      rw [hsame]
      exact .inr ⟨vacant, admitted, unfenced, fresh⟩
    · exact .inl hx
  | dropped _ _ _ _ changed =>
    rw [changed] at hx
    split at hx
    · cases hx
    · exact .inl hx

theorem Step.node (hstep : Step s s') : s'.node = s.node := by
  cases hstep with
  | quiet same => exact same.node
  | _ => rfl

theorem Step.fenced (hstep : Step s s') (hfenced : s.Fenced) : s'.Fenced := by
  cases hstep with
  | quiet same => exact same.fenced hfenced
  | _ => exact hfenced

/-! ## Outcomes -/

/-- The exit of a live generation was committed. -/
structure Exits (s s' : ActorHost) (record : ActorWorkerRecord) : Prop where
  live : s.actorWorkers.get? record.request.actorId = some record
  gone : s'.reservation record.request.actorId = none
  committed : ∃ detectionId, ∃ detected : detectionId ≠ "", ∃ exitCode,
    s.exited.get? record.process.handle = some exitCode ∧
    s'.actorGenerationOutcomes.get? record.request.generation =
      some ⟨record.request, record.reply, s.exitRecord record detectionId detected exitCode⟩

theorem Step.outcome (hstep : Step s s') (h : s.Inv) (g : ActorGeneration) :
    s'.actorGenerationOutcomes.get? g = s.actorGenerationOutcomes.get? g ∨
      ∃ record, Exits s s' record ∧ record.request.generation = g := by
  cases hstep with
  | quiet same => exact .inl (by rw [same.outcomes])
  | @exited actorId record exitCode detectionId detected live dead =>
    obtain rfl : record.request.actorId = actorId := (h.worker _ _ live).1
    by_cases hg : record.request.generation = g
    · right
      refine ⟨record, ⟨live, ?_, detectionId, detected, exitCode, dead, ?_⟩, hg⟩
      · exact reservation_none (Dict.get?_erase_self _ _) (h.worker _ _ live).2
      · exact Dict.get?_set_self _ _ _
    · exact .inl (Dict.get?_set_of_ne _ _ hg)
  | _ => exact .inl rfl

variable {g : ActorGeneration} {o : ActorGenerationOutcome}

theorem Step.outcome_kept (hstep : Step s s') (h : s.Inv)
    (ho : s.actorGenerationOutcomes.get? g = some o) :
    s'.actorGenerationOutcomes.get? g = some o := by
  rcases hstep.outcome h g with hsame | ⟨record, hexits, rfl⟩
  · exact hsame.trans ho
  · have hunfinished := h.unfinished hexits.live
    rw [ho] at hunfinished
    cases hunfinished

theorem Admitted.after (hadmitted : s.Admitted request) (hstep : Step s s') (h : s.Inv)
    (hunfinished : s'.actorGenerationOutcomes.get? request.generation = none) :
    s'.Admitted request := by
  refine ⟨hadmitted.target.trans (by rw [hstep.node]), hunfinished, fun hrestart => ?_⟩
  obtain ⟨previous, hprevious, hauthorizes⟩ := hadmitted.authorized hrestart
  exact ⟨previous, hstep.outcome_kept h hprevious, hauthorizes⟩

/-! ## Published Workers -/

variable {record : ActorWorkerRecord}

theorem Step.worker (hstep : Step s s') (h : s.Inv)
    (hrecord : s.actorWorkers.get? actorId = some record) :
    s'.actorWorkers.get? actorId = some record ∨ Exits s s' record ∨
      (s'.Fenced ∧ s'.reservation actorId = none ∧
        s'.actorGenerationOutcomes = s.actorGenerationOutcomes) := by
  have hown : record.request.actorId = actorId := (h.worker _ _ hrecord).1
  cases hstep with
  | quiet same => exact .inl (by rw [same.actorWorkers, hrecord])
  | @published publishedId request allocated startup process creating unfenced =>
    obtain rfl : request.actorId = publishedId := h.creation _ _ creating
    have hapart : request.actorId ≠ actorId := fun heq => by
      rw [heq] at creating
      rw [h.exclusive creating] at hrecord
      cases hrecord
    exact .inl ((Dict.get?_set_of_ne _ _ hapart).trans hrecord)
  | @exited exitedId gone exitCode detectionId detected live dead =>
    by_cases ha : exitedId = actorId
    · subst ha
      obtain rfl := Option.some.inj (hrecord.symm.trans live)
      have hcommitted := Step.outcome (Step.exited detected live dead) h record.request.generation
      rcases hcommitted with hsame | ⟨other, hexits, hgeneration⟩
      · have hset := Dict.get?_set_self s.actorGenerationOutcomes record.request.generation
          ⟨record.request, record.reply, s.exitRecord record detectionId detected exitCode⟩
        rw [h.unfinished live] at hsame
        rw [show Dict.get? _ _ = none from hsame] at hset
        cases hset
      · have hsameActor : other.request.actorId = record.request.actorId := by
          rw [← other.request.own_generation, hgeneration, record.request.own_generation]
        have hlive := hexits.live
        rw [hsameActor, hown, live] at hlive
        obtain rfl := Option.some.inj hlive
        exact .inr (.inl hexits)
    · exact .inl ((Dict.get?_erase_of_ne _ ha).trans hrecord)
  | @stopped stoppedId gone sweeps live known swept =>
    by_cases ha : stoppedId = actorId
    · subst ha
      obtain ⟨tid, hsome⟩ := swept
      refine .inr (.inr ⟨h.swept tid hsome, ?_, rfl⟩)
      exact reservation_none (Dict.get?_erase_self _ _) (h.worker _ _ live).2
    · exact .inl ((Dict.get?_erase_of_ne _ ha).trans hrecord)
  | _ => exact .inl hrecord

theorem Step.worker_old (hstep : Step s s') (h : s.Inv)
    (hrecord : s'.actorWorkers.get? actorId = some record) :
    s.actorWorkers.get? actorId = some record ∨ (¬ s.Fenced ∧
      s.reservation actorId = some (record.request, record.allocationToken) ∧
      record.request.actorId = actorId ∧ s'.creations.get? actorId = none) := by
  cases hstep with
  | quiet same => exact .inl (by rw [← same.actorWorkers, hrecord])
  | @published publishedId request allocated startup process creating unfenced =>
    obtain rfl : request.actorId = publishedId := h.creation _ _ creating
    by_cases ha : request.actorId = actorId
    · subst ha
      have hself := hrecord
      change (s.actorWorkers.set request.actorId _).get? request.actorId = _ at hself
      rw [Dict.get?_set_self] at hself
      obtain rfl := Option.some.inj hself
      exact .inr ⟨unfenced, h.reservation_of_creation creating, rfl, Dict.get?_erase_self _ _⟩
    · change (s.actorWorkers.set request.actorId _).get? actorId = _ at hrecord
      rw [Dict.get?_set_of_ne _ _ ha] at hrecord
      exact .inl hrecord
  | @exited exitedId gone exitCode detectionId detected live dead =>
    change (s.actorWorkers.erase exitedId).get? actorId = _ at hrecord
    exact .inl (Dict.of_get?_erase hrecord).2
  | @stopped stoppedId gone sweeps live known swept =>
    change (s.actorWorkers.erase stoppedId).get? actorId = _ at hrecord
    exact .inl (Dict.of_get?_erase hrecord).2
  | _ => exact .inl hrecord

/-! ## Replies -/

/-- How a section answers a request: at once, with its published Worker, or with a failure. -/
inductive Replied (s s' : ActorHost) (request : ReserveActorWorkerRequest)
    (reply : ReserveActorWorkerReply) : Prop
  | answered (answers : s.Answers request reply) (same : s' = s.answer request reply)
  | published (record : ActorWorkerRecord) (allocated : AllocationToken)
      (creating : (s.creations.get? request.actorId).isSome)
      (reserved : s.reservation request.actorId = some (request, allocated))
      (live : s'.actorWorkers.get? request.actorId = some record) (same : record.request = request)
      (kept : record.reply = reply)
  | failed (creating : (s.creations.get? request.actorId).isSome) (allocated : AllocationToken)
      (reserved : s.reservation request.actorId = some (request, allocated))
      (refused : ∀ endpoint, reply.outcome ≠ .accepted endpoint)

theorem Step.replies (hstep : Step s s') (h : s.Inv) : s'.replies = s.replies ∨
    ∃ request reply, s'.replies = (request, reply) :: s.replies ∧ Replied s s' request reply := by
  cases hstep with
  | quiet same => exact .inl same.replies
  | @answered request reply answers =>
    exact .inr ⟨request, reply, rfl, .answered answers rfl⟩
  | @published publishedId request allocated startup process creating unfenced =>
    obtain rfl : request.actorId = publishedId := h.creation _ _ creating
    refine .inr ⟨request, s.acceptedReply request startup, rfl,
      .published _ allocated (by rw [creating]; rfl) (h.reservation_of_creation creating)
        (Dict.get?_set_self _ _ _) rfl rfl⟩
  | @failed failedId request allocated error creating =>
    obtain rfl : request.actorId = failedId := h.creation _ _ creating
    exact .inr ⟨request, _, rfl, .failed (by rw [creating]; rfl) allocated
      (h.reservation_of_creation creating) fun endpoint heq => by cases heq⟩
  | _ => exact .inl rfl

theorem Remembered.after (hremembered : s.Remembered request reply) (hstep : Step s s')
    (h : s.Inv) : s'.Remembered request reply := by
  cases hremembered with
  | current record live same kept =>
    subst same
    rcases hstep.worker h live with hlive | hexits | ⟨hfenced, hnone, houtcomes⟩
    · exact .current record hlive rfl kept
    · obtain ⟨detectionId, detected, exitCode, _, hcommitted⟩ := hexits.committed
      exact .terminal _ hcommitted rfl kept
    · refine .forgotten hfenced ?_ fun x hx => ?_
      · rw [houtcomes]
        exact h.unfinished live
      · rw [hnone] at hx
        cases hx
  | terminal outcome ended same kept =>
    exact .terminal outcome (hstep.outcome_kept h ended) same kept
  | forgotten fenced unended gone =>
    refine .forgotten (hstep.fenced fenced) ?_ fun x hx => ?_
    · rcases hstep.outcome h request.generation with hsame | ⟨record, hexits, hgeneration⟩
      · exact hsame.trans unended
      · have hactor : record.request.actorId = request.actorId := by
          rw [← record.request.own_generation, hgeneration, request.own_generation]
        have hlive := hexits.live
        rw [hactor] at hlive
        exact absurd hgeneration (gone _ (reservation_of_worker hlive))
    · rcases (hstep.reserves h).old hx with hold | ⟨_, _, hunfenced, _⟩
      · exact gone x hold
      · exact absurd fenced hunfenced

/-! ## The invariant -/

theorem inv_new (node : NodeIncarnation) (total : ResourceVector) : (new node total).Inv where
  tenancy := ⟨balanced_new total, (fun _ _ h => by cases h), (fun _ _ _ _ h => by cases h)⟩
  worker _ _ h := by cases h
  creation _ _ h := by cases h
  admitted _ _ h := by cases h
  outcome _ _ h := by cases h
  replied _ h := by cases h
  swept _ h := by cases h

section

variable (hstep : Step s s') (h : s.Inv)
include hstep h

theorem Step.worker_inv (hrecord : s'.actorWorkers.get? actorId = some record) :
    record.request.actorId = actorId ∧ s'.creations.get? actorId = none := by
  rcases hstep.worker_old h hrecord with hold | ⟨_, _, hown, hnone⟩
  · obtain ⟨hown, hnone⟩ := h.worker _ _ hold
    refine ⟨hown, ?_⟩
    cases hstep with
    | quiet same => rw [same.creations, hnone]
    | @reserved request allocated ledger free vacant =>
      have hapart : request.actorId ≠ actorId := fun heq => by
        rw [heq, hold] at vacant
        cases vacant
      exact (Dict.get?_set_of_ne _ _ hapart).trans hnone
    | @advanced advancedId creation next spawned creating =>
      have hapart : advancedId ≠ actorId := fun heq => by
        rw [heq, hnone] at creating
        cases creating
      exact (Dict.get?_set_of_ne _ _ hapart).trans hnone
    | @published publishedId =>
      change (s.creations.erase publishedId).get? actorId = none
      rw [Dict.get?_erase]
      split
      · rfl
      · exact hnone
    | @failed failedId =>
      change (s.creations.erase failedId).get? actorId = none
      rw [Dict.get?_erase]
      split
      · rfl
      · exact hnone
    | _ => exact hnone
  · exact ⟨hown, hnone⟩

theorem Step.creation_inv {creation : ActorCreation}
    (hcreation : s'.creations.get? actorId = some creation) :
    creation.request.actorId = actorId := by
  cases hstep with
  | quiet same => exact h.creation _ _ (same.creations ▸ hcreation)
  | @reserved request allocated =>
    change (s.creations.set request.actorId _).get? actorId = _ at hcreation
    rcases Dict.of_get?_set hcreation with ⟨hsame, rfl⟩ | hcreation
    · exact hsame
    · exact h.creation _ _ hcreation
  | @advanced advancedId old next spawned creating same =>
    change (s.creations.set advancedId _).get? actorId = _ at hcreation
    rcases Dict.of_get?_set hcreation with ⟨hsame, rfl⟩ | hcreation
    · rw [same.1, ← hsame]
      exact h.creation _ _ creating
    · exact h.creation _ _ hcreation
  | @published publishedId =>
    change (s.creations.erase publishedId).get? actorId = _ at hcreation
    exact h.creation _ _ (Dict.of_get?_erase hcreation).2
  | @failed failedId =>
    change (s.creations.erase failedId).get? actorId = _ at hcreation
    exact h.creation _ _ (Dict.of_get?_erase hcreation).2
  | _ => exact h.creation _ _ hcreation

theorem Step.admitted_inv (hx : s'.reservation actorId = some x) :
    s'.Admitted x.1 := by
  have hadmitted : s.Admitted x.1 ∧ x.1.actorId = actorId := by
    rcases (hstep.reserves h).old hx with hold | ⟨_, hadmitted, _, _⟩
    · exact ⟨h.admitted _ _ hold, h.own hold⟩
    · refine ⟨hadmitted, ?_⟩
      unfold reservation at hx
      split at hx
      · next record hrecord =>
        obtain rfl := Option.some.inj hx
        exact (hstep.worker_inv h hrecord).1
      · rw [Option.map_eq_some_iff] at hx
        obtain ⟨c, hc, rfl⟩ := hx
        exact hstep.creation_inv h hc
  obtain ⟨hadmitted, hown⟩ := hadmitted
  refine hadmitted.after hstep h ?_
  rcases hstep.outcome h x.1.generation with hsame | ⟨record, hexits, hgeneration⟩
  · exact hsame.trans hadmitted.unfinished
  · have hactor : record.request.actorId = actorId := by
      rw [← record.request.own_generation, hgeneration, x.1.own_generation, hown]
    have hgone := hexits.gone
    rw [hactor, hx] at hgone
    cases hgone

theorem Step.outcome_inv (ho : s'.actorGenerationOutcomes.get? g = some o) : s'.Ended g o := by
  rcases hstep.outcome h g with hsame | ⟨record, hexits, rfl⟩
  · have hended := h.outcome g o (hsame.symm.trans ho)
    exact ⟨hended.target.trans (by rw [hstep.node]), hended.generation, hended.exited,
      hended.routeEpoch⟩
  · obtain ⟨detectionId, detected, exitCode, _, hcommitted⟩ := hexits.committed
    obtain rfl := Option.some.inj (hcommitted.symm.trans ho)
    refine ⟨?_, rfl, rfl, rfl⟩
    rw [hstep.node]
    exact (h.admitted _ _ (reservation_of_worker hexits.live)).target

theorem Step.replied_inv {y : ReserveActorWorkerRequest × ReserveActorWorkerReply}
    (hy : y ∈ s'.replies)
    (haccepted : ∃ endpoint, y.2.outcome = .accepted endpoint) :
    y.1.targetNodeId = s'.node.nodeId ∧ s'.Remembered y.1 y.2 := by
  rw [hstep.node]
  have hold : y ∈ s.replies → y.1.targetNodeId = s.node.nodeId ∧ s'.Remembered y.1 y.2 := by
    intro hmem
    obtain ⟨htarget, hremembered⟩ := h.replied y hmem haccepted
    exact ⟨htarget, hremembered.after hstep h⟩
  rcases hstep.replies h with hsame | ⟨request, reply, hreplies, hreplied⟩
  · rw [hsame] at hy
    exact hold hy
  · rw [hreplies] at hy
    rcases List.mem_cons.mp hy with rfl | hmem
    · obtain ⟨endpoint, hendpoint⟩ := haccepted
      cases hreplied with
      | answered answers same =>
        cases answers with
        | current record live same' replayed =>
          have hremembered : s.Remembered request reply :=
            .current record live same' replayed
          subst same'
          exact ⟨(h.admitted _ _ (reservation_of_worker live)).target,
            hremembered.after hstep h⟩
        | terminal outcome ended same' replayed =>
          have hremembered : s.Remembered request reply :=
            .terminal outcome ended same' replayed
          subst same'
          exact ⟨(h.outcome _ _ ended).target, hremembered.after hstep h⟩
        | rejected failure error explained refused =>
          rw [refused] at hendpoint
          cases hendpoint
      | published record allocated creating reserved live same kept =>
        exact ⟨(h.admitted _ _ reserved).target, .current record live same kept⟩
      | failed creating allocated reserved refused => exact absurd hendpoint (refused endpoint)
    · exact hold hmem

theorem Step.swept_inv {tid : Nat}
    (hsome : (s'.sweeps.get? tid).isSome) : s'.Fenced := by
  cases hstep with
  | quiet same =>
    rcases same.sweeps tid hsome with hold | hfenced
    · exact same.fenced (h.swept tid hold)
    · exact hfenced
  | stopped live known swept => exact h.swept tid (known tid hsome)
  | _ => exact h.swept tid hsome

theorem Step.inv : s'.Inv where
  tenancy := (hstep.reserves h).charges.tenancy h.tenancy
  worker _ _ hrecord := hstep.worker_inv h hrecord
  creation _ _ hcreation := hstep.creation_inv h hcreation
  admitted _ _ hx := hstep.admitted_inv h hx
  outcome _ _ ho := hstep.outcome_inv h ho
  replied _ hy haccepted := hstep.replied_inv h hy haccepted
  swept _ hsome := hstep.swept_inv h hsome

end

theorem Inv.after (h : s.Inv) (action : Action) : (s.step action).Inv := (h.step_spec action).inv h

theorem Inv.over (h : s.Inv) (actions : List Action) : (run step s actions).Inv :=
  run_invariant (p := Inv) (fun _ action hs => hs.after action) h actions

end ActorHost

end MiniRay
