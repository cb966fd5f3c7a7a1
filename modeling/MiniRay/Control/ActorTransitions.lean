import MiniRay.Control.ActorRegistry

/-! What the registry's reducers may do to one record, and what every such transition keeps. -/

namespace MiniRay

open Checked

namespace ActorRecord

def currentReservation (self : ActorRecord) : Option ReserveActorWorkerRequest :=
  if self.generation.generation = 0 then self.initialReservation else self.restartReservation

/-! ## Valid records -/

/-- The last exit is that of the generation before. -/
def Succeeds (self : ActorRecord) : Prop :=
  match self.lastExit with
  | none => self.generation.generation = 0
  | some exit => exit.generation.next = self.generation

structure Valid (r : ActorRecord) : Prop where
  consumed : r.generation.generation = r.restartsUsed
  budget : r.restartsUsed ≤ r.request.maxRestarts
  creating : r.state = .creating → r.routeEpoch = 0 ∧ r.restartsUsed = 0 ∧
    r.lastExit = none ∧ r.error = none ∧ r.restartReservation = none
  routed : r.state = .alive ↔ r.endpoint ≠ none
  alive : ∀ e, r.endpoint = some e → r.error = none ∧ 0 < r.routeEpoch ∧
    r.Succeeds ∧ ∃ reservation, r.currentReservation = some reservation ∧
      reservation.generation = r.generation ∧ reservation.targetNodeId = e.nodeId
  restarting : r.state = .restarting → r.error = none ∧ r.lastExit ≠ none ∧
    r.Succeeds ∧ ∃ reservation, r.restartReservation = some reservation ∧
      reservation.generation = r.generation ∧ reservation.routeEpoch = r.routeEpoch + 1
  dead : r.state = .dead → r.error ≠ none ∧ r.error ≠ some ""
  initial : ∀ reservation, r.initialReservation = some reservation →
    reservation.generation = r.request.generation
  exited : ∀ exit, r.lastExit = some exit → exit.actorId = r.request.actorId ∧
    exit.generation.generation ≤ r.generation.generation ∧ exit.routeEpoch < r.routeEpoch

theorem valid_new (request : CreateActorRequest) : (new request).Valid where
  consumed := request.initial
  budget := Nat.zero_le _
  creating _ := ⟨rfl, rfl, rfl, rfl, rfl⟩
  routed := by simp [new]
  alive e h := by simp [new] at h
  restarting h := by simp [new] at h
  dead h := by simp [new] at h
  initial _ h := by simp [new] at h
  exited _ h := by simp [new] at h

/-! ## Transitions -/

/-- The Nodes a thread selected for the Actor, and the replies to its reservations. -/
structure Context where
  selects : NodeID → Prop
  replied : ReserveActorWorkerRequest → ReserveActorWorkerReply → Prop

structure Context.Accepted (context : Context) (reservation : ReserveActorWorkerRequest)
    (endpoint : ActorEndpoint) (reply : ReserveActorWorkerReply) : Prop where
  replied : context.replied reservation reply
  own : reply.generation = reservation.generation
  accepted : reply.outcome = .accepted endpoint
  there : endpoint.nodeId = reservation.targetNodeId

inductive Step (context : Context) (r : ActorRecord) : ActorRecord → Prop
  | reserved {target : NodeID} (state : r.state = .creating)
      (unreserved : r.initialReservation = none) (selected : context.selects target) :
      Step context r { r with initialReservation := some (firstReservation r.request target) }
  | created {reservation : ReserveActorWorkerRequest} {reply : ReserveActorWorkerReply}
      {endpoint : ActorEndpoint} (state : r.state = .creating)
      (frozen : r.initialReservation = some reservation)
      (accepted : context.Accepted reservation endpoint reply) :
      Step context r (r.publish endpoint (max (r.routeEpoch + 1) reservation.routeEpoch))
  | refused {error : String} {routeEpoch : Nat} (state : r.state = .creating)
      (explained : error ≠ "") (later : r.routeEpoch < routeEpoch) :
      Step context r (r.refuse error routeEpoch)
  | exhausted {exit : ActorWorkerExitRecord} {node : NodeSnapshot} {restartAllowed : Bool}
      (state : r.state = .alive) (own : exit.generation = r.generation)
      (exited : r.Exited exit node) : Step context r (r.exhaust exit restartAllowed)
  | restarting {exit : ActorWorkerExitRecord} {node : NodeSnapshot} (state : r.state = .alive)
      (own : exit.generation = r.generation) (exited : r.Exited exit node)
      (budget : r.restartsUsed < r.request.maxRestarts) :
      Step context r (r.startRestart exit own exited.epoch)
  | restarted {reservation : ReserveActorWorkerRequest} {reply : ReserveActorWorkerReply}
      {endpoint : ActorEndpoint} (state : r.state = .restarting)
      (frozen : r.restartReservation = some reservation)
      (accepted : context.Accepted reservation endpoint reply) :
      Step context r (r.publish endpoint reservation.routeEpoch)
  | restartFailed {reservation : ReserveActorWorkerRequest} {error : String}
      (state : r.state = .restarting) (frozen : r.restartReservation = some reservation)
      (explained : error ≠ "") :
      Step context r { r.refuse error reservation.routeEpoch with restartReservation := none }
  | nodeFailed {error : String} (state : r.state ≠ .dead) (explained : error ≠ "") :
      Step context r (r.failOnNode error)

variable {context : Context} {r r' : ActorRecord}

theorem Step.request (h : Step context r r') : r'.request = r.request := by
  cases h <;> rfl

theorem Step.not_dead (h : Step context r r') : r.state ≠ .dead := by
  cases h <;> simp_all

variable {exit : ActorWorkerExitRecord}

theorem exited_endpoint {node : NodeSnapshot} (h : r.Exited exit node) :
    ∃ e, r.endpoint = some e ∧ e.nodeId = exit.nodeId := by
  obtain ⟨_, _, _, _, hendpoint, _⟩ := h
  obtain ⟨e, he, heq⟩ := Option.map_eq_some_iff.mp hendpoint
  exact ⟨e, he, congrArg Prod.fst heq⟩

theorem exit_own (h : exit.generation = r.generation) : exit.actorId = r.request.actorId := by
  rw [← exit.own_generation, h, r.own_generation]

theorem lt_failEpoch (r : ActorRecord) (error : String) :
    r.routeEpoch < (r.failOnNode error).routeEpoch := by
  unfold failOnNode
  dsimp only
  split <;> omega

variable {reservation : ReserveActorWorkerRequest}

theorem Valid.restartEpoch (hvalid : r.Valid) (state : r.state = .restarting)
    (frozen : r.restartReservation = some reservation) :
    reservation.generation = r.generation ∧ reservation.routeEpoch = r.routeEpoch + 1 := by
  obtain ⟨_, _, _, other, hfrozen, hgeneration, hepoch⟩ := hvalid.restarting state
  obtain rfl := Option.some.inj (hfrozen.symm.trans frozen)
  exact ⟨hgeneration, hepoch⟩

theorem Valid.restart_later (hvalid : r.Valid) (state : r.state = .restarting)
    (frozen : r.restartReservation = some reservation) : r.routeEpoch < reservation.routeEpoch := by
  rw [(hvalid.restartEpoch state frozen).2]
  exact Nat.lt_succ_self _

/-- A transition is invisible, or it moves the route to a later epoch. -/
theorem Step.epoch (h : Step context r r') (hvalid : r.Valid) :
    r'.snapshot = r.snapshot ∨ r.routeEpoch < r'.routeEpoch := by
  cases h with
  | reserved => exact .inl rfl
  | created => exact .inr (Nat.lt_of_lt_of_le (Nat.lt_succ_self _) (Nat.le_max_left _ _))
  | refused state explained later => exact .inr later
  | exhausted state own exited => exact .inr (Nat.lt_succ_self _)
  | restarting state own exited budget => exact .inr (Nat.lt_succ_self _)
  | restarted state frozen => exact .inr (hvalid.restart_later state frozen)
  | restartFailed state frozen explained => exact .inr (hvalid.restart_later state frozen)
  | nodeFailed state explained => exact .inr (lt_failEpoch _ _)

/-! ## Validity is kept -/

theorem first_generation (h : r.generation.generation = 0) :
    r.generation = r.request.generation := by
  have hactor := r.own_generation.trans r.request.own_generation.symm
  have hzero := h.trans r.request.initial.symm
  cases hr : r.generation
  cases hq : r.request.generation
  simp_all

theorem valid_dead (hvalid : r.Valid) (request : r'.request = r.request)
    (generation : r'.generation = r.generation) (used : r'.restartsUsed = r.restartsUsed)
    (state : r'.state = .dead) (endpoint : r'.endpoint = none)
    (error : r'.error ≠ none ∧ r'.error ≠ some "")
    (initial : r'.initialReservation = r.initialReservation ∨ r'.initialReservation = none)
    (exited : ∀ exit, r'.lastExit = some exit → exit.actorId = r.request.actorId ∧
      exit.generation.generation ≤ r.generation.generation ∧ exit.routeEpoch < r'.routeEpoch) :
    r'.Valid where
  consumed := by rw [generation, used, hvalid.consumed]
  budget := by
    rw [used, request]
    exact hvalid.budget
  creating h := by simp [state] at h
  routed := by simp [state, endpoint]
  alive e h := by simp [endpoint] at h
  restarting h := by simp [state] at h
  dead _ := error
  initial reservation h := by
    rw [request]
    rcases initial with hinitial | hinitial
    · exact hvalid.initial reservation (hinitial ▸ h)
    · simp [hinitial] at h
  exited exit h := by
    rw [request, generation]
    exact exited exit h

theorem Valid.endpoint_none (hvalid : r.Valid) (h : r.state ≠ .alive) : r.endpoint = none := by
  have hrouted := hvalid.routed.not.mp h
  simpa using hrouted

theorem Valid.exited_later (hvalid : r.Valid) {epoch : Nat} (hepoch : r.routeEpoch < epoch)
    (h : r.lastExit = some exit) :
    exit.actorId = r.request.actorId ∧ exit.generation.generation ≤ r.generation.generation ∧
      exit.routeEpoch < epoch := by
  obtain ⟨hactor, hgeneration, hexit⟩ := hvalid.exited exit h
  exact ⟨hactor, hgeneration, by omega⟩

theorem valid_publish (hvalid : r.Valid) {endpoint : ActorEndpoint} {routeEpoch : Nat}
    (hepoch : r.routeEpoch < routeEpoch) (hsucceeds : r.Succeeds)
    (hcurrent : r.currentReservation = some reservation)
    (hgeneration : reservation.generation = r.generation)
    (hthere : endpoint.nodeId = reservation.targetNodeId) :
    (r.publish endpoint routeEpoch).Valid where
  consumed := hvalid.consumed
  budget := hvalid.budget
  creating := nofun
  routed := by simp [publish]
  alive e h := by
    cases h
    exact ⟨rfl, Nat.zero_lt_of_lt hepoch, hsucceeds, reservation, hcurrent, hgeneration,
      hthere.symm⟩
  restarting := nofun
  dead := nofun
  initial := hvalid.initial
  exited _ h := hvalid.exited_later hepoch h

theorem Step.valid (h : Step context r r') (hvalid : r.Valid) : r'.Valid := by
  cases h with
  | reserved state unreserved selected =>
    have hendpoint := hvalid.endpoint_none (by rw [state]; decide)
    refine ⟨hvalid.consumed, hvalid.budget, hvalid.creating, hvalid.routed, ?_,
      hvalid.restarting, hvalid.dead, ?_, hvalid.exited⟩
    · intro e he
      exact absurd (hendpoint.symm.trans he) (by simp)
    · intro reservation hreservation
      cases hreservation
      rfl
  | @created reservation reply endpoint state frozen accepted =>
    obtain ⟨_, hused, hexit, _⟩ := hvalid.creating state
    have hzero : r.generation.generation = 0 := hvalid.consumed.trans hused
    have hcurrent : r.currentReservation = some reservation := by
      rw [currentReservation, if_pos hzero, frozen]
    have hgeneration : reservation.generation = r.generation := by
      rw [hvalid.initial _ frozen, first_generation hzero]
    exact valid_publish hvalid (by omega) (by rw [Succeeds, hexit]; exact hzero) hcurrent
      hgeneration accepted.there
  | refused state explained later =>
    have hendpoint := hvalid.endpoint_none (by rw [state]; decide)
    exact valid_dead hvalid rfl rfl rfl rfl hendpoint (by simpa [refuse] using explained)
      (.inl rfl) fun _ h => hvalid.exited_later later h
  | exhausted state own exited =>
    refine valid_dead hvalid rfl rfl rfl rfl rfl ?_ (.inl rfl) fun x hx => ?_
    · refine ⟨by simp [exhaust], ?_⟩
      simp only [exhaust, ne_eq, Option.some.injEq]
      split <;> decide
    · cases hx
      refine ⟨exit_own own, by rw [own], ?_⟩
      rw [← exited.epoch]
      exact Nat.lt_succ_self _
  | @restarting exit node state own exited budget =>
    refine ⟨?_, budget, nofun, ?_, nofun, fun _ => ?_, nofun, hvalid.initial, fun x hx => ?_⟩
    · exact congrArg Nat.succ hvalid.consumed
    · simp [startRestart]
    · have hsucceeds : (r.startRestart exit own exited.epoch).Succeeds :=
        congrArg ActorGeneration.next own
      exact ⟨rfl, by simp [startRestart], hsucceeds, _, rfl, rfl, rfl⟩
    · cases hx
      have hactor : exit.actorId = r.request.actorId := exit_own own
      have hbefore : exit.generation.generation ≤ r.generation.generation + 1 := by
        rw [own]
        exact Nat.le_succ _
      have hlater : exit.routeEpoch < r.routeEpoch + 1 := by
        rw [exited.epoch]
        exact Nat.lt_succ_self _
      exact ⟨hactor, hbefore, hlater⟩
  | @restarted reservation reply endpoint state frozen accepted =>
    obtain ⟨hgeneration, hepoch⟩ := hvalid.restartEpoch state frozen
    obtain ⟨_, hexit, hsucceeds, _⟩ := hvalid.restarting state
    have hcurrent : r.currentReservation = some reservation := by
      obtain ⟨exit, hlast⟩ := Option.ne_none_iff_exists'.mp hexit
      rw [Succeeds, hlast] at hsucceeds
      have hne : r.generation.generation ≠ 0 := by
        rw [← hsucceeds]
        exact Nat.succ_ne_zero _
      rw [currentReservation, if_neg hne, frozen]
    exact valid_publish hvalid (by omega) hsucceeds hcurrent hgeneration accepted.there
  | @restartFailed reservation error state frozen explained =>
    have hendpoint := hvalid.endpoint_none (by rw [state]; decide)
    exact valid_dead hvalid rfl rfl rfl rfl hendpoint (by simpa [refuse] using explained)
      (.inl rfl) fun _ h => hvalid.exited_later (hvalid.restart_later state frozen) h
  | nodeFailed state explained =>
    exact valid_dead hvalid rfl rfl rfl rfl rfl (by simpa [failOnNode] using explained)
      (.inr rfl) fun _ h => hvalid.exited_later (lt_failEpoch _ _) h

/-! ## What later records keep -/

structure Later (r r' : ActorRecord) : Prop where
  request : r'.request = r.request
  generation : r.generation.generation ≤ r'.generation.generation
  epoch : r'.snapshot = r.snapshot ∨ r.routeEpoch < r'.routeEpoch
  reserved : r'.generation.generation = r.generation.generation → ∀ reservation,
    r.currentReservation = some reservation → r'.currentReservation = some reservation ∨
      r'.currentReservation = none ∧ r'.state = .dead
  published : r'.generation.generation = r.generation.generation → ∀ e,
    r.endpoint = some e → r'.endpoint = some e ∨ r'.state = .dead
  dead : r.state = .dead → r' = r

theorem Later.rfl : Later r r where
  request := .refl _
  generation := le_rfl
  epoch := .inl (.refl _)
  reserved _ _ h := .inl h
  published _ _ h := .inl h
  dead _ := .refl _

theorem Later.trans {r₁ r₂ r₃ : ActorRecord} (h : Later r₁ r₂) (h' : Later r₂ r₃) :
    Later r₁ r₃ where
  request := h'.request.trans h.request
  generation := h.generation.trans h'.generation
  epoch := by
    rcases h.epoch with hsame | hless
    · rcases h'.epoch with hsame' | hless'
      · exact .inl (hsame'.trans hsame)
      · have hepoch : r₂.routeEpoch = r₁.routeEpoch := congrArg ActorSnapshot.routeEpoch hsame
        exact .inr (by omega)
    · rcases h'.epoch with hsame' | hless'
      · have hepoch : r₃.routeEpoch = r₂.routeEpoch := congrArg ActorSnapshot.routeEpoch hsame'
        exact .inr (by omega)
      · exact .inr (by omega)
  reserved hsame reservation hcurrent := by
    have hle := h.generation
    have hle' := h'.generation
    rcases h.reserved (by omega) reservation hcurrent with hkept | ⟨hnone, hdead⟩
    · exact h'.reserved (by omega) reservation hkept
    · rw [h'.dead hdead]
      exact .inr ⟨hnone, hdead⟩
  published hsame e he := by
    have hle := h.generation
    have hle' := h'.generation
    rcases h.published (by omega) e he with hkept | hdead
    · exact h'.published (by omega) e hkept
    · rw [h'.dead hdead]
      exact .inr hdead
  dead hdead := by
    have hsame := h.dead hdead
    rw [h'.dead (hsame ▸ hdead), hsame]

theorem Step.later (h : Step context r r') (hvalid : r.Valid) : Later r r' := by
  have hepoch := h.epoch hvalid
  have hrequest := h.request
  have hopen : r.state = .dead → r' = r := fun hdead => absurd hdead h.not_dead
  cases h with
  | reserved state unreserved selected =>
    refine ⟨hrequest, le_rfl, hepoch, fun _ reservation hcurrent => ?_, fun _ _ he => .inl he,
      hopen⟩
    have hzero : r.generation.generation = 0 :=
      hvalid.consumed.trans (hvalid.creating state).2.1
    rw [currentReservation, if_pos hzero, unreserved] at hcurrent
    cases hcurrent
  | created state frozen accepted =>
    have hendpoint := hvalid.endpoint_none (by rw [state]; decide)
    exact ⟨hrequest, le_rfl, hepoch, fun _ _ hcurrent => .inl hcurrent,
      fun _ e he => absurd (hendpoint.symm.trans he) (by simp), hopen⟩
  | refused state explained later =>
    exact ⟨hrequest, le_rfl, hepoch, fun _ _ hcurrent => .inl hcurrent,
      fun _ _ _ => .inr rfl, hopen⟩
  | exhausted state own exited =>
    refine ⟨hrequest, le_rfl, hepoch, fun _ reservation hcurrent => ?_, fun _ _ _ => .inr rfl,
      hopen⟩
    by_cases hzero : r.generation.generation = 0
    · left
      rw [currentReservation, if_pos hzero] at hcurrent
      exact (if_pos hzero).trans hcurrent
    · exact .inr ⟨if_neg hzero, rfl⟩
  | restarting state own exited budget =>
    have hmoved : r.generation.next.generation ≠ r.generation.generation := Nat.succ_ne_self _
    exact ⟨hrequest, Nat.le_succ _, hepoch, fun hsame => absurd hsame hmoved,
      fun hsame => absurd hsame hmoved, hopen⟩
  | restarted state frozen accepted =>
    have hendpoint := hvalid.endpoint_none (by rw [state]; decide)
    exact ⟨hrequest, le_rfl, hepoch, fun _ _ hcurrent => .inl hcurrent,
      fun _ e he => absurd (hendpoint.symm.trans he) (by simp), hopen⟩
  | restartFailed state frozen explained =>
    refine ⟨hrequest, le_rfl, hepoch, fun _ reservation hcurrent => ?_, fun _ _ _ => .inr rfl,
      hopen⟩
    by_cases hzero : r.generation.generation = 0
    · left
      rw [currentReservation, if_pos hzero] at hcurrent
      exact (if_pos hzero).trans hcurrent
    · exact .inr ⟨if_neg hzero, rfl⟩
  | nodeFailed state explained =>
    refine ⟨hrequest, le_rfl, hepoch, fun _ _ _ => .inr ⟨?_, rfl⟩, fun _ _ _ => .inr rfl, hopen⟩
    rw [currentReservation]
    split <;> rfl

end ActorRecord

end MiniRay
