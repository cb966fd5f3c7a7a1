import MiniRay.Node.ActorLifetimes

/-! # Actor Workers over the runs of a Node -/

namespace MiniRay

open Run ResourceLedger

namespace ActorHost

variable {s s' : ActorHost} {actorId : ActorID} {g g' : ActorGeneration}
  {request : ReserveActorWorkerRequest} {reply : ReserveActorWorkerReply}
  {x : ReserveActorWorkerRequest × AllocationToken}

def Live (s : ActorHost) (g : ActorGeneration) : Prop :=
  ∃ record, s.actorWorkers.get? g.actorId = some record ∧ record.request.generation = g

/-- The generation has a published Worker, or one is being started for it. -/
def Reserved (s : ActorHost) (g : ActorGeneration) : Prop :=
  ∃ x, s.reservation g.actorId = some x ∧ x.1.generation = g

/-- The generation is over for good. -/
def Over (s : ActorHost) (g : ActorGeneration) : Prop :=
  s.actorGenerationOutcomes.get? g ≠ none ∨ (s.Fenced ∧ ¬ s.Reserved g)

theorem Reserved.unique (h : s.Reserved g) (h' : s.Reserved g') (hactor : g.actorId = g'.actorId) :
    g = g' := by
  obtain ⟨x, hx, rfl⟩ := h
  obtain ⟨y, hy, rfl⟩ := h'
  rw [hactor, hy] at hx
  obtain rfl := Option.some.inj hx
  rfl

theorem Over.not_reserved (h : s.Inv) (hover : s.Over g) : ¬ s.Reserved g := by
  rcases hover with hended | ⟨_, hnone⟩
  · intro hreserved
    obtain ⟨x, hx, rfl⟩ := hreserved
    exact hended (h.admitted _ _ hx).unfinished
  · exact hnone

theorem Over.after (hover : s.Over g) (hstep : Step s s') (h : s.Inv) : s'.Over g := by
  rcases hover with hended | ⟨hfenced, hnone⟩
  · obtain ⟨outcome, houtcome⟩ := Option.ne_none_iff_exists'.mp hended
    left
    rw [hstep.outcome_kept h houtcome]
    simp
  · refine .inr ⟨hstep.fenced hfenced, fun hreserved => ?_⟩
    obtain ⟨x, hx, hgeneration⟩ := hreserved
    rcases (hstep.reserves h).old hx with hold | ⟨_, _, hunfenced, _⟩
    · exact hnone ⟨x, hold, hgeneration⟩
    · exact hunfenced hfenced

theorem Live.after (hlive : s.Live g) (hstep : Step s s') (h : s.Inv) : s'.Live g ∨ s'.Over g := by
  obtain ⟨record, hrecord, rfl⟩ := hlive
  rcases hstep.worker h hrecord with hsame | hexits | ⟨hfenced, hnone, _⟩
  · exact .inl ⟨record, hsame, rfl⟩
  · obtain ⟨_, _, _, _, hcommitted⟩ := hexits.committed
    right
    left
    rw [hcommitted]
    simp
  · refine .inr (.inr ⟨hfenced, fun hreserved => ?_⟩)
    obtain ⟨x, hx, _⟩ := hreserved
    rw [hnone] at hx
    cases hx

theorem over_run (h : s.Inv) (hover : s.Over g) (actions : List Action) :
    (run step s actions).Over g := by
  have hboth := run_invariant (p := fun s : ActorHost => s.Inv ∧ s.Over g)
    (fun _ action hs => ⟨hs.1.after action, hs.2.after (hs.1.step_spec action) hs.1⟩)
    ⟨h, hover⟩ actions
  exact hboth.2

theorem live_run (h : s.Inv) (hlive : s.Live g) (actions : List Action) :
    (run step s actions).Live g ∨ (run step s actions).Over g := by
  have hboth := run_invariant (p := fun s : ActorHost => s.Inv ∧ (s.Live g ∨ s.Over g))
    (fun _ action hs => by
      refine ⟨hs.1.after action, ?_⟩
      rcases hs.2 with hlive | hover
      · exact hlive.after (hs.1.step_spec action) hs.1
      · exact .inr (hover.after (hs.1.step_spec action) hs.1))
    ⟨h, .inl hlive⟩ actions
  exact hboth.2

theorem Reserves.keeps (hreserves : Reserves s s') (h : s.Inv)
    (hx : s.reservation actorId = some x) :
    s'.reservation actorId = some x ∨ Spent s'.charge s'.ledger x.2 := by
  have hcharge : s.charge actorId = some (lifetime x) := by simp [charge, hx]
  rcases hreserves.charges.keeps h.tenancy hcharge with ⟨r, hr, _⟩ | hspent
  · left
    unfold charge at hr
    rw [Option.map_eq_some_iff] at hr
    obtain ⟨y, hy, _⟩ := hr
    rcases hreserves.old hy with hold | ⟨hvacant, _⟩
    · rw [hy, ← hold, hx]
    · rw [hx] at hvacant
      cases hvacant
  · exact .inr hspent

theorem reservation_run (h : s.Inv) (hx : s.reservation actorId = some x)
    (actions : List Action) : (run step s actions).reservation actorId = some x ∨
      Spent (run step s actions).charge (run step s actions).ledger x.2 := by
  have hboth := run_invariant (p := fun s : ActorHost => s.Inv ∧
      (s.reservation actorId = some x ∨ Spent s.charge s.ledger x.2))
    (fun _ action hs => by
      have hreserves := (hs.1.step_spec action).reserves hs.1
      refine ⟨hs.1.after action, ?_⟩
      rcases hs.2 with hheld | hspent
      · exact hreserves.keeps hs.1 hheld
      · exact .inr (hreserves.charges.spent hs.1.tenancy hspent))
    ⟨h, .inl hx⟩ actions
  exact hboth.2

theorem Remembered.not_creating (hremembered : s.Remembered request reply) (h : s.Inv)
    (hcreating : (s.creations.get? request.actorId).isSome) {allocated : AllocationToken}
    (hreserved : s.reservation request.actorId = some (request, allocated)) : False := by
  cases hremembered with
  | current record live =>
    rw [(h.worker _ _ live).2] at hcreating
    cases hcreating
  | terminal outcome ended =>
    rw [(h.admitted _ _ hreserved).unfinished] at ended
    cases ended
  | forgotten fenced unended gone => exact gone _ hreserved rfl

/-- A Node that is shutting down and has forgotten the generation rejects its request. -/
def Dismisses (s : ActorHost) (request : ReserveActorWorkerRequest)
    (reply : ReserveActorWorkerReply) : Prop :=
  s.Fenced ∧ s.actorGenerationOutcomes.get? request.generation = none ∧
    ¬ s.Reserved request.generation ∧ ∃ error, ∃ explained : error ≠ "",
      reply = rejectedActorWorker request error explained .nodeStopping

variable {again : ReserveActorWorkerReply}

theorem Remembered.replay (hremembered : s.Remembered request reply) (h : s.Inv)
    (htarget : request.targetNodeId = s.node.nodeId) (hanswers : s.Answers request again) :
    again = reply ∨ s.Dismisses request again := by
  cases hremembered with
  | current record live same kept =>
    left
    cases hanswers with
    | current other live' same' replayed =>
      obtain rfl := Option.some.inj (live.symm.trans live')
      exact replayed.symm.trans kept
    | terminal outcome ended same' =>
      have hunfinished := h.unfinished live
      rw [same, ended] at hunfinished
      cases hunfinished
    | rejected failure error explained refused live' =>
      exact absurd htarget (live' record live same)
  | terminal outcome ended same kept =>
    left
    cases hanswers with
    | current record live same' =>
      have hunfinished := h.unfinished live
      rw [same', ended] at hunfinished
      cases hunfinished
    | terminal other ended' same' replayed =>
      obtain rfl := Option.some.inj (ended.symm.trans ended')
      exact replayed.symm.trans kept
    | rejected failure error explained refused live' ended' =>
      exact absurd htarget (ended' outcome ended same)
  | forgotten fenced unended gone =>
    right
    cases hanswers with
    | current record live same' =>
      exact absurd (congrArg _ same') (gone _ (reservation_of_worker live))
    | terminal outcome ended =>
      rw [unended] at ended
      cases ended
    | rejected failure error explained refused live' ended' stopping =>
      have hfailure := stopping fenced htarget unended
      refine ⟨fenced, unended, fun hreserved => ?_, error, explained, hfailure ▸ refused⟩
      obtain ⟨x, hx, hgeneration⟩ := hreserved
      rw [request.own_generation] at hx
      exact gone x hx hgeneration

theorem Inv.replay (h : s.Inv) (hmem : (request, reply) ∈ s.replies)
    (haccepted : ∃ endpoint, reply.outcome = .accepted endpoint) (action : Action)
    (hreplies : (s.step action).replies = (request, again) :: s.replies) :
    again = reply ∨ s.Dismisses request again := by
  obtain ⟨htarget, hremembered⟩ := h.replied _ hmem haccepted
  rcases (h.step_spec action).replies h with hsame | ⟨request', reply', hcons, hreplied⟩
  · exact absurd (hreplies.symm.trans hsame) (List.cons_ne_self _ _)
  · rw [hreplies, List.cons.injEq, Prod.mk.injEq] at hcons
    obtain ⟨⟨rfl, rfl⟩, _⟩ := hcons
    cases hreplied with
    | answered answers => exact hremembered.replay h htarget answers
    | published record allocated creating reserved =>
      exact absurd reserved fun hreserved => hremembered.not_creating h creating hreserved
    | failed creating allocated reserved =>
      exact absurd reserved fun hreserved => hremembered.not_creating h creating hreserved

/-! ## What the Node guarantees -/

/-- Actor Worker reservation on one Node, over all its runs. -/
structure ActorWorkerSpec (node : NodeIncarnation) (total : ResourceVector) : Prop where
  /-- At most one generation of an Actor is reserved or live. -/
  single : ∀ actions g g', let s := run step (new node total) actions
    s.Reserved g → s.Reserved g' → g.actorId = g'.actorId → g = g'
  /-- A later generation follows the exit of its predecessor. -/
  authorized : ∀ actions a x, (run step (new node total) actions).reservation a = some x →
    x.1.generation.generation ≠ 0 → ∃ previous,
      (run step (new node total) actions).actorGenerationOutcomes.get?
        ⟨x.1.actorId, x.1.generation.generation - 1⟩ = some previous ∧
      x.1.restart = some previous.exitRecord ∧
      previous.exitRecord.generation = ⟨x.1.actorId, x.1.generation.generation - 1⟩ ∧
      SameActorLifetimeSpec previous.request x.1 ∧
      previous.request.routeEpoch < x.1.routeEpoch
  /-- An outcome is the exit of a generation that was live, and stays. -/
  exited : ∀ actions action g o, let s := run step (new node total) actions
    (s.step action).actorGenerationOutcomes.get? g = some o →
      s.actorGenerationOutcomes.get? g = some o ∨ ∃ record,
        s.actorWorkers.get? g.actorId = some record ∧ record.request.generation = g ∧
        o.request = record.request ∧ o.reply = record.reply ∧
        s.exited.get? record.process.handle = some o.exitRecord.exitCode
  /-- A generation that was live and ended is never reserved again. -/
  ended : ∀ actions more rest g, (run step (new node total) actions).Live g →
    ¬ (run step (new node total) (actions ++ more)).Live g →
    ¬ (run step (new node total) (actions ++ more ++ rest)).Reserved g
  /-- A reserved generation is charged, under a token of its own that was new to the ledger. -/
  charged : ∀ actions a x, let s := run step (new node total) actions
    s.reservation a = some x →
      s.ledger.records.get? x.2 = some ⟨x.2, x.1.resources, .active⟩ ∧
      ∀ b y, s.reservation b = some y → y.2 = x.2 → b = a
  allocated : ∀ actions action a x, let s := run step (new node total) actions
    (s.step action).reservation a = some x →
      s.reservation a = some x ∨ s.ledger.records.get? x.2 = none
  /-- A reservation lasts until its token is released, for good. -/
  released : ∀ actions more a x, (run step (new node total) actions).reservation a = some x →
    let s := run step (new node total) (actions ++ more)
    s.reservation a = some x ∨ Spent s.charge s.ledger x.2
  /-- The exit of a live generation finds its token unreleased. -/
  asserted : ∀ actions a generation handle detectionId (detected : detectionId ≠ ""),
    ∃ changed, ((run step (new node total) actions).handleUnexpectedExit a generation handle
      detectionId detected).1 = .ok changed
  /-- An exact replay of an accepted request returns the first reply, unless the Node is shutting
  down and has stopped the generation. -/
  replayed : ∀ actions action request reply again, let s := run step (new node total) actions
    (request, reply) ∈ s.replies → (∃ endpoint, reply.outcome = .accepted endpoint) →
    (s.step action).replies = (request, again) :: s.replies →
      again = reply ∨ s.Dismisses request again

theorem run_inv (node : NodeIncarnation) (total : ResourceVector) (actions : List Action) :
    (run step (new node total) actions).Inv := (inv_new node total).over actions

theorem actorWorkerSpec (node : NodeIncarnation) (total : ResourceVector) :
    ActorWorkerSpec node total where
  single actions g g' := Reserved.unique
  authorized actions a x hx hrestart := by
    have hinv := run_inv node total actions
    obtain ⟨previous, hprevious, hauthorizes⟩ := (hinv.admitted a x hx).authorized hrestart
    have hended := hinv.outcome _ _ hprevious
    refine ⟨previous, hprevious, hauthorizes.restart, hended.exited, hauthorizes.spec, ?_⟩
    have hepoch := hauthorizes.routeEpoch
    have hexit := hended.routeEpoch
    omega
  exited actions action g o := by
    intro s ho
    have hinv : s.Inv := run_inv node total actions
    rcases (hinv.step_spec action).outcome hinv g with hsame | ⟨record, hexits, rfl⟩
    · exact .inl (hsame.symm.trans ho)
    · obtain ⟨_, _, exitCode, hcode, hcommitted⟩ := hexits.committed
      obtain rfl := Option.some.inj (hcommitted.symm.trans ho)
      have hlive := hexits.live
      rw [← record.request.own_generation] at hlive
      exact .inr ⟨record, hlive, rfl, rfl, rfl, hcode⟩
  ended actions more rest g hlive hnot := by
    have hinv := run_inv node total actions
    rw [run_append] at hnot
    rw [run_append, run_append]
    rcases live_run hinv hlive more with hstill | hover
    · exact absurd hstill hnot
    · have hlater := hinv.over more
      exact (over_run hlater hover rest).not_reserved (hlater.over rest)
  charged actions a x := by
    intro s hx
    have hinv : s.Inv := run_inv node total actions
    have hcharge : s.charge a = some (lifetime x) := by simp [charge, hx]
    refine ⟨(hinv.tenancy.charged _ _ hcharge).1, fun b y hy htoken => ?_⟩
    have hcharge' : s.charge b = some (lifetime y) := by simp [charge, hy]
    exact hinv.tenancy.own _ _ _ _ hcharge' hcharge htoken
  allocated actions action a x := by
    intro s hx
    have hinv : s.Inv := run_inv node total actions
    rcases ((hinv.step_spec action).reserves hinv).old hx with hold | ⟨_, _, _, hfresh⟩
    · exact .inl hold
    · exact .inr hfresh
  released actions more a x hx := by
    rw [run_append]
    exact reservation_run (run_inv node total actions) hx more
  asserted actions a generation handle detectionId detected :=
    ((run_inv node total actions).exit_step a generation handle detectionId detected).1
  replayed actions action request reply again := by
    intro s hmem haccepted hreplies
    exact (run_inv node total actions).replay hmem haccepted action hreplies

/-! ## A rejection is not kept -/

namespace Sample

def counter : ReserveActorWorkerRequest where
  actorId := ⟨6⟩
  generation := ⟨⟨6⟩, 0⟩
  classDefinition :=
    { key := ⟨⟨0⟩, "module", "Counter", "1", by decide⟩
      payload := [1]
      sha256 := Sha256.hexdigest [1]
      methodNames := ["increment"]
      checksum := rfl
      exported := by decide }
  constructorPayload := []
  resources := .empty
  ownerWorkerId := ⟨2⟩
  targetNodeId := ⟨3⟩
  routeEpoch := 0
  restart := none
  own_generation := rfl
  first _ := rfl
  authorized h := absurd rfl h

def startup : ActorWorkerStartup :=
  ⟨⟨6⟩, ⟨⟨6⟩, 0⟩, ⟨4⟩, 7, default, rfl, by decide⟩

def timeout : StartupError :=
  .raised "RuntimeError" "actor worker did not report readiness before timeout"

/-- The first start fails, the replay succeeds. -/
def retried : List Action :=
  [.reserve counter ⟨"first", by decide⟩, .spawn ⟨6⟩ (.failed timeout), .failStart ⟨6⟩,
    .reserve counter ⟨"second", by decide⟩, .spawn ⟨6⟩ (.started startup 7), .publish ⟨6⟩]

def incarnation : NodeIncarnation := ⟨⟨3⟩, 30, 1, by decide⟩

def host : ActorHost := new incarnation .empty

def refusal : ReserveActorWorkerReply :=
  rejectedActorWorker counter timeout.text timeout.text_ne .startupFailed

theorem replies_retried : (run step host retried).replies =
    [(counter, host.acceptedReply counter startup), (counter, refusal)] := rfl

end Sample

open Sample in
/-- A request that was rejected is accepted later. -/
theorem exists_rejected_replay : ∃ (node : NodeIncarnation) (total : ResourceVector)
    (actions : List Action) (request : ReserveActorWorkerRequest)
    (first again : ReserveActorWorkerReply),
    (run step (new node total) actions).replies = [(request, again), (request, first)] ∧
      again ≠ first := by
  refine ⟨incarnation, .empty, retried, counter, refusal, host.acceptedReply counter startup,
    replies_retried, fun h => ?_⟩
  cases congrArg ReserveActorWorkerReply.outcome h

end ActorHost

end MiniRay
