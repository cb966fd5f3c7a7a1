import MiniRay.Actor.CallGaps
import MiniRay.Control.ActorSpec

/-! # The numbers of an owner's calls -/

namespace MiniRay

open Run

/-! ## The order of the published routes -/

theorem ActorSnapshot.Before.trans {a b c : ActorSnapshot} (h : a.Before b) (h' : b.Before c) :
    a.Before c := by
  rcases h with hless | ⟨hsame, hphase⟩
  · left
    rcases h' with hless' | ⟨hsame', _⟩
    · omega
    · rw [← hsame']
      exact hless
  · rcases h' with hless' | ⟨hsame', hphase'⟩
    · left
      rw [hsame]
      exact hless'
    · exact .inr ⟨hsame.trans hsame', by omega⟩

theorem ActorRecord.Step.before {context : Context} {r r' : ActorRecord} (h : Step context r r') :
    r'.snapshot = r.snapshot ∨ r.snapshot.Before r'.snapshot := by
  have hends : ∀ {state : ActorState}, state ≠ .dead → state.phase < ActorState.dead.phase := by
    intro state hopen
    cases state with
    | dead => exact absurd rfl hopen
    | _ => decide
  cases h with
  | reserved => exact .inl rfl
  | created state => exact .inr (.inr ⟨rfl, by simp [snapshot, publish, state, ActorState.phase]⟩)
  | refused state =>
    exact .inr (.inr ⟨rfl, by simp [snapshot, refuse, state, ActorState.phase]⟩)
  | exhausted state =>
    exact .inr (.inr ⟨rfl, by simp [snapshot, exhaust, state, ActorState.phase]⟩)
  | restarting => exact .inr (.inl (Nat.lt_succ_self _))
  | restarted state =>
    exact .inr (.inr ⟨rfl, by simp [snapshot, publish, state, ActorState.phase]⟩)
  | restartFailed state =>
    exact .inr (.inr ⟨rfl, by simp [snapshot, refuse, state, ActorState.phase]⟩)
  | nodeFailed state => exact .inr (.inr ⟨rfl, hends state⟩)

theorem ActorCoordinator.run_before {s : ActorCoordinator} (h : s.Inv)
    (actions : List ActorAction) {a : ActorID} {r : ActorRecord}
    (hr : s.actors.actors.get? a = some r) : ∃ r',
      (run ActorCoordinator.step s actions).actors.actors.get? a = some r' ∧
        (r'.snapshot = r.snapshot ∨ r.snapshot.Before r'.snapshot) := by
  induction actions generalizing s r with
  | nil => exact ⟨r, hr, .inl rfl⟩
  | cons action actions ih =>
    have hspec := step_spec h action
    have hfirst : ∃ r', (s.step action).actors.actors.get? a = some r' ∧
        (r'.snapshot = r.snapshot ∨ r.snapshot.Before r'.snapshot) := by
      obtain ⟨moved, hmoves, _⟩ := hspec.moves
      by_cases ha : a = moved
      · subst ha
        rcases hmoves.record with hsame | ⟨hnone, _⟩ | ⟨old, new, hold, hnew, hstep⟩
        · exact ⟨r, hsame.trans hr, .inl rfl⟩
        · rw [hnone] at hr
          cases hr
        · obtain rfl := Option.some.inj (hold.symm.trans hr)
          exact ⟨new, hnew, hstep.before⟩
      · exact ⟨r, (hmoves.others _ ha).trans hr, .inl rfl⟩
    obtain ⟨r₁, hr₁, hstep⟩ := hfirst
    obtain ⟨r₂, hr₂, hrest⟩ := ih hspec.inv hr₁
    refine ⟨r₂, hr₂, ?_⟩
    rcases hstep with hsame | hbefore
    · rw [← hsame]
      exact hrest
    · rcases hrest with hsame | hbefore'
      · rw [hsame]
        exact .inr hbefore
      · exact .inr (hbefore.trans hbefore')

namespace ActorCalls

variable {s s' : ActorCalls} {action : ActorCallAction}

/-- The owner that created no Actor yet. -/
def initial (workerId : WorkerID) : ActorCalls := { workerId := workerId }

def SameCalls (s s' : ActorCalls) : Prop :=
  ∀ a, (s'.clients.entries.get? a).map (fun entry => (entry.nextSequence, entry.inflight)) =
    (s.clients.entries.get? a).map fun entry => (entry.nextSequence, entry.inflight)

/-- The step takes a number for the call. -/
def Begins (s : ActorCalls) (action : ActorCallAction) (o : ObjectID) (fence : ActorCallFence) :
    Prop :=
  ∃ n, (s.step action).taken = ⟨o, fence, n⟩ :: s.taken

def Publishes (s : ActorCalls) (action : ActorCallAction) (o : ObjectID) (fence : ActorCallFence) :
    Prop :=
  (s.step action).published = (o, fence) :: s.published

theorem run_routed (workerId : WorkerID) (actions : List ActorCallAction) :
    (run step (initial workerId) actions).Routed :=
  run_invariant (fun _ action h => h.after action) (gapInv_new workerId).routed actions

variable {snapshot : ActorSnapshot}

theorem run_follows (h : s.Routed) (hpublished : 0 < snapshot.routeEpoch)
    (hfollows : s.clients.Follows snapshot) (actions : List ActorCallAction) :
    (run step s actions).clients.Follows snapshot := by
  have hboth : (run step s actions).Routed ∧ (run step s actions).clients.Follows snapshot := by
    refine run_invariant (p := fun s : ActorCalls => s.Routed ∧ s.clients.Follows snapshot) ?_
      ⟨h, hfollows⟩ actions
    intro s action hs
    exact ⟨hs.1.after action, follows_step hs.1 hpublished hs.2 action⟩
  exact hboth.2

theorem alive_published (hvalid : snapshot.Valid) (halive : snapshot.state = .alive) :
    0 < snapshot.routeEpoch := by
  by_cases hfirst : snapshot.generation.generation = 0
  · exact (hvalid.alive_initial halive hfirst).2
  · obtain ⟨exit, hexit, _⟩ := hvalid.alive_restarted halive hfirst
    have hless := (hvalid.exited exit hexit).2.2
    omega

/-! ## Submissions -/

theorem sameCalls_iff (h : s.Routed) (submission : ActorCallSubmission) :
    (∀ error, (s.submitActorCall submission).1 = .error error →
      s.SameCalls (s.submitActorCall submission).2) ↔ ¬ s.Loses submission := by
  have hspec := submitActorCall_spec h submission
  constructor
  · intro hkept hloses
    generalize s.submitActorCall submission = result at hspec hkept
    cases hspec with
    | refused kept => exact kept hloses
    | started kept => exact kept hloses
    | @lost error entry fence clients objects loses known own routes ended grows =>
      have hsame := hkept error rfl submission.actorId
      have hcount : ∃ other, clients.entries.get? submission.actorId = some other ∧
          other.nextSequence = entry.nextSequence + 1 := by
        have htaken : (s.takeNumber submission.actorId entry (.forTask submission.taskId 0)
            fence).clients.entries.get? submission.actorId =
              some (entry.take (.forTask submission.taskId 0) fence) := Dict.get?_set_self _ _ _
        rcases ended with rfl | rfl
        · exact ⟨_, htaken, rfl⟩
        · unfold ActorClientTable.finishCall
          rw [own, htaken]
          dsimp only
          split
          · exact ⟨_, htaken, rfl⟩
          · exact ⟨_, Dict.get?_set_self _ _ _, rfl⟩
      obtain ⟨other, hother, hnext⟩ := hcount
      have hnumbers := congrArg (Option.map Prod.fst) hsame
      dsimp only at hnumbers
      rw [hother, known, Option.map_some, Option.map_some, Option.map_some, Option.map_some,
        Option.some.injEq, hnext] at hnumbers
      omega
  · intro hkept error herror
    generalize s.submitActorCall submission = result at hspec herror
    cases hspec with
    | refused => exact fun _ => rfl
    | lost loses => exact absurd loses hkept
    | started => cases herror

/-- A number is taken only by a submission that starts its thread, unless it is lost. -/
theorem Stepped.sending (h : s.Stepped action s') (hkept : ¬ s.LosesNumber action)
    {t : TakenNumber} (ht : t ∈ s'.taken) : t ∈ s.taken ∨ s'.Sending t := by
  cases h with
  | installed valid routes =>
    cases routes with
    | kept => exact .inl ht
    | rerouted known newer grows => exact .inl ht
  | submitted submission submits =>
    generalize s.submitActorCall submission = result at submits ht
    cases submits with
    | refused => exact .inl ht
    | lost loses => exact absurd ⟨submission, rfl, loses⟩ hkept
    | started kept new known own routes =>
      rcases List.mem_cons.mp ht with rfl | hold
      · right
        right
        exact ⟨_, Dict.get?_set_self _ _ _, rfl, own.symm, rfl, rfl, rfl, rfl⟩
      · exact .inl hold
  | advanced running moves =>
    cases moves with
    | installed phase found routes =>
      cases routes with
      | kept => exact .inl ht
      | rerouted known newer grows => exact .inl ht
    | _ => exact .inl ht
  | _ => exact .inl ht

/-! ## Calls and their fences -/

/-- The call's number was taken with this fence. -/
def Begun (s : ActorCalls) (o : ObjectID) (fence : ActorCallFence) : Prop :=
  ∃ t ∈ s.taken, t.objectId = o ∧ t.fence = fence

structure BegunInv (s : ActorCalls) : Prop where
  threads : ∀ o thread, s.threads.get? o = some thread → s.Begun o thread.fence
  published : ∀ o fence, (o, fence) ∈ s.published → s.Begun o fence

variable {o : ObjectID} {fence : ActorCallFence}

theorem Begun.grows (h : s.Stepped action s') (hbegun : s.Begun o fence) : s'.Begun o fence := by
  obtain ⟨t, ht, hrest⟩ := hbegun
  rcases h.taken with hsame | ⟨taken, _, hcons, _⟩
  · exact ⟨t, hsame ▸ ht, hrest⟩
  · exact ⟨t, by rw [hcons]; exact List.mem_cons_of_mem _ ht, hrest⟩

theorem Stepped.threads (h : s.Stepped action s') {thread : ActorCallThread}
    (hthread : s'.threads.get? o = some thread) : s'.Begun o thread.fence ∨
      ∃ old, s.threads.get? o = some old ∧ old.fence = thread.fence := by
  have hset : ∀ {x old phase}, s.threads.get? x = some old →
      (s.threads.set x { old with phase := phase }).get? o = some thread →
        ∃ old, s.threads.get? o = some old ∧ old.fence = thread.fence := by
    intro x old phase hold hget
    rcases Dict.of_get?_set hget with ⟨rfl, rfl⟩ | hget
    · exact ⟨old, hold, rfl⟩
    · exact ⟨thread, hget, rfl⟩
  cases h with
  | installed valid routes =>
    right
    cases routes with
    | kept => exact ⟨thread, hthread, rfl⟩
    | rerouted known newer grows => exact ⟨thread, hthread, rfl⟩
  | submitted submission submits =>
    generalize s.submitActorCall submission = result at submits hthread
    cases submits with
    | refused => exact .inr ⟨thread, hthread, rfl⟩
    | lost => exact .inr ⟨thread, hthread, rfl⟩
    | @started entry fence arguments kept new known own routes =>
      have hget : (s.threads.set (.forTask submission.taskId 0)
          ⟨s.request submission entry.nextSequence fence arguments, fence, .sending⟩).get? o =
            some thread := hthread
      rcases Dict.of_get?_set hget with ⟨ho, rfl⟩ | hget
      · exact .inl ⟨_, List.mem_cons_self, ho, rfl⟩
      · exact .inr ⟨thread, hget, rfl⟩
  | advanced running moves =>
    right
    cases moves with
    | idle => exact ⟨thread, hthread, rfl⟩
    | finished past =>
      have hget : (s.threads.erase _).get? o = some thread := hthread
      exact ⟨thread, (Dict.of_get?_erase hget).2, rfl⟩
    | sent phase => exact hset running hthread
    | phased unsent left => exact hset running hthread
    | installed phase found routes => exact hset running hthread
    | failed past grows => exact hset running hthread
    | published past grows publishes => exact hset running hthread
  | _ => exact .inr ⟨thread, hthread, rfl⟩

theorem BegunInv.stepped (h : s.BegunInv) (hstep : s.Stepped action s') : s'.BegunInv where
  threads o thread hthread := by
    rcases hstep.threads hthread with hbegun | ⟨old, hold, hfence⟩
    · exact hbegun
    · rw [← hfence]
      exact (h.threads o old hold).grows hstep
  published o fence hmem := by
    rcases hstep.published with hsame | ⟨x, thread, hthread, _, hcons⟩
    · rw [hsame] at hmem
      exact (h.published o fence hmem).grows hstep
    · rw [hcons] at hmem
      rcases List.mem_cons.mp hmem with heq | hold
      · cases heq
        exact (h.threads o thread hthread).grows hstep
      · exact (h.published o fence hold).grows hstep

theorem run_begunInv (workerId : WorkerID) (actions : List ActorCallAction) :
    (run step (initial workerId) actions).BegunInv := by
  have hboth : (run step (initial workerId) actions).Routed ∧
      (run step (initial workerId) actions).BegunInv := by
    refine run_invariant (p := fun s : ActorCalls => s.Routed ∧ s.BegunInv) ?_ ?_ actions
    · intro s action h
      exact ⟨h.1.after action, h.2.stepped (step_spec h.1 action)⟩
    · refine ⟨(gapInv_new workerId).routed, fun o thread hthread => ?_, fun o fence hmem => ?_⟩
      · simp [initial] at hthread
      · cases hmem
  exact hboth.2

theorem Publishes.routes (h : s.Routed) (hpublishes : s.Publishes action o fence) : ∃ entry,
      s.clients.entries.get? fence.actorId = some entry ∧ entry.snapshot.Routes fence := by
  unfold Publishes at hpublishes
  rcases (step_spec h action).published with hsame | ⟨x, thread, _, hcan, hcons⟩
  · rw [hpublishes] at hsame
    exact absurd hsame (List.cons_ne_self _ _)
  · rw [hpublishes] at hcons
    cases hcons
    obtain ⟨entry, hentry, _, hroutes⟩ := ActorClientTable.canPublish_iff.mp hcan
    exact ⟨entry, hentry, hroutes⟩

theorem Begins.routes (h : s.Routed) (hbegins : s.Begins action o fence) : ∃ entry,
      s.clients.entries.get? fence.actorId = some entry ∧ entry.snapshot.Routes fence := by
  obtain ⟨n, hbegins⟩ := hbegins
  rcases (step_spec h action).taken with hsame | ⟨taken, entry, hcons, hentry, hroutes⟩
  · rw [hbegins] at hsame
    exact absurd hsame (List.cons_ne_self _ _)
  · rw [hbegins] at hcons
    cases hcons
    exact ⟨entry, hentry, hroutes⟩

end ActorCalls

/-- What a caller's numbers keep, and when. -/
structure ActorCallSpec (workerId : WorkerID) : Prop where
  /-- A submission that raises gives its number back, exactly unless it fails with the number
  taken. -/
  submitted : ∀ actions submission,
    (∀ error, ((run ActorCalls.step (.initial workerId) actions).submitActorCall submission).1 =
        .error error →
      (run ActorCalls.step (.initial workerId) actions).SameCalls
        ((run ActorCalls.step (.initial workerId) actions).submitActorCall submission).2) ↔
    ¬ (run ActorCalls.step (.initial workerId) actions).Loses submission
  /-- Every number handed out was sent, or its thread is about to send it. -/
  sent : ∀ actions, Admissible ActorCalls.step
      (fun s action => ¬ s.LosesNumber action) (.initial workerId) actions →
    ∀ taken ∈ (run ActorCalls.step (.initial workerId) actions).taken,
      (run ActorCalls.step (.initial workerId) actions).Sending taken
  sends : ∀ (s : ActorCalls) o thread input, s.threads.get? o = some thread →
    thread.phase = .sending → thread.request ∈ (s.step (.advance o input)).sent
  /-- On a live route the mailbox waits only for a number that a thread still sends. -/
  gap : ∀ actions,
    Admissible ActorCalls.step ActorCalls.Keeps (.initial workerId) actions →
    ∀ a entry q, (run ActorCalls.step (.initial workerId) actions).clients.entries.get? a =
        some entry → entry.snapshot.state = .alive →
      ((run ActorCalls.step (.initial workerId) actions).worker
        entry.snapshot.generation).accepting = true →
      ((run ActorCalls.step (.initial workerId) actions).worker
        entry.snapshot.generation).mailbox.callState
          ⟨(run ActorCalls.step (.initial workerId) actions).workerId, q⟩ = some .buffered →
      ∃ n : Nat, ((run ActorCalls.step (.initial workerId) actions).worker
          entry.snapshot.generation).mailbox.expected
            (run ActorCalls.step (.initial workerId) actions).workerId = n ∧
        (run ActorCalls.step (.initial workerId) actions).Carried entry n
  /-- The control plane publishes the routes of an Actor in order. -/
  ordered : ∀ (actions more : List ActorAction) a r r',
    (run ActorCoordinator.step {} actions).actors.actors.get? a = some r →
    (run ActorCoordinator.step {} (actions ++ more)).actors.actors.get? a = some r' →
    r.snapshot.routeEpoch < r'.snapshot.routeEpoch → r.snapshot.Before r'.snapshot
  /-- The installed route epoch of an Actor never decreases. -/
  routes : ∀ before after a entry entry',
    (run ActorCalls.step (.initial workerId) before).clients.entries.get? a = some entry →
    (run ActorCalls.step (.initial workerId) (before ++ after)).clients.entries.get? a =
      some entry' → entry.snapshot.routeEpoch ≤ entry'.snapshot.routeEpoch
  /-- Only a call that took a number has a result published, -/
  begun : ∀ actions o fence,
    (o, fence) ∈ (run ActorCalls.step (.initial workerId) actions).published →
      (run ActorCalls.step (.initial workerId) actions).Begun o fence
  /-- and its Actor's route was the same in every state since. -/
  published : ∀ before begins mid ends o fence,
    (run ActorCalls.step (.initial workerId) before).Begins begins o fence →
    (run ActorCalls.step (.initial workerId) (before ++ begins :: mid)).Publishes ends o fence →
    ∃ snapshot : ActorSnapshot, snapshot.Routes fence ∧ ∀ xs ys, mid = xs ++ ys → ∃ entry,
      (run ActorCalls.step (.initial workerId)
        (before ++ begins :: xs)).clients.entries.get? fence.actorId = some entry ∧
      entry.snapshot = snapshot

theorem actorCallSpec (workerId : WorkerID) : ActorCallSpec workerId where
  submitted actions submission :=
    ActorCalls.sameCalls_iff (ActorCalls.run_routed workerId actions) submission
  sent actions hadmissible := by
    have hall : ∀ s : ActorCalls, s = run ActorCalls.step (.initial workerId) actions →
        (s.Routed ∧ s.Held) ∧ ∀ taken ∈ s.taken, s.Sending taken := by
      intro s hs
      subst hs
      refine hadmissible.invariant (p := fun s : ActorCalls =>
        (s.Routed ∧ s.Held) ∧ ∀ taken ∈ s.taken, s.Sending taken) ?_ ?_
      · intro s action hkept h
        have hstep := ActorCalls.step_spec h.1.1 action
        refine ⟨⟨h.1.1.after action, h.1.2.stepped hstep⟩, fun t ht => ?_⟩
        rcases hstep.sending hkept ht with hold | hnew
        · exact (h.2 t hold).stepped h.1.2 hstep
        · exact hnew
      · refine ⟨⟨(ActorCalls.gapInv_new workerId).routed, (ActorCalls.gapInv_new workerId).held⟩,
          fun t ht => ?_⟩
        cases ht
    exact (hall _ rfl).2
  sends s o thread input hthread hphase := by
    simp only [ActorCalls.step, hthread, ActorCalls.advance, hphase]
    exact List.mem_cons_self
  gap actions hadmissible a entry q hentry halive haccepting hbuffered := by
    have hinv := hadmissible.invariant (p := ActorCalls.GapInv)
      (fun _ _ hkeeps h => h.after hkeeps) (ActorCalls.gapInv_new workerId)
    exact hinv.carried hentry halive haccepting hbuffered
  ordered actions more a r r' hr hr' hless := by
    obtain ⟨x, hx, hordered⟩ :=
      ActorCoordinator.run_before (ActorCoordinator.run_inv actions) more hr
    rw [← run_append] at hx
    obtain rfl := Option.some.inj (hx.symm.trans hr')
    rcases hordered with hsame | hbefore
    · rw [hsame] at hless
      exact absurd hless (lt_irrefl _)
    · exact hbefore
  routes before after a entry entry' hentry hentry' := by
    have hrouted := ActorCalls.run_routed workerId before
    by_cases hzero : entry.snapshot.routeEpoch = 0
    · rw [hzero]
      exact Nat.zero_le _
    · have hactor := hrouted.own a entry hentry
      have hfollows := ActorCalls.run_follows hrouted (Nat.pos_of_ne_zero hzero)
        ⟨entry, by rw [hactor]; exact hentry, .inl rfl⟩ after
      rw [← run_append] at hfollows
      obtain ⟨other, hother, hnewer⟩ := hfollows
      rw [hactor, hentry'] at hother
      obtain rfl := Option.some.inj hother
      rcases hnewer with heq | hless
      · rw [heq]
      · omega
  begun actions o fence hmem :=
    (ActorCalls.run_begunInv workerId actions).published o fence hmem
  published before begins mid ends o fence hbegins hpublishes := by
    obtain ⟨first, hfirst, hroutes⟩ := hbegins.routes (ActorCalls.run_routed workerId before)
    obtain ⟨last, hlast, hroutes'⟩ := hpublishes.routes (ActorCalls.run_routed workerId _)
    have hrouted := ActorCalls.run_routed workerId before
    have hactor := hrouted.own _ first hfirst
    have hpositive := ActorCalls.alive_published (hrouted.valid _ first hfirst) hroutes.1
    refine ⟨first.snapshot, hroutes, fun xs ys hmid => ?_⟩
    have hfollows := ActorCalls.run_follows hrouted hpositive
      ⟨first, by rw [hactor]; exact hfirst, .inl rfl⟩ (begins :: xs)
    rw [← run_append] at hfollows
    obtain ⟨entry, hentry, hnewer⟩ := hfollows
    rw [hactor] at hentry
    refine ⟨entry, hentry, ?_⟩
    rcases hnewer with hsame | hless
    · exact hsame
    · -- a newer route would still be there when the result is published
      have hrouted' := ActorCalls.run_routed workerId (before ++ begins :: xs)
      have hactor' := hrouted'.own _ entry hentry
      have hlater := ActorCalls.run_follows hrouted' (by omega)
        ⟨entry, by rw [hactor']; exact hentry, .inl rfl⟩ ys
      have hsplit : before ++ begins :: mid = (before ++ begins :: xs) ++ ys := by simp [hmid]
      rw [← run_append, ← hsplit] at hlater
      obtain ⟨other, hother, hnewest⟩ := hlater
      rw [hactor', hlast] at hother
      obtain rfl := Option.some.inj hother
      have hepoch := hroutes.2.1
      have hepoch' := hroutes'.2.1
      rcases hnewest with heq | hless'
      · rw [← heq] at hless
        omega
      · omega

/-! ## A lost number -/

namespace ActorCalls.Sample

def alive : ActorSnapshot where
  actorId := ⟨1⟩
  generation := ⟨⟨1⟩, 0⟩
  state := .alive
  routeEpoch := 1
  restartsUsed := 0
  maxRestarts := 0
  lastExit := none
  endpoint := some ActorCoordinator.Sample.route
  error := none

theorem alive_valid : alive.Valid where
  own_generation := rfl
  budget := le_rfl
  consumed := rfl
  exited _ h := by cases h
  routable := ⟨fun _ => Option.some_ne_none _, fun _ => rfl⟩
  creating h := by cases h
  restarting h := by cases h
  alive_initial _ _ := ⟨rfl, by decide⟩
  alive_restarted _ h := absurd rfl h
  alive_error _ := rfl
  dead_error h := by cases h

def submission (task : OpaqueValue) (arguments : Except String (List UInt8)) :
    ActorCallSubmission where
  actorId := ⟨1⟩
  methodName := "method"
  holdsReference := false
  taskId := ⟨task⟩
  arguments := arguments
  started := true

def registering : List ActorCallAction :=
  [.register alive alive_valid ActorCoordinator.Sample.actorDefinition]

def unpicklable : ActorCallSubmission := submission 0 (.error "cannot pickle")

def secondRequest : ActorCallRequest :=
  ⟨⟨1⟩, ⟨⟨1⟩, 0⟩, ⟨2⟩, 1, "method", ⟨1⟩, ⟨⟨1⟩, 0⟩, ⟨2⟩, [], ⟨4⟩, 1⟩

/-- The second call reaches the Worker. -/
def calling : List ActorCallAction :=
  [.submit (submission 1 (.ok [])), .advance ⟨⟨1⟩, 0⟩ .unheard, .deliver secondRequest]

def entry : ActorClientEntry := { snapshot := alive, methodNames := ["method"] }

def fence : ActorCallFence := ⟨⟨1⟩, 1, ⟨⟨1⟩, 0⟩, ⟨4⟩⟩

end ActorCalls.Sample

/-- The number of a call that does not pickle is lost, and the next call waits for it. -/
theorem ActorCalls.exists_lost_number : ∃ workerId actions submission more a, ∃ entry entry',
    ∃ error, let s := run ActorCalls.step (.initial workerId) actions
    let s' := run ActorCalls.step s (.submit submission :: more)
    (s.submitActorCall submission).1 = .error error ∧
    s.clients.entries.get? a = some entry ∧ entry.nextSequence = 0 ∧
    (s.submitActorCall submission).2.clients.entries.get? a = some entry' ∧
    entry'.nextSequence = 1 ∧ entry'.inflight.items ≠ [] ∧
    (s'.worker entry'.snapshot.generation).mailbox.expected workerId = 0 ∧
    (s'.worker entry'.snapshot.generation).mailbox.callState ⟨workerId, 1⟩ = some .buffered ∧
    ∀ request, s'.Requested request → request.sequence ≠ 0 := by
  refine ⟨⟨2⟩, Sample.registering, Sample.unpicklable, Sample.calling, ⟨1⟩, Sample.entry,
    Sample.entry.take ⟨⟨0⟩, 0⟩ Sample.fence, .unpicklable "cannot pickle", ?_⟩
  intro s s'
  have hsent : s'.sent = [Sample.secondRequest] := rfl
  have hthreads : s'.threads = Dict.empty.set ⟨⟨1⟩, 0⟩
      ⟨Sample.secondRequest, Sample.fence, .waiting⟩ := rfl
  refine ⟨rfl, rfl, rfl, rfl, rfl, Dict.items_set_ne_nil _ _ _, rfl, rfl, fun request h => ?_⟩
  rcases h with hmem | ⟨o, thread, hthread, rfl⟩
  · rw [hsent, List.mem_singleton] at hmem
    subst hmem
    decide
  · rw [hthreads, Dict.get?_set] at hthread
    split at hthread
    · cases hthread
      decide
    · cases hthread

end MiniRay
