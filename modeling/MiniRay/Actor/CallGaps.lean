import MiniRay.Actor.CallRuns

/-! While no number is lost and no call gives up, the number a mailbox waits for belongs to a call
that still sends it. -/

namespace MiniRay

open Run

def ActorState.phase : ActorState → Nat
  | .creating | .restarting => 0
  | .alive => 1
  | .dead => 2

/-- The second snapshot is of a later generation, or of a later state of the same one. -/
def ActorSnapshot.Before (snapshot next : ActorSnapshot) : Prop :=
  snapshot.generation.generation < next.generation.generation ∨
    snapshot.generation = next.generation ∧ snapshot.state.phase < next.state.phase

namespace ActorCalls

variable {s s' : ActorCalls} {action : ActorCallAction}

/-- A newer route is also a later one. -/
def Later (s : ActorCalls) (snapshot : ActorSnapshot) : Prop :=
  ∀ entry, s.clients.entries.get? snapshot.actorId = some entry →
    entry.snapshot.routeEpoch < snapshot.routeEpoch → entry.snapshot.Before snapshot

/-- The routes come in the order the control plane publishes them. -/
def Ordered (s : ActorCalls) : ActorCallAction → Prop
  | .install snapshot _ => s.Later snapshot
  | .advance _ (.stateFound snapshot _) => s.Later snapshot
  | _ => True

def LosesNumber (s : ActorCalls) (action : ActorCallAction) : Prop :=
  ∃ submission, action = .submit submission ∧ s.Loses submission

def GivesUpCall (s : ActorCalls) (action : ActorCallAction) : Prop :=
  ∃ o thread input, action = .advance o input ∧ s.threads.get? o = some thread ∧
    s.GivesUp o thread input

/-- The requests sent, and those that threads hold. -/
def Requested (s : ActorCalls) (request : ActorCallRequest) : Prop :=
  request ∈ s.sent ∨ ∃ o thread, s.threads.get? o = some thread ∧ thread.request = request

structure Numbered (s : ActorCalls) (request : ActorCallRequest) : Prop where
  caller : request.callerWorkerId = s.workerId
  own : request.generation.actorId = request.actorId
  number : ∃ entry, s.clients.entries.get? request.actorId = some entry ∧
    (request.generation.generation < entry.snapshot.generation.generation ∨
      request.generation = entry.snapshot.generation ∧ request.sequence < entry.nextSequence)

/-- A thread still sends the number on the present route. -/
def Carried (s : ActorCalls) (entry : ActorClientEntry) (n : Nat) : Prop :=
  ∃ o thread, s.threads.get? o = some thread ∧ thread.phase.Looping ∧
    thread.request.generation = entry.snapshot.generation ∧ thread.request.sequence = n ∧
    thread.fence.actorId = entry.snapshot.actorId ∧
    entry.inflight.get? o = some thread.fence ∧ entry.snapshot.Routes thread.fence

/-- The Worker of the present generation need not wait for the number. -/
def Settled (s : ActorCalls) (entry : ActorClientEntry) (n : Nat) : Prop :=
  (s.worker entry.snapshot.generation).Answers ⟨s.workerId, n⟩

structure WorkerInv (s : ActorCalls) (g : ActorGeneration) (worker : ActorCallWorker) : Prop where
  generation : worker.mailbox.generation = g
  actor : worker.mailbox.actorId = g.actorId
  sound : ∃ started, worker.mailbox.Sound none started
  known : ∀ q, worker.mailbox.Known ⟨s.workerId, q⟩ → ∃ request ∈ s.sent,
    request.generation = g ∧ (request.sequence : Int) = q

structure GapInv (s : ActorCalls) : Prop where
  routed : s.Routed
  held : s.Held
  idle : ∀ a entry, s.clients.entries.get? a = some entry → entry.snapshot.state.phase = 0 →
    entry.nextSequence = 0
  busy : ∀ a entry, s.clients.entries.get? a = some entry → entry.snapshot.state = .alive →
    ∀ n < entry.nextSequence, s.Settled entry n ∨ s.Carried entry n
  numbered : ∀ request, s.Requested request → s.Numbered request
  workers : ∀ g, s.WorkerInv g (s.worker g)

theorem worker_new (workerId : WorkerID) (g : ActorGeneration) :
    ({ workerId := workerId } : ActorCalls).worker g = ⟨.initial g, true⟩ := rfl

theorem gapInv_new (workerId : WorkerID) : GapInv { workerId := workerId } where
  routed := ⟨fun _ _ h => by simp at h, fun _ _ h => by simp at h, fun _ _ h => by simp at h⟩
  held o h := by simp at h
  idle _ _ h := by simp at h
  busy _ _ h := by simp at h
  numbered request h := by
    rcases h with hsent | ⟨o, thread, hthread, _⟩
    · cases hsent
    · simp at hthread
  workers g := by
    rw [worker_new]
    refine ⟨rfl, rfl, ⟨fun _ => [], ActorMailbox.sound_initial g⟩, fun q hq => ?_⟩
    simp [ActorMailbox.Known, ActorMailbox.callState, ActorMailbox.initial] at hq

/-! ## Workers -/

theorem worker_setWorker (s : ActorCalls) (g x : ActorGeneration) (worker : ActorCallWorker) :
    (s.setWorker g worker).worker x = if g = x then worker else s.worker x := by
  simp only [ActorCalls.worker, setWorker, Dict.get?_set]
  split <;> rfl

variable {worker : ActorCallWorker}

theorem handle_answers {started : WorkerID → List Int} (hsound : worker.mailbox.Sound none started)
    (call : ActorCall ActorCallRequest ActorCallFingerprint) {key : ActorCallKey}
    (h : worker.Answers key) : (worker.handle call).Answers key := by
  unfold ActorCallWorker.handle
  split
  · exact h
  · rcases h with hstopped | hknown
    · exact .inl hstopped
    · exact .inr (ActorMailbox.known_submitCall hsound call hknown)

theorem workerStep_keeps {worker' : ActorCallWorker} {started : WorkerID → List Int}
    (hsound : worker.mailbox.Sound none started) (h : WorkerStep worker worker') :
    (∃ started', worker'.mailbox.Sound none started') ∧
      worker'.mailbox.generation = worker.mailbox.generation ∧
      worker'.mailbox.actorId = worker.mailbox.actorId ∧
      (∀ key, worker'.mailbox.Known key ↔ worker.mailbox.Known key) ∧
      (worker.accepting = false → worker'.accepting = false) := by
  cases h with
  | took =>
    have hknown := fun key => ActorMailbox.takeNext_known (m := worker.mailbox) key
    rcases ActorMailbox.takeNext_spec hsound with hsame | ⟨call, _, _, hleaves⟩
    · have hmailbox : worker.mailbox.takeNext.2 = worker.mailbox := congrArg Prod.snd hsame
      refine ⟨⟨started, ?_⟩, ?_, ?_, hknown, id⟩
      · rw [hmailbox]
        exact hsound
      · rw [hmailbox]
      · rw [hmailbox]
    · exact ⟨⟨_, hleaves.sound⟩, hleaves.generation, hleaves.actor, hknown, id⟩
  | completed reply =>
    have hknown := fun key => ActorMailbox.completeCurrent_known (m := worker.mailbox) reply key
    rcases ActorMailbox.completeCurrent_spec hsound reply with
      hsame | ⟨call, r, _, _, hleaves, _⟩
    · have hmailbox : (worker.mailbox.completeCurrent reply).2 = worker.mailbox :=
        congrArg Prod.snd hsame
      refine ⟨⟨started, ?_⟩, ?_, ?_, hknown, id⟩
      · rw [hmailbox]
        exact hsound
      · rw [hmailbox]
      · rw [hmailbox]
    · exact ⟨⟨_, hleaves.sound⟩, hleaves.generation, hleaves.actor, hknown, id⟩
  | stopped => exact ⟨⟨started, hsound⟩, rfl, rfl, fun _ => Iff.rfl, fun _ => rfl⟩

variable {g : ActorGeneration}

theorem GapInv.setWorker (h : s.GapInv) (hworker : s.WorkerInv g worker)
    (hanswers : ∀ key, (s.worker g).Answers key → worker.Answers key) :
    (s.setWorker g worker).GapInv where
  routed := ⟨h.routed.own, h.routed.valid, h.routed.named⟩
  held := h.held
  idle := h.idle
  busy a entry hentry halive n hn := by
    rcases h.busy a entry hentry halive n hn with hsettled | hcarried
    · left
      unfold Settled
      rw [worker_setWorker]
      split
      · rename_i hg
        refine hanswers _ ?_
        rw [hg]
        exact hsettled
      · exact hsettled
    · exact .inr hcarried
  numbered request hrequest := by
    have hnumbered := h.numbered request hrequest
    exact ⟨hnumbered.caller, hnumbered.own, hnumbered.number⟩
  workers x := by
    rw [worker_setWorker]
    split
    · rename_i hx
      subst hx
      exact ⟨hworker.generation, hworker.actor, hworker.sound, hworker.known⟩
    · have hold := h.workers x
      exact ⟨hold.generation, hold.actor, hold.sound, hold.known⟩

theorem GapInv.worked (h : s.GapInv) (hstep : WorkerStep (s.worker g) worker) :
    (s.setWorker g worker).GapInv := by
  have hworker := h.workers g
  obtain ⟨started, hsound⟩ := hworker.sound
  obtain ⟨hsound', hgeneration, hactor, hknown, hstopped⟩ := workerStep_keeps hsound hstep
  refine h.setWorker ⟨hgeneration.trans hworker.generation, hactor.trans hworker.actor, hsound',
    fun q hq => hworker.known q ((hknown _).mp hq)⟩ ?_
  intro key hanswers
  rcases hanswers with hclosed | hold
  · exact .inl (hstopped hclosed)
  · exact .inr ((hknown key).mpr hold)

theorem GapInv.handled (h : s.GapInv) {call : ActorCall ActorCallRequest ActorCallFingerprint}
    (hknown : call.callerId = s.workerId → ∃ request ∈ s.sent,
      request.generation = call.generation ∧ (request.sequence : Int) = call.sequence) :
    (s.setWorker call.generation ((s.worker call.generation).handle call)).GapInv := by
  have hworker := h.workers call.generation
  obtain ⟨started, hsound⟩ := hworker.sound
  refine h.setWorker ?_ fun key hanswers => handle_answers hsound call hanswers
  unfold ActorCallWorker.handle
  split
  · exact hworker
  · have hleaves := ActorMailbox.submitCall_leaves call hsound
    refine ⟨hleaves.generation.trans hworker.generation, hleaves.actor.trans hworker.actor,
      ⟨started, hleaves.sound⟩, fun q hq => ?_⟩
    rcases ActorMailbox.submitCall_known_of hsound call hq with hold | hkey
    · exact hworker.known q hold
    · have hcaller : s.workerId = call.callerId := congrArg ActorCallKey.callerId hkey
      have hsequence : q = call.sequence := congrArg ActorCallKey.sequence hkey
      rw [hsequence]
      exact hknown hcaller.symm

/-! ## Routes -/

variable {a : ActorID}

theorem GapInv.entered (h : s.GapInv) {entry' : ActorClientEntry}
    (hclients : s'.clients = ⟨s.clients.entries.set a entry'⟩) (hworkers : s'.workers = s.workers)
    (hworkerId : s'.workerId = s.workerId) (hsent : s'.sent = s.sent) (hrouted : s'.Routed)
    (hheld : s'.Held) (hidle : entry'.snapshot.state.phase = 0 → entry'.nextSequence = 0)
    (hbusy : entry'.snapshot.state = .alive → ∀ n < entry'.nextSequence, s.Settled entry' n ∨
      s'.Carried entry' n)
    (hothers : ∀ x entry n, x ≠ a → s.clients.entries.get? x = some entry → s.Carried entry n →
      s'.Carried entry n)
    (hnumbered : ∀ request, s'.Requested request → (s.Requested request ∨ request.actorId = a) ∧
      request.callerWorkerId = s.workerId ∧ request.generation.actorId = request.actorId)
    (hown : ∀ request, s'.Requested request → request.actorId = a →
      request.generation.generation < entry'.snapshot.generation.generation ∨
      request.generation = entry'.snapshot.generation ∧ request.sequence < entry'.nextSequence) :
    s'.GapInv := by
  have hget : ∀ {x entry}, s'.clients.entries.get? x = some entry → x = a ∧ entry = entry' ∨
      x ≠ a ∧ s.clients.entries.get? x = some entry := by
    intro x entry hentry
    rw [hclients] at hentry
    have hset : (s.clients.entries.set a entry').get? x = some entry := hentry
    rcases Dict.of_get?_set_ne hset with ⟨hx, hset⟩ | ⟨hx, hset⟩
    · exact .inl ⟨hx.symm, hset.symm⟩
    · exact .inr ⟨fun heq => hx heq.symm, hset⟩
  have hworker : ∀ g, s'.worker g = s.worker g := by
    intro g
    unfold ActorCalls.worker
    rw [hworkers]
  have hsettled : ∀ {entry n}, s.Settled entry n → s'.Settled entry n := by
    intro entry n hold
    unfold Settled
    rw [hworker, hworkerId]
    exact hold
  refine ⟨hrouted, hheld, ?_, ?_, ?_, ?_⟩
  · intro x entry hentry hphase
    rcases hget hentry with ⟨rfl, rfl⟩ | ⟨_, hold⟩
    · exact hidle hphase
    · exact h.idle x entry hold hphase
  · intro x entry hentry halive n hn
    rcases hget hentry with ⟨rfl, rfl⟩ | ⟨hx, hold⟩
    · exact (hbusy halive n hn).imp hsettled id
    · exact (h.busy x entry hold halive n hn).imp hsettled (hothers x entry n hx hold)
  · intro request hrequest
    obtain ⟨hold, hcaller, hactor⟩ := hnumbered request hrequest
    refine ⟨hcaller.trans hworkerId.symm, hactor, ?_⟩
    by_cases ha : request.actorId = a
    · refine ⟨entry', ?_, hown request hrequest ha⟩
      rw [hclients, ha]
      exact Dict.get?_set_self _ _ _
    · rcases hold with hold | hsame
      · obtain ⟨entry, hentry, hnumber⟩ := (h.numbered request hold).number
        refine ⟨entry, ?_, hnumber⟩
        rw [hclients]
        exact (Dict.get?_set_of_ne _ _ (Ne.symm ha)).trans hentry
      · exact absurd hsame ha
  · intro g
    have hold := h.workers g
    rw [hworker]
    refine ⟨hold.generation, hold.actor, hold.sound, fun q hq => ?_⟩
    rw [hworkerId] at hq
    rw [hsent]
    exact hold.known q hq

theorem GapInv.known_numbers (h : s.GapInv)
    (hrequested : ∀ request, s'.Requested request → s.Requested request)
    (request : ActorCallRequest) (hrequest : s'.Requested request) :
    (s.Requested request ∨ request.actorId = a) ∧
      request.callerWorkerId = s.workerId ∧ request.generation.actorId = request.actorId := by
  have hold := hrequested request hrequest
  exact ⟨.inl hold, (h.numbered request hold).caller, (h.numbered request hold).own⟩

variable {snapshot : ActorSnapshot}

theorem GapInv.registered (h : s.GapInv) {methodNames : List String} (hvalid : snapshot.Valid)
    (hnamed : "" ∉ methodNames) (hfresh : s.clients.entries.get? snapshot.actorId = none) :
    GapInv { s with clients := ⟨s.clients.entries.set snapshot.actorId
      { snapshot := snapshot, methodNames := methodNames }⟩ } := by
  refine h.entered rfl rfl rfl rfl (h.routed.moved (.registered hvalid hnamed hfresh)) h.held
    (fun _ => rfl) ?_ (fun _ _ _ _ _ hcarried => hcarried)
    (h.known_numbers fun _ hrequest => hrequest) ?_
  · intro _ n hn
    exact absurd hn (Nat.not_lt_zero n)
  · intro request hrequest hactor
    obtain ⟨entry, hentry, _⟩ := (h.numbered request hrequest).number
    rw [hactor, hfresh] at hentry
    cases hentry

variable {entry : ActorClientEntry}

theorem GapInv.unrequested (h : s.GapInv) (hentry : s.clients.entries.get? a = some entry)
    (hcreating : entry.snapshot.state = .creating) {request : ActorCallRequest}
    (hrequest : s.Requested request) : request.actorId ≠ a := by
  intro hactor
  obtain ⟨other, hother, hnumber⟩ := (h.numbered request hrequest).number
  rw [hactor, hentry] at hother
  obtain rfl := Option.some.inj hother
  have hfirst := ((h.routed.valid a entry hentry).creating hcreating).1
  have hnone := h.idle a entry hentry (by rw [hcreating]; rfl)
  rcases hnumber with hless | ⟨_, hless⟩
  · omega
  · omega

theorem GapInv.removed (h : s.GapInv) (hentry : s.clients.entries.get? a = some entry)
    (hcreating : entry.snapshot.state = .creating) :
    GapInv { s with clients := ⟨s.clients.entries.erase a⟩ } := by
  have hget : ∀ {x other}, (s.clients.entries.erase a).get? x = some other →
      s.clients.entries.get? x = some other := by
    intro x other hother
    exact (Dict.of_get?_erase hother).2
  refine ⟨h.routed.moved (.removed hentry hcreating), h.held,
    fun x other hother => h.idle x other (hget hother),
    fun x other hother => h.busy x other (hget hother), ?_, fun g => ?_⟩
  · intro request hrequest
    have hold := h.numbered request hrequest
    obtain ⟨other, hother, hnumber⟩ := hold.number
    have hne := h.unrequested hentry hcreating hrequest
    exact ⟨hold.caller, hold.own, other, (Dict.get?_erase_of_ne _ (Ne.symm hne)).trans hother,
      hnumber⟩
  · have hold := h.workers g
    exact ⟨hold.generation, hold.actor, hold.sound, hold.known⟩

theorem Installed.gapInv (h : s.GapInv) (hvalid : snapshot.Valid) (hlater : s.Later snapshot)
    (hroutes : s.Installed snapshot s') : s'.GapInv := by
  cases hroutes with
  | kept => exact h
  | @rerouted entry objects known newer grows =>
    have hbefore := hlater entry known newer
    have hcount : (entry.reroute snapshot).nextSequence =
        if snapshot.generation ≠ entry.snapshot.generation then 0 else entry.nextSequence := rfl
    -- a route that can be called starts its generation
    have hfresh : snapshot.state.phase ≤ 1 → (entry.reroute snapshot).nextSequence = 0 := by
      intro hphase
      rw [hcount]
      split
      · rfl
      · rename_i hsame
        rcases hbefore with hnewer | ⟨_, hless⟩
        · rw [not_not.mp hsame] at hnewer
          exact absurd hnewer (lt_irrefl _)
        · exact h.idle _ entry known (by omega)
    have hmoved := h.routed.moved (.rerouted hvalid known newer)
    refine h.entered rfl rfl rfl rfl ⟨hmoved.own, hmoved.valid, hmoved.named⟩
      (fun x hx => grows x (h.held x hx)) (fun hphase => hfresh (by
        have hzero : snapshot.state.phase = 0 := hphase
        omega)) ?_ (fun _ _ _ _ _ hcarried => hcarried)
      (h.known_numbers fun _ hrequest => hrequest) ?_
    · intro halive n hn
      have hone : snapshot.state = .alive := halive
      rw [hfresh (by rw [hone]; decide)] at hn
      exact absurd hn (Nat.not_lt_zero n)
    · intro request hrequest hactor
      obtain ⟨other, hother, hnumber⟩ := (h.numbered request hrequest).number
      rw [hactor, known] at hother
      obtain rfl := Option.some.inj hother
      have hgeneration : (entry.reroute snapshot).snapshot.generation = snapshot.generation := rfl
      rw [hgeneration, hcount]
      rcases hbefore with hnewer | ⟨hsame, _⟩
      · left
        rcases hnumber with hless | ⟨heq, _⟩
        · omega
        · rw [heq]
          exact hnewer
      · rw [if_neg (not_not.mpr hsame.symm), ← hsame]
        exact hnumber

/-! ## Calls -/

variable {fence : ActorCallFence}

theorem GapInv.started (h : s.GapInv) {submission : ActorCallSubmission} {arguments : List UInt8}
    (hnew : s.objects.get? (.forTask submission.taskId 0) = none)
    (hentry : s.clients.entries.get? submission.actorId = some entry)
    (hown : fence.actorId = submission.actorId) (hroutes : entry.snapshot.Routes fence) :
    GapInv { s.takeNumber submission.actorId entry (.forTask submission.taskId 0) fence with
      objects := s.objects.set (.forTask submission.taskId 0) .pending
      threads := s.threads.set (.forTask submission.taskId 0)
        ⟨s.request submission entry.nextSequence fence arguments, fence, .sending⟩ } := by
  have hfree : s.threads.get? (.forTask submission.taskId 0) = none := by
    by_contra hthread
    exact h.held _ hthread hnew
  have hother : ∀ {x thread}, s.threads.get? x = some thread →
      ObjectID.forTask submission.taskId 0 ≠ x := by
    intro x thread hthread heq
    rw [heq, hthread] at hfree
    cases hfree
  have hactor := h.routed.own _ _ hentry
  have hgeneration := (h.routed.valid _ _ hentry).own_generation.trans hactor
  have hmoved := h.routed.moved (.taken (o := .forTask submission.taskId 0) hentry hroutes)
  have hnumbers : ∀ request, Requested { s.takeNumber submission.actorId entry
      (.forTask submission.taskId 0) fence with
        objects := s.objects.set (.forTask submission.taskId 0) .pending
        threads := s.threads.set (.forTask submission.taskId 0)
          ⟨s.request submission entry.nextSequence fence arguments, fence, .sending⟩ } request →
      s.Requested request ∨
        request = s.request submission entry.nextSequence fence arguments := by
    intro request hrequest
    rcases hrequest with hsent | ⟨x, thread, hthread, rfl⟩
    · exact .inl (.inl hsent)
    · have hget : (s.threads.set (.forTask submission.taskId 0)
          ⟨s.request submission entry.nextSequence fence arguments, fence, .sending⟩).get? x =
            some thread := hthread
      rcases Dict.of_get?_set hget with ⟨_, rfl⟩ | hget
      · exact .inr rfl
      · exact .inl (.inr ⟨x, thread, hget, rfl⟩)
  refine h.entered rfl rfl rfl rfl ⟨hmoved.own, hmoved.valid, hmoved.named⟩
    (held_set h.held (grows_set _ _ _) (by simp)) ?_ ?_ ?_ ?_ ?_
  · intro hphase
    have hzero : entry.snapshot.state.phase = 0 := hphase
    rw [hroutes.1] at hzero
    cases hzero
  · intro _ n hn
    have hnext : n < entry.nextSequence + 1 := hn
    by_cases hlast : n = entry.nextSequence
    · right
      subst hlast
      exact ⟨.forTask submission.taskId 0, _, Dict.get?_set_self _ _ _, trivial,
        hroutes.2.2.1.symm, rfl, hown.trans hactor.symm, Dict.get?_set_self _ _ _, hroutes⟩
    · rcases h.busy _ entry hentry hroutes.1 n (by omega) with hsettled | hcarried
      · exact .inl hsettled
      · obtain ⟨x, thread, hthread, hlooping, hgen, hseq, hactor', hinflight, hrouted⟩ := hcarried
        exact .inr ⟨x, thread, (Dict.get?_set_of_ne _ _ (hother hthread)).trans hthread, hlooping,
          hgen, hseq, hactor', (Dict.get?_set_of_ne _ _ (hother hthread)).trans hinflight, hrouted⟩
  · intro x other n _ _ hcarried
    obtain ⟨y, thread, hthread, hrest⟩ := hcarried
    exact ⟨y, thread, (Dict.get?_set_of_ne _ _ (hother hthread)).trans hthread, hrest⟩
  · intro request hrequest
    rcases hnumbers request hrequest with hold | rfl
    · exact ⟨.inl hold, (h.numbered request hold).caller, (h.numbered request hold).own⟩
    · refine ⟨.inr rfl, rfl, ?_⟩
      have hfence : fence.generation.actorId = submission.actorId := by
        rw [← hroutes.2.2.1]
        exact hgeneration
      exact hfence
  · intro request hrequest hsame
    have htaken : (entry.take (.forTask submission.taskId 0) fence).nextSequence =
        entry.nextSequence + 1 := rfl
    rw [htaken]
    rcases hnumbers request hrequest with hold | rfl
    · obtain ⟨other, hget, hnumber⟩ := (h.numbered request hold).number
      rw [hsame, hentry] at hget
      obtain rfl := Option.some.inj hget
      rcases hnumber with hless | ⟨heq, hless⟩
      · exact .inl hless
      · exact .inr ⟨heq, by omega⟩
    · exact .inr ⟨hroutes.2.2.1.symm, Nat.lt_succ_self _⟩

variable {o : ObjectID} {thread : ActorCallThread}

theorem GapInv.phased (h : s.GapInv) {phase : ActorCallPhase}
    {objects : Dict ObjectID ActorCallOutcome} {sent : List ActorCallRequest}
    {published : List (ObjectID × ActorCallFence)} (hthread : s.threads.get? o = some thread)
    (hgrows : Grows s.objects objects)
    (hsent : ∀ request, request ∈ sent → request ∈ s.sent ∨ request = thread.request)
    (hkept : ∀ request ∈ s.sent, request ∈ sent)
    (hleft : ¬ phase.Looping → ∀ entry n, s.clients.entries.get? thread.fence.actorId = some entry →
      entry.inflight.get? o = some thread.fence → entry.snapshot.Routes thread.fence →
      thread.phase.Looping → thread.request.generation = entry.snapshot.generation →
      thread.request.sequence = n → s.Settled entry n) :
    GapInv { s with
      objects := objects
      sent := sent
      published := published
      threads := s.threads.set o { thread with phase := phase } } where
  routed := ⟨h.routed.own, h.routed.valid, h.routed.named⟩
  held := held_set h.held hgrows (hgrows o (h.held o (by simp [hthread])))
  idle := h.idle
  busy a entry hentry halive n hn := by
    rcases h.busy a entry hentry halive n hn with hsettled | hcarried
    · exact .inl hsettled
    · obtain ⟨x, other, hother, hlooping, hgen, hseq, hactor, hinflight, hroutes⟩ := hcarried
      by_cases hx : o = x
      · subst hx
        rw [hthread] at hother
        obtain rfl := Option.some.inj hother
        by_cases hlater : phase.Looping
        · exact .inr ⟨o, { thread with phase := phase }, Dict.get?_set_self _ _ _, hlater, hgen,
            hseq, hactor, hinflight, hroutes⟩
        · left
          rw [h.routed.own _ _ hentry] at hactor
          exact hleft hlater entry n (by rw [hactor]; exact hentry) hinflight hroutes hlooping hgen
            hseq
      · exact .inr ⟨x, other, (Dict.get?_set_of_ne _ _ hx).trans hother, hlooping, hgen, hseq,
          hactor, hinflight, hroutes⟩
  numbered request hrequest := by
    have hold : s.Requested request := by
      rcases hrequest with hmem | ⟨x, other, hother, rfl⟩
      · rcases hsent request hmem with hold | rfl
        · exact .inl hold
        · exact .inr ⟨o, thread, hthread, rfl⟩
      · have hget : (s.threads.set o { thread with phase := phase }).get? x = some other := hother
        rcases Dict.of_get?_set hget with ⟨_, rfl⟩ | hget
        · exact .inr ⟨o, thread, hthread, rfl⟩
        · exact .inr ⟨x, other, hget, rfl⟩
    have hnumbered := h.numbered request hold
    exact ⟨hnumbered.caller, hnumbered.own, hnumbered.number⟩
  workers g := by
    have hold := h.workers g
    refine ⟨hold.generation, hold.actor, hold.sound, fun q hq => ?_⟩
    obtain ⟨request, hmem, hrequest⟩ := hold.known q hq
    exact ⟨request, hkept request hmem, hrequest⟩

theorem GapInv.ended (h : s.GapInv) (hthread : s.threads.get? o = some thread)
    (hover : thread.phase = .finishing) : GapInv { s with threads := s.threads.erase o } where
  routed := ⟨h.routed.own, h.routed.valid, h.routed.named⟩
  held x hx := by
    have hget : (s.threads.erase o).get? x ≠ none := hx
    rw [Dict.get?_erase] at hget
    split at hget
    · exact absurd rfl hget
    · exact h.held x hget
  idle := h.idle
  busy a entry hentry halive n hn := by
    rcases h.busy a entry hentry halive n hn with hsettled | hcarried
    · exact .inl hsettled
    · obtain ⟨x, other, hother, hlooping, hrest⟩ := hcarried
      have hx : o ≠ x := by
        intro heq
        rw [heq, hother] at hthread
        cases hthread
        rw [hover] at hlooping
        exact hlooping
      exact .inr ⟨x, other, (Dict.get?_erase_of_ne _ hx).trans hother, hlooping, hrest⟩
  numbered request hrequest := by
    have hold : s.Requested request := by
      rcases hrequest with hmem | ⟨x, other, hother, rfl⟩
      · exact .inl hmem
      · have hget : (s.threads.erase o).get? x = some other := hother
        exact .inr ⟨x, other, (Dict.of_get?_erase hget).2, rfl⟩
    have hnumbered := h.numbered request hold
    exact ⟨hnumbered.caller, hnumbered.own, hnumbered.number⟩
  workers g := by
    have hold := h.workers g
    exact ⟨hold.generation, hold.actor, hold.sound, hold.known⟩

theorem GapInv.finished (h : s.GapInv) (hgone : s.threads.get? o = none) :
    GapInv { s with clients := (s.clients.finishCall o fence).2 } := by
  unfold ActorClientTable.finishCall
  split
  · exact h
  · rename_i entry hentry
    split
    · exact h
    · have hmoved := h.routed.moved (.finished (o := o) hentry)
      refine h.entered rfl rfl rfl rfl hmoved h.held (h.idle _ entry hentry) ?_
        (fun _ _ _ _ _ hcarried => hcarried) (h.known_numbers fun _ hrequest => hrequest) ?_
      · intro halive n hn
        rcases h.busy _ entry hentry halive n hn with hsettled | hcarried
        · exact .inl hsettled
        · obtain ⟨x, thread, hthread, hlooping, hgen, hseq, hactor, hinflight, hroutes⟩ := hcarried
          have hx : o ≠ x := by
            intro heq
            rw [heq, hthread] at hgone
            cases hgone
          exact .inr ⟨x, thread, hthread, hlooping, hgen, hseq, hactor,
            (Dict.get?_erase_of_ne _ hx).trans hinflight, hroutes⟩
      · intro request hrequest hactor
        obtain ⟨other, hother, hnumber⟩ := (h.numbered request hrequest).number
        rw [hactor, hentry] at hother
        obtain rfl := Option.some.inj hother
        exact hnumber

variable {input : ActorCallInput}

theorem Left.settled (h : s.GapInv) (hthread : s.threads.get? o = some thread)
    (hleft : s.Left o thread input) (hkept : ¬ s.GivesUp o thread input) {n : Nat}
    (hentry : s.clients.entries.get? thread.fence.actorId = some entry)
    (hinflight : entry.inflight.get? o = some thread.fence)
    (hroutes : entry.snapshot.Routes thread.fence) (hlooping : thread.phase.Looping)
    (hgen : thread.request.generation = entry.snapshot.generation)
    (hseq : thread.request.sequence = n) : s.Settled entry n := by
  have hcaller := (h.numbered thread.request (.inr ⟨o, thread, hthread, rfl⟩)).caller
  cases hleft with
  | answered known =>
    unfold Settled
    rw [← hgen, ← hcaller, ← hseq]
    exact known
  | fenced revoked =>
    have hpublishes := ActorClientTable.canPublish_iff.mpr ⟨entry, hentry, hinflight, hroutes⟩
    rw [revoked] at hpublishes
    cases hpublishes
  | gaveUp given => exact absurd given hkept
  | out past => exact absurd hlooping past

theorem Advanced.gapInv (h : s.GapInv) (hthread : s.threads.get? o = some thread)
    (hmoves : s.Advanced o thread input s') (hkept : ¬ s.GivesUp o thread input)
    (hordered : s.Ordered (.advance o input)) : s'.GapInv := by
  have hsame : Grows s.objects s.objects := fun _ hx => hx
  cases hmoves with
  | idle => exact h
  | sent phase =>
    refine h.phased hthread hsame ?_ (fun _ hmem => List.mem_cons_of_mem _ hmem)
      fun hover => absurd trivial hover
    intro request hmem
    rcases List.mem_cons.mp hmem with rfl | hold
    · exact .inr rfl
    · exact .inl hold
  | phased unsent left =>
    refine h.phased hthread hsame (fun _ => .inl) (fun _ => id) fun hover entry n hentry hinflight
      hroutes hlooping hgen hseq => ?_
    rcases left with hlooping' | hleft
    · exact absurd hlooping' hover
    · exact hleft.settled h hthread hkept hentry hinflight hroutes hlooping hgen hseq
  | @installed snapshot valid next phase found routes =>
    subst found
    have hnext := routes.gapInv h valid hordered
    have hthreads : next.threads = s.threads := by
      cases routes <;> rfl
    rw [← hthreads] at hthread ⊢
    exact hnext.phased hthread (fun _ hx => hx) (fun _ => .inl) (fun _ => id)
      fun hover => absurd trivial hover
  | failed past grows =>
    exact h.phased hthread grows (fun _ => .inl) (fun _ => id)
      fun _ _ _ _ _ _ hlooping => absurd hlooping past
  | published past grows publishes =>
    exact h.phased hthread grows (fun _ => .inl) (fun _ => id)
      fun _ _ _ _ _ _ hlooping => absurd hlooping past
  | finished past => exact (h.ended hthread past).finished (Dict.get?_erase_self _ _)

/-- What keeps the numbers of a caller whole. -/
structure Keeps (s : ActorCalls) (action : ActorCallAction) : Prop where
  numbers : ¬ s.LosesNumber action
  calls : ¬ s.GivesUpCall action
  ordered : s.Ordered action

theorem GapInv.after (h : s.GapInv) (hkeeps : s.Keeps action) : (s.step action).GapInv := by
  have hstep := step_spec h.routed action
  generalize s.step action = s' at hstep
  cases hstep with
  | same => exact h
  | @registered snapshot definition valid fresh =>
    exact h.registered valid definition.exported.2.1 fresh
  | removed known creating => exact h.removed known creating
  | installed valid routes => exact routes.gapInv h valid hkeeps.ordered
  | submitted submission submits =>
    generalize s.submitActorCall submission = result at submits
    cases submits with
    | refused => exact h
    | lost loses => exact absurd ⟨submission, rfl, loses⟩ hkeeps.numbers
    | started kept new known own routes => exact h.started new known own routes
  | advanced running moves =>
    exact moves.gapInv h running (fun hgiven => hkeeps.calls ⟨_, _, _, rfl, running, hgiven⟩)
      hkeeps.ordered
  | @delivered request sent =>
    have hknown : request.call.callerId = s.workerId → ∃ other ∈ s.sent,
        other.generation = request.call.generation ∧
          (other.sequence : Int) = request.call.sequence :=
      fun _ => ⟨request, sent, rfl, rfl⟩
    exact h.handled hknown
  | delivered_other other => exact h.handled fun hcaller => absurd hcaller other
  | worked action works => exact h.worked works
  | closed =>
    refine ⟨⟨h.routed.own, h.routed.valid, h.routed.named⟩, h.held, h.idle, h.busy,
      fun request hrequest => ?_, fun g => ?_⟩
    · have hold := h.numbered request hrequest
      exact ⟨hold.caller, hold.own, hold.number⟩
    · have hold := h.workers g
      exact ⟨hold.generation, hold.actor, hold.sound, hold.known⟩

/-- The number a mailbox waits for is one that a call of the live route still sends. -/
theorem GapInv.carried (h : s.GapInv) (hentry : s.clients.entries.get? a = some entry)
    (halive : entry.snapshot.state = .alive)
    (haccepting : (s.worker entry.snapshot.generation).accepting = true) {q : Int}
    (hbuffered : (s.worker entry.snapshot.generation).mailbox.callState ⟨s.workerId, q⟩ =
      some .buffered) :
    ∃ n : Nat,
        (s.worker entry.snapshot.generation).mailbox.expected s.workerId = n ∧
          s.Carried entry n := by
  have hworker := h.workers entry.snapshot.generation
  obtain ⟨started, hsound⟩ := hworker.sound
  obtain ⟨hnonneg, hahead, hunknown⟩ := ActorMailbox.unknown_of_buffered hsound hbuffered
  obtain ⟨n, hn⟩ := Int.eq_ofNat_of_zero_le hnonneg
  have hknown : (s.worker entry.snapshot.generation).mailbox.Known ⟨s.workerId, q⟩ := by
    unfold ActorMailbox.Known
    rw [hbuffered]
    exact Option.some_ne_none _
  obtain ⟨request, hsent, hgeneration, hsequence⟩ := hworker.known q hknown
  have hnumbered := h.numbered request (.inl hsent)
  obtain ⟨other, hother, hnumber⟩ := hnumbered.number
  have hactor : request.actorId = a := by
    rw [← hnumbered.own, hgeneration, (h.routed.valid a entry hentry).own_generation,
      h.routed.own a entry hentry]
  rw [hactor, hentry] at hother
  obtain rfl := Option.some.inj hother
  have hless : request.sequence < entry.nextSequence := by
    rcases hnumber with hless | ⟨_, hless⟩
    · rw [hgeneration] at hless
      exact absurd hless (lt_irrefl _)
    · exact hless
  have hn' : n < entry.nextSequence := by
    rw [hn] at hahead
    rw [← hsequence] at hahead
    omega
  refine ⟨n, hn, ?_⟩
  rcases h.busy a entry hentry halive n hn' with hsettled | hcarried
  · rcases hsettled with hstopped | hsettled
    · rw [haccepting] at hstopped
      cases hstopped
    · rw [hn] at hunknown
      exact absurd hsettled hunknown
  · exact hcarried

end ActorCalls

end MiniRay
