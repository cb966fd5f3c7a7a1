import MiniRay.Actor.CallSteps
import MiniRay.Actor.Known

/-! # What every run of the calls keeps -/

namespace MiniRay

open Run

namespace ActorCalls

variable {s s' : ActorCalls} {action : ActorCallAction}

inductive WorkerStep (worker : ActorCallWorker) : ActorCallWorker → Prop
  | took : WorkerStep worker { worker with mailbox := worker.mailbox.takeNext.2 }
  | completed (reply : ActorCallReply) :
      WorkerStep worker { worker with mailbox := (worker.mailbox.completeCurrent reply).2 }
  | stopped : WorkerStep worker { worker with accepting := false }

inductive Stepped (s : ActorCalls) : ActorCallAction → ActorCalls → Prop
  | same (action : ActorCallAction) : Stepped s action s
  | registered {snapshot : ActorSnapshot} {definition : ActorClassDefinition}
      (valid : snapshot.Valid) (fresh : s.clients.entries.get? snapshot.actorId = none) :
      Stepped s (.register snapshot valid definition) { s with
        clients := ⟨s.clients.entries.set snapshot.actorId
          { snapshot := snapshot, methodNames := definition.methodNames }⟩ }
  | removed {a : ActorID} {expected : ActorSnapshot} {entry : ActorClientEntry}
      (known : s.clients.entries.get? a = some entry)
      (creating : entry.snapshot.state = .creating) :
      Stepped s (.remove a expected) { s with clients := ⟨s.clients.entries.erase a⟩ }
  | installed {snapshot : ActorSnapshot} (valid : snapshot.Valid) {next : ActorCalls}
      (routes : s.Installed snapshot next) : Stepped s (.install snapshot valid) next
  | submitted (submission : ActorCallSubmission)
      (submits : s.Submitted submission (s.submitActorCall submission)) :
      Stepped s (.submit submission) (s.submitActorCall submission).2
  | advanced {o : ObjectID} {thread : ActorCallThread} {input : ActorCallInput} {next : ActorCalls}
      (running : s.threads.get? o = some thread) (moves : s.Advanced o thread input next) :
      Stepped s (.advance o input) next
  | delivered {request : ActorCallRequest} (sent : request ∈ s.sent) :
      Stepped s (.deliver request)
        (s.setWorker request.generation ((s.worker request.generation).handle request.call))
  | delivered_other {call : ActorCall ActorCallRequest ActorCallFingerprint}
      (other : call.callerId ≠ s.workerId) : Stepped s (.deliverOther call)
        (s.setWorker call.generation ((s.worker call.generation).handle call))
  | worked (action : ActorCallAction) {generation : ActorGeneration} {worker : ActorCallWorker}
      (works : WorkerStep (s.worker generation) worker) :
      Stepped s action (s.setWorker generation worker)
  | closed : Stepped s .shutdown { s with accepting := false }

theorem step_spec (h : s.Routed) (action : ActorCallAction) : s.Stepped action (s.step action) := by
  cases action with
  | register snapshot valid definition =>
    simp only [step, ActorClientTable.register]
    split
    · exact .same _
    · rename_i clients hregister
      split at hregister
      · cases hregister
      · split at hregister
        · cases hregister
        · rename_i hfresh
          cases hregister
          exact .registered valid (not_not.mp hfresh)
  | remove a expected =>
    simp only [step, ActorClientTable.remove]
    split
    · exact .same _
    · rename_i removed clients hremove
      split at hremove
      · cases hremove
      · split at hremove
        · cases hremove
        · rename_i hcreating
          split at hremove
          · cases hremove
            exact .same _
          · rename_i entry hentry
            split at hremove
            · cases hremove
              exact .same _
            · rename_i hexpected
              split at hremove
              · cases hremove
              · cases hremove
                refine .removed hentry ?_
                rw [not_not.mp hexpected]
                exact not_not.mp hcreating
  | install snapshot valid =>
    simp only [step]
    split
    · exact .same _
    · rename_i next hinstall
      exact .installed valid (installActorSnapshot_spec hinstall)
  | submit submission => exact .submitted submission (submitActorCall_spec h submission)
  | advance o input =>
    simp only [step]
    split
    · exact .same _
    · rename_i thread hthread
      exact .advanced hthread (advance_spec s o thread input)
  | deliver request =>
    simp only [step]
    split
    · rename_i hsent
      exact .delivered hsent
    · exact .same _
  | deliverOther call =>
    simp only [step]
    split
    · exact .same _
    · rename_i hother
      exact .delivered_other hother
  | takeNext generation => exact .worked _ .took
  | completeCurrent generation reply => exact .worked _ (.completed reply)
  | stopWorker generation => exact .worked _ .stopped
  | shutdown => exact .closed

/-! ## Routes -/

/-- Two moves at most: a call that cannot start gives its place back. -/
theorem Stepped.moved (h : s.Stepped action s') :
    ∃ t, s.clients.Moved t ∧ t.Moved s'.clients := by
  have hinstalled : ∀ {snapshot : ActorSnapshot} {next : ActorCalls}, snapshot.Valid →
      s.Installed snapshot next → s.clients.Moved next.clients := by
    intro snapshot next hvalid hroutes
    cases hroutes with
    | kept => exact .same
    | rerouted known newer grows => exact .rerouted hvalid known newer
  cases h with
  | same => exact ⟨_, .same, .same⟩
  | @registered snapshot definition valid fresh =>
    exact ⟨_, .registered valid definition.exported.2.1 fresh, .same⟩
  | removed known creating => exact ⟨_, .removed known creating, .same⟩
  | installed valid routes => exact ⟨_, hinstalled valid routes, .same⟩
  | submitted submission submits =>
    generalize s.submitActorCall submission = result at submits
    cases submits with
    | refused => exact ⟨_, .same, .same⟩
    | lost loses known own routes ended grows =>
      refine ⟨_, .taken (o := .forTask submission.taskId 0) known routes, ?_⟩
      rcases ended with rfl | rfl
      · exact .same
      · exact ActorClientTable.finishCall_moved _ _ _
    | started kept new known own routes =>
      exact ⟨_, .taken (o := .forTask submission.taskId 0) known routes, .same⟩
  | advanced running moves =>
    cases moves with
    | @installed snapshot valid next phase found routes =>
      exact ⟨_, hinstalled valid routes, .same⟩
    | finished past => exact ⟨_, ActorClientTable.finishCall_moved _ _ _, .same⟩
    | _ => exact ⟨_, .same, .same⟩
  | delivered sent => exact ⟨_, .same, .same⟩
  | delivered_other other => exact ⟨_, .same, .same⟩
  | worked action works => exact ⟨_, .same, .same⟩
  | closed => exact ⟨_, .same, .same⟩

theorem Routed.moved {t' : ActorClientTable} (h : s.Routed) (hmoved : s.clients.Moved t') :
    Routed { s with clients := t' } := by
  have hset : ∀ {a : ActorID} {entry' : ActorClientEntry}, entry'.snapshot.actorId = a →
      entry'.snapshot.Valid → "" ∉ entry'.methodNames →
        Routed { s with clients := ⟨s.clients.entries.set a entry'⟩ } := by
    intro a entry' hown hvalid hnamed
    have hget : ∀ x entry, (s.clients.entries.set a entry').get? x = some entry →
        x = a ∧ entry = entry' ∨ s.clients.entries.get? x = some entry := by
      intro x entry hentry
      rcases Dict.of_get?_set hentry with ⟨hx, hentry⟩ | hentry
      · exact .inl ⟨hx.symm, hentry.symm⟩
      · exact .inr hentry
    refine ⟨fun x entry hentry => ?_, fun x entry hentry => ?_, fun x entry hentry => ?_⟩
    · rcases hget x entry hentry with ⟨rfl, rfl⟩ | hold
      · exact hown
      · exact h.own x entry hold
    · rcases hget x entry hentry with ⟨rfl, rfl⟩ | hold
      · exact hvalid
      · exact h.valid x entry hold
    · rcases hget x entry hentry with ⟨rfl, rfl⟩ | hold
      · exact hnamed
      · exact h.named x entry hold
  cases hmoved with
  | same => exact h
  | registered valid names fresh => exact hset rfl valid names
  | @removed a entry known creating =>
    have hget : ∀ {x entry}, (s.clients.entries.erase a).get? x = some entry →
        s.clients.entries.get? x = some entry := by
      intro x entry hentry
      exact (Dict.of_get?_erase hentry).2
    exact ⟨fun x entry hentry => h.own x entry (hget hentry),
      fun x entry hentry => h.valid x entry (hget hentry),
      fun x entry hentry => h.named x entry (hget hentry)⟩
  | rerouted valid known newer =>
    have hnamed := h.named _ _ known
    exact hset rfl valid hnamed
  | taken known routes =>
    have hown := h.own _ _ known
    have hvalid := h.valid _ _ known
    have hnamed := h.named _ _ known
    exact hset hown hvalid hnamed
  | finished known =>
    have hown := h.own _ _ known
    have hvalid := h.valid _ _ known
    have hnamed := h.named _ _ known
    exact hset hown hvalid hnamed

theorem Routed.after (h : s.Routed) (action : ActorCallAction) : (s.step action).Routed := by
  obtain ⟨t, hfirst, hsecond⟩ := (step_spec h action).moved
  have hmid := h.moved hfirst
  have hend := hmid.moved hsecond
  exact ⟨hend.own, hend.valid, hend.named⟩

theorem follows_step (h : s.Routed) {snapshot : ActorSnapshot}
    (hpublished : 0 < snapshot.routeEpoch) (hfollows : s.clients.Follows snapshot)
    (action : ActorCallAction) : (s.step action).clients.Follows snapshot := by
  obtain ⟨t, hfirst, hsecond⟩ := (step_spec h action).moved
  have hmid := hfirst.follows hpublished h.valid hfollows
  exact hsecond.follows hpublished (h.moved hfirst).valid hmid

/-! ## Published results -/

theorem Stepped.published (h : s.Stepped action s') : s'.published = s.published ∨
    ∃ o thread, s.threads.get? o = some thread ∧
      s.clients.canPublish o thread.fence = true ∧
      s'.published = (o, thread.fence) :: s.published := by
  cases h with
  | installed valid routes =>
    cases routes with
    | kept => exact .inl rfl
    | rerouted known newer grows => exact .inl rfl
  | submitted submission submits =>
    generalize s.submitActorCall submission = result at submits
    cases submits with
    | refused => exact .inl rfl
    | lost => exact .inl rfl
    | started => exact .inl rfl
  | @advanced o thread input next running moves =>
    cases moves with
    | published past grows publishes => exact .inr ⟨o, thread, running, publishes, rfl⟩
    | installed phase found routes =>
      cases routes with
      | kept => exact .inl rfl
      | rerouted known newer grows => exact .inl rfl
    | _ => exact .inl rfl
  | _ => exact .inl rfl

theorem Stepped.taken (h : s.Stepped action s') : s'.taken = s.taken ∨
    ∃ taken entry, s'.taken = taken :: s.taken ∧
      s.clients.entries.get? taken.fence.actorId = some entry ∧
      entry.snapshot.Routes taken.fence := by
  cases h with
  | installed valid routes =>
    cases routes with
    | kept => exact .inl rfl
    | rerouted known newer grows => exact .inl rfl
  | submitted submission submits =>
    generalize s.submitActorCall submission = result at submits
    cases submits with
    | refused => exact .inl rfl
    | @lost error entry fence clients objects loses known own routes ended grows =>
      refine .inr ⟨_, entry, rfl, ?_, routes⟩
      rw [own]
      exact known
    | @started entry fence arguments kept new known own routes =>
      refine .inr ⟨_, entry, rfl, ?_, routes⟩
      rw [own]
      exact known
  | advanced running moves =>
    cases moves with
    | installed phase found routes =>
      cases routes with
      | kept => exact .inl rfl
      | rerouted known newer grows => exact .inl rfl
    | _ => exact .inl rfl
  | _ => exact .inl rfl

/-! ## Sent numbers -/

structure ActorCallRequestFor (request : ActorCallRequest) (taken : TakenNumber) : Prop where
  actor : request.actorId = taken.fence.actorId
  generation : request.generation = taken.fence.generation
  worker : request.targetWorkerId = taken.fence.workerId
  epoch : request.routeEpoch = taken.fence.routeEpoch
  sequence : request.sequence = taken.sequence

def Sending (s : ActorCalls) (taken : TakenNumber) : Prop :=
  (∃ request ∈ s.sent, ActorCallRequestFor request taken) ∨
    ∃ thread, s.threads.get? taken.objectId = some thread ∧ thread.phase = .sending ∧
      ActorCallRequestFor thread.request taken

def Held (s : ActorCalls) : Prop :=
  ∀ o, s.threads.get? o ≠ none → s.objects.get? o ≠ none

theorem held_set {threads : Dict ObjectID ActorCallThread}
    {objects objects' : Dict ObjectID ActorCallOutcome} {o : ObjectID} {thread : ActorCallThread}
    (h : ∀ x, threads.get? x ≠ none → objects.get? x ≠ none) (hgrows : Grows objects objects')
    (ho : objects'.get? o ≠ none) (x : ObjectID) (hx : (threads.set o thread).get? x ≠ none) :
    objects'.get? x ≠ none := by
  rw [Dict.get?_set] at hx
  split at hx
  · rename_i hxo
    rw [← hxo]
    exact ho
  · exact hgrows x (h x hx)

theorem Held.stepped (h : s.Held) (hstep : s.Stepped action s') : s'.Held := by
  have hinstalled : ∀ {snapshot : ActorSnapshot} {next : ActorCalls}, s.Installed snapshot next →
      Grows s.objects next.objects ∧ next.threads = s.threads := by
    intro snapshot next hroutes
    cases hroutes with
    | kept => exact ⟨fun _ hx => hx, rfl⟩
    | rerouted known newer grows => exact ⟨grows, rfl⟩
  cases hstep with
  | installed valid routes =>
    obtain ⟨hgrows, hthreads⟩ := hinstalled routes
    intro x hx
    rw [hthreads] at hx
    exact hgrows x (h x hx)
  | submitted submission submits =>
    generalize s.submitActorCall submission = result at submits
    cases submits with
    | refused => exact h
    | lost loses known own routes ended grows => exact fun x hx => grows x (h x hx)
    | started kept new known own routes =>
      exact held_set h (grows_set _ _ _) (by simp)
  | @advanced o thread input next running moves =>
    have ho : s.objects.get? o ≠ none := h o (by simp [running])
    cases moves with
    | idle => exact h
    | sent phase => exact held_set h (fun _ hx => hx) ho
    | phased unsent left => exact held_set h (fun _ hx => hx) ho
    | installed phase found routes =>
      obtain ⟨hgrows, _⟩ := hinstalled routes
      exact held_set h hgrows (hgrows o ho)
    | failed past grows => exact held_set h grows (grows o ho)
    | published past grows publishes => exact held_set h grows (grows o ho)
    | finished past =>
      intro x hx
      have hget : (s.threads.erase o).get? x ≠ none := hx
      rw [Dict.get?_erase] at hget
      split at hget
      · exact absurd rfl hget
      · exact h x hget
  | _ => exact h

variable {t : TakenNumber}

theorem Sending.phased {o : ObjectID} {thread thread' : ActorCallThread} (h : s.Sending t)
    (hthread : s.threads.get? o = some thread) (hunsent : thread.phase ≠ .sending)
    (hsent : s'.sent = s.sent) (hthreads : s'.threads = s.threads.set o thread') :
    s'.Sending t := by
  rcases h with hsent' | ⟨old, hold, hphase, hfor⟩
  · left
    rw [hsent]
    exact hsent'
  · right
    have hother : o ≠ t.objectId := by
      intro heq
      rw [heq, hold] at hthread
      cases hthread
      exact hunsent hphase
    refine ⟨old, ?_, hphase, hfor⟩
    rw [hthreads]
    exact (Dict.get?_set_of_ne _ _ hother).trans hold

theorem Sending.same (h : s.Sending t) (hsent : s'.sent = s.sent)
    (hthreads : s'.threads = s.threads) : s'.Sending t := by
  unfold Sending
  rw [hsent, hthreads]
  exact h

theorem Sending.stepped (h : s.Sending t) (hheld : s.Held) (hstep : s.Stepped action s') :
    s'.Sending t := by
  cases hstep with
  | installed valid routes =>
    cases routes with
    | kept => exact h
    | rerouted known newer grows => exact h.same rfl rfl
  | submitted submission submits =>
    generalize s.submitActorCall submission = result at submits
    cases submits with
    | refused => exact h
    | lost loses known own routes ended grows => exact h.same rfl rfl
    | started kept new known own routes =>
      rcases h with hsent | ⟨old, hold, hphase, hfor⟩
      · exact .inl hsent
      · right
        have hother : ObjectID.forTask submission.taskId 0 ≠ t.objectId := by
          intro heq
          exact hheld t.objectId (by simp [hold]) (heq ▸ new)
        exact ⟨old, (Dict.get?_set_of_ne _ _ hother).trans hold, hphase, hfor⟩
  | @advanced o thread input next running moves =>
    have hunsent : ¬ thread.phase.Looping → thread.phase ≠ .sending := by
      intro hover heq
      rw [heq] at hover
      exact hover trivial
    cases moves with
    | idle => exact h
    | sent phase =>
      rcases h with ⟨request, hrequest, hfor⟩ | ⟨old, hold, hphase, hfor⟩
      · exact .inl ⟨request, List.mem_cons_of_mem _ hrequest, hfor⟩
      · by_cases ho : o = t.objectId
        · rw [ho, hold] at running
          cases running
          exact .inl ⟨thread.request, List.mem_cons_self, hfor⟩
        · exact .inr ⟨old, (Dict.get?_set_of_ne _ _ ho).trans hold, hphase, hfor⟩
    | phased unsent left => exact h.phased running unsent rfl rfl
    | @installed snapshot valid next phase found routes =>
      have hsending : thread.phase ≠ .sending := by simp [phase]
      cases routes with
      | kept => exact h.phased running hsending rfl rfl
      | rerouted known newer grows => exact h.phased running hsending rfl rfl
    | failed past grows => exact h.phased running (hunsent past) rfl rfl
    | published past grows publishes => exact h.phased running (hunsent past) rfl rfl
    | finished past =>
      rcases h with hsent | ⟨old, hold, hphase, hfor⟩
      · exact .inl hsent
      · right
        have hother : o ≠ t.objectId := by
          intro heq
          rw [heq, hold] at running
          cases running
          rw [past] at hphase
          cases hphase
        exact ⟨old, (Dict.get?_erase_of_ne _ hother).trans hold, hphase, hfor⟩
  | _ => exact h.same rfl rfl

end ActorCalls

end MiniRay
