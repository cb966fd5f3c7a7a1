import MiniRay.Actor.CallRoutes

/-! Each section's effect once, for the invariants to be read off. -/

namespace MiniRay

open Run

/-- The thread still sends its request, or may send it again. -/
def ActorCallPhase.Looping : ActorCallPhase → Prop
  | .sending | .waiting | .retrying | .installed => True
  | _ => False

namespace ActorCalls

variable {s s' : ActorCalls} {o : ObjectID} {thread : ActorCallThread} {input : ActorCallInput}

/-- No object's entry goes. -/
def Grows (objects objects' : Dict ObjectID ActorCallOutcome) : Prop :=
  ∀ x, objects.get? x ≠ none → objects'.get? x ≠ none

theorem grows_set (objects : Dict ObjectID ActorCallOutcome) (o : ObjectID)
    (outcome : ActorCallOutcome) : Grows objects (objects.set o outcome) := by
  intro x hx
  rw [Dict.get?_set]
  split
  · simp
  · exact hx

theorem publishError_eq (s : ActorCalls) (o : ObjectID) (error : String) :
    ∃ objects, s.publishError o error = { s with objects := objects } ∧
      Grows s.objects objects := by
  unfold publishError
  split
  · exact ⟨_, rfl, grows_set _ _ _⟩
  · exact ⟨s.objects, rfl, fun _ hx => hx⟩

theorem publishErrors_eq (s : ActorCalls) (os : List ObjectID) (error : String) :
    ∃ objects, s.publishErrors os error = { s with objects := objects } ∧
      Grows s.objects objects := by
  induction os generalizing s with
  | nil => exact ⟨s.objects, rfl, fun _ hx => hx⟩
  | cons o os ih =>
    obtain ⟨first, hfirst, hgrows⟩ := s.publishError_eq o error
    obtain ⟨objects, hrest, hgrows'⟩ := ih (s.publishError o error)
    refine ⟨objects, ?_, fun x hx => hgrows' x ?_⟩
    · have hcons : s.publishErrors (o :: os) error =
          (s.publishError o error).publishErrors os error := rfl
      rw [hcons, hrest, hfirst]
    · rw [hfirst]
      exact hgrows x hx

inductive Installed (s : ActorCalls) (snapshot : ActorSnapshot) : ActorCalls → Prop
  | kept : Installed s snapshot s
  | rerouted {entry : ActorClientEntry} {objects : Dict ObjectID ActorCallOutcome}
      (known : s.clients.entries.get? snapshot.actorId = some entry)
      (newer : entry.snapshot.routeEpoch < snapshot.routeEpoch) (grows : Grows s.objects objects) :
      Installed s snapshot { s with
        clients := ⟨s.clients.entries.set snapshot.actorId (entry.reroute snapshot)⟩
        objects := objects }

theorem installActorSnapshot_spec {snapshot : ActorSnapshot}
    (h : s.installActorSnapshot snapshot = .ok s') : s.Installed snapshot s' := by
  unfold installActorSnapshot at h
  split at h
  · cases h
  · rename_i changed fenced clients hinstall
    rcases ActorClientTable.install_moved hinstall with
      ⟨_, hchanged⟩ | ⟨entry, hentry, hnewer, hchanged, hclients⟩
    · subst hchanged
      cases h
      exact .kept
    · subst hchanged hclients
      cases h
      obtain ⟨objects, hobjects, hgrows⟩ :=
        ({ s with clients := ⟨s.clients.entries.set snapshot.actorId (entry.reroute snapshot)⟩ } :
          ActorCalls).publishErrors_eq fenced (fencedError snapshot)
      rw [if_pos rfl, hobjects]
      exact .rerouted hentry hnewer hgrows

/-! ## A call's thread -/

/-- The thread stops although its route is unchanged and its Worker has not seen the call. -/
structure GivesUp (s : ActorCalls) (o : ObjectID) (thread : ActorCallThread)
    (input : ActorCallInput) : Prop where
  routed : s.clients.canPublish o thread.fence = true
  unseen : ¬ (s.worker thread.request.generation).Answers thread.request.key
  ended : thread.phase = .retrying ∧ (input = .stateUnavailable true ∨
      (∃ error, input = .stateRaised error) ∨
      ∃ snapshot valid error, input = .stateFound snapshot valid ∧
        s.installActorSnapshot snapshot = .error error) ∨
    thread.phase = .installed ∧ input = .checked true

inductive Left (s : ActorCalls) (o : ObjectID) (thread : ActorCallThread)
    (input : ActorCallInput) : Prop
  | answered (known : (s.worker thread.request.generation).Answers thread.request.key)
  | fenced (revoked : s.clients.canPublish o thread.fence = false)
  | gaveUp (given : s.GivesUp o thread input)
  | out (past : ¬ thread.phase.Looping)

/-- What the next section of a thread does. -/
inductive Advanced (s : ActorCalls) (o : ObjectID) (thread : ActorCallThread)
    (input : ActorCallInput) : ActorCalls → Prop
  | idle : Advanced s o thread input s
  | sent (phase : thread.phase = .sending) : Advanced s o thread input { s with
      sent := thread.request :: s.sent
      threads := s.threads.set o { thread with phase := .waiting } }
  | phased {phase : ActorCallPhase} (unsent : thread.phase ≠ .sending)
      (left : phase.Looping ∨ s.Left o thread input) :
      Advanced s o thread input { s with
        threads := s.threads.set o { thread with phase := phase } }
  | installed {snapshot : ActorSnapshot} {valid : snapshot.Valid} {next : ActorCalls}
      (phase : thread.phase = .retrying) (found : input = .stateFound snapshot valid)
      (routes : s.Installed snapshot next) : Advanced s o thread input { next with
        threads := s.threads.set o { thread with phase := .installed } }
  | failed {objects : Dict ObjectID ActorCallOutcome} (past : ¬ thread.phase.Looping)
      (grows : Grows s.objects objects) : Advanced s o thread input { s with
        objects := objects
        threads := s.threads.set o { thread with phase := .finishing } }
  | published {objects : Dict ObjectID ActorCallOutcome} (past : ¬ thread.phase.Looping)
      (grows : Grows s.objects objects)
      (publishes : s.clients.canPublish o thread.fence = true) : Advanced s o thread input { s with
        objects := objects
        published := (o, thread.fence) :: s.published
        threads := s.threads.set o { thread with phase := .finishing } }
  | finished (past : thread.phase = .finishing) : Advanced s o thread input { s with
      clients := (s.clients.finishCall o thread.fence).2
      threads := s.threads.erase o }

theorem left_of (hphase : thread.phase = .retrying ∧ (input = .stateUnavailable true ∨
      (∃ error, input = .stateRaised error) ∨
      ∃ snapshot valid error, input = .stateFound snapshot valid ∧
        s.installActorSnapshot snapshot = .error error) ∨
    thread.phase = .installed ∧ input = .checked true) : s.Left o thread input := by
  by_cases hrouted : s.clients.canPublish o thread.fence = true
  · by_cases hseen : (s.worker thread.request.generation).Answers thread.request.key
    · exact .answered hseen
    · exact .gaveUp ⟨hrouted, hseen, hphase⟩
  · exact .fenced (by simpa using hrouted)

theorem publishError_failed (h : ¬ thread.phase.Looping) (error : String) :
    s.Advanced o thread input ((s.publishError o error).setPhase o thread .finishing) := by
  obtain ⟨objects, hobjects, hgrows⟩ := s.publishError_eq o error
  rw [hobjects]
  exact .failed h hgrows

theorem handleReply_spec {reply : ActorCallReply} (h : thread.phase = .replied reply)
    (decoding : ActorCallDecoding) :
    s.Advanced o thread input (s.handleReply o thread reply decoding) := by
  have hover : ¬ thread.phase.Looping := by
    rw [h]
    exact id
  have hunsent : thread.phase ≠ .sending := by
    rw [h]
    exact fun heq => by cases heq
  have hphased : ∀ phase, s.Advanced o thread input (s.setPhase o thread phase) :=
    fun phase => .phased hunsent (.inr (.out hover))
  unfold handleReply
  split
  · exact hphased _
  · split
    · exact hphased _
    · unfold publishActorReply
      split
      · exact hphased _
      · rename_i hpublishes
        split
        · exact publishError_failed hover _
        · exact hphased _
        · cases decoding with
          | raised error => exact hphased _
          | nodeDead => exact hphased _
          | ready =>
            simp only [publishResult]
            split
            · exact .published hover (grows_set _ _ _) (by simpa using hpublishes)
            · exact hphased _

theorem advance_spec (s : ActorCalls) (o : ObjectID) (thread : ActorCallThread)
    (input : ActorCallInput) : s.Advanced o thread input (s.advance o thread input) := by
  unfold advance
  split
  · rename_i hphase
    exact .sent hphase
  · rename_i hphase
    exact .phased (by simp [hphase]) (.inl trivial)
  · rename_i reply hphase
    split
    · rename_i hanswers
      exact .phased (by simp [hphase]) (.inr (.answered hanswers))
    · exact .idle
  · rename_i expired hphase
    refine .phased (by simp [hphase]) ?_
    cases expired with
    | false => exact .inl trivial
    | true => exact .inr (left_of (.inl ⟨hphase, .inl rfl⟩))
  · rename_i error hphase
    exact .phased (by simp [hphase]) (.inr (left_of (.inl ⟨hphase, .inr (.inl ⟨error, rfl⟩)⟩)))
  · rename_i snapshot valid hphase
    split
    · rename_i error hinstall
      refine .phased (by simp [hphase]) (.inr (left_of (.inl ⟨hphase, .inr (.inr ?_)⟩)))
      exact ⟨snapshot, valid, error, rfl, hinstall⟩
    · rename_i next hinstall
      have hinstalled := installActorSnapshot_spec hinstall
      have hthreads : next.threads = s.threads := by
        cases hinstalled <;> rfl
      have hstep : s.Advanced o thread (.stateFound snapshot valid) { next with
          threads := s.threads.set o { thread with phase := .installed } } :=
        .installed hphase rfl hinstalled
      rw [← hthreads] at hstep
      exact hstep
  · rename_i expired hphase
    split
    · rename_i hrevoked
      exact .phased (by simp [hphase]) (.inr (.fenced hrevoked))
    · refine .phased (by simp [hphase]) ?_
      cases expired with
      | false => exact .inl trivial
      | true => exact .inr (left_of (.inr ⟨hphase, rfl⟩))
  · rename_i reply decoding hphase
    exact handleReply_spec hphase decoding
  · rename_i error hphase
    exact publishError_failed (by simp [hphase, ActorCallPhase.Looping]) error
  · rename_i hphase
    exact .finished hphase
  · exact .idle

/-! ## Submitting -/

/-- The entries are about their own Actors. -/
structure Routed (s : ActorCalls) : Prop where
  own : ∀ a entry, s.clients.entries.get? a = some entry → entry.snapshot.actorId = a
  valid : ∀ a entry, s.clients.entries.get? a = some entry → entry.snapshot.Valid
  named : ∀ a entry, s.clients.entries.get? a = some entry → "" ∉ entry.methodNames

/-- The call takes a sequence number and then fails. -/
structure Loses (s : ActorCalls) (submission : ActorCallSubmission) : Prop where
  routed : ∃ entry, s.clients.entries.get? submission.actorId = some entry ∧
    submission.methodName ∈ entry.methodNames ∧ entry.snapshot.state = .alive
  plain : submission.holdsReference = false
  accepting : s.accepting = true
  fails : s.objects.get? (.forTask submission.taskId 0) ≠ none ∨
    (∃ error, submission.arguments = .error error) ∨ submission.started = false

/-- The owner once a call took its number. -/
def takeNumber (s : ActorCalls) (a : ActorID) (entry : ActorClientEntry) (o : ObjectID)
    (fence : ActorCallFence) : ActorCalls :=
  { s with
    clients := ⟨s.clients.entries.set a (entry.take o fence)⟩
    taken := ⟨o, fence, entry.nextSequence⟩ :: s.taken }

inductive Submitted (s : ActorCalls) (submission : ActorCallSubmission) :
    Except ActorCallError ObjectID × ActorCalls → Prop
  | refused {error : ActorCallError} (kept : ¬ s.Loses submission) :
      Submitted s submission (.error error, s)
  | lost {error : ActorCallError} {entry : ActorClientEntry} {fence : ActorCallFence}
      {clients : ActorClientTable} {objects : Dict ObjectID ActorCallOutcome}
      (loses : s.Loses submission)
      (known : s.clients.entries.get? submission.actorId = some entry)
      (own : fence.actorId = submission.actorId) (routes : entry.snapshot.Routes fence)
      (ended : clients = (s.takeNumber submission.actorId entry
          (.forTask submission.taskId 0) fence).clients ∨
        clients = ((s.takeNumber submission.actorId entry (.forTask submission.taskId 0)
          fence).clients.finishCall (.forTask submission.taskId 0) fence).2)
      (grows : Grows s.objects objects) :
      Submitted s submission (.error error, { s.takeNumber submission.actorId entry
        (.forTask submission.taskId 0) fence with
          clients := clients
          objects := objects })
  | started {entry : ActorClientEntry} {fence : ActorCallFence} {arguments : List UInt8}
      (kept : ¬ s.Loses submission) (new : s.objects.get? (.forTask submission.taskId 0) = none)
      (known : s.clients.entries.get? submission.actorId = some entry)
      (own : fence.actorId = submission.actorId) (routes : entry.snapshot.Routes fence) :
      Submitted s submission (.ok (.forTask submission.taskId 0),
        { s.takeNumber submission.actorId entry (.forTask submission.taskId 0) fence with
          objects := s.objects.set (.forTask submission.taskId 0) .pending
          threads := s.threads.set (.forTask submission.taskId 0)
            ⟨s.request submission entry.nextSequence fence arguments, fence, .sending⟩ })

theorem checkRequest_eq_none {submission : ActorCallSubmission} {entry : ActorClientEntry}
    (h : s.Routed) (hentry : s.clients.entries.get? submission.actorId = some entry)
    (hmethod : submission.methodName ∈ entry.methodNames) :
    checkRequest submission entry.snapshot = none := by
  have hown := (h.valid _ _ hentry).own_generation.trans (h.own _ _ hentry)
  have hnamed : submission.methodName ≠ "" := by
    intro hempty
    rw [hempty] at hmethod
    exact h.named _ _ hentry hmethod
  rw [checkRequest, if_neg (not_not.mpr hown), if_neg hnamed]

theorem submitActorCall_spec (h : s.Routed) (submission : ActorCallSubmission) :
    s.Submitted submission (s.submitActorCall submission) := by
  unfold submitActorCall
  split
  · rename_i hnone
    refine .refused fun hloses => ?_
    obtain ⟨entry, hentry, _⟩ := hloses.routed
    rw [hnone] at hentry
    cases hentry
  · rename_i entry hentry
    have hsame : ∀ {other}, s.clients.entries.get? submission.actorId = some other →
        other = entry := fun hother => Option.some.inj (hother.symm.trans hentry)
    split
    · rename_i hmethod
      refine .refused fun hloses => ?_
      obtain ⟨other, hother, hexported, _⟩ := hloses.routed
      rw [hsame hother] at hexported
      exact hmethod hexported
    · rename_i hmethod
      split
      · rename_i hreference
        exact .refused fun hloses => by simp [hloses.plain] at hreference
      · rename_i hplain
        split
        · rename_i hclosed
          exact .refused fun hloses => by simp [hloses.accepting] at hclosed
        · rename_i hopen
          have haccepting : s.accepting = true := by simpa using hopen
          dsimp only
          have hdead : ∀ {error}, s.clients.beginCall submission.actorId
              (.forTask submission.taskId 0) = .error error → ¬ s.Loses submission := by
            intro error hbegin hloses
            obtain ⟨other, hother, _, halive⟩ := hloses.routed
            obtain rfl := hsame hother
            obtain ⟨endpoint, hendpoint⟩ := Option.ne_none_iff_exists'.mp
              ((h.valid _ _ hentry).routable.mp halive)
            simp [ActorClientTable.beginCall, hentry, halive, hendpoint] at hbegin
          split
          · rename_i hbegin
            exact .refused (hdead hbegin)
          · rename_i hbegin
            exact .refused (hdead hbegin)
          · rename_i snapshot sequence fence clients hbegin
            obtain ⟨other, hother, rfl, rfl, hown, hroutes, rfl⟩ :=
              ActorClientTable.beginCall_eq_ok hbegin
            obtain rfl := hsame hother
            have hexported : submission.methodName ∈ other.methodNames := not_not.mp hmethod
            have hrouted : ∃ entry, s.clients.entries.get? submission.actorId = some entry ∧
                submission.methodName ∈ entry.methodNames ∧ entry.snapshot.state = .alive :=
              ⟨other, hentry, hexported, hroutes.1⟩
            have hloses := fun hfails => Loses.mk hrouted (by simpa using hplain) haccepting hfails
            simp only [dispatchCall]
            split
            · rename_i hregistered
              exact .lost (hloses (.inl hregistered)) hentry hown hroutes (.inl rfl)
                fun _ hx => hx
            · rename_i hnew
              split
              · rename_i error hpickle
                exact .lost (hloses (.inr (.inl ⟨error, hpickle⟩))) hentry hown hroutes (.inl rfl)
                  (grows_set _ _ _)
              · rename_i arguments hpickled
                rw [checkRequest_eq_none h hentry hexported]
                dsimp only
                split
                · rename_i hstarted
                  obtain ⟨objects, hobjects, hgrows⟩ := publishError_eq
                    { s.takeNumber submission.actorId other (.forTask submission.taskId 0)
                        fence with
                      clients := ((s.takeNumber submission.actorId other
                        (.forTask submission.taskId 0) fence).clients.finishCall
                          (.forTask submission.taskId 0) fence).2
                      objects := s.objects.set (.forTask submission.taskId 0) .pending }
                    (.forTask submission.taskId 0) "could not start actor call thread"
                  have hlost : s.Submitted submission (.error .threadStart,
                      { s.takeNumber submission.actorId other (.forTask submission.taskId 0)
                          fence with
                        clients := ((s.takeNumber submission.actorId other
                          (.forTask submission.taskId 0) fence).clients.finishCall
                            (.forTask submission.taskId 0) fence).2
                        objects := objects }) :=
                    .lost (hloses (.inr (.inr hstarted))) hentry hown hroutes (.inr rfl)
                      fun x hx => hgrows x (grows_set _ _ _ x hx)
                  exact hobjects ▸ hlost
                · rename_i hstarted
                  have hnone : s.objects.get? (.forTask submission.taskId 0) = none :=
                    not_not.mp hnew
                  refine .started (fun hlost => ?_) hnone hentry hown hroutes
                  rcases hlost.fails with hregistered | ⟨error, hpickle⟩ | hunstarted
                  · exact hregistered hnone
                  · rw [hpickled] at hpickle
                    cases hpickle
                  · exact hstarted hunstarted

end ActorCalls

end MiniRay
