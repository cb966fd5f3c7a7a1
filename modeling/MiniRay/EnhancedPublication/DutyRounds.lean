import MiniRay.EnhancedPublication.Duties
import MiniRay.Journal.Agreement

/-! A driver owns its duty while it is in flight: each section moves it on and forgets nothing. -/

namespace MiniRay

open Checked PublicationSnapshot

def ReleaseContainedReferenceReply.request (reply : ReleaseContainedReferenceReply) :
    ReleaseContainedReference := ⟨reply.objectId, reply.ownerWorkerId, reply.hold⟩

theorem Publication.mem_releaseRequests {publication : Publication}
    {request : ReleaseContainedReference} : request ∈ publication.releaseRequests ↔
      ∃ t ∈ publication.transfers, request.objectId = t.containedObjectId ∧
        request.ownerWorkerId = t.containedOwnerWorkerId ∧
        (request.hold = t.finalHold ∨ request.hold = t.provisionalHold) := by
  obtain ⟨objectId, owner, hold⟩ := request
  simp only [releaseRequests, List.mem_flatMap, List.mem_cons, List.not_mem_nil, or_false,
    ReleaseContainedReference.mk.injEq]
  constructor
  · intro h
    obtain ⟨t, ht, ⟨hobject, howner, hhold⟩ | ⟨hobject, howner, hhold⟩⟩ := h
    · exact ⟨t, ht, hobject, howner, .inl hhold⟩
    · exact ⟨t, ht, hobject, howner, .inr hhold⟩
  · intro h
    obtain ⟨t, ht, hobject, howner, hhold | hhold⟩ := h
    · exact ⟨t, ht, .inl ⟨hobject, howner, hhold⟩⟩
    · exact ⟨t, ht, .inr ⟨hobject, howner, hhold⟩⟩

namespace DeathCleanup

variable {work work' : DeathCleanup} {workers : WorkerTable}

/-- The Node has nothing more to say about the publication. -/
def PastNode (work : DeathCleanup) : Prop :=
  work.publication.isTask = true → work.nodeFinalized = true

def InPhase (work : DeathCleanup) : DrivePhase → Prop
  | .inspecting | .fencing _ | .finalizing _ => ¬ work.PastNode
  | .choosing | .assembling => work.PastNode ∧ work.closedHolds = none
  | .releasing request => work.PastNode ∧ work.closedHolds = none ∧
      request ∈ work.publication.releaseRequests
  | .settling => work.PastNode ∧ work.closedHolds ≠ none

structure Sound (work : DeathCleanup) : Prop where
  releases : ∀ request reply, work.releases.get? request = some reply →
    reply.accepted = true ∧ reply.request = request ∧
      request ∈ work.publication.releaseRequests
  children : ∀ owner death, work.childDeaths.get? owner = some death →
    death.workerId = owner ∧ death.OwnerDeath ∧ death.ConfirmedExit ∧
      ∃ request ∈ work.publication.releaseRequests, request.ownerWorkerId = owner
  holds : ∀ closed, work.closedHolds = some closed →
    closed.reference = work.publication.reference
  phased : ∀ phase, work.phase = some phase → work.InPhase phase

/-- The duty goes on: what it is about and what it has closed stay. -/
structure Moves (work work' : DeathCleanup) : Prop where
  publication : work'.publication = work.publication
  death : work'.death = work.death
  finished : work'.finished = work.finished
  sound : work'.Sound
  closed : work.PastNode → ∀ holds, work.closedHolds = some holds →
    work'.PastNode ∧ work'.closedHolds = some holds

theorem Sound.moved (h : work.Sound) (hpublication : work'.publication = work.publication)
    (hreleases : work'.releases = work.releases)
    (hchildren : work'.childDeaths = work.childDeaths)
    (hholds : ∀ closed, work'.closedHolds = some closed →
      closed.reference = work.publication.reference)
    (hphase : ∀ phase, work'.phase = some phase → work'.InPhase phase) : work'.Sound := by
  refine ⟨?_, ?_, ?_, hphase⟩
  · rw [hreleases, hpublication]
    exact h.releases
  · rw [hchildren, hpublication]
    exact h.children
  · rw [hpublication]
    exact hholds

theorem Sound.rests (h : work.Sound) : Moves work { work with phase := none } where
  publication := rfl
  death := rfl
  finished := rfl
  sound := h.moved rfl rfl rfl h.holds fun _ hphase => by cases hphase
  closed hpast _ hclosed := ⟨hpast, hclosed⟩

theorem Sound.enters (h : work.Sound) (phase : DrivePhase) (hphase : work.InPhase phase) :
    Moves work { work with phase := some phase } where
  publication := rfl
  death := rfl
  finished := rfl
  sound := h.moved rfl rfl rfl h.holds fun entered hentered => by
    cases hentered
    cases phase <;> exact hphase
  closed hpast _ hclosed := ⟨hpast, hclosed⟩

theorem inPhase_reopens (work : DeathCleanup) (hpast : work.PastNode) :
    work.InPhase work.reopens := by
  unfold reopens
  cases hclosed : work.closedHolds with
  | none => exact ⟨hpast, hclosed⟩
  | some holds => exact ⟨hpast, by simp [hclosed]⟩

theorem inPhase_firstPhase (work : DeathCleanup) : work.InPhase work.firstPhase := by
  unfold firstPhase
  split
  · rename_i hnode
    intro hpast
    simp [hpast hnode.1] at hnode
  · rename_i hnode
    refine inPhase_reopens work fun htask => ?_
    by_contra hopen
    exact hnode ⟨htask, Bool.eq_false_iff.mpr hopen⟩

theorem mem_releases (h : work.Sound) {request : ReleaseContainedReference}
    (hresolved : (work.releases.get? request).isSome = true) :
    (request.objectId, request.ownerWorkerId, request.hold) ∈
      work.releases.values.map fun r => (r.objectId, r.ownerWorkerId, r.hold) := by
  obtain ⟨reply, hreply⟩ := Option.isSome_iff_exists.mp hresolved
  obtain ⟨_, hrequest, _⟩ := h.releases request reply hreply
  refine List.mem_map.mpr ⟨reply, Dict.mem_values_iff.mpr ⟨request, hreply⟩, ?_⟩
  rw [← hrequest]
  rfl

theorem Sound.nodup_releases (h : work.Sound) :
    (work.releases.values.map fun r => (r.objectId, r.ownerWorkerId, r.hold)).Nodup := by
  have hkeys : work.releases.values.map ReleaseContainedReferenceReply.request =
      work.releases.keys := by
    rw [Dict.values, Dict.keys, List.map_map]
    refine List.map_congr_left fun item hitem => ?_
    exact (h.releases item.1 item.2 (Dict.get?_eq_some_iff.mpr hitem)).2.1
  have hnodup : (work.releases.values.map ReleaseContainedReferenceReply.request).Nodup := by
    rw [hkeys]
    exact work.releases.nodup
  refine List.Nodup.of_map (fun k => (⟨k.1, k.2.1, k.2.2⟩ : ReleaseContainedReference)) ?_
  rw [List.map_map]
  exact hnodup

theorem Sound.nodup_children (h : work.Sound) :
    (work.childDeaths.values.map WorkerDeathRecord.workerId).Nodup := by
  have hkeys : work.childDeaths.values.map WorkerDeathRecord.workerId = work.childDeaths.keys := by
    rw [Dict.values, Dict.keys, List.map_map]
    refine List.map_congr_left fun item hitem => ?_
    exact (h.children item.1 item.2 (Dict.get?_eq_some_iff.mpr hitem)).1
  rw [hkeys]
  exact work.childDeaths.nodup

/-- The holds that the driver closes itself: exactly the settled ones, under no rollback. -/
structure Closes (work : DeathCleanup) (closed : ClosedContainedHolds) : Prop where
  reference : closed.reference = work.publication.reference
  releases : closed.releases = work.releases.values
  children : closed.childDeaths = work.childDeaths.values
  scope : closed.rollbackScope = none

theorem Sound.assembles (h : work.Sound) : ∃ closed, ClosedContainedHolds.assemble
    work.publication.reference work.releases.values work.childDeaths.values = .ok closed ∧
      work.Closes closed := by
  have haccepted : ∀ r ∈ work.releases.values, r.accepted = true ∧ r.error = none := by
    intro r hr
    obtain ⟨request, hget⟩ := Dict.mem_values_iff.mp hr
    have hok := (h.releases request r hget).1
    exact ⟨hok, r.accepted_error hok⟩
  have hconfirmed : ∀ d ∈ work.childDeaths.values, d.OwnerDeath ∧ d.ConfirmedExit := by
    intro d hd
    obtain ⟨owner, hget⟩ := Dict.mem_values_iff.mp hd
    obtain ⟨_, hbounded, hexit, _⟩ := h.children owner d hget
    exact ⟨hbounded, hexit⟩
  refine ⟨⟨_, _, _, none, haccepted, h.nodup_releases, hconfirmed, h.nodup_children, by simp⟩,
    ?_, rfl, rfl, rfl, rfl⟩
  simp only [ClosedContainedHolds.assemble, certify_ok haccepted, certify_ok h.nodup_releases,
    certify_ok hconfirmed, certify_ok h.nodup_children, bind, Except.bind, pure, Except.pure]
  rfl

theorem Sound.validateClosed (h : work.Sound) {closed : ClosedContainedHolds}
    (hclosed : work.Closes closed)
    (hall : ∀ request ∈ work.publication.releaseRequests, work.resolves request = true)
    {s : PublicationSnapshot} (hs : s.publication = work.publication) :
    s.validateClosed closed = .ok () := by
  have hsettled : ∀ t ∈ work.publication.transfers, ∀ hold,
      (hold = t.finalHold ∨ hold = t.provisionalHold) →
      (t.containedObjectId, t.containedOwnerWorkerId, hold) ∈
          closed.releases.map (fun r => (r.objectId, r.ownerWorkerId, r.hold)) ∨
        t.containedOwnerWorkerId ∈ closed.childDeaths.map WorkerDeathRecord.workerId := by
    intro t ht hold hhold
    have hmem : (⟨t.containedObjectId, t.containedOwnerWorkerId, hold⟩ :
        ReleaseContainedReference) ∈ work.publication.releaseRequests :=
      Publication.mem_releaseRequests.mpr ⟨t, ht, rfl, rfl, hhold⟩
    have hresolved := hall _ hmem
    rw [resolves, Bool.or_eq_true] at hresolved
    rcases hresolved with hreleased | hdead
    · rw [hclosed.releases]
      exact .inl (mem_releases h hreleased)
    · obtain ⟨death, hdeath⟩ := Option.isSome_iff_exists.mp hdead
      rw [hclosed.children]
      exact .inr (List.mem_map.mpr ⟨death, Dict.mem_values_iff.mpr ⟨_, hdeath⟩,
        (h.children _ death hdeath).1⟩)
  simp only [PublicationSnapshot.validateClosed, bind_eq_ok, raiseIf_eq_ok, checkSome_eq_ok,
    exists_const, checkSettlement]
  refine ⟨?_, ?_, ?_, ?_, ?_⟩
  · rw [PublicationSnapshot.reference, hs, hclosed.reference]
    exact not_not.mpr rfl
  · intro scope hscope
    rw [hclosed.scope] at hscope
    cases hscope
  · refine not_not.mpr fun hold hmem => ?_
    rw [hclosed.releases] at hmem
    obtain ⟨reply, hreply, rfl⟩ := List.mem_map.mp hmem
    obtain ⟨request, hget⟩ := Dict.mem_values_iff.mp hreply
    obtain ⟨_, hrequest, hin⟩ := h.releases request reply hget
    obtain ⟨t, ht, hobject, howner, hhold⟩ := Publication.mem_releaseRequests.mp hin
    rw [← hrequest] at hobject howner hhold
    change reply.objectId = _ at hobject
    change reply.ownerWorkerId = _ at howner
    rw [hs]
    refine List.mem_flatMap.mpr ⟨t, ht, ?_⟩
    rcases hhold with hhold | hhold
    · change reply.hold = _ at hhold
      simp [finalKey, hobject, howner, hhold]
    · change reply.hold = _ at hhold
      simp [provisionalKey, hobject, howner, hhold]
  · refine not_not.mpr fun worker hmem => ?_
    rw [hclosed.children] at hmem
    obtain ⟨death, hdeath, rfl⟩ := List.mem_map.mp hmem
    obtain ⟨owner, hget⟩ := Dict.mem_values_iff.mp hdeath
    obtain ⟨hworker, _, _, request, hin, howner⟩ := h.children owner death hget
    obtain ⟨t, ht, _, hcontained, _⟩ := Publication.mem_releaseRequests.mp hin
    rw [hs, hworker, ← howner, hcontained]
    exact List.mem_map_of_mem ht
  · intro hunsettled
    obtain ⟨hold, hrequired, hnot, hlive⟩ := hunsettled
    obtain ⟨index, t, hget, hcase⟩ := mem_requiredHolds hrequired
    rw [hs] at hget
    have ht := List.mem_of_getElem? hget
    rcases hcase with ⟨_, rfl⟩ | ⟨_, rfl⟩
    · rcases hsettled t ht _ (.inr rfl) with hmem | hmem
      · exact hnot hmem
      · exact hlive hmem
    · rcases hsettled t ht _ (.inl rfl) with hmem | hmem
      · exact hnot hmem
      · exact hlive hmem

end DeathCleanup

namespace EnhancedPublicationControl

open DeathCleanup

variable {work : DeathCleanup} {workers : WorkerTable}

/-! ## Locked sections -/

theorem inspect_moves (h : work.Sound) (nodes : NodeRegistry)
    (hphase : work.phase = some .inspecting) : Moves work (inspect nodes work) := by
  have hpast : ¬ work.PastNode := h.phased _ hphase
  unfold inspect
  split
  · rename_i put hpublication
    exact absurd (fun htask => by simp [hpublication, Publication.isTask] at htask) hpast
  · rename_i task hpublication
    split
    · exact h.rests
    · refine ⟨rfl, rfl, rfl, h.moved rfl rfl rfl h.holds fun phase hentered => ?_,
        fun hnode => absurd hnode hpast⟩
      cases hentered
      exact inPhase_reopens { work with nodeFinalized := true, phase := _ } fun _ => rfl
    · refine h.enters _ ?_
      split <;> exact hpast

theorem choose_moves (h : work.Sound) (hkeyed : ∀ item ∈ workers.items,
    item.2.incarnation.workerId = item.1) (hphase : work.phase = some .choosing) :
    Moves work (choose workers work) := by
  obtain ⟨hpast, hopen⟩ : work.PastNode ∧ work.closedHolds = none := h.phased _ hphase
  unfold choose
  split
  · exact h.enters .assembling ⟨hpast, hopen⟩
  · rename_i request hfind
    have hmem := List.mem_of_find?_eq_some hfind
    split
    · exact h.rests
    · rename_i death hdeath
      obtain ⟨hcertified, hknown⟩ := certified_of_ownerDeath hdeath
      obtain ⟨worker, hworker, hrecord⟩ := Option.bind_eq_some_iff.mp hknown
      obtain ⟨d, hd, hincarnation⟩ :=
        worker.dead_record (WorkerSnapshot.dead_of_death hrecord)
      obtain rfl : d = death := Option.some.inj (hd.symm.trans hrecord)
      have hid : d.workerId = request.ownerWorkerId := by
        rw [WorkerDeathRecord.workerId, hincarnation]
        exact hkeyed (_, worker) (Dict.get?_eq_some_iff.mp hworker)
      refine ⟨rfl, rfl, rfl, ⟨h.releases, fun owner death hget => ?_, h.holds,
        fun _ hentered => by cases hentered⟩, fun hnode holds hclosed => ⟨hnode, hclosed⟩⟩
      change (work.childDeaths.set _ _).get? owner = some death at hget
      rcases Dict.of_get?_set hget with ⟨howner, rfl⟩ | hget
      · exact ⟨hid.trans howner, hcertified.bounded, hcertified.confirmed, request, hmem, howner⟩
      · exact h.children owner death hget
    · exact h.enters (.releasing request) ⟨hpast, hopen, hmem⟩

theorem assemble_moves (h : work.Sound) (hphase : work.phase = some .assembling) :
    Moves work (assemble work) := by
  obtain ⟨hpast, hopen⟩ : work.PastNode ∧ work.closedHolds = none := h.phased _ hphase
  unfold assemble
  split
  · exact h.rests
  · obtain ⟨closed, hassembled, hcloses⟩ := h.assembles
    rw [hassembled]
    refine ⟨rfl, rfl, rfl, h.moved rfl rfl rfl (fun _ hheld => ?_) fun phase hentered => ?_,
      fun _ holds hclosed => ?_⟩
    · cases hheld
      exact hcloses.reference
    · cases hentered
      exact ⟨hpast, by simp⟩
    · rw [hopen] at hclosed
      cases hclosed

theorem assemble_closes (h : work.Sound)
    (hall : ∀ request ∈ work.publication.releaseRequests, work.resolves request = true) :
    ∃ closed, (assemble work).closedHolds = some closed ∧ work.Closes closed := by
  have hnone : (work.publication.releaseRequests.any fun request =>
      !work.resolves request) = false := by
    rw [List.any_eq_false]
    intro request hmem
    simp [hall request hmem]
  obtain ⟨closed, hassembled, hcloses⟩ := h.assembles
  exact ⟨closed, by simp [assemble, hnone, hassembled], hcloses⟩

/-! ## Answers -/

theorem closedBy_reference {request : FinalizeOutputOwnerDeath}
    {reply : FinalizeOutputOwnerDeathReply} {closed : ClosedContainedHolds}
    (h : closedBy workers work request reply = some closed) :
    closed.reference = work.publication.reference := by
  unfold closedBy at h
  split at h
  · cases h
  · split at h
    · cases h
    · rename_i hexact
      push Not at hexact
      split at h
      · cases h
      · cases h
        exact hexact.2.2

theorem receive_moves (h : work.Sound) (reply : DriveReply) :
    Moves work (receive workers work reply) := by
  have hsame : Moves work work := ⟨rfl, rfl, rfl, h, fun hpast _ hclosed => ⟨hpast, hclosed⟩⟩
  cases reply with
  | fence outcome =>
    simp only [receive]
    split
    · exact ⟨rfl, rfl, rfl, h.moved rfl rfl rfl h.holds (fun _ hentered => by cases hentered),
        fun hpast _ hclosed => ⟨hpast, hclosed⟩⟩
    · exact h.rests
    · exact hsame
  | finalize outcome =>
    simp only [receive]
    split
    · rename_i request reply hphase
      have hpast : ¬ work.PastNode := h.phased _ hphase
      split
      · exact h.rests
      · rename_i closed hclosed
        refine ⟨rfl, rfl, rfl, h.moved rfl rfl rfl (fun _ hheld => ?_)
          (fun _ hentered => by cases hentered), fun hnode => absurd hnode hpast⟩
        cases hheld
        exact closedBy_reference hclosed
    · exact h.rests
    · exact hsame
  | release outcome =>
    simp only [receive]
    split
    · exact h.rests
    · rename_i request hphase
      obtain ⟨hpast, hopen, _⟩ : work.PastNode ∧ work.closedHolds = none ∧
        request ∈ work.publication.releaseRequests := h.phased _ hphase
      exact h.enters .assembling ⟨hpast, hopen⟩
    · rename_i request reply hphase
      obtain ⟨hpast, hopen, hmem⟩ : work.PastNode ∧ work.closedHolds = none ∧
        request ∈ work.publication.releaseRequests := h.phased _ hphase
      split
      · exact h.enters .assembling ⟨hpast, hopen⟩
      · rename_i hexact
        push Not at hexact
        obtain ⟨haccepted, hfields⟩ := hexact
        refine ⟨rfl, rfl, rfl, ⟨fun key r hget => ?_, h.children, h.holds,
          fun _ hentered => by cases hentered⟩, fun hnode _ hclosed => ⟨hnode, hclosed⟩⟩
        change (work.releases.set _ _).get? key = some r at hget
        rcases Dict.of_get?_set hget with ⟨rfl, rfl⟩ | hget
        · refine ⟨by simpa using haccepted, ?_, hmem⟩
          simp only [Prod.mk.injEq] at hfields
          obtain ⟨hobject, howner, hhold⟩ := hfields
          rw [ReleaseContainedReferenceReply.request, hobject, howner, hhold]
        · exact h.releases key r hget
    · exact hsame

end EnhancedPublicationControl

end MiniRay
