import MiniRay.Core.ReplicaCleanup

/-! One flag stands for the one event or timer that will come back. The invariant ties it to the
mailbox, the claims to the drives and every proof to what it proves. -/

namespace MiniRay

namespace LateCleanup

variable {q q' : ReplicaCleanupQueue} {s : CoreState}

/-! ## The queue -/

def Pending (q : ReplicaCleanupQueue) (request : DropObjectReplica) : Prop :=
  ∃ current, q.get? request = some current ∧ current.proof = none

/-- Unproven, or proven while its RPC is still out. -/
def Unfinished (q : ReplicaCleanupQueue) (request : DropObjectReplica) : Prop :=
  ∃ current, q.get? request = some current ∧ (current.proof = none ∨ current.inFlight = true)

variable {request : DropObjectReplica}

theorem Pending.unfinished (h : Pending q request) : Unfinished q request := by
  obtain ⟨current, hcurrent, hproof⟩ := h
  exact ⟨current, hcurrent, .inl hproof⟩

theorem mem_pending : request ∈ q.pending ↔ Pending q request := by
  simp only [ReplicaCleanupQueue.pending, List.mem_map, List.mem_filter, decide_eq_true_eq]
  constructor
  · rintro ⟨⟨r, current⟩, ⟨hitem, hproof⟩, rfl⟩
    exact ⟨current, Dict.get?_eq_some_iff.mpr hitem, hproof⟩
  · rintro ⟨current, hcurrent, hproof⟩
    exact ⟨(request, current), ⟨Dict.get?_eq_some_iff.mp hcurrent, hproof⟩, rfl⟩

theorem hasPending_none : q.hasPending none = true ↔ ∃ request, Unfinished q request := by
  simp only [ReplicaCleanupQueue.hasPending, List.any_eq_true, Bool.and_eq_true, Bool.or_eq_true,
    decide_eq_true_eq, true_or, and_true]
  constructor
  · rintro ⟨⟨r, current⟩, hitem, hopen⟩
    exact ⟨r, current, Dict.get?_eq_some_iff.mpr hitem, hopen⟩
  · rintro ⟨r, current, hcurrent, hopen⟩
    exact ⟨(r, current), Dict.get?_eq_some_iff.mp hcurrent, hopen⟩

variable {objectId : ObjectID}

theorem hasPending_some : q.hasPending (some objectId) = true ↔
    ∃ request, Unfinished q request ∧ request.objectId = objectId := by
  simp only [ReplicaCleanupQueue.hasPending, List.any_eq_true, Bool.and_eq_true, Bool.or_eq_true,
    decide_eq_true_eq, reduceCtorEq, false_or, Option.some.injEq]
  constructor
  · rintro ⟨⟨r, current⟩, hitem, hopen, hobject⟩
    exact ⟨r, ⟨current, Dict.get?_eq_some_iff.mpr hitem, hopen⟩, hobject.symm⟩
  · rintro ⟨r, ⟨current, hcurrent, hopen⟩, hobject⟩
    exact ⟨(r, current), Dict.get?_eq_some_iff.mp hcurrent, hopen, hobject.symm⟩

/-- Records stay, and so does the first proof of each. -/
structure Evolves (q q' : ReplicaCleanupQueue) : Prop where
  kept : ∀ request current, q.get? request = some current → ∃ next,
    q'.get? request = some next ∧ ∀ proof, current.proof = some proof → next.proof = some proof

theorem Evolves.refl (q : ReplicaCleanupQueue) : Evolves q q :=
  ⟨fun _ current h => ⟨current, h, fun _ hproof => hproof⟩⟩

variable {current : CleanupRecord}

variable {next : CleanupRecord}

theorem Evolves.set (hcurrent : q.get? request = some current)
    (hproof : ∀ proof, current.proof = some proof → next.proof = some proof) :
    Evolves q (q.set request next) := by
  constructor
  intro other old hold
  by_cases hsame : request = other
  · subst hsame
    rw [hcurrent] at hold
    cases hold
    exact ⟨next, Dict.get?_set_self .., hproof⟩
  · exact ⟨old, by rw [Dict.get?_set_of_ne _ _ hsame]; exact hold, fun _ h => h⟩

theorem Evolves.trans {q'' : ReplicaCleanupQueue} (h : Evolves q q') (h' : Evolves q' q'') :
    Evolves q q'' := by
  constructor
  intro request current hcurrent
  obtain ⟨next, hnext, hproof⟩ := h.kept request current hcurrent
  obtain ⟨last, hlast, hmore⟩ := h'.kept request next hnext
  exact ⟨last, hlast, fun proof hp => hmore proof (hproof proof hp)⟩

theorem get?_enqueue {other : DropObjectReplica} :
    (q.enqueue request).get? other =
      if request = other ∧ q.get? request = none then some {} else q.get? other := by
  simp only [ReplicaCleanupQueue.enqueue]
  cases hold : q.get? request with
  | some current => simp
  | none =>
    by_cases hsame : request = other
    · subst hsame
      simp
    · simp [hsame, Dict.get?_set_of_ne _ _ hsame]

theorem enqueue_evolves (request : DropObjectReplica) : Evolves q (q.enqueue request) := by
  constructor
  intro other old hold
  refine ⟨old, ?_, fun _ h => h⟩
  rw [get?_enqueue, if_neg]
  · exact hold
  · rintro ⟨rfl, hnone⟩
    rw [hnone] at hold
    cases hold

variable {death : NodeDeathRecord}

theorem get?_acknowledgeNodeDeath :
    (q.acknowledgeNodeDeath death).2.get? request = (q.get? request).map fun current =>
      if request.nodeId = death.nodeId ∧ current.proof = none then
        { current with proof := some (.death death) }
      else current := by
  simp only [ReplicaCleanupQueue.acknowledgeNodeDeath]
  exact Dict.get?_mapValues ..

theorem mem_acknowledgeNodeDeath :
    objectId ∈ (q.acknowledgeNodeDeath death).1 ↔ ∃ request, Pending q request ∧
      request.nodeId = death.nodeId ∧ request.objectId = objectId := by
  simp only [ReplicaCleanupQueue.acknowledgeNodeDeath, List.mem_eraseDups, List.mem_map,
    List.mem_filter, decide_eq_true_eq]
  constructor
  · rintro ⟨⟨r, current⟩, ⟨hitem, hnode, hproof⟩, rfl⟩
    exact ⟨r, ⟨current, Dict.get?_eq_some_iff.mpr hitem, hproof⟩, hnode, rfl⟩
  · rintro ⟨r, ⟨current, hcurrent, hproof⟩, hnode, rfl⟩
    exact ⟨(r, current), ⟨Dict.get?_eq_some_iff.mp hcurrent, hnode, hproof⟩, rfl⟩

theorem acknowledgeNodeDeath_evolves (death : NodeDeathRecord) :
    Evolves q (q.acknowledgeNodeDeath death).2 := by
  constructor
  intro request current hcurrent
  rw [get?_acknowledgeNodeDeath, hcurrent]
  refine ⟨_, rfl, ?_⟩
  intro proof hproof
  simp [hproof]

theorem pending_acknowledgeNodeDeath :
    Pending (q.acknowledgeNodeDeath death).2 request ↔
      Pending q request ∧ request.nodeId ≠ death.nodeId := by
  simp only [Pending, get?_acknowledgeNodeDeath]
  cases q.get? request with
  | none => simp
  | some current =>
    by_cases hnode : request.nodeId = death.nodeId
    · cases hproof : current.proof with
      | none => simp [hnode, hproof]
      | some proof => simp [hnode, hproof]
    · simp [hnode]

theorem claim_true (h : q.claim request = (true, q')) :
    ∃ current, q.get? request = some current ∧ current.proof = none ∧ current.inFlight = false ∧
      q' = q.set request { current with inFlight := true } := by
  simp only [ReplicaCleanupQueue.claim] at h
  cases hcurrent : q.get? request with
  | none =>
    rw [hcurrent] at h
    cases h
  | some current =>
    simp only [hcurrent] at h
    by_cases htaken : current.proof ≠ none ∨ current.inFlight = true
    · rw [if_pos htaken] at h
      cases h
    · rw [if_neg htaken] at h
      cases h
      rw [not_or, not_not, Bool.not_eq_true] at htaken
      exact ⟨current, rfl, htaken.1, htaken.2, rfl⟩

variable {reply : DropObjectReplicaReply}

theorem acknowledge_true (h : q.acknowledge request reply = (true, q')) :
    reply.identity = request ∧ (reply.status = .dropped ∨ reply.status = .alreadyDropped) ∧
      ∃ current, q.get? request = some current ∧ current.proof = none ∧
        q' = q.set request { current with proof := some (.reply reply) } := by
  simp only [ReplicaCleanupQueue.acknowledge] at h
  by_cases hexact : reply.identity = request ∧
      (reply.status = .dropped ∨ reply.status = .alreadyDropped)
  · rw [if_pos hexact] at h
    refine ⟨hexact.1, hexact.2, ?_⟩
    cases hcurrent : q.get? request with
    | none =>
      rw [hcurrent] at h
      cases h
    | some current =>
      simp only [hcurrent] at h
      by_cases hproven : current.proof ≠ none
      · rw [if_pos hproven] at h
        cases h
      · rw [if_neg hproven] at h
        cases h
        exact ⟨current, rfl, not_not.mp hproven, rfl⟩
  · rw [if_neg hexact] at h
    cases h

theorem unclaim_spec (q : ReplicaCleanupQueue) (request : DropObjectReplica) :
    (q.get? request = none ∧ q.unclaim request = q) ∨ ∃ current, q.get? request = some current ∧
      q.unclaim request = q.set request { current with inFlight := false } := by
  simp only [ReplicaCleanupQueue.unclaim]
  cases hcurrent : q.get? request with
  | none => exact .inl ⟨rfl, rfl⟩
  | some current => exact .inr ⟨current, rfl, rfl⟩

/-! ## Proofs -/

/-- An exact reply that deleted the replica, or the committed process death of its Node. -/
def Settles (deadNodes : Dict NodeID NodeDeathRecord) (request : DropObjectReplica) :
    CleanupProof → Prop
  | .reply reply => reply.identity = request ∧
      (reply.status = .dropped ∨ reply.status = .alreadyDropped)
  | .death death => deadNodes.get? request.nodeId = some death ∧ death.reason = .processExit

/-- Every proof settles its drop, and no drop of a dead Node's process is left. -/
structure QueueInv (deadNodes : Dict NodeID NodeDeathRecord) (q : ReplicaCleanupQueue) : Prop where
  proofs : ∀ request current proof, q.get? request = some current →
    current.proof = some proof → Settles deadNodes request proof
  buried : ∀ request death, Pending q request → deadNodes.get? request.nodeId = some death →
    death.reason ≠ .processExit

variable {deadNodes : Dict NodeID NodeDeathRecord}

section

variable (h : QueueInv deadNodes q)
include h

theorem QueueInv.set (hproof : ∀ proof, next.proof = some proof → Settles deadNodes request proof)
    (hburied : next.proof = none → ∀ death, deadNodes.get? request.nodeId = some death →
      death.reason ≠ .processExit) :
    QueueInv deadNodes (q.set request next) := by
  refine ⟨?_, ?_⟩
  · intro other current proof hcurrent
    rcases Dict.of_get?_set hcurrent with ⟨rfl, rfl⟩ | hcurrent
    · exact hproof proof
    · exact h.proofs other current proof hcurrent
  · rintro other death ⟨current, hcurrent, hnone⟩
    rcases Dict.of_get?_set hcurrent with ⟨rfl, rfl⟩ | hcurrent
    · exact hburied hnone death
    · exact h.buried other death ⟨current, hcurrent, hnone⟩

theorem QueueInv.setFlight (hcurrent : q.get? request = some current)
    (inFlight : Bool) :
    QueueInv deadNodes (q.set request { current with inFlight := inFlight }) := by
  apply h.set
  · exact fun proof hproof => h.proofs request current proof hcurrent hproof
  · exact fun hnone death => h.buried request death ⟨current, hcurrent, hnone⟩

theorem QueueInv.prove (hidentity : reply.identity = request)
    (hstatus : reply.status = .dropped ∨ reply.status = .alreadyDropped) :
    QueueInv deadNodes (q.set request { current with proof := some (.reply reply) }) := by
  apply h.set
  · intro proof hproof
    cases hproof
    exact ⟨hidentity, hstatus⟩
  · exact fun hnone => nomatch hnone

theorem QueueInv.bury (hdead : deadNodes.get? death.nodeId = some death)
    (hreason : death.reason = .processExit) :
    QueueInv deadNodes (q.acknowledgeNodeDeath death).2 := by
  refine ⟨?_, ?_⟩
  · intro request current proof hcurrent hproof
    rw [get?_acknowledgeNodeDeath] at hcurrent
    cases hold : q.get? request with
    | none =>
      rw [hold] at hcurrent
      cases hcurrent
    | some old =>
      rw [hold, Option.map_some, Option.some.injEq] at hcurrent
      by_cases hbury : request.nodeId = death.nodeId ∧ old.proof = none
      · rw [if_pos hbury] at hcurrent
        rw [← hcurrent] at hproof
        cases hproof
        exact ⟨by rw [hbury.1]; exact hdead, hreason⟩
      · rw [if_neg hbury] at hcurrent
        rw [← hcurrent] at hproof
        exact h.proofs request old proof hold hproof
  · intro request other hpending
    exact h.buried request other (pending_acknowledgeNodeDeath.mp hpending).1

theorem QueueInv.enqueue (halive : ∀ death, deadNodes.get? request.nodeId = some death →
    death.reason ≠ .processExit) :
    QueueInv deadNodes (q.enqueue request) := by
  simp only [ReplicaCleanupQueue.enqueue]
  cases hold : q.get? request with
  | some current => exact h
  | none =>
    apply h.set
    · exact fun proof hproof => nomatch hproof
    · exact fun _ => halive

theorem QueueInv.enqueueBuried (hnode : deadNodes.get? request.nodeId = some death)
    (hdead : deadNodes.get? death.nodeId = some death) (hreason : death.reason = .processExit)
    (hsame : request.nodeId = death.nodeId) :
    QueueInv deadNodes ((q.enqueue request).acknowledgeNodeDeath death).2 := by
  refine ⟨?_, ?_⟩
  · intro other current proof hcurrent hproof
    rw [get?_acknowledgeNodeDeath, get?_enqueue] at hcurrent
    by_cases hnew : request = other ∧ q.get? request = none
    · rw [if_pos hnew, Option.map_some, Option.some.injEq] at hcurrent
      rw [if_pos ⟨by rw [← hnew.1]; exact hsame, rfl⟩] at hcurrent
      rw [← hcurrent] at hproof
      cases hproof
      exact ⟨by rw [← hnew.1]; exact hnode, hreason⟩
    · rw [if_neg hnew, ← get?_acknowledgeNodeDeath] at hcurrent
      exact (h.bury hdead hreason).proofs other current proof hcurrent hproof
  · intro other found hpending hfound
    obtain ⟨⟨current, hcurrent, hnone⟩, hne⟩ := pending_acknowledgeNodeDeath.mp hpending
    rw [get?_enqueue, if_neg] at hcurrent
    · exact h.buried other found ⟨current, hcurrent, hnone⟩ hfound
    · rintro ⟨rfl, -⟩
      exact hne hsame

theorem QueueInv.proofs_install (hnew : deadNodes.get? death.nodeId = none) :
    ∀ request current proof, q.get? request = some current → current.proof = some proof →
      Settles (deadNodes.set death.nodeId death) request proof := by
  intro request current proof hcurrent hproof
  have hsettles := h.proofs request current proof hcurrent hproof
  cases proof with
  | reply reply => exact hsettles
  | death old =>
    obtain ⟨hold, hreason⟩ := hsettles
    refine ⟨?_, hreason⟩
    rw [Dict.get?_set_of_ne]
    · exact hold
    · intro hsame
      rw [← hsame, hnew] at hold
      cases hold

theorem QueueInv.expect (hnew : deadNodes.get? death.nodeId = none)
    (hreason : death.reason ≠ .processExit) : QueueInv (deadNodes.set death.nodeId death) q := by
  refine ⟨h.proofs_install hnew, ?_⟩
  intro request other hpending hother
  rcases Dict.of_get?_set hother with ⟨_, rfl⟩ | hother
  · exact hreason
  · exact h.buried request other hpending hother

theorem QueueInv.exit (hnew : deadNodes.get? death.nodeId = none)
    (hreason : death.reason = .processExit) :
    QueueInv (deadNodes.set death.nodeId death) (q.acknowledgeNodeDeath death).2 := by
  refine ⟨?_, ?_⟩
  · intro request current proof hcurrent hproof
    rw [get?_acknowledgeNodeDeath] at hcurrent
    cases hold : q.get? request with
    | none =>
      rw [hold] at hcurrent
      cases hcurrent
    | some old =>
      rw [hold, Option.map_some, Option.some.injEq] at hcurrent
      by_cases hbury : request.nodeId = death.nodeId ∧ old.proof = none
      · rw [if_pos hbury] at hcurrent
        rw [← hcurrent] at hproof
        cases hproof
        exact ⟨by rw [hbury.1]; exact Dict.get?_set_self .., hreason⟩
      · rw [if_neg hbury] at hcurrent
        rw [← hcurrent] at hproof
        exact h.proofs_install hnew request old proof hold hproof
  · intro request other hpending hother
    obtain ⟨hpending, hne⟩ := pending_acknowledgeNodeDeath.mp hpending
    rw [Dict.get?_set_of_ne _ _ (Ne.symm hne)] at hother
    exact h.buried request other hpending hother

end

end LateCleanup

end MiniRay
