import MiniRay.Actor.Calls

/-! Routes move forward, and a result is published on the route its call was given. -/

namespace MiniRay

open Run

/-- How a step changes the table of routes. -/
inductive ActorClientTable.Moved (t : ActorClientTable) : ActorClientTable → Prop
  | same : t.Moved t
  | registered {snapshot : ActorSnapshot} {methodNames : List String} (valid : snapshot.Valid)
      (names : "" ∉ methodNames) (fresh : t.entries.get? snapshot.actorId = none) :
      t.Moved ⟨t.entries.set snapshot.actorId { snapshot := snapshot, methodNames := methodNames }⟩
  | removed {a : ActorID} {entry : ActorClientEntry} (known : t.entries.get? a = some entry)
      (creating : entry.snapshot.state = .creating) : t.Moved ⟨t.entries.erase a⟩
  | rerouted {snapshot : ActorSnapshot} {entry : ActorClientEntry} (valid : snapshot.Valid)
      (known : t.entries.get? snapshot.actorId = some entry)
      (newer : entry.snapshot.routeEpoch < snapshot.routeEpoch) :
      t.Moved ⟨t.entries.set snapshot.actorId (entry.reroute snapshot)⟩
  | taken {a : ActorID} {entry : ActorClientEntry} {o : ObjectID} {fence : ActorCallFence}
      (known : t.entries.get? a = some entry) (routes : entry.snapshot.Routes fence) :
      t.Moved ⟨t.entries.set a (entry.take o fence)⟩
  | finished {a : ActorID} {entry : ActorClientEntry} {o : ObjectID}
      (known : t.entries.get? a = some entry) :
      t.Moved ⟨t.entries.set a { entry with inflight := entry.inflight.erase o }⟩

namespace ActorClientTable

variable {t t' : ActorClientTable} {a : ActorID} {entry : ActorClientEntry}

variable {snapshot : ActorSnapshot}

theorem install_moved {changed : Bool} {fenced : List ObjectID}
    (h : t.install snapshot = .ok ((changed, fenced), t')) :
    t' = t ∧ changed = false ∨ ∃ entry, t.entries.get? snapshot.actorId = some entry ∧
      entry.snapshot.routeEpoch < snapshot.routeEpoch ∧ changed = true ∧
      t' = ⟨t.entries.set snapshot.actorId (entry.reroute snapshot)⟩ := by
  unfold install at h
  split at h
  · cases h
  · rename_i entry hentry
    split at h
    · cases h
      exact .inl ⟨rfl, rfl⟩
    · rename_i hold
      split at h
      · split at h
        · cases h
        · cases h
          exact .inl ⟨rfl, rfl⟩
      · rename_i hsame
        cases h
        exact .inr ⟨entry, hentry, by omega, rfl, rfl⟩

variable {fence : ActorCallFence}

theorem beginCall_eq_ok {o : ObjectID} {sequence : Nat}
    (h : t.beginCall a o = .ok ((snapshot, sequence, fence), t')) :
    ∃ entry, t.entries.get? a = some entry ∧ snapshot = entry.snapshot ∧
      sequence = entry.nextSequence ∧ fence.actorId = a ∧ entry.snapshot.Routes fence ∧
      t' = ⟨t.entries.set a (entry.take o fence)⟩ := by
  unfold beginCall at h
  split at h
  · cases h
  · rename_i entry hentry
    split at h
    · cases h
    · rename_i halive
      split at h
      · cases h
      · rename_i endpoint hendpoint
        cases h
        exact ⟨entry, hentry, rfl, rfl, rfl, ⟨not_not.mp halive, rfl, rfl, by simp [hendpoint]⟩,
          rfl⟩

theorem finishCall_moved (t : ActorClientTable) (o : ObjectID) (fence : ActorCallFence) :
    t.Moved (t.finishCall o fence).2 := by
  unfold finishCall
  split
  · exact .same
  · rename_i entry hentry
    split
    · exact .same
    · exact .finished hentry

theorem canPublish_iff {o : ObjectID} :
    t.canPublish o fence = true ↔ ∃ entry, t.entries.get? fence.actorId = some entry ∧
      entry.inflight.get? o = some fence ∧ entry.snapshot.Routes fence := by
  unfold canPublish
  split
  · rename_i hnone
    simp [hnone]
  · rename_i entry hentry
    by_cases hinflight : entry.inflight.get? o = some fence
    · simp [hentry, hinflight]
    · simp [hentry, hinflight]

/-- The table keeps this snapshot of an Actor, or a newer one. -/
def Follows (t : ActorClientTable) (snapshot : ActorSnapshot) : Prop :=
  ∃ entry, t.entries.get? snapshot.actorId = some entry ∧
    (entry.snapshot = snapshot ∨ snapshot.routeEpoch < entry.snapshot.routeEpoch)

theorem Follows.of {entry' : ActorClientEntry} (h : t.Follows snapshot)
    (hentry : t.entries.get? a = some entry) (hsame : entry'.snapshot = entry.snapshot) :
    Follows ⟨t.entries.set a entry'⟩ snapshot := by
  obtain ⟨old, hold, hfollows⟩ := h
  by_cases ha : a = snapshot.actorId
  · subst ha
    obtain rfl := Option.some.inj (hold.symm.trans hentry)
    refine ⟨entry', Dict.get?_set_self _ _ _, ?_⟩
    rw [hsame]
    exact hfollows
  · exact ⟨old, (Dict.get?_set_of_ne _ _ ha).trans hold, hfollows⟩

theorem Moved.follows (h : t.Moved t') (hpublished : 0 < snapshot.routeEpoch)
    (hvalid : ∀ a entry, t.entries.get? a = some entry → entry.snapshot.Valid)
    (hfollows : t.Follows snapshot) : t'.Follows snapshot := by
  cases h with
  | same => exact hfollows
  | @registered new methodNames valid names fresh =>
    obtain ⟨entry, hentry, hnewer⟩ := hfollows
    exact ⟨entry, Dict.get?_set_kept fresh hentry, hnewer⟩
  | @removed b old known creating =>
    obtain ⟨entry, hentry, hnewer⟩ := hfollows
    have hother : b ≠ snapshot.actorId := by
      intro heq
      subst heq
      obtain rfl := Option.some.inj (hentry.symm.trans known)
      have hzero := ((hvalid _ _ hentry).creating creating).2.2.1
      rcases hnewer with rfl | hless
      · omega
      · omega
    exact ⟨entry, (Dict.get?_erase_of_ne _ hother).trans hentry, hnewer⟩
  | @rerouted new old _ known newer =>
    obtain ⟨entry, hentry, hnewer⟩ := hfollows
    by_cases heq : new.actorId = snapshot.actorId
    · rw [heq] at known
      obtain rfl := Option.some.inj (hentry.symm.trans known)
      refine ⟨entry.reroute new, by rw [← heq]; exact Dict.get?_set_self _ _ _, .inr ?_⟩
      have hreroute : (entry.reroute new).snapshot = new := rfl
      rw [hreroute]
      rcases hnewer with rfl | hless
      · exact newer
      · omega
    · exact ⟨entry, (Dict.get?_set_of_ne _ _ heq).trans hentry, hnewer⟩
  | taken known routes => exact hfollows.of known rfl
  | finished known => exact hfollows.of known rfl

end ActorClientTable

end MiniRay
