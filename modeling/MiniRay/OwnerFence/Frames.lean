import MiniRay.OwnerFence.Fanout

/-! What a call writes beside the outbox, when its caller keeps identities apart. -/

namespace MiniRay

open Checked

namespace OwnerDeathFenceRegistry

variable {h : List Op} {s : OwnerDeathFenceRegistry}

variable {target : OwnerFenceNodeIncarnation}

theorem Fanned.registers (hs : Fanned h s)
    (hbound : ∀ t, s.liveNodes.get? target.nodeId = some t → t = target)
    (halive : s.nodeDeaths.get? target.nodeId = none) :
    ∃ pending effects,
      s.registerNode target = (.ok pending, { s.addNode target with effects := effects }) := by
  have hfree : (s.liveNodes.get? target.nodeId).any (· ≠ target) = false := by
    cases hlive : s.liveNodes.get? target.nodeId with
    | none => rfl
    | some t => simp [hbound t hlive]
  have hpairs : (s.addNode target).Committed
      ((s.addNode target).orderedOwnerDeaths.map (·, target)) := by
    intro pair hpair
    obtain ⟨d, hd, rfl⟩ := List.mem_map.mp hpair
    rw [orderedOwnerDeaths, List.mem_insertionSort] at hd
    obtain ⟨w, hw⟩ := Dict.mem_values_iff.mp hd
    obtain ⟨hw', hconfirmed⟩ := hs.owners w d hw
    exact ⟨hw' ▸ hw, hconfirmed⟩
  have hkeyed : (s.addNode target).Keyed := hs.keyed
  obtain ⟨s', hinstalls, hs'⟩ := installEffects_spec hkeyed hpairs
  refine ⟨s'.pendingForNode target, s'.effects, ?_⟩
  rw [← hs'.frame]
  simp only [OwnerDeathFenceRegistry.registerNode, hfree, halive, hinstalls]
  rfl

variable {death : WorkerDeathRecord}

theorem Fanned.commits (hs : Fanned h s) (hconfirmed : death.ConfirmedExit)
    (hnew : s.ownerDeaths.get? death.workerId = none)
    (hdetection : s.detectionIds.get? death.detectionId = none)
    (hepoch : s.deathEpochs.get? death.deathEpoch = none) :
    ∃ pending effects,
      s.commitOwnerDeath death = (.ok pending, { s.addOwnerDeath death with effects := effects })
    := by
  have hkeyed : (s.addOwnerDeath death).Keyed := by
    intro k e he
    obtain ⟨hkey, hdeath⟩ := hs.keyed k e he
    exact ⟨hkey, Dict.get?_set_kept hnew hdeath⟩
  have hpairs : (s.addOwnerDeath death).Committed
      ((s.addOwnerDeath death).orderedLiveNodes.map (death, ·)) := by
    intro pair hpair
    obtain ⟨t, _, rfl⟩ := List.mem_map.mp hpair
    exact ⟨Dict.get?_set_self _ _ _, hconfirmed⟩
  obtain ⟨s', hinstalls, hs'⟩ := installEffects_spec hkeyed hpairs
  refine ⟨s'.pendingForOwner death.workerId, s'.effects, ?_⟩
  rw [← hs'.frame]
  simp [OwnerDeathFenceRegistry.commitOwnerDeath, checkOwnerDeath, certify, hconfirmed, hnew,
    hdetection, hepoch, hinstalls]

theorem commitOwnerDeath_replay (hconfirmed : death.ConfirmedExit)
    (hknown : s.ownerDeaths.get? death.workerId = some death) :
    s.commitOwnerDeath death = (.ok (s.pendingForOwner death.workerId), s) := by
  simp [commitOwnerDeath, checkOwnerDeath, certify, hconfirmed, hknown]

theorem markNodeDead_eq {death : NodeDeathRecord} (hexit : death.reason = .processExit)
    (hlive : s.liveNodes.get? death.nodeId = some target)
    (halive : s.nodeDeaths.get? death.nodeId = none) (hdied : target.DiedBy death) :
    ∃ completed completions, s.markNodeDead death =
      (.ok completed, { s.dropNode death with completions := completions }) := by
  obtain ⟨completed, s', hcompletes, hs'⟩ :=
    completeEffects_spec (s := s.dropNode death) hexit hdied (s.dropNode death).orderedEffects
  refine ⟨completed, s'.completions, ?_⟩
  rw [← hs'.frame]
  simp [markNodeDead, OwnerDeathFenceCompletion.checkNodeDeath, certify, hexit, halive, hlive,
    hdied.2.1, hdied.2.2, hcompletes]

theorem acknowledge_frame (s : OwnerDeathFenceRegistry) (effect : OwnerDeathFenceEffect)
    (reply : InstallOwnerDeathFenceReply) : ∃ completions,
      (s.acknowledge effect reply).2 = { s with completions := completions } := by
  unfold acknowledge
  split
  · exact ⟨_, rfl⟩
  · split
    · exact ⟨_, rfl⟩
    · split
      · exact ⟨_, rfl⟩
      · split
        · split
          · exact ⟨_, rfl⟩
          · split
            · exact ⟨_, rfl⟩
            · exact ⟨_, rfl⟩
        · exact ⟨_, rfl⟩

theorem Fanned.pending_live (hs : Fanned h s) {effect : OwnerDeathFenceEffect}
    (hpending : effect ∈ s.pending) :
    s.liveNodes.get? effect.key.target.nodeId = some effect.key.target := by
  obtain ⟨_, target, _, hlive, hcreate, _⟩ := hs.mem_pending.mp hpending
  obtain ⟨_, hkey⟩ := OwnerDeathFenceEffect.create_eq_ok.mp hcreate
  rw [hkey]
  exact hs.live_iff.mpr hlive

theorem Fanned.of_step (hs : Fanned h s) (op : Op) : ∃ h', Fanned h' (s.step op) :=
  ⟨_, hs.step op⟩

end OwnerDeathFenceRegistry

end MiniRay
