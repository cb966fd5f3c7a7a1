import MiniRay.Control.MembershipRuns

/-! As long as Nodes only die unexpectedly, the fence outbox follows the membership. -/

namespace MiniRay

open Run OwnerDeathFenceRegistry

namespace GcsMembership

open EnhancedPublicationControl

variable {s s' : GcsMembership} {missing : WorkerDeathRecord → Prop}

/-- Unexpected deaths are committed on both sides, less those that are missing yet. -/
structure Fenced (s : GcsMembership) (missing : WorkerDeathRecord → Prop) : Prop where
  owners : ∀ w d, s.ownerDeathFences.ownerDeaths.get? w = some d ↔
    d.workerId = w ∧ s.workers.Killed d ∧ d.ConfirmedExit ∧ ¬ missing d
  detections : ∀ id d, s.ownerDeathFences.detectionIds.get? id = some d →
    d.detectionId = id ∧ s.workers.Killed d ∧ d.ConfirmedExit ∧ ¬ missing d
  epochs : ∀ n d, s.ownerDeathFences.deathEpochs.get? n = some d →
    d.deathEpoch = n ∧ s.workers.Killed d ∧ d.ConfirmedExit ∧ ¬ missing d
  committed : ∀ d, s.workers.Killed d → d.ConfirmedExit → ¬ missing d →
    d ∈ s.publicationControl.committed
  bounded : ∀ d, s.workers.Killed d → d.ConfirmedExit → d.OwnerDeath

/-- Calls that commit owner deaths leave the membership alone. -/
structure Commits (s s' : GcsMembership) : Prop where
  nodes : s'.nodes = s.nodes
  workers : s'.workers = s.workers
  liveNodes : s'.ownerDeathFences.liveNodes = s.ownerDeathFences.liveNodes
  nodeDeaths : s'.ownerDeathFences.nodeDeaths = s.ownerDeathFences.nodeDeaths

theorem Commits.refl (s : GcsMembership) : s.Commits s := ⟨rfl, rfl, rfl, rfl⟩

theorem Commits.trans {s'' : GcsMembership} (h : s.Commits s') (h' : s'.Commits s'') :
    s.Commits s'' :=
  ⟨h'.nodes.trans h.nodes, h'.workers.trans h.workers, h'.liveNodes.trans h.liveNodes,
    h'.nodeDeaths.trans h.nodeDeaths⟩

theorem Fenced.weaken (hf : s.Fenced missing) {fewer : WorkerDeathRecord → Prop}
    (hsame : ∀ d, d.ConfirmedExit → (fewer d ↔ missing d)) : s.Fenced fewer := by
  refine ⟨fun w d => ?_, fun id d hget => ?_, fun n d hget => ?_, fun d hd hdc hdm => ?_,
    hf.bounded⟩
  · rw [hf.owners]
    constructor
    · intro hd
      exact ⟨hd.1, hd.2.1, hd.2.2.1, fun hm => hd.2.2.2 ((hsame d hd.2.2.1).mp hm)⟩
    · intro hd
      exact ⟨hd.1, hd.2.1, hd.2.2.1, fun hm => hd.2.2.2 ((hsame d hd.2.2.1).mpr hm)⟩
  · obtain ⟨hid, hd, hdc, hdm⟩ := hf.detections id d hget
    exact ⟨hid, hd, hdc, fun hm => hdm ((hsame d hdc).mp hm)⟩
  · obtain ⟨hn, hd, hdc, hdm⟩ := hf.epochs n d hget
    exact ⟨hn, hd, hdc, fun hm => hdm ((hsame d hdc).mp hm)⟩
  · exact hf.committed d hd hdc fun hm => hdm ((hsame d hdc).mpr hm)

variable {death : WorkerDeathRecord}

theorem Fenced.certified (hf : s.Fenced missing) (hkilled : s.workers.Killed death)
    (hconfirmed : death.ConfirmedExit) : Certified s.workers.workers death :=
  ⟨hf.bounded death hkilled hconfirmed, hconfirmed, by rw [hkilled.get?]; rfl⟩

theorem Fenced.fences (h : s.Core) (hf : s.Fenced missing) (hkilled : s.workers.Killed death)
    (hconfirmed : death.ConfirmedExit) :
    ∃ pending fences, s.ownerDeathFences.commitOwnerDeath death = (.ok pending, fences) ∧
      fences.liveNodes = s.ownerDeathFences.liveNodes ∧
      fences.nodeDeaths = s.ownerDeathFences.nodeDeaths ∧
      (∀ w, fences.ownerDeaths.get? w = if death.workerId = w then some death
        else s.ownerDeathFences.ownerDeaths.get? w) ∧
      (∀ id d, fences.detectionIds.get? id = some d →
        (death.detectionId = id ∧ d = death) ∨
          s.ownerDeathFences.detectionIds.get? id = some d) ∧
      ∀ n d, fences.deathEpochs.get? n = some d →
        (death.deathEpoch = n ∧ d = death) ∨ s.ownerDeathFences.deathEpochs.get? n = some d := by
  obtain ⟨calls, hcalls⟩ := h.fences
  cases hknown : s.ownerDeathFences.ownerDeaths.get? death.workerId with
  | some previous =>
    obtain ⟨hid, hprevious, _⟩ := (hf.owners _ _).mp hknown
    obtain rfl : previous = death := hprevious.unique hkilled hid
    refine ⟨_, _, commitOwnerDeath_replay hconfirmed hknown, rfl, rfl, fun w => ?_,
      fun _ _ hd => .inr hd, fun _ _ hd => .inr hd⟩
    split
    · rename_i hw
      rw [← hw]
      exact hknown
    · rfl
  | none =>
    have hopen : ∀ d, s.workers.Killed d → d.ConfirmedExit → ¬ missing d → d ≠ death := by
      intro d hd hdc hdm heq
      have howner := (hf.owners d.workerId d).mpr ⟨rfl, hd, hdc, hdm⟩
      rw [heq, hknown] at howner
      cases howner
    have hdetection : s.ownerDeathFences.detectionIds.get? death.detectionId = none := by
      cases hget : s.ownerDeathFences.detectionIds.get? death.detectionId with
      | none => rfl
      | some d =>
        obtain ⟨hid, hd, hdc, hdm⟩ := hf.detections _ d hget
        exact absurd (h.workers.detection_inj hd hkilled hid) (hopen d hd hdc hdm)
    have hepoch : s.ownerDeathFences.deathEpochs.get? death.deathEpoch = none := by
      cases hget : s.ownerDeathFences.deathEpochs.get? death.deathEpoch with
      | none => rfl
      | some d =>
        obtain ⟨hn, hd, hdc, hdm⟩ := hf.epochs _ d hget
        exact absurd (h.workers.epoch_inj hd hkilled hn) (hopen d hd hdc hdm)
    obtain ⟨pending, effects, hcommit⟩ := hcalls.commits hconfirmed hknown hdetection hepoch
    refine ⟨pending, _, hcommit, rfl, rfl, fun w => Dict.get?_set _ _ _ _, fun id d hd => ?_,
      fun n d hd => ?_⟩
    · change (s.ownerDeathFences.detectionIds.set _ _).get? id = _ at hd
      rcases Dict.of_get?_set hd with ⟨hid, hd⟩ | hd
      · exact .inl ⟨hid, hd.symm⟩
      · exact .inr hd
    · change (s.ownerDeathFences.deathEpochs.set _ _).get? n = _ at hd
      rcases Dict.of_get?_set hd with ⟨hn, hd⟩ | hd
      · exact .inl ⟨hn, hd.symm⟩
      · exact .inr hd

theorem Fenced.commitOwnerDeath (h : s.Core) (hf : s.Fenced missing)
    (hkilled : s.workers.Killed death) (hconfirmed : death.ConfirmedExit) :
    ∃ after, s.commitOwnerDeath death = (.ok (), after) ∧ s.Commits after ∧
      after.Fenced fun d => missing d ∧ d ≠ death := by
  obtain ⟨pending, fences, hfences, hlive, hdead, howners, hdetections, hepochs⟩ :=
    hf.fences h hkilled hconfirmed
  obtain ⟨control, hcontrol, _, _, hcommitted, _⟩ :=
    h.control.toBase.commitOwnerDeath (hf.certified hkilled hconfirmed)
  refine ⟨{ s with ownerDeathFences := fences, publicationControl := control }, ?_,
    ⟨rfl, rfl, hlive, hdead⟩, ?_, ?_, ?_, ?_, hf.bounded⟩
  · simp [GcsMembership.commitOwnerDeath, hfences, hcontrol]
  · intro w d
    change fences.ownerDeaths.get? w = some d ↔ _
    rw [howners]
    by_cases hw : death.workerId = w
    · rw [if_pos hw]
      constructor
      · intro heq
        obtain rfl := Option.some.inj heq
        exact ⟨hw, hkilled, hconfirmed, fun hm => hm.2 rfl⟩
      · intro hd
        obtain ⟨hid, hd, _⟩ := hd
        rw [hkilled.unique hd (hw.trans hid.symm)]
    · rw [if_neg hw, hf.owners]
      constructor
      · intro hd
        exact ⟨hd.1, hd.2.1, hd.2.2.1, fun hm => hd.2.2.2 hm.1⟩
      · intro hd
        obtain ⟨hid, hd, hdc, hdm⟩ := hd
        have hne : d ≠ death := by
          intro heq
          exact hw (heq ▸ hid)
        exact ⟨hid, hd, hdc, fun hm => hdm ⟨hm, hne⟩⟩
  · intro id d hd
    rcases hdetections id d hd with ⟨hid, rfl⟩ | hold
    · exact ⟨hid, hkilled, hconfirmed, fun hm => hm.2 rfl⟩
    · obtain ⟨hid, hd, hdc, hdm⟩ := hf.detections id d hold
      exact ⟨hid, hd, hdc, fun hm => hdm hm.1⟩
  · intro n d hd
    rcases hepochs n d hd with ⟨hn, rfl⟩ | hold
    · exact ⟨hn, hkilled, hconfirmed, fun hm => hm.2 rfl⟩
    · obtain ⟨hn, hd, hdc, hdm⟩ := hf.epochs n d hold
      exact ⟨hn, hd, hdc, fun hm => hdm hm.1⟩
  · intro d hd hdc hdm
    change d ∈ control.committed
    rw [hcommitted, List.mem_append, List.mem_singleton]
    by_cases hsame : d = death
    · exact .inr hsame
    · exact .inl (hf.committed d hd hdc fun hm => hdm ⟨hm, hsame⟩)

variable {deaths : List WorkerDeathRecord}

theorem Fenced.commitOwnerDeaths (h : s.Core) (hf : s.Fenced missing)
    (hdeaths : ∀ death ∈ deaths, s.workers.Killed death ∧ death.ConfirmedExit) :
    ∃ after, s.commitOwnerDeaths deaths = (.ok (), after) ∧ s.Commits after ∧
      after.Fenced fun d => missing d ∧ d ∉ deaths := by
  induction deaths generalizing s missing with
  | nil => exact ⟨s, rfl, .refl s, hf.weaken (by simp)⟩
  | cons death rest ih =>
    obtain ⟨hkilled, hconfirmed⟩ := hdeaths death List.mem_cons_self
    obtain ⟨mid, hcommit, hmid, hfenced⟩ := hf.commitOwnerDeath h hkilled hconfirmed
    have hcore : mid.Core := by
      have hgoes := h.commitOwnerDeath death
      rw [hcommit] at hgoes
      exact hgoes.core
    have hrest : ∀ d ∈ rest, mid.workers.Killed d ∧ d.ConfirmedExit := by
      rw [hmid.workers]
      exact fun d hd => hdeaths d (List.mem_cons_of_mem _ hd)
    obtain ⟨after, hafter, hlater, hfinal⟩ := ih hcore hfenced hrest
    refine ⟨after, ?_, hmid.trans hlater, hfinal.weaken fun d _ => ?_⟩
    · simp only [GcsMembership.commitOwnerDeaths, hcommit, hafter]
    · simp only [List.mem_cons, not_or, and_assoc, ne_eq]

theorem Fenced.withDeaths (hf : s.Fenced fun _ => False) {workers : WorkerRegistry}
    (hkilled : ∀ d, workers.Killed d ↔ s.workers.Killed d ∨ d ∈ deaths)
    (hnew : ∀ d ∈ deaths, ¬ s.workers.Killed d)
    (hbounded : ∀ d ∈ deaths, d.ConfirmedExit → d.OwnerDeath) :
    Fenced { s with workers := workers } (· ∈ deaths) := by
  have hold : ∀ d, s.workers.Killed d → workers.Killed d ∧ d ∉ deaths := by
    intro d hd
    exact ⟨(hkilled d).mpr (.inl hd), fun hmem => hnew d hmem hd⟩
  refine ⟨fun w d => ?_, fun id d hget => ?_, fun n d hget => ?_, fun d hd hdc hdm => ?_,
    fun d hd hdc => ?_⟩
  · change s.ownerDeathFences.ownerDeaths.get? w = _ ↔ _
    rw [hf.owners]
    constructor
    · intro hd
      obtain ⟨hkept, hnot⟩ := hold d hd.2.1
      exact ⟨hd.1, hkept, hd.2.2.1, hnot⟩
    · intro hd
      exact ⟨hd.1, ((hkilled d).mp hd.2.1).resolve_right hd.2.2.2, hd.2.2.1, id⟩
  · obtain ⟨hid, hd, hdc, _⟩ := hf.detections id d hget
    exact ⟨hid, (hold d hd).1, hdc, (hold d hd).2⟩
  · obtain ⟨hn, hd, hdc, _⟩ := hf.epochs n d hget
    exact ⟨hn, (hold d hd).1, hdc, (hold d hd).2⟩
  · exact hf.committed d (((hkilled d).mp hd).resolve_right hdm) hdc id
  · rcases (hkilled d).mp hd with hd | hd
    · exact hf.bounded d hd hdc
    · exact hbounded d hd hdc

theorem Fenced.congr (hf : s.Fenced missing)
    (howners : s'.ownerDeathFences.ownerDeaths = s.ownerDeathFences.ownerDeaths)
    (hdetections : s'.ownerDeathFences.detectionIds = s.ownerDeathFences.detectionIds)
    (hepochs : s'.ownerDeathFences.deathEpochs = s.ownerDeathFences.deathEpochs)
    (hkilled : ∀ d, s'.workers.Killed d ↔ s.workers.Killed d)
    (hcommitted : ∀ d ∈ s.publicationControl.committed, d ∈ s'.publicationControl.committed) :
    s'.Fenced missing := by
  refine ⟨?_, ?_, ?_, ?_, ?_⟩
  · intro w d
    rw [howners, hkilled]
    exact hf.owners w d
  · intro id d
    rw [hdetections, hkilled]
    exact hf.detections id d
  · intro n d
    rw [hepochs, hkilled]
    exact hf.epochs n d
  · intro d hd hdc hdm
    exact hcommitted d (hf.committed d ((hkilled d).mp hd) hdc hdm)
  · intro d hd
    exact hf.bounded d ((hkilled d).mp hd)

end GcsMembership

end MiniRay
