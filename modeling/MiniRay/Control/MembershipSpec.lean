import MiniRay.Control.MembershipNodes

/-! Four registries follow the same deaths, unless a Node is unregistered or reported as expected:
its tombstone never reaches the fence outbox. -/

namespace MiniRay

open Run

namespace GcsMembership

open EnhancedPublicationControl OwnerDeathFenceRegistry

variable {s s' : GcsMembership}

/-! ## Steps -/

variable {death : NodeDeathRecord} {node : NodeSnapshot}

theorem Coherent.reburies (h : s.Coherent) {message : ReportNodeDeath}
    (hknown : s.nodes.nodes.get? death.nodeId = some node) (hdeath : node.death = some death)
    (hreport : s.nodes.reportDeath message = ({ disposition := .alreadyDead, death := some death },
      s.nodes)) :
    (s.reportNodeDeath message).2.Coherent := by
  have hfinal := (h.core.reportNodeDeath message).core
  have hexit := h.unexpected _ node death hknown hdeath
  obtain ⟨deaths, hworkset⟩ := Option.isSome_iff_exists.mp (h.worksets _ node death hknown hdeath)
  have hfail : s.workers.failNode death = (.ok deaths, s.workers) := by
    simp [WorkerRegistry.failNode, hexit, hworkset]
  have hkilled := h.core.workers.worksets _ deaths hworkset
  obtain ⟨closed, hcommits, hsame, hclosed⟩ := h.fenced.commitOwnerDeaths h.core
    fun d hd => ⟨(hkilled d hd).1, .inr (hkilled d hd).2⟩
  have hgone : (closed.ownerDeathFences.liveNodes.get? death.nodeId).isSome = false := by
    rw [hsame.liveNodes]
    cases hlive : s.ownerDeathFences.liveNodes.get? death.nodeId with
    | none => rfl
    | some target =>
      obtain ⟨x, hx, halive, _⟩ := (h.live _ target).mp hlive
      rw [hknown, Option.some.injEq] at hx
      subst hx
      have hdead := (h.core.nodes.exact _ node death hknown hdeath).1
      rw [halive] at hdead
      cases hdead
  have hresult : (s.reportNodeDeath message).2 = closed := by
    unfold GcsMembership.reportNodeDeath
    simp only [hreport]
    rw [hfail]
    dsimp only
    rw [hcommits]
    dsimp only
    rw [GcsMembership.markNodeDead, if_neg (by simp [hgone])]
  rw [hresult] at hfinal ⊢
  exact h.congr hfinal (hclosed.weaken fun d _ => by simp) hsame

theorem Coherent.reportNodeDeath (h : s.Coherent) {message : ReportNodeDeath}
    (hregular : ∀ node, s.nodes.Reportable message node → s.Unexpected message) :
    (s.reportNodeDeath message).2.Coherent := by
  have hspec := NodeRegistry.reportDeath_spec h.core.nodes message
  cases hreport : s.nodes.reportDeath message with
  | mk reply nodes =>
    rw [hreport] at hspec
    dsimp only at hspec
    cases hspec with
    | applied node reportable => exact h.buries reportable (hregular node reportable)
    | replayed death node known dead => exact h.reburies known dead hreport
    | refused _ none_dead =>
      have hsame : (s.reportNodeDeath message).2 = s := by
        unfold GcsMembership.reportNodeDeath
        simp only [hreport, none_dead]
      rw [hsame]
      exact h

theorem Coherent.unregisterNode (h : s.Coherent) {message : UnregisterNode}
    (hregular : ∀ node, ¬ s.nodes.Reportable message.report node) :
    (s.unregisterNode message).2.Coherent := by
  have hsame : (s.unregisterNode message).2 = s := by
    simp only [GcsMembership.unregisterNode, h.core.reportDeath_same hregular]
  rw [hsame]
  exact h

theorem Coherent.registerWorkerIncarnation (h : s.Coherent) (incarnation : WorkerIncarnation) :
    (s.registerWorkerIncarnation incarnation).2.Coherent := by
  have hspec := WorkerRegistry.register_spec (r := s.workers) s.nodes incarnation
  have hkeeps := h.core.workers.registered hspec
  have hcore := (h.core.withWorkers hkeeps).core
  obtain ⟨hjournal, hworksets⟩ := hspec.deaths
  have hframe : ∀ d, (s.workers.register s.nodes incarnation).2.Killed d ↔ s.workers.Killed d := by
    intro d
    rw [← hkeeps.inv.journal, hjournal, h.core.workers.journal]
  refine ⟨hcore, h.fenced.congr rfl rfl rfl hframe fun _ hd => hd, h.unexpected, h.live, h.dead,
    ?_, ?_, ?_⟩
  · intro w worker hworker hstate
    change (s.workers.register s.nodes incarnation).2.workers.get? w = some worker at hworker
    generalize (s.workers.register s.nodes incarnation).2 = after at hspec hworker
    cases hspec with
    | same => exact h.homes w worker hworker hstate
    | added node known alive pid epoch new =>
      change (s.workers.workers.set _ _).get? w = _ at hworker
      rcases Dict.of_get?_set hworker with ⟨_, rfl⟩ | hworker
      · exact ⟨node, known, alive, pid, epoch⟩
      · exact h.homes w worker hworker hstate
  · intro id x death hx hdeath
    change ((s.workers.register s.nodes incarnation).2.nodeDeathWorksets.get? death.key).isSome
    rw [hworksets]
    exact h.worksets id x death hx hdeath
  · intro key deaths hget
    change (s.workers.register s.nodes incarnation).2.nodeDeathWorksets.get? key = _ at hget
    rw [hworksets] at hget
    exact h.filed key deaths hget

variable {message : ReportWorkerDeath}

theorem Coherent.kills (h : s.Coherent) (hr : s.workers.Reportable message)
    (hbounded : (message.record (s.workers.deathEpoch + 1) (Nat.succ_pos _)).ConfirmedExit →
      (message.record (s.workers.deathEpoch + 1) (Nat.succ_pos _)).OwnerDeath) :
    (s.reportWorkerDeath message).2.Coherent := by
  let death := message.record (s.workers.deathEpoch + 1) (Nat.succ_pos _)
  let failed : GcsMembership := { s with workers := s.workers.commit message }
  have hreport := WorkerRegistry.reportDeath_of_reportable hr
  have hfinal := (h.core.reportWorkerDeath message).core
  have hkilled : ∀ d, (s.workers.commit message).Killed d ↔ s.workers.Killed d ∨ d ∈ [death] := by
    intro d
    rw [WorkerRegistry.killed_commit hr, List.mem_singleton]
  have hkeeps : s.workers.Keeps (s.workers.commit message) :=
    ⟨h.core.workers.commit hr, fun d hd => (hkilled d).mpr (.inl hd), List.prefix_append _ _⟩
  have hcore : failed.Core := (h.core.withWorkers hkeeps).core
  have hnew : ¬ s.workers.Killed death := by
    intro hdead
    have hmem := h.core.workers.epoch_le hdead
    change s.workers.deathEpoch + 1 ≤ s.workers.deathEpoch at hmem
    omega
  have hmissing : failed.Fenced (· ∈ [death]) := by
    refine h.fenced.withDeaths hkilled (fun d hd => ?_) fun d hd => ?_
    · rw [List.mem_singleton.mp hd]
      exact hnew
    · rw [List.mem_singleton.mp hd]
      exact hbounded
  have hhomes : ∀ w worker, (s.workers.commit message).workers.get? w = some worker →
      worker.state = .alive → s.workers.workers.get? w = some worker := by
    intro w worker hworker hstate
    change (s.workers.workers.set _ _).get? w = _ at hworker
    rcases Dict.of_get?_set hworker with ⟨_, rfl⟩ | hworker
    · cases hstate
    · exact hworker
  have hcoherent : ∀ {after : GcsMembership}, after.Core → failed.Commits after →
      (after.Fenced fun _ => False) → after.Coherent := by
    intro after hafter hsame hfenced
    have hworkers : after.workers = s.workers.commit message := hsame.workers
    have hnodes : after.nodes = s.nodes := hsame.nodes
    refine ⟨hafter, hfenced, ?_, ?_, ?_, ?_, ?_, ?_⟩
    · rw [hnodes]
      exact h.unexpected
    · rw [hsame.liveNodes, hnodes]
      exact h.live
    · rw [hsame.nodeDeaths, hnodes]
      exact h.dead
    · intro w worker hworker hstate
      rw [hworkers] at hworker
      rw [hnodes]
      exact h.homes w worker (hhomes w worker hworker hstate) hstate
    · rw [hworkers, hnodes]
      exact h.worksets
    · rw [hworkers, hnodes]
      exact h.filed
  by_cases hconfirmed : death.ConfirmedExit
  · obtain ⟨after, hcommit, hsame, hfenced⟩ :=
      hmissing.commitOwnerDeath hcore ((hkilled death).mpr (.inr (by simp))) hconfirmed
    have hresult : (s.reportWorkerDeath message).2 = after := by
      unfold GcsMembership.reportWorkerDeath
      simp only [hreport, WorkerRegistry.deathReply]
      rw [if_pos hconfirmed, hcommit]
    rw [hresult] at hfinal ⊢
    exact hcoherent hfinal hsame (hfenced.weaken fun d _ => by simp)
  · have hresult : (s.reportWorkerDeath message).2 = failed := by
      unfold GcsMembership.reportWorkerDeath
      simp only [hreport, WorkerRegistry.deathReply]
      rw [if_neg hconfirmed]
    rw [hresult] at hfinal ⊢
    refine hcoherent hfinal (.refl failed) (hmissing.weaken fun d hd => ?_)
    refine ⟨False.elim, fun hmem => hconfirmed ?_⟩
    rw [← List.mem_singleton.mp hmem]
    exact hd

theorem Coherent.reportWorkerDeath (h : s.Coherent)
    (hregular : s.workers.Reportable message → (message.record (s.workers.deathEpoch + 1)
      (Nat.succ_pos _)).ConfirmedExit → (message.record (s.workers.deathEpoch + 1)
      (Nat.succ_pos _)).OwnerDeath) :
    (s.reportWorkerDeath message).2.Coherent := by
  have hfinal := (h.core.reportWorkerDeath message).core
  have hspec := WorkerRegistry.reportDeath_spec h.core.workers message
  cases hreport : s.workers.reportDeath message with
  | mk reply workers =>
    rw [hreport] at hspec
    dsimp only at hspec
    cases hspec with
    | applied reportable => exact h.kills reportable (hregular reportable)
    | replayed death known =>
      have hkilled : s.workers.Killed death := by
        rcases known with ⟨prior, hget⟩ | hkilled
        · exact (h.core.workers.detections _ _ _ hget).2
        · exact hkilled
      unfold GcsMembership.reportWorkerDeath at hfinal ⊢
      simp only [hreport, WorkerRegistry.deathReply] at hfinal ⊢
      by_cases hconfirmed : death.ConfirmedExit
      · obtain ⟨after, hcommit, hsame, hfenced⟩ :=
          h.fenced.commitOwnerDeath h.core hkilled hconfirmed
        rw [if_pos hconfirmed, hcommit] at hfinal ⊢
        exact h.congr hfinal (hfenced.weaken fun d _ => by simp) hsame
      · rw [if_neg hconfirmed]
        exact h
    | refused disposition error rejects =>
      have hsame : (s.reportWorkerDeath message).2 = s := by
        unfold GcsMembership.reportWorkerDeath
        simp only [hreport, WorkerRegistry.deathReply]
      rw [hsame]
      exact h

theorem Coherent.drives (h : s.Coherent) {after : GcsMembership} (hgoes : s.Goes after)
    (hsame : s.Commits after)
    (howners : after.ownerDeathFences.ownerDeaths = s.ownerDeathFences.ownerDeaths)
    (hdetections : after.ownerDeathFences.detectionIds = s.ownerDeathFences.detectionIds)
    (hepochs : after.ownerDeathFences.deathEpochs = s.ownerDeathFences.deathEpochs) :
    after.Coherent := by
  refine h.congr hgoes.core (h.fenced.congr howners hdetections hepochs ?_ hgoes.committed) hsame
  intro d
  rw [hsame.workers]

theorem Coherent.driveOnce (h : s.Coherent) (tid : Nat) : (s.driveOnce tid).Coherent := by
  have hgoes := h.core.driveOnce tid
  unfold GcsMembership.driveOnce at hgoes ⊢
  split
  · exact h
  · rename_i hidle
    rw [if_neg hidle] at hgoes
    dsimp only at hgoes ⊢
    split
    · rename_i hturn
      rw [if_pos hturn] at hgoes
      exact h.drives hgoes ⟨rfl, rfl, rfl, rfl⟩ rfl rfl rfl
    · rename_i hturn
      rw [if_neg hturn] at hgoes
      split
      · rename_i hnone
        simp only [hnone] at hgoes
        exact h.drives hgoes ⟨rfl, rfl, rfl, rfl⟩ rfl rfl rfl
      · rename_i effect hsome
        simp only [hsome] at hgoes
        split
        · rename_i halive
          rw [if_pos halive] at hgoes
          exact h.drives hgoes ⟨rfl, rfl, rfl, rfl⟩ rfl rfl rfl
        · rename_i halive
          rw [if_neg halive] at hgoes
          exact h.drives hgoes ⟨rfl, rfl, rfl, rfl⟩ rfl rfl rfl

theorem Coherent.deliver (h : s.Coherent) (tid : Nat)
    (outcome : RpcOutcome InstallOwnerDeathFenceReply) : (s.deliver tid outcome).Coherent := by
  have hgoes := h.core.deliver tid outcome
  unfold GcsMembership.deliver at hgoes ⊢
  split
  · exact h
  · rename_i effect hdriving
    simp only [hdriving] at hgoes
    cases outcome with
    | raised => exact h.drives hgoes ⟨rfl, rfl, rfl, rfl⟩ rfl rfl rfl
    | malformed => exact h.drives hgoes ⟨rfl, rfl, rfl, rfl⟩ rfl rfl rfl
    | replied reply =>
      dsimp only at hgoes ⊢
      split
      · rename_i hbad
        rw [if_pos hbad] at hgoes
        exact h.drives hgoes ⟨rfl, rfl, rfl, rfl⟩ rfl rfl rfl
      · rename_i hgood
        rw [if_neg hgood] at hgoes
        obtain ⟨completions, hframe⟩ :=
          acknowledge_frame s.ownerDeathFences effect reply
        rw [hframe] at hgoes ⊢
        exact h.drives hgoes ⟨rfl, rfl, rfl, rfl⟩ rfl rfl rfl

theorem Coherent.poll (h : s.Coherent) (consumer : Nat) (lost : Bool) :
    (s.poll consumer lost).Coherent := by
  have hgoes := h.core.poll consumer lost
  obtain ⟨hread, _⟩ := h.core.deathsAfter consumer
  simp only [GcsMembership.poll, hread] at hgoes ⊢
  split
  · exact h
  · rename_i hlost
    rw [if_neg hlost] at hgoes
    exact h.drives hgoes ⟨rfl, rfl, rfl, rfl⟩ rfl rfl rfl

/-! ## Runs -/

theorem Coherent.step (h : s.Coherent) {action : MembershipAction} (hregular : s.Regular action) :
    (s.step action).Coherent := by
  have hgoes := goes h.core action
  cases action with
  | registerNode message => exact h.registerNode message
  | unregisterNode message => exact h.unregisterNode hregular
  | reportNodeDeath message => exact h.reportNodeDeath hregular
  | registerWorkerIncarnation incarnation => exact h.registerWorkerIncarnation incarnation
  | reportWorkerDeath message => exact h.reportWorkerDeath hregular
  | enhancedPublication request => exact h.drives hgoes ⟨rfl, rfl, rfl, rfl⟩ rfl rfl rfl
  | driveOnce tid => exact h.driveOnce tid
  | deliver tid outcome => exact h.deliver tid outcome
  | advancePublication key => exact h.drives hgoes ⟨rfl, rfl, rfl, rfl⟩ rfl rfl rfl
  | deliverPublication key reply => exact h.drives hgoes ⟨rfl, rfl, rfl, rfl⟩ rfl rfl rfl
  | poll consumer lost => exact h.poll consumer lost

theorem coherent_run {actions : List MembershipAction}
    (hregular : Admissible GcsMembership.step Regular {} actions) :
    (run GcsMembership.step {} actions).Coherent :=
  hregular.invariant (p := Coherent) (fun _ _ hr h => h.step hr) coherent_new

/-- The fence outbox and the publications follow the Nodes and Workers. -/
structure Coordinated (s : GcsMembership) : Prop where
  live : ∀ target, target ∈ s.ownerDeathFences.liveNodes.values ↔
    ∃ id node, s.nodes.get? id = some node ∧ node.state = .alive ∧ node.incarnation = target
  pending : ∀ effect ∈ s.ownerDeathFences.pending, ∃ node,
    s.nodes.get? effect.key.target.nodeId = some node ∧ node.state = .alive ∧
      node.incarnation = effect.key.target
  fallen : ∀ id node death, s.nodes.get? id = some node → node.death = some death →
    death.reason = .processExit → ∀ w worker, s.workers.workers.get? w = some worker →
      worker.incarnation.On death → worker.state = .dead
  fenced : ∀ w worker death, s.workers.workers.get? w = some worker →
    worker.death = some death → death.ConfirmedExit →
      s.ownerDeathFences.ownerDeaths.get? w = some death ∧
        ∀ owner d, s.ownerDeathFences.ownerDeaths.get? owner = some d → d.workerId = w →
          owner = w ∧ d = death
  committed : ∀ w worker death, s.workers.workers.get? w = some worker →
    worker.death = some death → death.ConfirmedExit →
      death ∈ s.publicationControl.committed ∧
        (∀ d ∈ s.publicationControl.committed, d.workerId = w → d = death) ∧
        ∀ key record, s.publicationControl.authority.records.get? key = some record →
          record.publication.ownerWorkerId = w → record.fence ≠ none ∧
            ∃ work, s.publicationControl.deaths.get? record.reference = some work ∧
              work.death = death

theorem Coherent.pending_alive (h : s.Coherent) {effect : OwnerDeathFenceEffect}
    (hpending : effect ∈ s.ownerDeathFences.pending) : ∃ node,
      s.nodes.get? effect.key.target.nodeId = some node ∧ node.state = .alive ∧
        node.incarnation = effect.key.target := by
  obtain ⟨calls, hcalls⟩ := h.core.fences
  exact (h.live _ _).mp (hcalls.pending_live hpending)

theorem Coherent.fallen (h : s.Coherent) {id : NodeID} (hnode : s.nodes.get? id = some node)
    (hdeath : node.death = some death) {w : WorkerID} {worker : WorkerSnapshot}
    (hworker : s.workers.workers.get? w = some worker) (hon : worker.incarnation.On death) :
    worker.state = .dead := by
  cases hstate : worker.state with
  | dead => rfl
  | alive =>
    obtain ⟨home, hhome, halive, _⟩ := h.homes w worker hworker hstate
    obtain ⟨hdead, hid, _⟩ := h.core.nodes.exact id node death hnode hdeath
    have hsame : worker.incarnation.nodeId = id :=
      hon.1.trans (hid.trans (h.core.nodes.keyed id node hnode))
    rw [hsame, show s.nodes.nodes.get? id = some node from hnode, Option.some.injEq] at hhome
    rw [← hhome, hdead] at halive
    cases halive

theorem Coherent.coordinated (h : s.Coherent) : s.Coordinated := by
  have hkilled : ∀ w worker death, s.workers.workers.get? w = some worker →
      worker.death = some death → death.workerId = w ∧ s.workers.Killed death := by
    intro w worker death hworker hdeath
    have hid : death.workerId = w := by
      have hkeyed := h.core.workers.keyed w worker hworker
      rw [WorkerSnapshot.eq_killedBy hdeath] at hkeyed
      exact hkeyed
    exact ⟨hid, worker, hid ▸ hworker, hdeath⟩
  refine ⟨fun target => ?_, fun effect hpending => h.pending_alive hpending,
    fun id node death hnode hdeath _ w worker hworker hon => h.fallen hnode hdeath hworker hon,
    fun w worker death hworker hdeath hconfirmed => ?_,
    fun w worker death hworker hdeath hconfirmed => ?_⟩
  · rw [Dict.mem_values_iff]
    exact exists_congr fun id => h.live id target
  · obtain ⟨hid, hdead⟩ := hkilled w worker death hworker hdeath
    refine ⟨(h.fenced.owners w death).mpr ⟨hid, hdead, hconfirmed, id⟩, fun owner d hd hw => ?_⟩
    obtain ⟨howner, hdied, _⟩ := (h.fenced.owners owner d).mp hd
    exact ⟨howner.symm.trans hw, hdied.unique hdead (hw.trans hid.symm)⟩
  · obtain ⟨hid, hdead⟩ := hkilled w worker death hworker hdeath
    have hmem := h.fenced.committed death hdead hconfirmed id
    refine ⟨hmem, fun d hd hw => ?_, fun key record hrecord howner => ?_⟩
    · obtain ⟨other, hother, hdied⟩ :=
        Option.bind_eq_some_iff.mp (h.core.control.covers d hd).1.known
      exact WorkerRegistry.Killed.unique ⟨other, hother, hdied⟩ hdead (hw.trans hid.symm)
    · exact (h.core.control.covers death hmem).2 key record hrecord (howner.trans hid.symm)

end GcsMembership

open GcsMembership

/-- As long as no Node dies as expected and every confirmed death fits the wire, the registries
stay coordinated. Along every run, worker deaths are numbered without gaps, every consumer is given
the journal up to its watermark and with its next reply the rest, and the dead stay dead. -/
structure MembershipSpec (actions : List MembershipAction) : Prop where
  coordinated : Admissible step Regular {} actions → (run step {} actions).Coordinated
  epochs : (run step {} actions).workers.deathJournal.map WorkerDeathRecord.deathEpoch =
    List.range' 1 (run step {} actions).workers.deathEpoch
  read : ∀ consumer reader, (run step {} actions).consumers.get? consumer = some reader →
    reader.seen = (run step {} actions).workers.deathJournal.take reader.watermark
  caughtUp : ∀ consumer, ∃ reader,
    (run step {} (actions ++ [.poll consumer false])).consumers.get? consumer = some reader ∧
      reader.seen = (run step {} actions).workers.deathJournal
  deadNodes : ∀ later id, (run step {} actions).nodes.Dead id →
    (run step {} (actions ++ later)).nodes.Dead id
  deadWorkers : ∀ later w worker,
    (run step {} actions).workers.workers.get? w = some worker → worker.state = .dead →
      (run step {} (actions ++ later)).workers.workers.get? w = some worker

namespace GcsMembership.Sample

def address : Address := default

def leaving : RegisterNode := ⟨⟨1⟩, 10, address, by decide⟩

def staying : RegisterNode := ⟨⟨2⟩, 20, address, by decide⟩

def worker : WorkerIncarnation := ⟨⟨2⟩, 20, 2, ⟨3⟩, 30, by decide⟩

def crash : ReportWorkerDeath := ⟨"crash", worker, 1, .processExit, by decide⟩

/-- A Node is unregistered, and a Worker of another Node dies afterwards. -/
def actions : List MembershipAction :=
  [.registerNode leaving, .registerNode staying, .registerWorkerIncarnation worker,
    .unregisterNode ⟨⟨1⟩, 10, 1, "leave", by decide, by decide⟩, .reportWorkerDeath crash]

end GcsMembership.Sample

end MiniRay
