import MiniRay.Control.MembershipFences

/-! Registered and dead Nodes reach the fence outbox, as long as they die unexpectedly. -/

namespace MiniRay

open Run OwnerDeathFenceRegistry

namespace GcsMembership

open EnhancedPublicationControl

variable {s s' : GcsMembership}

/-- An unexpected death, whose Workers can be reported and whose records fit the wire. -/
structure Unexpected (s : GcsMembership) (message : ReportNodeDeath) : Prop where
  reason : message.reason = .processExit
  detections : s.workers.Failable (s.nodes.buries message)
  bounded : ∀ i ∈ s.workers.candidates (s.nodes.buries message), Uint64 i.nodePid ∧
    Uint64 i.nodeRegistrationEpoch ∧ Uint64 i.workerPid
  epochs : Uint64 (s.workers.deathEpoch + (s.workers.candidates (s.nodes.buries message)).length)

/-- No Node dies as expected, and every confirmed death fits the wire. -/
def Regular (s : GcsMembership) : MembershipAction → Prop
  | .unregisterNode message => ∀ node, ¬ s.nodes.Reportable message.report node
  | .reportNodeDeath message => ∀ node, s.nodes.Reportable message node → s.Unexpected message
  | .reportWorkerDeath message => s.workers.Reportable message →
      (message.record (s.workers.deathEpoch + 1) (Nat.succ_pos _)).ConfirmedExit →
      (message.record (s.workers.deathEpoch + 1) (Nat.succ_pos _)).OwnerDeath
  | _ => True

/-! ## The invariant -/

structure Coherent (s : GcsMembership) : Prop where
  core : s.Core
  fenced : s.Fenced fun _ => False
  unexpected : ∀ id node death, s.nodes.nodes.get? id = some node → node.death = some death →
    death.reason = .processExit
  live : ∀ id target, s.ownerDeathFences.liveNodes.get? id = some target ↔
    ∃ node, s.nodes.nodes.get? id = some node ∧ node.state = .alive ∧ node.incarnation = target
  dead : ∀ id, (s.ownerDeathFences.nodeDeaths.get? id).isSome → s.nodes.Dead id
  homes : ∀ w worker, s.workers.workers.get? w = some worker → worker.state = .alive →
    ∃ node, s.nodes.nodes.get? worker.incarnation.nodeId = some node ∧ node.state = .alive ∧
      node.nodePid = worker.incarnation.nodePid ∧
      node.registrationEpoch = worker.incarnation.nodeRegistrationEpoch
  worksets : ∀ id node death, s.nodes.nodes.get? id = some node → node.death = some death →
    (s.workers.nodeDeathWorksets.get? death.key).isSome
  filed : ∀ key deaths, s.workers.nodeDeathWorksets.get? key = some deaths → s.nodes.Dead key.1

theorem coherent_new : Coherent {} where
  core := core_new
  fenced := {
    owners := fun w d => by simp [empty, WorkerRegistry.Killed]
    detections := fun _ _ h => by cases h
    epochs := fun _ _ h => by cases h
    committed := fun _ h => by simp [WorkerRegistry.Killed] at h
    bounded := fun _ h => by simp [WorkerRegistry.Killed] at h }
  unexpected _ _ _ h := by cases h
  live id target := by simp [empty]
  dead _ h := by cases h
  homes _ _ h := by cases h
  worksets _ _ _ h := by cases h
  filed _ _ h := by cases h

theorem Coherent.congr (h : s.Coherent) (hcore : s'.Core) (hfenced : s'.Fenced fun _ => False)
    (hsame : s.Commits s') : s'.Coherent where
  core := hcore
  fenced := hfenced
  unexpected := by rw [hsame.nodes]; exact h.unexpected
  live := by rw [hsame.liveNodes, hsame.nodes]; exact h.live
  dead := by rw [hsame.nodeDeaths, hsame.nodes]; exact h.dead
  homes := by rw [hsame.workers, hsame.nodes]; exact h.homes
  worksets := by rw [hsame.workers, hsame.nodes]; exact h.worksets
  filed := by rw [hsame.workers, hsame.nodes]; exact h.filed

variable {node : NodeSnapshot}

theorem not_dead {id : NodeID} (hnode : s.nodes.nodes.get? id = some node)
    (halive : node.state = .alive) : ¬ s.nodes.Dead id := by
  intro hdead
  obtain ⟨other, hother, hstate⟩ := hdead
  rw [hnode, Option.some.injEq] at hother
  rw [← hother, halive] at hstate
  cases hstate

/-! ## Nodes -/

theorem Coherent.registerNode (h : s.Coherent) (message : RegisterNode) :
    (s.registerNode message).2.Coherent := by
  have hcore := (h.core.registerNode message).core
  obtain ⟨calls, hcalls⟩ := h.core.fences
  unfold GcsMembership.registerNode at hcore ⊢
  cases hregister : s.nodes.register message.nodeId message.address message.nodePid
      message.pid_pos with
  | none => exact h
  | some result =>
    obtain ⟨fresh, nodes⟩ := result
    rw [hregister] at hcore
    have hsound := h.core.nodes.registered (NodeRegistry.register_spec hregister)
    have hother : ∀ id, id ≠ message.nodeId → nodes.nodes.get? id = s.nodes.nodes.get? id := by
      intro id hid
      cases NodeRegistry.register_spec hregister with
      | replayed node known alive => rfl
      | added node registration membership new named alive pristine =>
        exact Dict.get?_set_of_ne _ _ hid.symm
    have hself : ∃ node, nodes.nodes.get? message.nodeId = some node ∧ node.state = .alive ∧
        (s.nodes.nodes.get? message.nodeId = none ∨
          s.nodes.nodes.get? message.nodeId = some node) := by
      cases NodeRegistry.register_spec hregister with
      | replayed node known alive => exact ⟨node, known, alive, .inr known⟩
      | added node registration membership new named alive pristine =>
        exact ⟨node, Dict.get?_set_self _ _ _, alive, .inl new⟩
    obtain ⟨node, hnode, halive, hbefore⟩ := hself
    have hid : node.nodeId = message.nodeId := hsound.keyed _ _ hnode
    have hbound : ∀ t, s.ownerDeathFences.liveNodes.get? node.incarnation.nodeId = some t →
        t = node.incarnation := by
      intro t ht
      change s.ownerDeathFences.liveNodes.get? node.nodeId = some t at ht
      obtain ⟨old, hold, _, hincarnation⟩ := (h.live _ t).mp ht
      rw [hid] at hold
      rcases hbefore with hnew | hknown
      · rw [hnew] at hold
        cases hold
      · rw [hknown, Option.some.injEq] at hold
        rw [← hincarnation, hold]
    have hopen : s.ownerDeathFences.nodeDeaths.get? node.incarnation.nodeId = none := by
      change s.ownerDeathFences.nodeDeaths.get? node.nodeId = none
      rw [hid]
      by_contra hsome
      obtain ⟨old, hold, hdead⟩ := h.dead _ (Option.isSome_iff_ne_none.mpr hsome)
      rcases hbefore with hnew | hknown
      · rw [hnew] at hold
        cases hold
      · rw [hknown, Option.some.injEq] at hold
        rw [← hold, halive] at hdead
        cases hdead
    obtain ⟨pending, effects, hfences⟩ := hcalls.registers hbound hopen
    have hlookup : nodes.get? message.nodeId = some node := hnode
    simp only [hlookup, hfences] at hcore ⊢
    -- an id that is known already keeps its record
    have hkept : ∀ id x, s.nodes.nodes.get? id = some x → nodes.nodes.get? id = some x := by
      intro id x hx
      by_cases hsame : id = message.nodeId
      · subst hsame
        rcases hbefore with hnew | hknown
        · rw [hnew] at hx
          cases hx
        · rw [hnode, ← hx, hknown]
      · rw [hother id hsame]
        exact hx
    have hdied : ∀ id x death, nodes.nodes.get? id = some x → x.death = some death →
        s.nodes.nodes.get? id = some x := by
      intro id x death hx hdeath
      by_cases hsame : id = message.nodeId
      · subst hsame
        rw [hnode, Option.some.injEq] at hx
        have hdead := (hsound.exact _ node death hnode (hx ▸ hdeath)).1
        rw [halive] at hdead
        cases hdead
      · rw [← hother id hsame]
        exact hx
    have hdead : ∀ id, s.nodes.Dead id → nodes.Dead id := by
      intro id hd
      obtain ⟨x, hx, hstate⟩ := hd
      exact ⟨x, hkept id x hx, hstate⟩
    refine ⟨hcore, h.fenced.congr rfl rfl rfl (fun _ => Iff.rfl) fun _ hd => hd, ?_, ?_, ?_, ?_,
      ?_, ?_⟩
    · intro id x death hx hdeath
      exact h.unexpected id x death (hdied id x death hx hdeath) hdeath
    · intro id target
      change (s.ownerDeathFences.liveNodes.set node.nodeId node.incarnation).get? id = _ ↔
        ∃ x, nodes.nodes.get? id = some x ∧ _
      rw [Dict.get?_set, hid]
      by_cases hsame : message.nodeId = id
      · rw [if_pos hsame, ← hsame, hnode]
        simp [halive]
      · rw [if_neg hsame, h.live, hother id (Ne.symm hsame)]
    · intro id hd
      exact hdead id (h.dead id hd)
    · intro w worker hworker hstate
      obtain ⟨x, hx, hhome⟩ := h.homes w worker hworker hstate
      exact ⟨x, hkept _ x hx, hhome⟩
    · intro id x death hx hdeath
      exact h.worksets id x death (hdied id x death hx hdeath) hdeath
    · intro key deaths hget
      exact hdead key.1 (h.filed key deaths hget)

variable {message : ReportNodeDeath}

theorem Core.reportDeath_same (h : s.Core) (hrefused : ∀ node, ¬ s.nodes.Reportable message node) :
    (s.nodes.reportDeath message).2 = s.nodes := by
  have hspec := NodeRegistry.reportDeath_spec h.nodes message
  generalize (s.nodes.reportDeath message).1 = reply at hspec
  generalize (s.nodes.reportDeath message).2 = after at hspec ⊢
  cases hspec with
  | applied node reportable => exact absurd reportable (hrefused node)
  | replayed _ _ _ _ => rfl
  | refused _ _ => rfl

theorem Coherent.fails (h : s.Coherent) (hu : s.Unexpected message)
    {deaths : List WorkerDeathRecord} {after : WorkerRegistry}
    (hf : WorkerRegistry.Fails s.workers (s.nodes.buries message)
      (s.workers.candidates (s.nodes.buries message)) deaths after) :
    ∀ death ∈ deaths, ¬ s.workers.Killed death ∧ death.ConfirmedExit ∧ death.OwnerDeath := by
  intro death hd
  have hnamed := hf.named death hd
  obtain ⟨_, worker, hworker, halive, _⟩ :=
    (WorkerRegistry.mem_candidates h.core.workers).mp hnamed
  obtain ⟨hpid, hepoch, hworkerPid⟩ := hu.bounded _ hnamed
  refine ⟨fun hkilled => ?_, .inr (hf.reason death hd), hpid, hepoch, hworkerPid, ?_⟩
  · have hget := hkilled.get?
    rw [show death.workerId = death.incarnation.workerId from rfl, hworker,
      Option.some.injEq] at hget
    rw [hget] at halive
    cases halive
  · have hbound := hf.bound death hd
    have hepochs := hu.epochs
    unfold Uint64 at hepochs ⊢
    omega

theorem Coherent.buries (h : s.Coherent) (hr : s.nodes.Reportable message node)
    (hu : s.Unexpected message) : (s.reportNodeDeath message).2.Coherent := by
  let death := s.nodes.buries message
  have hfinal := (h.core.reportNodeDeath message).core
  have hspec := NodeRegistry.reportDeath_spec h.core.nodes message
  have hreport : s.nodes.reportDeath message =
      ({ disposition := .applied, death := some death }, s.nodes.bury message node) := by
    obtain ⟨hfresh, hknown, halive, hpid, hepoch⟩ := hr
    simp [NodeRegistry.reportDeath, hfresh, hknown, halive, hpid, hepoch, death,
      NodeRegistry.buries, NodeRegistry.bury, ReportNodeDeath.record]
  have hgone := not_dead hr.known hr.alive
  have hfresh : s.workers.nodeDeathWorksets.get? death.key = none := by
    by_contra hsome
    obtain ⟨deaths, hget⟩ := Option.ne_none_iff_exists'.mp hsome
    exact hgone (h.filed _ deaths hget)
  obtain ⟨deaths, after, hfail, hf⟩ := WorkerRegistry.failNode_spec h.core.workers hu.reason hfresh
    hu.detections
  have hdeaths := h.fails hu hf
  have hburied : s.Goes { s with nodes := s.nodes.bury message node } := by
    have hgoes := h.core.buries message
    rw [hreport] at hgoes
    exact hgoes
  let workers : WorkerRegistry :=
    { after with nodeDeathWorksets := after.nodeDeathWorksets.set death.key deaths }
  have hkeeps : s.workers.Keeps workers := by
    have hkept := h.core.workers.failNode death
    rw [hfail] at hkept
    exact hkept
  let failed : GcsMembership :=
    { s with nodes := s.nodes.bury message node, workers := workers }
  have hcore : failed.Core := (hburied.core.withWorkers hkeeps).core
  have hkilled : ∀ d, workers.Killed d ↔ s.workers.Killed d ∨ d ∈ deaths := hf.killed
  have hmissing : failed.Fenced (· ∈ deaths) :=
    (h.fenced.withDeaths hkilled (fun d hd => (hdeaths d hd).1)
      fun d hd _ => (hdeaths d hd).2.2).congr rfl rfl rfl (fun _ => Iff.rfl) fun _ hd => hd
  obtain ⟨closed, hcommits, hsame, hclosed⟩ := hmissing.commitOwnerDeaths hcore
    fun d hd => ⟨(hkilled d).mpr (.inr hd), (hdeaths d hd).2.1⟩
  have hlive : closed.ownerDeathFences.liveNodes.get? death.nodeId = some node.incarnation := by
    rw [hsame.liveNodes]
    exact (h.live _ _).mpr ⟨node, hr.known, hr.alive, rfl⟩
  have hclosedCore : closed.Core := by
    have hgoes := hcore.commitOwnerDeaths deaths
    rw [hcommits] at hgoes
    exact hgoes.core
  obtain ⟨calls, hcalls⟩ := hclosedCore.fences
  obtain ⟨completed, completions, hmark⟩ := markNodeDead_eq hu.reason hlive
    (hcalls.nodes _ _ hlive).2 ⟨(h.core.nodes.keyed _ _ hr.known).symm, hr.pid.symm, hr.epoch.symm⟩
  have hresult : (s.reportNodeDeath message).2 = { closed with
      ownerDeathFences :=
        { closed.ownerDeathFences.dropNode death with completions := completions } } := by
    unfold GcsMembership.reportNodeDeath
    simp only [hreport]
    rw [hfail]
    dsimp only
    rw [hcommits]
    dsimp only
    unfold GcsMembership.markNodeDead
    rw [if_pos ⟨hu.reason, by rw [hlive]; rfl⟩, hmark]
  rw [hresult] at hfinal ⊢
  have hnodes : ∀ id, closed.nodes.nodes.get? id = if message.nodeId = id then
      some { node with state := .dead, death := some death } else s.nodes.nodes.get? id := by
    rw [hsame.nodes]
    exact NodeRegistry.get?_bury s.nodes message node
  have hdead : ∀ id, s.nodes.Dead id → closed.nodes.Dead id := by
    rw [hsame.nodes]
    exact hburied.nodes
  have htomb : closed.nodes.Dead message.nodeId := ⟨_, (hnodes _).trans (if_pos rfl), rfl⟩
  refine ⟨hfinal, ?_, ?_, ?_, ?_, ?_, ?_, ?_⟩
  · refine (hclosed.weaken fun d _ => ?_).congr rfl rfl rfl (fun _ => Iff.rfl) fun _ hd => hd
    exact ⟨False.elim, fun hm => hm.2 hm.1⟩
  · intro id x d hx hdeath
    change closed.nodes.nodes.get? id = some x at hx
    rw [hnodes] at hx
    split at hx
    · cases hx
      cases hdeath
      exact hu.reason
    · exact h.unexpected id x d hx hdeath
  · intro id target
    change (closed.ownerDeathFences.liveNodes.erase message.nodeId).get? id = some target ↔
      ∃ x, closed.nodes.nodes.get? id = some x ∧ _
    rw [Dict.get?_erase, hsame.liveNodes, hnodes]
    by_cases hid : message.nodeId = id
    · simp [hid]
    · rw [if_neg hid, if_neg hid]
      exact h.live id target
  · intro id hd
    change ((closed.ownerDeathFences.nodeDeaths.set message.nodeId death).get? id).isSome at hd
    rw [Dict.get?_set, hsame.nodeDeaths] at hd
    split at hd
    · rename_i hid
      exact hid ▸ htomb
    · exact hdead id (h.dead id hd)
  · intro w worker hworker hstate
    change closed.workers.workers.get? w = some worker at hworker
    rw [hsame.workers] at hworker
    have hsurvives : s.workers.workers.get? w = some worker := by
      rcases hf.frame w with hkept | ⟨d, _, _, hset⟩
      · exact hkept.symm.trans hworker
      · cases hset.symm.trans hworker
        cases hstate
    obtain ⟨home, hhome, halive, hpid, hepoch⟩ := h.homes w worker hsurvives hstate
    have helsewhere : message.nodeId ≠ worker.incarnation.nodeId := by
      intro heq
      rw [← heq, hr.known, Option.some.injEq] at hhome
      subst hhome
      have hw := h.core.workers.keyed w worker hsurvives
      have hcandidate : worker.incarnation ∈ s.workers.candidates death :=
        (WorkerRegistry.mem_candidates h.core.workers).mpr
          ⟨⟨heq.symm, hpid.symm.trans hr.pid, hepoch.symm.trans hr.epoch⟩, worker,
            hw.symm ▸ hsurvives, hstate, rfl⟩
      obtain ⟨d, hd, hincarnation⟩ := hf.all _ hcandidate
      have hget := ((hkilled d).mpr (.inr hd)).get?
      rw [show d.workerId = w by rw [WorkerDeathRecord.workerId, hincarnation, hw]] at hget
      cases hget.symm.trans hworker
      cases hstate
    exact ⟨home, (hnodes _).trans ((if_neg helsewhere).trans hhome), halive, hpid, hepoch⟩
  · intro id x d hx hdeath
    change closed.nodes.nodes.get? id = some x at hx
    change (closed.workers.nodeDeathWorksets.get? d.key).isSome
    rw [hsame.workers]
    change ((after.nodeDeathWorksets.set death.key deaths).get? d.key).isSome
    rw [Dict.get?_set, hf.worksets]
    rw [hnodes] at hx
    split at hx
    · cases hx
      cases hdeath
      simp
    · have hold := h.worksets id x d hx hdeath
      split
      · rfl
      · exact hold
  · intro key ds hget
    change closed.workers.nodeDeathWorksets.get? key = some ds at hget
    rw [hsame.workers] at hget
    change (after.nodeDeathWorksets.set death.key deaths).get? key = some ds at hget
    rw [Dict.get?_set, hf.worksets] at hget
    split at hget
    · rename_i hkey
      rw [← hkey]
      exact htomb
    · exact hdead key.1 (h.filed key ds hget)

end GcsMembership

end MiniRay
