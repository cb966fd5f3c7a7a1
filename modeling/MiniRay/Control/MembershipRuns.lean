import MiniRay.Control.Membership
import MiniRay.EnhancedPublication.DutySpec
import MiniRay.OwnerFence.Frames

/-! What every run keeps, whatever the reports say: the journal, its readers and the dead. -/

namespace MiniRay

open Run OwnerDeathFenceRegistry

/-! ## Workers -/

variable {death : WorkerDeathRecord}

theorem WorkerSnapshot.eq_killedBy {worker : WorkerSnapshot} (h : worker.death = some death) :
    worker = .killedBy death := by
  have hstate := WorkerSnapshot.dead_of_death h
  obtain ⟨d, hd, hincarnation⟩ := worker.dead_record hstate
  obtain rfl : d = death := Option.some.inj (hd.symm.trans h)
  cases worker
  simp_all [WorkerSnapshot.killedBy]

variable {r : WorkerRegistry}

theorem WorkerRegistry.Killed.get? (h : r.Killed death) :
    r.workers.get? death.workerId = some (.killedBy death) := by
  obtain ⟨worker, hworker, hdeath⟩ := h
  rw [hworker, WorkerSnapshot.eq_killedBy hdeath]

variable {r' : WorkerRegistry}

theorem WorkerRegistry.Keeps.continues (hr : r.Inv) (h : r.Keeps r') :
    WorkerTable.Continues r.workers r'.workers := by
  constructor
  · intro item hitem hdead
    obtain ⟨death, hdeath, hincarnation⟩ := item.2.dead_record hdead
    have hget : r.workers.get? item.1 = some item.2 := Dict.get?_eq_some_iff.mpr hitem
    have hid : death.workerId = item.1 := by
      rw [WorkerDeathRecord.workerId, hincarnation]
      exact hr.keyed _ _ hget
    have hkilled : r.Killed death := ⟨item.2, hid ▸ hget, hdeath⟩
    rw [WorkerSnapshot.eq_killedBy hdeath, ← hid]
    exact (h.killed death hkilled).get?
  · intro item hitem
    exact h.inv.keyed item.1 item.2 (Dict.get?_eq_some_iff.mpr hitem)

/-- The reader was given exactly the journal up to its watermark. -/
structure DeathConsumer.Reads (reader : DeathConsumer) (workers : WorkerRegistry) : Prop where
  bound : reader.watermark ≤ workers.deathEpoch
  seen : reader.seen = workers.deathJournal.take reader.watermark

theorem DeathConsumer.Reads.keeps {reader : DeathConsumer} (h : reader.Reads r) (hr : r.Inv)
    (hnext : r.Keeps r') : reader.Reads r' := by
  have hlength := hr.length_journal
  have hlength' := hnext.inv.length_journal
  have hle := hnext.journal.length_le
  obtain ⟨added, hadded⟩ := hnext.journal
  constructor
  · have hbound := h.bound
    omega
  · rw [h.seen, ← hadded, List.take_append_of_le_length]
    rw [hlength]
    exact h.bound

namespace GcsMembership

open EnhancedPublicationControl

variable {s s' s'' : GcsMembership}

/-! ## One step -/

structure Core (s : GcsMembership) : Prop where
  nodes : s.nodes.Sound
  workers : s.workers.Inv
  fences : ∃ h, Fanned h s.ownerDeathFences
  control : s.publicationControl.Inv s.workers.workers
  consumers : ∀ consumer reader, s.consumers.get? consumer = some reader → reader.Reads s.workers

theorem core_new : Core {} where
  nodes := NodeRegistry.sound_new
  workers := WorkerRegistry.inv_new
  fences := ⟨[], fanned_empty⟩
  control := EnhancedPublicationControl.inv_new _
  consumers _ _ h := by cases h

/-- The dead stay dead, and no committed death is forgotten. -/
structure Goes (s s' : GcsMembership) : Prop where
  core : s'.Core
  nodes : ∀ id, s.nodes.Dead id → s'.nodes.Dead id
  workers : ∀ death, s.workers.Killed death → s'.workers.Killed death
  committed : ∀ death ∈ s.publicationControl.committed, death ∈ s'.publicationControl.committed

theorem Core.goes (h : s.Core) : s.Goes s := ⟨h, fun _ hd => hd, fun _ hd => hd, fun _ hd => hd⟩

theorem Goes.trans (h : s.Goes s') (h' : s'.Goes s'') : s.Goes s'' :=
  ⟨h'.core, fun id hd => h'.nodes id (h.nodes id hd),
    fun death hd => h'.workers death (h.workers death hd),
    fun death hd => h'.committed death (h.committed death hd)⟩

theorem Core.withNodes (h : s.Core) {nodes : NodeRegistry} (hsound : nodes.Sound)
    (hdead : ∀ id, s.nodes.Dead id → nodes.Dead id) : s.Goes { s with nodes := nodes } :=
  ⟨⟨hsound, h.workers, h.fences, h.control, h.consumers⟩, hdead, fun _ hd => hd, fun _ hd => hd⟩

theorem Core.withFences (h : s.Core) (op : OwnerDeathFenceRegistry.Op) :
    s.Goes { s with ownerDeathFences := s.ownerDeathFences.step op } := by
  obtain ⟨calls, hcalls⟩ := h.fences
  exact ⟨⟨h.nodes, h.workers, hcalls.of_step op, h.control, h.consumers⟩, fun _ hd => hd,
    fun _ hd => hd, fun _ hd => hd⟩

theorem Core.withWorkers (h : s.Core) {workers : WorkerRegistry}
    (hkeeps : s.workers.Keeps workers) : s.Goes { s with workers := workers } := by
  refine ⟨⟨h.nodes, hkeeps.inv, h.fences, h.control.continues (hkeeps.continues h.workers), ?_⟩,
    fun _ hd => hd, hkeeps.killed, fun _ hd => hd⟩
  intro consumer reader hget
  exact (h.consumers consumer reader hget).keeps h.workers hkeeps

theorem Core.withControl (h : s.Core) {control : EnhancedPublicationControl}
    (hinv : control.Inv s.workers.workers)
    (hcommitted : ∀ death ∈ s.publicationControl.committed, death ∈ control.committed) :
    s.Goes { s with publicationControl := control } :=
  ⟨⟨h.nodes, h.workers, h.fences, hinv, h.consumers⟩, fun _ hd => hd, fun _ hd => hd, hcommitted⟩

/-- The membership as the adapter of the publications sees it. -/
def host (s : GcsMembership) : PublicationHost :=
  ⟨s.publicationControl, s.nodes, s.workers.workers, s.ownerDeathFences⟩

section

variable (h : s.Core)
include h

theorem Core.host : s.host.Inv where
  control := h.control
  keyed item hitem := h.workers.keyed item.1 item.2 (Dict.get?_eq_some_iff.mpr hitem)

theorem Core.withHost (action : HostAction) :
    s.Goes { s with publicationControl := (s.host.step action).control } := by
  have hgoes := PublicationHost.goes h.host action
  exact h.withControl hgoes.inv hgoes.committed

/-! ## Owner deaths -/

theorem Core.commitOwnerDeath (death : WorkerDeathRecord) :
    s.Goes (s.commitOwnerDeath death).2 := by
  have hfences := h.withFences (.commitOwnerDeath death)
  unfold GcsMembership.commitOwnerDeath
  simp only [OwnerDeathFenceRegistry.step, OwnerDeathFenceRegistry.call] at hfences
  cases hresult : s.ownerDeathFences.commitOwnerDeath death with
  | mk result fences =>
    rw [hresult] at hfences
    cases result with
    | error failure => exact hfences
    | ok pending => exact hfences.trans (hfences.core.withHost (.commitOwnerDeath death))

theorem Core.commitOwnerDeaths (deaths : List WorkerDeathRecord) :
    s.Goes (s.commitOwnerDeaths deaths).2 := by
  induction deaths generalizing s with
  | nil => exact h.goes
  | cons death rest ih =>
    have hfirst := h.commitOwnerDeath death
    simp only [GcsMembership.commitOwnerDeaths]
    cases hresult : s.commitOwnerDeath death with
    | mk result after =>
      rw [hresult] at hfirst
      cases result with
      | error raised => exact hfirst
      | ok value => exact hfirst.trans (ih hfirst.core)

theorem Core.markNodeDead (death : NodeDeathRecord) :
    s.Goes (s.markNodeDead death).2 := by
  unfold GcsMembership.markNodeDead
  split
  · exact h.withFences (.markNodeDead death)
  · exact h.goes

/-! ## Handlers -/

theorem Core.registerNode (message : RegisterNode) :
    s.Goes (s.registerNode message).2 := by
  unfold GcsMembership.registerNode
  split
  · exact h.goes
  · rename_i fresh nodes hregister
    have hsound := h.nodes.registered (NodeRegistry.register_spec hregister)
    have hnodes := h.withNodes hsound fun id hd => hd.register hregister
    split
    · exact hnodes
    · rename_i node hnode
      have hfences := hnodes.core.withFences (.registerNode node.incarnation)
      simp only [OwnerDeathFenceRegistry.step, OwnerDeathFenceRegistry.call] at hfences
      split
      · rename_i failure fences hresult
        rw [hresult] at hfences
        exact hnodes.trans hfences
      · rename_i pending fences hresult
        rw [hresult] at hfences
        exact hnodes.trans hfences

theorem Core.buries (message : ReportNodeDeath) :
    s.Goes { s with nodes := (s.nodes.reportDeath message).2 } :=
  h.withNodes (h.nodes.reported (NodeRegistry.reportDeath_spec h.nodes message))
    fun _ hd => hd.reportDeath message

theorem Core.reportNodeDeath (message : ReportNodeDeath) :
    s.Goes (s.reportNodeDeath message).2 := by
  have hnodes := h.buries message
  unfold GcsMembership.reportNodeDeath
  cases hreport : s.nodes.reportDeath message with
  | mk reply nodes =>
    rw [hreport] at hnodes
    dsimp only at hnodes ⊢
    split
    · exact hnodes
    · rename_i death hdeath
      have hworkers := hnodes.core.withWorkers (hnodes.core.workers.failNode death)
      cases hfail : s.workers.failNode death with
      | mk result workers =>
        rw [hfail] at hworkers
        have hboth := hnodes.trans hworkers
        cases result with
        | error raised => exact hboth
        | ok committed =>
          have hcommits := hboth.core.commitOwnerDeaths committed
          dsimp only at hcommits ⊢
          split
          · rename_i raised after hafter
            rw [hafter] at hcommits
            exact hboth.trans hcommits
          · rename_i after hafter
            rw [hafter] at hcommits
            exact (hboth.trans hcommits).trans (hcommits.core.markNodeDead death)

theorem Core.reportWorkerDeath (message : ReportWorkerDeath) :
    s.Goes (s.reportWorkerDeath message).2 := by
  have hworkers := h.withWorkers (h.workers.keeps_report message)
  unfold GcsMembership.reportWorkerDeath
  cases hreport : s.workers.reportDeath message with
  | mk reply workers =>
    rw [hreport] at hworkers
    dsimp only at hworkers ⊢
    split
    · exact hworkers
    · rename_i death hdeath
      split
      · exact hworkers.trans (hworkers.core.commitOwnerDeath death)
      · exact hworkers

/-! ## The driver and the consumers -/

theorem Core.driving (fence owner : Nat) (driving : Dict Nat OwnerDeathFenceEffect) :
    s.Goes { s with
      ownerFenceProgressCursor := fence
      ownerDeathProgressCursor := owner
      driving := driving } :=
  ⟨⟨h.nodes, h.workers, h.fences, h.control, h.consumers⟩, fun _ hd => hd, fun _ hd => hd,
    fun _ hd => hd⟩

theorem Core.driveOnce (tid : Nat) : s.Goes (s.driveOnce tid) := by
  have hturn := h.driving s.ownerFenceProgressCursor (s.ownerDeathProgressCursor + 1) s.driving
  unfold GcsMembership.driveOnce
  split
  · exact h.goes
  · dsimp only
    split
    · exact hturn.trans (hturn.core.withHost .driveOne)
    · split
      · exact hturn
      · split
        · exact h.driving _ _ _
        · exact h.driving _ _ _

theorem Core.deliver (tid : Nat) (outcome : RpcOutcome InstallOwnerDeathFenceReply) :
    s.Goes (s.deliver tid outcome) := by
  have hidle := h.driving s.ownerFenceProgressCursor s.ownerDeathProgressCursor
    (s.driving.erase tid)
  unfold GcsMembership.deliver
  split
  · exact h.goes
  · rename_i effect hget
    cases outcome with
    | raised => exact hidle
    | malformed => exact hidle
    | replied reply =>
      dsimp only
      split
      · exact hidle
      · exact hidle.trans (hidle.core.withFences (.acknowledge effect reply))

theorem Core.deathsAfter (consumer : Nat) :
    s.workers.deathsAfter ((s.consumers.get? consumer).getD {}).watermark =
        .ok ⟨((s.consumers.get? consumer).getD {}).watermark, s.workers.deathEpoch,
          s.workers.deathJournal.drop ((s.consumers.get? consumer).getD {}).watermark⟩ ∧
      ((s.consumers.get? consumer).getD {}).Reads s.workers := by
  have hreads : ((s.consumers.get? consumer).getD {}).Reads s.workers := by
    cases hget : s.consumers.get? consumer with
    | none => exact ⟨Nat.zero_le _, by simp⟩
    | some reader => exact h.consumers consumer reader hget
  refine ⟨?_, hreads⟩
  have hbound := hreads.bound
  rw [WorkerRegistry.deathsAfter, if_neg (by omega)]

theorem Core.poll (consumer : Nat) (lost : Bool) : s.Goes (s.poll consumer lost) := by
  obtain ⟨hread, hreads⟩ := h.deathsAfter consumer
  simp only [GcsMembership.poll, hread]
  split
  · exact h.goes
  · refine ⟨⟨h.nodes, h.workers, h.fences, h.control, ?_⟩, fun _ hd => hd, fun _ hd => hd,
      fun _ hd => hd⟩
    intro other reader hget
    change (s.consumers.set _ _).get? other = _ at hget
    rcases Dict.of_get?_set hget with ⟨_, rfl⟩ | hget
    · refine ⟨Nat.le_refl _, ?_⟩
      rw [hreads.seen, List.take_append_drop, ← h.workers.length_journal, List.take_length]
    · exact h.consumers other reader hget

/-! ## Runs -/

theorem goes (action : MembershipAction) : s.Goes (s.step action) := by
  cases action with
  | registerNode message => exact h.registerNode message
  | unregisterNode message => exact h.buries message.report
  | reportNodeDeath message => exact h.reportNodeDeath message
  | registerWorkerIncarnation incarnation =>
    exact h.withWorkers
      (h.workers.registered (WorkerRegistry.register_spec s.nodes incarnation))
  | reportWorkerDeath message => exact h.reportWorkerDeath message
  | enhancedPublication request => exact h.withHost (.handle request)
  | driveOnce tid => exact h.driveOnce tid
  | deliver tid outcome => exact h.deliver tid outcome
  | advancePublication key => exact h.withHost (.advance key)
  | deliverPublication key reply => exact h.withHost (.deliver key reply)
  | poll consumer lost => exact h.poll consumer lost

theorem goes_run (actions : List MembershipAction) :
    s.Goes (run GcsMembership.step s actions) := by
  induction actions generalizing s with
  | nil => exact h.goes
  | cons action rest ih =>
    have hstep := goes h action
    exact hstep.trans (ih hstep.core)

end

theorem core_run (actions : List MembershipAction) :
    (run GcsMembership.step {} actions).Core := (goes_run core_new actions).core

end GcsMembership

end MiniRay
