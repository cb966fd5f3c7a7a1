import MiniRay.Control.Workers

/-! What one report and one dead Node do to the journal, and what they leave as it was. -/

namespace MiniRay

theorem WorkerSnapshot.dead_of_death {worker : WorkerSnapshot} {death : WorkerDeathRecord}
    (h : worker.death = some death) : worker.state = .dead := by
  cases hstate : worker.state with
  | dead => rfl
  | alive =>
    rw [worker.alive_record hstate] at h
    cases h

namespace WorkerRegistry

variable {r r' : WorkerRegistry}

def Killed (r : WorkerRegistry) (death : WorkerDeathRecord) : Prop :=
  ∃ worker, r.workers.get? death.workerId = some worker ∧ worker.death = some death

variable {death death' : WorkerDeathRecord}

theorem Killed.unique (h : r.Killed death) (h' : r.Killed death')
    (hid : death.workerId = death'.workerId) : death = death' := by
  obtain ⟨worker, hworker, hdeath⟩ := h
  obtain ⟨worker', hworker', hdeath'⟩ := h'
  rw [hid, hworker', Option.some.injEq] at hworker
  rw [← hworker, hdeath', Option.some.injEq] at hdeath
  exact hdeath.symm

structure Inv (r : WorkerRegistry) : Prop where
  keyed : ∀ w worker, r.workers.get? w = some worker → worker.incarnation.workerId = w
  journal : ∀ death, death ∈ r.deathJournal ↔ r.Killed death
  epochs : r.deathJournal.map WorkerDeathRecord.deathEpoch = List.range' 1 r.deathEpoch
  detections : ∀ id request death, r.deathDetections.get? id = some (request, death) →
    death.detectionId = id ∧ r.Killed death
  detected : ∀ death, r.Killed death →
    ∃ request, r.deathDetections.get? death.detectionId = some (request, death)
  worksets : ∀ key deaths, r.nodeDeathWorksets.get? key = some deaths → ∀ death ∈ deaths,
    r.Killed death ∧ death.reason = .nodeExit

theorem inv_new : Inv {} where
  keyed _ _ h := by simp at h
  journal _ := by simp [Killed]
  epochs := rfl
  detections _ _ _ h := by simp at h
  detected _ h := by simp [Killed] at h
  worksets _ _ h := by simp at h

theorem Inv.epoch_inj (h : r.Inv) (hkilled : r.Killed death) (hkilled' : r.Killed death')
    (hepoch : death.deathEpoch = death'.deathEpoch) : death = death' := by
  have hnodup : (r.deathJournal.map WorkerDeathRecord.deathEpoch).Nodup := by
    rw [h.epochs]
    exact List.nodup_range'
  exact List.inj_on_of_nodup_map hnodup ((h.journal _).mpr hkilled) ((h.journal _).mpr hkilled')
    hepoch

theorem Inv.detection_inj (h : r.Inv) (hkilled : r.Killed death) (hkilled' : r.Killed death')
    (hdetection : death.detectionId = death'.detectionId) : death = death' := by
  obtain ⟨request, hget⟩ := h.detected _ hkilled
  obtain ⟨request', hget'⟩ := h.detected _ hkilled'
  rw [hdetection, hget', Option.some.injEq, Prod.mk.injEq] at hget
  exact hget.2.symm

theorem Inv.epoch_le (h : r.Inv) (hkilled : r.Killed death) : death.deathEpoch ≤ r.deathEpoch := by
  have hmem := List.mem_map_of_mem (f := WorkerDeathRecord.deathEpoch)
    ((h.journal _).mpr hkilled)
  rw [h.epochs, List.mem_range'_1] at hmem
  omega

theorem Inv.length_journal (h : r.Inv) : r.deathJournal.length = r.deathEpoch := by
  have hlength := congrArg List.length h.epochs
  simpa using hlength

/-! ## One report -/

/-- A live Worker of exactly this incarnation, and a detection nobody used. -/
structure Reportable (r : WorkerRegistry) (request : ReportWorkerDeath) : Prop where
  fresh : r.deathDetections.get? request.detectionId = none
  live : ∃ worker, r.workers.get? request.workerId = some worker ∧ worker.state = .alive ∧
    worker.incarnation = request.incarnation

inductive Reported (r : WorkerRegistry) (request : ReportWorkerDeath) :
    ReportWorkerDeathReply → WorkerRegistry → Prop
  | applied (reportable : r.Reportable request) :
      Reported r request ((r.commit request).deathReply request .applied
        (some (request.record (r.deathEpoch + 1) (Nat.succ_pos _))) none) (r.commit request)
  | replayed (death : WorkerDeathRecord)
      (known : (∃ prior, r.deathDetections.get? request.detectionId = some (prior, death)) ∨
        r.Killed death) :
      Reported r request (r.deathReply request .alreadyDead (some death) none) r
  | refused (disposition : WorkerDeathDisposition) (error : Option String)
      (rejects : disposition = .unknown ∨ disposition = .conflict) :
      Reported r request (r.deathReply request disposition none error) r

theorem reportDeath_spec (h : r.Inv) (request : ReportWorkerDeath) :
    Reported r request (r.reportDeath request).1 (r.reportDeath request).2 := by
  unfold reportDeath
  cases hdetection : r.deathDetections.get? request.detectionId with
  | some prior =>
    obtain ⟨priorRequest, priorDeath⟩ := prior
    dsimp only
    split
    · exact .replayed priorDeath (.inl ⟨priorRequest, hdetection⟩)
    · exact .refused _ _ (.inr rfl)
  | none =>
    cases hworker : r.workers.get? request.workerId with
    | none => exact .refused _ _ (.inl rfl)
    | some old =>
      dsimp only
      split
      · rename_i hdead
        split
        · obtain ⟨death, hdeath, hincarnation⟩ := old.dead_record hdead
          have hid : death.workerId = request.workerId := by
            rw [WorkerDeathRecord.workerId, hincarnation]
            exact h.keyed _ _ hworker
          rw [hdeath]
          exact .replayed death (.inr ⟨old, hid ▸ hworker, hdeath⟩)
        · exact .refused _ _ (.inr rfl)
      · rename_i hdead
        split
        · exact .refused _ _ (.inr rfl)
        · rename_i hsame
          have halive : old.state = .alive := by
            cases hstate : old.state with
            | alive => rfl
            | dead => exact absurd hstate hdead
          exact .applied ⟨hdetection, old, hworker, halive, not_not.mp hsame⟩

variable {request : ReportWorkerDeath}

theorem reportDeath_of_reportable (h : r.Reportable request) :
    r.reportDeath request = ((r.commit request).deathReply request .applied
      (some (request.record (r.deathEpoch + 1) (Nat.succ_pos _))) none, r.commit request) := by
  obtain ⟨worker, hworker, halive, hsame⟩ := h.live
  simp [reportDeath, h.fresh, hworker, halive, hsame]

theorem killed_commit (h : r.Reportable request) : (r.commit request).Killed death ↔
      r.Killed death ∨ death = request.record (r.deathEpoch + 1) (Nat.succ_pos _) := by
  obtain ⟨worker, hworker, halive, _⟩ := h.live
  have hget : ∀ w, (r.commit request).workers.get? w = if request.workerId = w then
      some (.killedBy (request.record (r.deathEpoch + 1) (Nat.succ_pos _)))
      else r.workers.get? w := fun w => Dict.get?_set _ _ _ _
  constructor
  · intro hkilled
    obtain ⟨x, hx, hdeath⟩ := hkilled
    rw [hget] at hx
    split at hx
    · cases hx
      exact .inr (Option.some.inj hdeath).symm
    · exact .inl ⟨x, hx, hdeath⟩
  · intro hkilled
    rcases hkilled with ⟨x, hx, hdeath⟩ | rfl
    · have hne : request.workerId ≠ death.workerId := by
        intro heq
        rw [← heq, hworker, Option.some.injEq] at hx
        rw [← hx, worker.alive_record halive] at hdeath
        cases hdeath
      exact ⟨x, by rw [hget, if_neg hne]; exact hx, hdeath⟩
    · exact ⟨_, by rw [hget]; exact if_pos rfl, rfl⟩

theorem Inv.commit (h : r.Inv) (hr : r.Reportable request) : (r.commit request).Inv := by
  have hkilled : ∀ death, (r.commit request).Killed death ↔ r.Killed death ∨
      death = request.record (r.deathEpoch + 1) (Nat.succ_pos _) := fun _ => killed_commit hr
  have hdetection : ∀ id, (r.commit request).deathDetections.get? id =
      if request.detectionId = id then
        some (request, request.record (r.deathEpoch + 1) (Nat.succ_pos _))
      else r.deathDetections.get? id := fun id => Dict.get?_set _ _ _ _
  refine ⟨?_, ?_, ?_, ?_, ?_, ?_⟩
  · intro w worker hworker
    change (r.workers.set _ _).get? w = _ at hworker
    rcases Dict.of_get?_set hworker with ⟨hid, rfl⟩ | hworker
    · exact hid
    · exact h.keyed w worker hworker
  · intro death
    rw [hkilled, ← h.journal]
    simp [WorkerRegistry.commit]
  · change (r.deathJournal ++ [_]).map _ = List.range' 1 (r.deathEpoch + 1)
    rw [List.map_append, h.epochs, List.range'_1_concat, Nat.add_comm 1]
    rfl
  · intro id prior death hget
    rw [hdetection] at hget
    split at hget
    · rename_i hid
      cases hget
      exact ⟨hid, (hkilled _).mpr (.inr rfl)⟩
    · obtain ⟨hid, hold⟩ := h.detections id prior death hget
      exact ⟨hid, (hkilled _).mpr (.inl hold)⟩
  · intro death hdeath
    rw [hdetection]
    rcases (hkilled death).mp hdeath with hold | rfl
    · obtain ⟨prior, hget⟩ := h.detected death hold
      have hne : request.detectionId ≠ death.detectionId := by
        intro heq
        rw [← heq, hr.fresh] at hget
        cases hget
      exact ⟨prior, by rw [if_neg hne]; exact hget⟩
    · exact ⟨request, if_pos rfl⟩
  · intro key deaths hget death hmem
    obtain ⟨hold, hreason⟩ := h.worksets key deaths hget death hmem
    exact ⟨(hkilled _).mpr (.inl hold), hreason⟩

/-- Deaths are added to the journal, and none is lost. -/
structure Keeps (r r' : WorkerRegistry) : Prop where
  inv : r'.Inv
  killed : ∀ death, r.Killed death → r'.Killed death
  journal : r.deathJournal <+: r'.deathJournal

theorem Keeps.trans {r'' : WorkerRegistry} (h : r.Keeps r') (h' : r'.Keeps r'') : r.Keeps r'' :=
  ⟨h'.inv, fun death hd => h'.killed death (h.killed death hd), h.journal.trans h'.journal⟩

theorem Inv.keeps (h : r.Inv) : r.Keeps r := ⟨h, fun _ hd => hd, List.prefix_refl _⟩

theorem Inv.keeps_report (h : r.Inv) (request : ReportWorkerDeath) :
    r.Keeps (r.reportDeath request).2 := by
  have hspec := reportDeath_spec h request
  generalize (r.reportDeath request).1 = reply at hspec
  generalize (r.reportDeath request).2 = after at hspec ⊢
  cases hspec with
  | applied hr =>
    exact ⟨h.commit hr, fun death hd => (killed_commit hr).mpr (.inl hd),
      List.prefix_append _ _⟩
  | replayed _ _ => exact h.keeps
  | refused _ _ _ => exact h.keeps

inductive Registered (r : WorkerRegistry) (nodes : NodeRegistry) (incarnation : WorkerIncarnation) :
    WorkerRegistry → Prop
  | same : Registered r nodes incarnation r
  | added (node : NodeSnapshot) (known : nodes.get? incarnation.nodeId = some node)
      (alive : node.state = .alive) (pid : node.nodePid = incarnation.nodePid)
      (epoch : node.registrationEpoch = incarnation.nodeRegistrationEpoch)
      (new : r.workers.get? incarnation.workerId = none) :
      Registered r nodes incarnation { r with
        workers := r.workers.set incarnation.workerId (.registered incarnation) }

theorem register_spec (nodes : NodeRegistry) (incarnation : WorkerIncarnation) :
    Registered r nodes incarnation (r.register nodes incarnation).2 := by
  unfold register
  split
  · exact .same
  · rename_i node hnode
    split
    · exact .same
    · rename_i hexact
      push Not at hexact
      split
      · rename_i hnew
        exact .added node hnode hexact.1 hexact.2.1 hexact.2.2 hnew
      · split
        · exact .same
        · split
          · exact .same
          · exact .same

variable {nodes : NodeRegistry} {incarnation : WorkerIncarnation}

theorem Registered.deaths (h : Registered r nodes incarnation r') :
    r'.deathJournal = r.deathJournal ∧
      r'.nodeDeathWorksets = r.nodeDeathWorksets := by
  cases h with
  | same => exact ⟨rfl, rfl⟩
  | added _ _ _ _ _ _ => exact ⟨rfl, rfl⟩

theorem Inv.registered (h : r.Inv) (hr : Registered r nodes incarnation r') : r.Keeps r' := by
  cases hr with
  | same => exact h.keeps
  | added node known alive pid epoch new =>
    have hkilled : ∀ death, Killed { r with
        workers := r.workers.set incarnation.workerId (.registered incarnation) } death ↔
        r.Killed death := by
      intro death
      have hget := Dict.get?_set r.workers incarnation.workerId death.workerId
        (.registered incarnation)
      constructor
      · intro hdead
        obtain ⟨worker, hworker, hdeath⟩ := hdead
        change (r.workers.set _ _).get? _ = _ at hworker
        rw [hget] at hworker
        split at hworker
        · cases hworker
          cases hdeath
        · exact ⟨worker, hworker, hdeath⟩
      · intro hdead
        obtain ⟨worker, hworker, hdeath⟩ := hdead
        have hne : incarnation.workerId ≠ death.workerId := by
          intro heq
          rw [← heq, new] at hworker
          cases hworker
        exact ⟨worker, hget.trans ((if_neg hne).trans hworker), hdeath⟩
    refine ⟨⟨fun w worker hworker => ?_, fun death => ?_, h.epochs, fun id request death hd => ?_,
      fun death hd => h.detected death ((hkilled death).mp hd),
      fun key deaths hget death hd => ?_⟩, fun death hd => (hkilled death).mpr hd,
      List.prefix_refl _⟩
    · change (r.workers.set _ _).get? w = _ at hworker
      rcases Dict.of_get?_set hworker with ⟨hid, rfl⟩ | hworker
      · exact hid
      · exact h.keyed w worker hworker
    · rw [hkilled]
      exact h.journal death
    · obtain ⟨hid, hold⟩ := h.detections id request death hd
      exact ⟨hid, (hkilled death).mpr hold⟩
    · obtain ⟨hold, hreason⟩ := h.worksets key deaths hget death hd
      exact ⟨(hkilled death).mpr hold, hreason⟩

/-! ## A dead Node -/

theorem Inv.failWorkers (h : r.Inv) (nodeDeath : NodeDeathRecord)
    (incarnations : List WorkerIncarnation) (committed : List WorkerDeathRecord)
    (hcommitted : ∀ death ∈ committed, r.Killed death ∧ death.reason = .nodeExit) :
    r.Keeps (r.failWorkers nodeDeath incarnations committed).2 ∧
      ∀ deaths, (r.failWorkers nodeDeath incarnations committed).1 = .ok deaths →
        ∀ death ∈ deaths, (r.failWorkers nodeDeath incarnations committed).2.Killed death ∧
          death.reason = .nodeExit := by
  induction incarnations generalizing r committed with
  | nil =>
    refine ⟨h.keeps, fun deaths hdeaths => ?_⟩
    cases hdeaths
    exact hcommitted
  | cons i rest ih =>
    have hspec := reportDeath_spec h (nodeExit nodeDeath i)
    have hkeeps := h.keeps_report (nodeExit nodeDeath i)
    simp only [WorkerRegistry.failWorkers]
    cases hreport : r.reportDeath (nodeExit nodeDeath i) with
    | mk reply after =>
      rw [hreport] at hspec hkeeps
      dsimp only at hspec hkeeps
      have hkept : ∀ death ∈ committed, after.Killed death ∧ death.reason = .nodeExit :=
        fun death hd => ⟨hkeeps.killed death (hcommitted death hd).1, (hcommitted death hd).2⟩
      cases hspec with
      | applied hr =>
        have hnext : ∀ death ∈ committed ++ [(nodeExit nodeDeath i).record (r.deathEpoch + 1)
            (Nat.succ_pos _)], (r.commit (nodeExit nodeDeath i)).Killed death ∧
            death.reason = .nodeExit := by
          intro death hd
          rcases List.mem_append.mp hd with hd | hd
          · exact hkept death hd
          · rw [List.mem_singleton.mp hd]
            exact ⟨(killed_commit hr).mpr (.inr rfl), rfl⟩
        obtain ⟨hrest, hall⟩ := ih hkeeps.inv _ hnext
        exact ⟨hkeeps.trans hrest, hall⟩
      | replayed death known =>
        obtain ⟨hrest, hall⟩ := ih hkeeps.inv _ hkept
        exact ⟨hkeeps.trans hrest, hall⟩
      | refused disposition error rejects =>
        rcases rejects with rfl | rfl
        · exact ⟨hkeeps, fun deaths hdeaths => by cases hdeaths⟩
        · exact ⟨hkeeps, fun deaths hdeaths => by cases hdeaths⟩

theorem Inv.failNode (h : r.Inv) (nodeDeath : NodeDeathRecord) :
    r.Keeps (r.failNode nodeDeath).2 := by
  unfold WorkerRegistry.failNode
  split
  · exact h.keeps
  · split
    · exact h.keeps
    · have hfail := h.failWorkers nodeDeath (r.candidates nodeDeath) []
        (fun _ hd => by cases hd)
      cases hresult : r.failWorkers nodeDeath (r.candidates nodeDeath) [] with
      | mk result after =>
        rw [hresult] at hfail
        obtain ⟨hkeeps, hall⟩ := hfail
        cases result with
        | error raised => exact hkeeps
        | ok committed =>
          refine ⟨⟨hkeeps.inv.keyed, hkeeps.inv.journal, hkeeps.inv.epochs,
            hkeeps.inv.detections, hkeeps.inv.detected, fun key deaths hget death hd => ?_⟩,
            hkeeps.killed, hkeeps.journal⟩
          change (after.nodeDeathWorksets.set _ _).get? key = _ at hget
          rcases Dict.of_get?_set hget with ⟨_, rfl⟩ | hget
          · exact hall committed rfl death hd
          · exact hkeeps.inv.worksets key deaths hget death hd

/-- The Node's death has killed exactly the listed Workers, and nothing else changes. -/
structure Fails (r : WorkerRegistry) (nodeDeath : NodeDeathRecord)
    (incarnations : List WorkerIncarnation) (deaths : List WorkerDeathRecord)
    (after : WorkerRegistry) : Prop where
  inv : r.Inv → after.Inv
  killed : ∀ death, after.Killed death ↔ r.Killed death ∨ death ∈ deaths
  reason : ∀ death ∈ deaths, death.reason = .nodeExit
  bound : ∀ death ∈ deaths, death.deathEpoch ≤ r.deathEpoch + incarnations.length
  all : ∀ incarnation ∈ incarnations, ∃ death ∈ deaths, death.incarnation = incarnation
  named : ∀ death ∈ deaths, death.incarnation ∈ incarnations
  frame : ∀ w, after.workers.get? w = r.workers.get? w ∨
    ∃ death ∈ deaths, death.workerId = w ∧ after.workers.get? w = some (.killedBy death)
  worksets : after.nodeDeathWorksets = r.nodeDeathWorksets

variable {nodeDeath : NodeDeathRecord}

theorem nodeExit_detection_inj {a b : WorkerIncarnation}
    (h : (nodeExit nodeDeath a).detectionId = (nodeExit nodeDeath b).detectionId) :
    a.workerId = b.workerId := by
  have hhex : a.workerId.value.hex = b.workerId.value.hex := by
    have hlist := congrArg String.toList h
    simp only [nodeExit, nodeExitDetection, String.toList_append] at hlist
    exact String.toList_injective (List.append_cancel_left hlist)
  have hvalue := OpaqueValue.hex_inj hhex
  cases ha : a.workerId
  cases hb : b.workerId
  simp_all

theorem failWorkers_spec {incarnations : List WorkerIncarnation}
    (hnodup : (incarnations.map WorkerIncarnation.workerId).Nodup)
    (hreportable : ∀ i ∈ incarnations, r.Reportable (nodeExit nodeDeath i))
    (committed : List WorkerDeathRecord) :
    ∃ deaths after, r.failWorkers nodeDeath incarnations committed =
      (.ok (committed ++ deaths), after) ∧ Fails r nodeDeath incarnations deaths after := by
  induction incarnations generalizing r committed with
  | nil =>
    exact ⟨[], r, by simp [failWorkers], id, by simp, by simp, by simp, by simp, by simp,
      fun _ => .inl rfl, rfl⟩
  | cons i rest ih =>
    obtain ⟨hi, hrest⟩ := List.nodup_cons.mp hnodup
    have hfirst := hreportable i List.mem_cons_self
    let death := (nodeExit nodeDeath i).record (r.deathEpoch + 1) (Nat.succ_pos _)
    have hnext : ∀ j ∈ rest,
        (r.commit (nodeExit nodeDeath i)).Reportable (nodeExit nodeDeath j) := by
      intro j hj
      have hne : i.workerId ≠ j.workerId := by
        intro heq
        exact hi (heq ▸ List.mem_map_of_mem hj)
      have hold := hreportable j (List.mem_cons_of_mem _ hj)
      constructor
      · refine (Dict.get?_set_of_ne _ _ fun heq => ?_).trans hold.fresh
        exact hne (nodeExit_detection_inj heq)
      · obtain ⟨worker, hworker, hlive⟩ := hold.live
        exact ⟨worker, (Dict.get?_set_of_ne _ _ hne).trans hworker, hlive⟩
    obtain ⟨deaths, after, hfail, hspec⟩ := ih hrest hnext (committed ++ [death])
    refine ⟨death :: deaths, after, ?_, ?_, ?_, ?_, ?_, ?_, ?_, ?_, hspec.worksets⟩
    · rw [failWorkers, reportDeath_of_reportable hfirst]
      rw [List.append_assoc] at hfail
      exact hfail
    · exact fun h => hspec.inv (h.commit hfirst)
    · intro d
      rw [hspec.killed, killed_commit hfirst, List.mem_cons, or_assoc]
    · intro d hd
      rcases List.mem_cons.mp hd with rfl | hd
      · rfl
      · exact hspec.reason d hd
    · intro d hd
      rcases List.mem_cons.mp hd with rfl | hd
      · change r.deathEpoch + 1 ≤ _
        simp
      · have hbound := hspec.bound d hd
        change _ ≤ r.deathEpoch + 1 + _ at hbound
        simp only [List.length_cons]
        omega
    · intro j hj
      rcases List.mem_cons.mp hj with rfl | hj
      · exact ⟨death, List.mem_cons_self, rfl⟩
      · obtain ⟨d, hd, hsame⟩ := hspec.all j hj
        exact ⟨d, List.mem_cons_of_mem _ hd, hsame⟩
    · intro d hd
      rcases List.mem_cons.mp hd with rfl | hd
      · exact List.mem_cons_self
      · exact List.mem_cons_of_mem _ (hspec.named d hd)
    · intro w
      rcases hspec.frame w with hsame | ⟨d, hd, hw, hset⟩
      · by_cases hid : i.workerId = w
        · refine .inr ⟨death, List.mem_cons_self, hid, hsame.trans ?_⟩
          rw [← hid]
          exact Dict.get?_set_self _ _ _
        · exact .inl (hsame.trans (Dict.get?_set_of_ne _ _ hid))
      · exact .inr ⟨d, List.mem_cons_of_mem _ hd, hw, hset⟩

theorem mem_candidates (h : r.Inv) {i : WorkerIncarnation} :
    i ∈ r.candidates nodeDeath ↔ i.On nodeDeath ∧ ∃ worker,
      r.workers.get? i.workerId = some worker ∧ worker.state = .alive ∧
        worker.incarnation = i := by
  simp only [candidates, List.mem_map, List.mem_filter, List.mem_insertionSort,
    Dict.mem_values_iff, decide_eq_true_eq]
  constructor
  · intro hi
    obtain ⟨worker, ⟨⟨w, hworker⟩, halive, hon⟩, rfl⟩ := hi
    have hw := h.keyed w worker hworker
    exact ⟨hon, worker, hw.symm ▸ hworker, halive, rfl⟩
  · intro hi
    obtain ⟨hon, worker, hworker, halive, rfl⟩ := hi
    exact ⟨worker, ⟨⟨_, hworker⟩, halive, hon⟩, rfl⟩

theorem nodup_candidates (h : r.Inv) (nodeDeath : NodeDeathRecord) :
    ((r.candidates nodeDeath).map WorkerIncarnation.workerId).Nodup := by
  have hkeys : (r.workers.values.map fun s => s.incarnation.workerId) = r.workers.keys := by
    rw [Dict.values, Dict.keys, List.map_map]
    refine List.map_congr_left fun item hitem => ?_
    exact h.keyed item.1 item.2 (Dict.get?_eq_some_iff.mpr hitem)
  have hnodup : (r.workers.values.map fun s => s.incarnation.workerId).Nodup := by
    rw [hkeys]
    exact r.workers.nodup
  rw [candidates, List.map_map]
  refine List.Nodup.sublist (List.Sublist.map _ List.filter_sublist) ?_
  exact ((List.perm_insertionSort _ _).map _).nodup_iff.mpr hnodup

/-- Every live Worker of the Node can be reported under its own detection. -/
def Failable (r : WorkerRegistry) (nodeDeath : NodeDeathRecord) : Prop :=
  ∀ w worker, r.workers.get? w = some worker → worker.state = .alive →
    worker.incarnation.On nodeDeath →
    r.deathDetections.get? (nodeExit nodeDeath worker.incarnation).detectionId = none

/-- An unexpected Node death kills every Worker of the incarnation. -/
theorem failNode_spec (h : r.Inv) (hreason : nodeDeath.reason = .processExit)
    (hfresh : r.nodeDeathWorksets.get? nodeDeath.key = none) (hfailable : r.Failable nodeDeath) :
    ∃ deaths after, r.failNode nodeDeath = (.ok deaths, { after with
      nodeDeathWorksets := after.nodeDeathWorksets.set nodeDeath.key deaths }) ∧
      Fails r nodeDeath (r.candidates nodeDeath) deaths after := by
  have hreportable : ∀ i ∈ r.candidates nodeDeath, r.Reportable (nodeExit nodeDeath i) := by
    intro i hi
    obtain ⟨hon, worker, hworker, halive, rfl⟩ := (mem_candidates h).mp hi
    exact ⟨hfailable _ worker hworker halive hon, worker, hworker, halive, rfl⟩
  obtain ⟨deaths, after, hfail, hspec⟩ :=
    failWorkers_spec (nodup_candidates h nodeDeath) hreportable []
  exact ⟨deaths, after, by simp [failNode, hreason, hfresh, hfail], hspec⟩

end WorkerRegistry

end MiniRay
