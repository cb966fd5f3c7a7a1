import MiniRay.Control.ActorRuns

/-! Once the visits of a Node's death are over, no Actor's route uses that Node again. -/

namespace MiniRay

open Run

namespace ActorRecord

variable {context : Context} {r r' : ActorRecord} {nodeId : NodeID}

theorem target_of_endpoint {e : ActorEndpoint} (h : r.endpoint = some e) :
    r.target = some e.nodeId := by
  simp [target, h]

variable {reservation : ReserveActorWorkerRequest}

theorem target_of_creating (hendpoint : r.endpoint = none) (hstate : r.state = .creating)
    (hfrozen : r.initialReservation = some reservation) :
    r.target = some reservation.targetNodeId := by
  simp [target, hendpoint, hstate, hfrozen]

theorem target_of_restarting (hendpoint : r.endpoint = none) (hstate : r.state = .restarting)
    (hfrozen : r.restartReservation = some reservation) :
    r.target = some reservation.targetNodeId := by
  simp [target, hendpoint, hstate, hfrozen]

theorem Step.target (h : Step context r r') (hvalid : r.Valid) (hstate : r'.state ≠ .dead)
    (htarget : r'.target = some nodeId) : r.target = some nodeId ∨ context.selects nodeId := by
  cases h with
  | @reserved target state unreserved selected =>
    have hendpoint := hvalid.endpoint_none (by rw [state]; decide)
    have hmoved : ({ r with initialReservation := some (firstReservation r.request target) } :
        ActorRecord).target = some target := by
      simp [ActorRecord.target, hendpoint, state, firstReservation]
    obtain rfl := Option.some.inj (hmoved.symm.trans htarget)
    exact .inr selected
  | created state frozen accepted =>
    have hendpoint := hvalid.endpoint_none (by rw [state]; decide)
    left
    rw [target_of_creating hendpoint state frozen, ← accepted.there, ← htarget]
    exact (target_of_endpoint rfl).symm
  | refused => exact absurd rfl hstate
  | exhausted => exact absurd rfl hstate
  | restarting state own exited budget =>
    obtain ⟨e, he, hnode⟩ := exited_endpoint exited
    have hmoved : (r.startRestart _ own exited.epoch).target = some _ :=
      target_of_restarting rfl rfl rfl
    left
    rw [target_of_endpoint he, hnode, ← htarget, hmoved]
    rfl
  | restarted state frozen accepted =>
    have hendpoint := hvalid.endpoint_none (by rw [state]; decide)
    left
    rw [target_of_restarting hendpoint state frozen, ← accepted.there, ← htarget]
    exact (target_of_endpoint rfl).symm
  | restartFailed => exact absurd rfl hstate
  | nodeFailed => exact absurd rfl hstate

end ActorRecord

namespace ActorCoordinator

variable {s : ActorCoordinator} {nodeId : NodeID} {actorId : ActorID} {action : ActorAction}

/-- Neither the record nor the thread that holds it turns to the Node. -/
structure Safe (nodeId : NodeID) (actorId : ActorID) (s : ActorCoordinator) : Prop where
  unused : ¬ Uses nodeId (s.actors.actors.get? actorId)
  unselected : ∀ x thread task node, s.threads.get? x = some thread → thread.task = some task →
    task.actorId = actorId → task.selectedNode = some node → node.nodeId ≠ nodeId

theorem ne_of_alive (h : s.Inv) (hdead : s.nodes.Dead nodeId) {node : NodeSnapshot} {id : NodeID}
    (hnode : s.nodes.get? id = some node) (halive : node.state = .alive) :
    node.nodeId ≠ nodeId := by
  intro heq
  have hid : id = nodeId := (h.nodes.keyed _ _ hnode).symm.trans heq
  subst hid
  obtain ⟨old, hold, hgone⟩ := hdead
  obtain rfl := Option.some.inj (hold.symm.trans hnode)
  rw [hgone] at halive
  cases halive

theorem unselected_step (h : s.Inv) (hdead : s.nodes.Dead nodeId)
    (hold : ∀ x thread task node, s.threads.get? x = some thread → thread.task = some task →
      task.actorId = actorId → task.selectedNode = some node → node.nodeId ≠ nodeId)
    (action : ActorAction) (x : Nat) (thread : ActorThread) (task : ActorTask)
    (node : NodeSnapshot) (hthread : (s.step action).threads.get? x = some thread)
    (htask : thread.task = some task) (hactor : task.actorId = actorId)
    (hnode : task.selectedNode = some node) : node.nodeId ≠ nodeId := by
  rcases (step_spec h action).threads x thread hthread with hsame | ⟨_, horigin⟩
  · exact hold x thread task node hsame htask hactor hnode
  · obtain ⟨id, hid, halive⟩ := (horigin task htask).selected node hnode
    exact ne_of_alive h hdead hid halive

theorem Safe.step (hsafe : Safe nodeId actorId s) (h : s.Inv) (hdead : s.nodes.Dead nodeId)
    (action : ActorAction) : Safe nodeId actorId (s.step action) where
  unselected := unselected_step h hdead hsafe.unselected action
  unused := by
    obtain ⟨moved, hmoves, hlock⟩ := (step_spec h action).moves
    by_cases hactor : actorId = moved
    · subst hactor
      rcases hmoves.record with hsame | ⟨_, request, _, hnew⟩ | ⟨r, r', hr, hr', hstep⟩
      · rw [hsame]
        exact hsafe.unused
      · rw [hnew]
        rintro ⟨r, hr, _, htarget⟩
        cases hr
        simp [ActorRecord.target, ActorRecord.new] at htarget
      · rw [hr']
        rintro ⟨x, hx, hopen, htarget⟩
        cases hx
        have hvalid := (h.records _ _ hr).2
        rcases hstep.target hvalid hopen htarget with hused | hselected
        · exact hsafe.unused ⟨r, hr, hstep.not_dead, hused⟩
        · unfold context at hselected
          cases htask : s.taskOf action with
          | none =>
            rw [htask] at hselected
            exact hselected
          | some section_ =>
            obtain ⟨task, input⟩ := section_
            rw [htask] at hselected
            obtain ⟨node, hnode, heq⟩ := hselected
            have hheld := hlock task input htask
            cases action with
            | advance tid _ =>
              simp only [taskOf] at htask
              split at htask
              · rename_i hthread
                cases htask
                exact hsafe.unselected tid _ task node hthread rfl hheld hnode heq
              · cases htask
            | _ => cases htask
    · rw [hmoves.others _ hactor]
      exact hsafe.unused

theorem safe_of_absent (h : s.Inv) (habsent : s.actors.actors.get? actorId = none) :
    Safe nodeId actorId s where
  unused := by
    rw [habsent]
    rintro ⟨_, hr, _⟩
    cases hr
  unselected x thread task node hthread htask hactor hnode := by
    have hholds := h.held x thread task hthread htask
    rw [hactor, habsent] at hholds
    cases task with
    | selected request node =>
      obtain ⟨_, hr, _⟩ := hholds
      cases hr
    | _ => cases hnode

/-- What is left to visit is all that may still use the Node. -/
def Visiting (s : ActorCoordinator) : ActorErrand → Prop
  | .committed nodeId error _ => s.nodes.Dead nodeId ∧ error ≠ ""
  | .failing nodeId error _ later => s.nodes.Dead nodeId ∧ error ≠ "" ∧
      ∀ actorId, actorId ∉ later → Safe nodeId actorId s
  | _ => True

def FenceInv (s : ActorCoordinator) : Prop :=
  ∀ x thread, s.threads.get? x = some thread → s.Visiting thread.errand

theorem Visiting.step {errand : ActorErrand} (hvisiting : s.Visiting errand) (h : s.Inv)
    (action : ActorAction) : (s.step action).Visiting errand := by
  have hspec := step_spec h action
  cases errand with
  | none => trivial
  | draining later => trivial
  | committed nodeId error ack => exact ⟨hspec.dead _ hvisiting.1, hvisiting.2⟩
  | failing nodeId error ack later =>
    obtain ⟨hdead, hexplained, hsafe⟩ := hvisiting
    exact ⟨hspec.dead _ hdead, hexplained, fun actorId hout =>
      (hsafe actorId hout).step h hdead action⟩

theorem step_fenceInv (h : s.Inv) (hfence : s.FenceInv) (action : ActorAction) :
    (s.step action).FenceInv := by
  intro x thread hthread
  have hspec := step_spec h action
  rcases hspec.threads x thread hthread with hsame | ⟨herrand, _⟩
  · exact (hfence x thread hsame).step h action
  · have hold : ∀ errand, (s.threads.get? x).map ActorThread.errand = some errand →
        s.Visiting errand := by
      intro errand herrand
      obtain ⟨old, hget, rfl⟩ := Option.map_eq_some_iff.mp herrand
      exact hfence x old hget
    generalize (s.threads.get? x).map ActorThread.errand = old at herrand hold
    generalize thread.errand = errand at herrand ⊢
    cases herrand with
    | same => exact (hold _ rfl).step h action
    | none => trivial
    | draining => trivial
    | committed dead explained => exact ⟨dead, explained⟩
    | listed =>
      obtain ⟨hdead, hexplained⟩ := hold _ rfl
      refine ⟨hspec.dead _ hdead, hexplained, fun actorId hout => ?_⟩
      have habsent : s.actors.actors.get? actorId = none := by
        rw [Dict.get?_eq_none_iff]
        simpa [ActorRegistry.actorIds] using hout
      exact (safe_of_absent h habsent).step h hdead action
    | @visited nodeId error ack visitedId later unlocked failed =>
      obtain ⟨hdead, hexplained, hsafe⟩ := hold _ rfl
      refine ⟨hspec.dead _ hdead, hexplained, fun actorId hout => ?_⟩
      by_cases hactor : actorId = visitedId
      · subst hactor
        refine ⟨failed hexplained, unselected_step h hdead ?_ action⟩
        intro x other task node hother htask heq
        exact absurd heq (free_of_unlocked unlocked hother htask)
      · exact (hsafe actorId (by simp [hactor, hout])).step h hdead action

theorem run_fenceInv (actions : List ActorAction) : (run step {} actions).FenceInv := by
  have hboth : (run step {} actions).Inv ∧ (run step {} actions).FenceInv := by
    refine run_invariant (p := fun s : ActorCoordinator => s.Inv ∧ s.FenceInv) ?_ ?_ actions
    · intro s action h
      exact ⟨(step_spec h.1 action).inv, step_fenceInv h.1 h.2 action⟩
    · exact ⟨inv_new, fun _ _ h => by simp at h⟩
  exact hboth.2

/-- No Actor's route uses the dead Node, now or later. -/
def Fenced (nodeId : NodeID) (s : ActorCoordinator) : Prop :=
  s.nodes.Dead nodeId ∧ ∀ actorId, Safe nodeId actorId s

theorem Fenced.run (hfenced : Fenced nodeId s) (h : s.Inv) (actions : List ActorAction) :
    Fenced nodeId (Run.run step s actions) := by
  have hboth : (Run.run step s actions).Inv ∧ Fenced nodeId (Run.run step s actions) := by
    refine run_invariant (p := fun s : ActorCoordinator => s.Inv ∧ Fenced nodeId s) ?_ ⟨h, hfenced⟩
      actions
    intro t action ht
    exact ⟨(step_spec ht.1 action).inv, (step_spec ht.1 action).dead _ ht.2.1,
      fun actorId => (ht.2.2 actorId).step ht.1 ht.2.1 action⟩
  exact hboth.2

end ActorCoordinator

end MiniRay
