import MiniRay.Node.ClusterSnapshots

/-! An epoch identifies the live Nodes, not what a reader is shown of them: a reader only sees those
whose owner fences are complete, and these change within an epoch. -/

namespace MiniRay

open Run

/-! ## Frames -/

namespace NodeRegistry

variable {r : NodeRegistry}

theorem register_epoch {r' : NodeRegistry} {nodeId : NodeID} {address : Address} {nodePid : Nat}
    {hpid : 0 < nodePid} {fresh : Bool}
    (h : r.register nodeId address nodePid hpid = some (fresh, r')) :
    r' = r ∧ r.nodes.get? nodeId ≠ none ∨
      r.nodes.get? nodeId = none ∧ r'.membershipEpoch = r.membershipEpoch + 1 := by
  unfold register at h
  split at h
  · rename_i old hold
    split at h
    · cases h
    · split at h
      · cases h
      · cases h
        exact .inl ⟨rfl, by simp [hold]⟩
  · rename_i hnew
    cases h
    exact .inr ⟨hnew, rfl⟩

theorem reportDeath_epoch (r : NodeRegistry) (request : ReportNodeDeath) :
    (r.reportDeath request).2 = r ∨
      (r.reportDeath request).2.membershipEpoch = r.membershipEpoch + 1 := by
  unfold reportDeath
  split
  · split <;> exact .inl rfl
  · split
    · exact .inl rfl
    · split
      · split <;> exact .inl rfl
      · split
        · exact .inl rfl
        · exact .inr rfl

end NodeRegistry

namespace GcsMembership

variable (s : GcsMembership)

theorem commitOwnerDeath_nodes (death : WorkerDeathRecord) :
    (s.commitOwnerDeath death).2.nodes = s.nodes := by
  unfold GcsMembership.commitOwnerDeath
  split <;> rfl

theorem commitOwnerDeaths_nodes (deaths : List WorkerDeathRecord) :
    (s.commitOwnerDeaths deaths).2.nodes = s.nodes := by
  induction deaths generalizing s with
  | nil => rfl
  | cons death rest ih =>
    have hfirst := s.commitOwnerDeath_nodes death
    simp only [GcsMembership.commitOwnerDeaths]
    cases hresult : s.commitOwnerDeath death with
    | mk result after =>
      rw [hresult] at hfirst
      cases result with
      | error raised => exact hfirst
      | ok value => exact (ih after).trans hfirst

theorem markNodeDead_nodes (death : NodeDeathRecord) :
    (s.markNodeDead death).2.nodes = s.nodes := by
  unfold GcsMembership.markNodeDead
  split <;> rfl

theorem reportNodeDeath_nodes (message : ReportNodeDeath) :
    (s.reportNodeDeath message).2.nodes = (s.nodes.reportDeath message).2 := by
  unfold GcsMembership.reportNodeDeath
  dsimp only
  split
  · rfl
  · split
    · rfl
    · rename_i committed workers hfail
      have hcommits := commitOwnerDeaths_nodes
        { s with nodes := (s.nodes.reportDeath message).2, workers := workers } committed
      split
      · rename_i raised after hafter
        rw [hafter] at hcommits
        exact hcommits
      · rename_i after hafter
        rw [hafter] at hcommits
        exact (markNodeDead_nodes _ _).trans hcommits

theorem reportWorkerDeath_nodes (message : ReportWorkerDeath) :
    (s.reportWorkerDeath message).2.nodes = s.nodes := by
  unfold GcsMembership.reportWorkerDeath
  dsimp only
  split
  · rfl
  · split
    · exact commitOwnerDeath_nodes _ _
    · rfl

theorem driveOnce_nodes (tid : Nat) : (s.driveOnce tid).nodes = s.nodes := by
  unfold GcsMembership.driveOnce
  split
  · rfl
  · dsimp only
    split
    · rfl
    · split
      · rfl
      · split <;> rfl

theorem deliver_nodes (tid : Nat) (outcome : RpcOutcome InstallOwnerDeathFenceReply) :
    (s.deliver tid outcome).nodes = s.nodes := by
  unfold GcsMembership.deliver
  split
  · rfl
  · cases outcome with
    | raised => rfl
    | malformed => rfl
    | replied reply =>
      dsimp only
      split <;> rfl

theorem poll_nodes (consumer : Nat) (lost : Bool) : (s.poll consumer lost).nodes = s.nodes := by
  unfold GcsMembership.poll
  dsimp only
  split
  · rfl
  · split <;> rfl

theorem registerNode_nodes (message : RegisterNode) :
    (s.nodes.register message.nodeId message.address message.nodePid message.pid_pos = none ∧
      (s.registerNode message).2.nodes = s.nodes) ∨ ∃ fresh nodes,
      s.nodes.register message.nodeId message.address message.nodePid message.pid_pos =
        some (fresh, nodes) ∧ (s.registerNode message).2.nodes = nodes := by
  unfold GcsMembership.registerNode
  split
  · rename_i hregister
    exact .inl ⟨hregister, rfl⟩
  · rename_i fresh nodes hregister
    refine .inr ⟨fresh, nodes, hregister, ?_⟩
    split
    · rfl
    · split <;> rfl

end GcsMembership

/-! ## The control plane -/

namespace ClusterMembership

variable {s s' : ClusterMembership}

/-- The epoch goes on, or the live Nodes stay the same. -/
def Turns (s s' : ClusterMembership) : Prop :=
  (s'.gcs.nodes.membershipEpoch = s.gcs.nodes.membershipEpoch ∧
      s'.liveNodeInfos = s.liveNodeInfos) ∨
    s'.gcs.nodes.membershipEpoch = s.gcs.nodes.membershipEpoch + 1

theorem liveNodeInfos_congr (hnodes : s'.gcs.nodes.nodes = s.gcs.nodes.nodes)
    (hresources : s'.resources = s.resources) : s'.liveNodeInfos = s.liveNodeInfos := by
  have hinfo : s'.nodeInfo = s.nodeInfo := by
    funext node
    simp only [nodeInfo, hresources]
  rw [liveNodeInfos, liveNodeInfos, hnodes, hinfo]

theorem turns_of_nodes (hnodes : s'.gcs.nodes = s.gcs.nodes)
    (hresources : s'.resources = s.resources) : s.Turns s' :=
  .inl ⟨by rw [hnodes], liveNodeInfos_congr (by rw [hnodes]) hresources⟩

theorem turns_reported (message : ReportNodeDeath)
    (hnodes : s'.gcs.nodes = (s.gcs.nodes.reportDeath message).2)
    (hresources : s'.resources = s.resources) : s.Turns s' := by
  rcases s.gcs.nodes.reportDeath_epoch message with hsame | hnext
  · exact turns_of_nodes (hnodes.trans hsame) hresources
  · exact .inr (by rw [hnodes, hnext])

theorem turns_registerNode (s : ClusterMembership) (message : NodeRegistration) :
    s.Turns (s.registerNode message) := by
  have hgcs := s.gcs.registerNode_nodes message.toRegisterNode
  unfold registerNode
  split
  · rename_i node hnode
    split
    · exact turns_of_nodes rfl rfl
    · rcases hgcs with ⟨_, hsame⟩ | ⟨fresh, nodes, hregister, hnodes⟩
      · exact turns_of_nodes hsame rfl
      · rcases NodeRegistry.register_epoch hregister with ⟨rfl, _⟩ | ⟨hnew, _⟩
        · exact turns_of_nodes hnodes rfl
        · rw [show s.gcs.nodes.nodes.get? message.nodeId = some node from hnode] at hnew
          cases hnew
  · rename_i hnew
    have hfresh : s.gcs.nodes.nodes.get? message.nodeId = none := hnew
    rcases hgcs with ⟨hrefused, _⟩ | ⟨fresh, nodes, hregister, hnodes⟩
    · simp [NodeRegistry.register, hfresh] at hrefused
    · rcases NodeRegistry.register_epoch hregister with ⟨_, hknown⟩ | ⟨_, hepoch⟩
      · exact absurd hfresh hknown
      · exact .inr (by rw [← hepoch, ← hnodes])

theorem turns_step (s : ClusterMembership) (action : ClusterAction) : s.Turns (s.step action) := by
  cases action with
  | registerNode message => exact turns_registerNode s message
  | unregisterNode message => exact turns_reported message.report rfl rfl
  | reportNodeDeath message =>
    exact turns_reported message (s.gcs.reportNodeDeath_nodes message) rfl
  | registerWorkerIncarnation incarnation => exact turns_of_nodes rfl rfl
  | reportWorkerDeath message => exact turns_of_nodes (s.gcs.reportWorkerDeath_nodes message) rfl
  | enhancedPublication request => exact turns_of_nodes rfl rfl
  | driveOnce tid => exact turns_of_nodes (s.gcs.driveOnce_nodes tid) rfl
  | deliver tid outcome => exact turns_of_nodes (s.gcs.deliver_nodes tid outcome) rfl
  | advancePublication key => exact turns_of_nodes rfl rfl
  | deliverPublication key reply => exact turns_of_nodes rfl rfl
  | poll consumer lost => exact turns_of_nodes (s.gcs.poll_nodes consumer lost) rfl
  | getNodes => exact turns_of_nodes rfl rfl

/-- `live` is what each epoch so far stands for. -/
structure Listed (live : Nat → List NodeInfo) (out : List HandedOut) (s : ClusterMembership) :
    Prop where
  zero : live 0 = []
  current : live s.gcs.nodes.membershipEpoch = s.liveNodeInfos
  handed : ∀ o ∈ out, o.view.membershipEpoch ≤ s.gcs.nodes.membershipEpoch ∧
    o.live = live o.view.membershipEpoch ∧
    o.view.nodes = o.live.filter fun node => o.shown node.nodeId
  replies : ∀ id view, s.deathReplies.get? id = some view →
    view.membershipEpoch ≤ s.gcs.nodes.membershipEpoch ∧ view.nodes = live view.membershipEpoch

variable {live : Nat → List NodeInfo} {out : List HandedOut}

theorem listed_new : Listed (fun _ => []) [] {} where
  zero := rfl
  current := rfl
  handed _ h := by cases h
  replies _ _ h := by cases h

theorem Listed.turn (h : Listed live out s) (hturns : s.Turns s')
    (hreplies : s'.deathReplies = s.deathReplies) : ∃ live', Listed live' out s' := by
  rcases hturns with ⟨hepoch, hlist⟩ | hepoch
  · refine ⟨live, h.zero, by rw [hepoch, hlist]; exact h.current, ?_, ?_⟩
    · rw [hepoch]
      exact h.handed
    · rw [hepoch, hreplies]
      exact h.replies
  · have hold : ∀ e, e ≤ s.gcs.nodes.membershipEpoch →
        Function.update live s'.gcs.nodes.membershipEpoch s'.liveNodeInfos e = live e := by
      intro e he
      exact Function.update_of_ne (by omega) _ _
    refine ⟨Function.update live s'.gcs.nodes.membershipEpoch s'.liveNodeInfos, ?_, ?_, ?_, ?_⟩
    · rw [hold 0 (Nat.zero_le _)]
      exact h.zero
    · exact Function.update_self _ _ _
    · intro o ho
      obtain ⟨hle, hlive, hnodes⟩ := h.handed o ho
      exact ⟨by omega, by rw [hold _ hle]; exact hlive, hnodes⟩
    · intro id view hview
      rw [hreplies] at hview
      obtain ⟨hle, hnodes⟩ := h.replies id view hview
      exact ⟨by omega, by rw [hold _ hle]; exact hnodes⟩

theorem Listed.deathView (h : Listed live out s) (s' : ClusterMembership)
    {message : ReportNodeDeath}
    (hreplies : ∀ id view, s'.deathReplies.get? id = some view →
      s.deathReplies.get? id = some view)
    (hsame : (s'.reported message).liveSnapshot = s.liveSnapshot) :
    (s'.deathView message).membershipEpoch ≤ s.gcs.nodes.membershipEpoch ∧
      (s'.deathView message).nodes = live (s'.deathView message).membershipEpoch := by
  have hcurrent : (s'.reported message).liveSnapshot.membershipEpoch ≤
      s.gcs.nodes.membershipEpoch ∧ (s'.reported message).liveSnapshot.nodes =
        live (s'.reported message).liveSnapshot.membershipEpoch := by
    rw [hsame]
    exact ⟨Nat.le_refl _, h.current.symm⟩
  unfold ClusterMembership.deathView
  split
  · split
    · cases hget : s'.deathReplies.get? message.detectionId with
      | none => exact hcurrent
      | some view => exact h.replies _ view (hreplies _ view hget)
    · exact hcurrent
  · exact hcurrent

theorem Listed.report (h : Listed live out s) (s' : ClusterMembership)
    (message : ReportNodeDeath)
    (hnodes : s'.gcs.nodes = (s.gcs.nodes.reportDeath message).2)
    (hresources : s'.resources = s.resources)
    (hreplies : s'.deathReplies = s.keptReplies message) :
    ∃ live', Listed live' out s' ∧
      (s.deathView message).membershipEpoch ≤ s'.gcs.nodes.membershipEpoch ∧
      (s.deathView message).nodes = live' (s.deathView message).membershipEpoch := by
  have hturns : s.Turns { s' with deathReplies := s.deathReplies } :=
    turns_reported message hnodes hresources
  obtain ⟨live', hmid⟩ := h.turn hturns rfl
  have hsame : (s.reported message).liveSnapshot =
      ClusterMembership.liveSnapshot { s' with deathReplies := s.deathReplies } := by
    have hlist : (s.reported message).liveNodeInfos =
        ClusterMembership.liveNodeInfos { s' with deathReplies := s.deathReplies } :=
      liveNodeInfos_congr (by rw [hnodes]; rfl) hresources.symm
    rw [liveSnapshot, liveSnapshot, hlist, hnodes]
    rfl
  obtain ⟨hle, hview⟩ := hmid.deathView s (fun _ _ hget => hget) hsame
  refine ⟨live', ⟨hmid.zero, hmid.current, hmid.handed, ?_⟩, hle, hview⟩
  intro id view hget
  rw [hreplies, keptReplies] at hget
  split at hget
  · rcases Dict.of_get?_set hget with ⟨_, rfl⟩ | hget
    · exact ⟨hle, hview⟩
    · exact hmid.replies id view hget
  · exact hmid.replies id view hget

theorem Listed.hands (h : Listed live out s) {new : List HandedOut}
    (hnew : ∀ o ∈ new, o.view.membershipEpoch ≤ s.gcs.nodes.membershipEpoch ∧
      o.live = live o.view.membershipEpoch ∧
      o.view.nodes = o.live.filter fun node => o.shown node.nodeId) :
    Listed live (out ++ new) s := by
  refine ⟨h.zero, h.current, fun o ho => ?_, h.replies⟩
  rcases List.mem_append.mp ho with ho | ho
  · exact h.handed o ho
  · exact hnew o ho

theorem Listed.step (h : Listed live out s) (action : ClusterAction) :
    ∃ live', Listed live' (out ++ s.views action) (s.step action) := by
  have hturn := turns_step s action
  cases action with
  | unregisterNode message =>
    obtain ⟨live', hnext, _⟩ := h.report (s.unregisterNode message) message.report rfl rfl rfl
    exact ⟨live', hnext.hands (by simp [views])⟩
  | reportNodeDeath message =>
    obtain ⟨live', hnext, hle, hview⟩ := h.report (s.reportNodeDeath message).2 message
      (s.gcs.reportNodeDeath_nodes message) rfl rfl
    refine ⟨live', hnext.hands fun o ho => ?_⟩
    cases hresult : (s.reportNodeDeath message).1 with
    | error raised => simp [views, hresult] at ho
    | ok view =>
      have hsame : view = s.deathView message := by
        simp only [ClusterMembership.reportNodeDeath] at hresult
        cases hgcs : (s.gcs.reportNodeDeath message).1 with
        | error raised =>
          rw [hgcs] at hresult
          cases hresult
        | ok reply =>
          rw [hgcs] at hresult
          exact (Except.ok.inj hresult).symm
      simp only [views, hresult, List.mem_singleton] at ho
      subst ho hsame
      exact ⟨hle, hview, by simp⟩
  | getNodes =>
    refine ⟨live, h.hands fun o ho => ?_⟩
    simp only [views, List.mem_singleton] at ho
    subst ho
    exact ⟨Nat.le_refl _, h.current.symm, rfl⟩
  | registerNode message =>
    obtain ⟨live', hnext⟩ := h.turn hturn (by
      simp only [ClusterMembership.step, ClusterMembership.registerNode]
      split
      · split <;> rfl
      · rfl)
    exact ⟨live', hnext.hands (by simp [views])⟩
  | registerWorkerIncarnation _ | reportWorkerDeath _ | enhancedPublication _ | driveOnce _
  | deliver _ _ | advancePublication _ | deliverPublication _ _ | poll _ _ =>
    obtain ⟨live', hnext⟩ := h.turn hturn rfl
    exact ⟨live', hnext.hands (by simp [views])⟩

def handedOut (actions : List ClusterAction) : List HandedOut :=
  outputs ClusterMembership.step views {} actions

theorem listed_run (actions : List ClusterAction) :
    ∃ live, Listed live (handedOut actions) (run ClusterMembership.step {} actions) :=
  outputs_invariant (p := fun out s => ∃ live, Listed live out s)
    (fun _ _ action h => h.elim fun _ h => h.step action) ⟨_, listed_new⟩ actions

end ClusterMembership

/-! ## What the Nodes install -/

open ClusterMembership in
/-- Along every run an epoch identifies the live Nodes: a death reply lists all of them and a reader
those that it is shown, so two views of one epoch are equal exactly when they show the same of
these Nodes. A Node that is only given views that show all live Nodes never finds an epoch reused,
and no installation, whatever it lists, takes the installed epoch back. -/
structure ViewSpec : Prop where
  identified : ∀ actions, ∀ o ∈ handedOut actions, ∀ o' ∈ handedOut actions,
    o.view.membershipEpoch = o'.view.membershipEpoch → o.live = o'.live
  listed : ∀ actions, ∀ o ∈ handedOut actions,
    o.view.nodes = o.live.filter fun node => o.shown node.nodeId
  deaths : ∀ actions message view, ((run step {} actions).reportNodeDeath message).1 = .ok view →
    ∀ o ∈ handedOut (actions ++ [.reportNodeDeath message]),
      o.view.membershipEpoch = view.membershipEpoch → o.live = view.nodes
  shown : ∀ actions, ∀ o ∈ handedOut actions, ∀ o' ∈ handedOut actions,
    o.view.membershipEpoch = o'.view.membershipEpoch →
      (o.view.nodes = o'.view.nodes ↔
        ∀ node ∈ o.live, o.shown node.nodeId = o'.shown node.nodeId)
  installs : ∀ actions (identify : Nat → List NodeInfo → String) node, ClusterNode.Fresh node →
    ∀ installs,
    (∀ request, .install request ∈ installs → ∃ o ∈ handedOut actions,
      o.view.nodes = o.live ∧ request.membershipEpoch = o.view.membershipEpoch ∧
        request.nodes = o.view.nodes ∧
        request.snapshotId = identify request.membershipEpoch request.nodes) →
    ∀ reply ∈ outputs ClusterNode.step ClusterNode.replies node installs,
      reply.2 ≠ some ClusterNode.reusedEpoch
  epochs : ∀ node, ClusterNode.Fresh node → ∀ installs later,
    (run ClusterNode.step node installs).installedMembershipEpoch ≤
      (run ClusterNode.step node (installs ++ later)).installedMembershipEpoch

open ClusterMembership in
theorem viewSpec : ViewSpec := by
  have hidentified : ∀ actions, ∀ o ∈ handedOut actions, ∀ o' ∈ handedOut actions,
      o.view.membershipEpoch = o'.view.membershipEpoch → o.live = o'.live := by
    intro actions o ho o' ho' hepoch
    obtain ⟨live, hlisted⟩ := listed_run actions
    rw [(hlisted.handed o ho).2.1, (hlisted.handed o' ho').2.1, hepoch]
  refine ⟨hidentified, ?_, ?_, ?_, ?_, ?_⟩
  · intro actions o ho
    obtain ⟨live, hlisted⟩ := listed_run actions
    exact (hlisted.handed o ho).2.2
  · intro actions message view hview o ho hepoch
    have hmem : (⟨view, view.nodes, fun _ => true⟩ : HandedOut) ∈
        handedOut (actions ++ [.reportNodeDeath message]) := by
      rw [handedOut, outputs_append]
      refine List.mem_append_right _ ?_
      simp [outputs, views, hview]
    exact hidentified _ o ho _ hmem hepoch
  · intro actions o ho o' ho' hepoch
    obtain ⟨live, hlisted⟩ := listed_run actions
    rw [(hlisted.handed o ho).2.2, (hlisted.handed o' ho').2.2,
      hidentified actions o ho o' ho' hepoch]
    constructor
    · intro hsame node hnode
      have hiff : o.shown node.nodeId = true ↔ o'.shown node.nodeId = true := by
        have hmem := congrArg (node ∈ ·) hsame
        simpa [List.mem_filter, hnode] using hmem
      exact Bool.eq_iff_iff.mpr hiff
    · intro hshown
      exact List.filter_congr hshown
  · intro actions identify node hfresh installs hrequests
    obtain ⟨live, hlisted⟩ := listed_run actions
    have hfollows : ClusterNode.Follows live identify node := hfresh.follows
    refine hfollows.run hlisted.zero fun request hmem => ?_
    obtain ⟨o, ho, hwhole, hepoch, hnodes, hid⟩ := hrequests request hmem
    refine ⟨?_, hid⟩
    rw [hnodes, hwhole, hepoch]
    exact (hlisted.handed o ho).2.1
  · intro node hfresh installs later
    rw [run_append]
    exact ((hfresh.inv.run installs).1.run later).2

namespace ClusterMembership.Sample

def capacity : ResourceVector := .oneCpu

def registration : NodeRegistration :=
  ⟨⟨⟨1⟩, 12, default, by decide⟩, capacity, capacity, by decide⟩

def worker : WorkerIncarnation := ⟨⟨1⟩, 12, 1, ⟨3⟩, 30, by decide⟩

/-- A reader asks before and after the death of an owner. -/
def actions : List ClusterAction :=
  [.registerNode registration, .registerWorkerIncarnation worker, .getNodes,
    .reportWorkerDeath ⟨"gone", worker, 1, .processExit, by decide⟩, .getNodes]

end ClusterMembership.Sample

open ClusterMembership in
/-- The two readers are given different incarnations under one epoch. -/
theorem hidden_views : ¬ ∀ actions, ∀ o ∈ handedOut actions, ∀ o' ∈ handedOut actions,
    o.view.membershipEpoch = o'.view.membershipEpoch →
      o.view.nodes.map (fun node => (node.nodeId, node.nodePid, node.registrationEpoch)) =
        o'.view.nodes.map (fun node => (node.nodeId, node.nodePid, node.registrationEpoch)) := by
  intro h
  have hviews : ∃ o ∈ handedOut Sample.actions, ∃ o' ∈ handedOut Sample.actions,
      o.view.membershipEpoch = o'.view.membershipEpoch ∧
        o.view.nodes.length ≠ o'.view.nodes.length := by decide
  obtain ⟨o, ho, o', ho', hepoch, hlength⟩ := hviews
  have hsame := congrArg List.length (h Sample.actions o ho o' ho' hepoch)
  rw [List.length_map, List.length_map] at hsame
  exact hlength hsame

end MiniRay
