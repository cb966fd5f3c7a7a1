import MiniRay.Control.Membership

/-! What a Node makes of the views that are installed on it. -/

namespace MiniRay

open Run

/-- Install one immutable, content-addressed cluster scheduling view. -/
@[ext] structure InstallClusterSnapshot where
  membershipEpoch : Nat
  snapshotId : String
  nodes : List NodeInfo
  snapshot_ne : snapshotId ≠ ""
  unique : (nodes.map NodeInfo.nodeId).Nodup

instance : DecidableEq InstallClusterSnapshot := byFields InstallClusterSnapshot.ext_iff

/-- The Node's identity, and what it has observed and installed of the membership. -/
structure ClusterNode where
  nodeId : NodeID
  nodePid : Nat
  address : Address
  total : ResourceVector
  registrationEpoch : Nat := 0
  membershipEpoch : Nat := 0
  installedMembershipEpoch : Nat := 0
  clusterSnapshotId : Option String := none
  installedSnapshotNodes : Option (List NodeInfo) := none
  stopEvent : Bool := false
  shutdownRequested : Bool := false

namespace ClusterNode

variable (self : ClusterNode)

/-- What a contraction may not change of a surviving Node. -/
def survives (previous info : NodeInfo) : Bool :=
  previous.nodeId = info.nodeId ∧ previous.nodePid = info.nodePid ∧
    previous.registrationEpoch = info.registrationEpoch ∧ previous.address = info.address ∧
    previous.totalResources = info.totalResources

/-- The new list is a proper part of the installed one. -/
def contraction (nodes : List NodeInfo) : Bool :=
  match self.installedSnapshotNodes with
  | none => false
  | some previous =>
    (nodes.all fun info => previous.any fun old => survives old info) ∧
      ¬ previous.all fun old => nodes.any fun info => info.nodeId = old.nodeId

def reusedEpoch : String := "membership epoch was reused for different contents"

def install (request : InstallClusterSnapshot) : Option String × ClusterNode :=
  if request.membershipEpoch < self.membershipEpoch then
    (some "cluster membership epoch is stale", self)
  else if self.stopEvent then (some "node is shutting down", self)
  else match request.nodes.find? fun node => node.nodeId = self.nodeId with
    | none => (some "cluster snapshot does not contain this node", self)
    | some localInfo =>
      if localInfo.nodePid ≠ self.nodePid ∨
          localInfo.registrationEpoch ≠ self.registrationEpoch ∨
          localInfo.address ≠ self.address ∨ localInfo.totalResources ≠ self.total then
        (some "cluster snapshot conflicts with local node identity or capacity", self)
      else if request.membershipEpoch = self.installedMembershipEpoch then
        if self.clusterSnapshotId ≠ some request.snapshotId ∨
            self.installedSnapshotNodes ≠ some request.nodes then (some reusedEpoch, self)
        else (none, self)
      else if self.shutdownRequested ∧ ¬ self.contraction request.nodes then
        (some "draining node accepts only a newer membership contraction", self)
      else (none, { self with
        clusterSnapshotId := some request.snapshotId
        installedMembershipEpoch := request.membershipEpoch
        membershipEpoch := max self.membershipEpoch request.membershipEpoch
        installedSnapshotNodes := some request.nodes })

inductive Action
  /-- The reply to the Node's own registration. -/
  | registered (registrationEpoch membershipEpoch : Nat)
  | install (request : InstallClusterSnapshot)
  | shutdown
  | stop

def step (s : ClusterNode) : Action → ClusterNode
  | .registered registrationEpoch membershipEpoch => { s with
      registrationEpoch := registrationEpoch
      membershipEpoch := max s.membershipEpoch membershipEpoch }
  | .install request => (s.install request).2
  | .shutdown => { s with shutdownRequested := true }
  | .stop => { s with stopEvent := true }

/-- What the installations of a run are answered. -/
def replies (s : ClusterNode) : Action → List (InstallClusterSnapshot × Option String)
  | .install request => [(request, (s.install request).1)]
  | _ => []

/-! ## Installations -/

variable {s : ClusterNode} {request : InstallClusterSnapshot}

/-- A rejected or repeated snapshot changes nothing; an installed one is not behind. -/
theorem install_cases (s : ClusterNode) (request : InstallClusterSnapshot) :
    (s.install request).2 = s ∨ s.membershipEpoch ≤ request.membershipEpoch ∧
      (s.install request).1 = none ∧ (s.install request).2 = { s with
        clusterSnapshotId := some request.snapshotId
        installedMembershipEpoch := request.membershipEpoch
        membershipEpoch := max s.membershipEpoch request.membershipEpoch
        installedSnapshotNodes := some request.nodes } := by
  unfold install
  split
  · exact .inl rfl
  · rename_i hepoch
    split
    · exact .inl rfl
    · split
      · exact .inl rfl
      · split
        · exact .inl rfl
        · split
          · split <;> exact .inl rfl
          · split
            · exact .inl rfl
            · exact .inr ⟨Nat.le_of_not_lt hepoch, rfl, rfl⟩

/-- A snapshot is reused when it lists this Node for the installed epoch, but differs. -/
theorem reused_of_install (h : (s.install request).1 = some reusedEpoch) :
    request.membershipEpoch = s.installedMembershipEpoch ∧ request.nodes ≠ [] ∧
      (s.clusterSnapshotId ≠ some request.snapshotId ∨
        s.installedSnapshotNodes ≠ some request.nodes) := by
  unfold install at h
  split at h
  · simp [reusedEpoch] at h
  · split at h
    · simp [reusedEpoch] at h
    · split at h
      · simp [reusedEpoch] at h
      · rename_i info hfind
        have hnodes : request.nodes ≠ [] := List.ne_nil_of_mem (List.mem_of_find?_eq_some hfind)
        split at h
        · simp [reusedEpoch] at h
        · split at h
          · rename_i hepoch
            split at h
            · rename_i hother
              exact ⟨hepoch, hnodes, hother⟩
            · simp at h
          · split at h
            · simp [reusedEpoch] at h
            · simp at h

def Inv (s : ClusterNode) : Prop :=
  s.installedMembershipEpoch ≤ s.membershipEpoch

theorem Inv.step (h : s.Inv) (action : Action) :
    (s.step action).Inv ∧
      s.installedMembershipEpoch ≤ (s.step action).installedMembershipEpoch := by
  cases action with
  | registered registrationEpoch membershipEpoch =>
    exact ⟨Nat.le_trans h (Nat.le_max_left _ _), Nat.le_refl _⟩
  | install request =>
    rcases s.install_cases request with hsame | ⟨hle, _, hnext⟩
    · rw [ClusterNode.step, hsame]
      exact ⟨h, Nat.le_refl _⟩
    · rw [ClusterNode.step, hnext]
      exact ⟨Nat.le_max_right _ _, Nat.le_trans h hle⟩
  | shutdown => exact ⟨h, Nat.le_refl _⟩
  | stop => exact ⟨h, Nat.le_refl _⟩

theorem Inv.run (h : s.Inv) (actions : List Action) :
    (run ClusterNode.step s actions).Inv ∧
      s.installedMembershipEpoch ≤ (run ClusterNode.step s actions).installedMembershipEpoch := by
  induction actions generalizing s with
  | nil => exact ⟨h, Nat.le_refl _⟩
  | cons action rest ih =>
    obtain ⟨hnext, hle⟩ := h.step action
    obtain ⟨hlast, hle'⟩ := ih hnext
    exact ⟨hlast, Nat.le_trans hle hle'⟩

structure Fresh (s : ClusterNode) : Prop where
  epoch : s.installedMembershipEpoch = 0
  pristine : s.installedSnapshotNodes = none

theorem Fresh.inv (h : s.Fresh) : s.Inv := by
  rw [Inv, h.epoch]
  exact Nat.zero_le _

/-- The installed snapshot is what its epoch stands for. -/
structure Follows (live : Nat → List NodeInfo) (identify : Nat → List NodeInfo → String)
    (s : ClusterNode) : Prop where
  empty : s.installedSnapshotNodes = none → s.installedMembershipEpoch = 0
  content : ∀ nodes, s.installedSnapshotNodes = some nodes →
    nodes = live s.installedMembershipEpoch ∧
      s.clusterSnapshotId = some (identify s.installedMembershipEpoch nodes)

/-- The request installs what its epoch stands for, under the id of its content. -/
structure Names (live : Nat → List NodeInfo) (identify : Nat → List NodeInfo → String)
    (request : InstallClusterSnapshot) : Prop where
  nodes : request.nodes = live request.membershipEpoch
  snapshotId : request.snapshotId = identify request.membershipEpoch request.nodes

variable {live : Nat → List NodeInfo} {identify : Nat → List NodeInfo → String}

theorem Fresh.follows (h : s.Fresh) : s.Follows live identify where
  empty _ := h.epoch
  content nodes hnodes := by
    rw [h.pristine] at hnodes
    cases hnodes

theorem Follows.step (h : s.Follows live identify) {action : Action}
    (hnames : ∀ request, action = .install request → Names live identify request) :
    (s.step action).Follows live identify := by
  cases action with
  | install request =>
    rcases s.install_cases request with hsame | ⟨_, _, hnext⟩
    · rw [ClusterNode.step, hsame]
      exact h
    · obtain ⟨hnodes, hid⟩ := hnames request rfl
      rw [ClusterNode.step, hnext]
      refine ⟨fun hnone => (by cases hnone), fun nodes hinstalled => ?_⟩
      cases hinstalled
      exact ⟨hnodes, congrArg Option.some hid⟩
  | registered registrationEpoch membershipEpoch => exact ⟨h.empty, h.content⟩
  | shutdown => exact ⟨h.empty, h.content⟩
  | stop => exact ⟨h.empty, h.content⟩

theorem Follows.install (h : s.Follows live identify) (hzero : live 0 = [])
    (hnames : Names live identify request) : (s.install request).1 ≠ some reusedEpoch := by
  intro hreused
  obtain ⟨hepoch, hne, hother⟩ := reused_of_install hreused
  cases hinstalled : s.installedSnapshotNodes with
  | none =>
    rw [h.empty hinstalled] at hepoch
    rw [hnames.nodes, hepoch, hzero] at hne
    exact hne rfl
  | some nodes =>
    obtain ⟨hnodes, hid⟩ := h.content nodes hinstalled
    have hsame : nodes = request.nodes := by
      rw [hnodes, hnames.nodes, hepoch]
    rcases hother with hother | hother
    · rw [hid, hnames.snapshotId, hepoch, hsame] at hother
      exact hother rfl
    · rw [hinstalled, hsame] at hother
      exact hother rfl

theorem Follows.run (h : s.Follows live identify) (hzero : live 0 = []) {actions : List Action}
    (hnames : ∀ request, .install request ∈ actions → Names live identify request) :
    ∀ reply ∈ outputs ClusterNode.step replies s actions, reply.2 ≠ some reusedEpoch := by
  induction actions generalizing s with
  | nil => simp [outputs]
  | cons action rest ih =>
    have hfirst : ∀ request, action = .install request → Names live identify request :=
      fun request heq => hnames request (heq ▸ List.mem_cons_self)
    intro reply hreply
    rw [outputs, List.mem_append] at hreply
    rcases hreply with hreply | hreply
    · cases action with
      | install request =>
        rw [replies, List.mem_singleton] at hreply
        rw [hreply]
        exact h.install hzero (hfirst request rfl)
      | registered _ _ => cases hreply
      | shutdown => cases hreply
      | stop => cases hreply
    · exact ih (h.step hfirst) (fun request hmem => hnames request (List.mem_cons_of_mem _ hmem))
        reply hreply

end ClusterNode

end MiniRay
