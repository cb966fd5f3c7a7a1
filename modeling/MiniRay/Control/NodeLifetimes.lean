import MiniRay.Control.Nodes
import MiniRay.OwnerFence.Registry

/-! What one registration and one report do to the Node table. -/

namespace MiniRay

def NodeSnapshot.incarnation (node : NodeSnapshot) : OwnerFenceNodeIncarnation :=
  ⟨node.nodeId, node.nodePid, node.registrationEpoch, node.positive⟩

def ReportNodeDeath.record (request : ReportNodeDeath) (epoch : Nat) (hepoch : 0 < epoch) :
    NodeDeathRecord where
  detectionId := request.detectionId
  nodeId := request.nodeId
  nodePid := request.nodePid
  registrationEpoch := request.expectedRegistrationEpoch
  deathEpoch := epoch
  exitCode := request.exitCode
  reason := request.reason
  detail := request.detail
  detection_ne := request.detection_ne
  positive := ⟨request.positive.1, request.positive.2, hepoch⟩
  detail_ne := request.detail_ne

namespace NodeRegistry

variable {r r' : NodeRegistry}

/-- Tombstones name exactly the incarnation that they bury. -/
structure Sound (r : NodeRegistry) : Prop where
  keyed : ∀ id node, r.nodes.get? id = some node → node.nodeId = id
  recorded : ∀ id node, r.nodes.get? id = some node → node.state = .dead → node.death ≠ none
  exact : ∀ id node death, r.nodes.get? id = some node → node.death = some death →
    node.state = .dead ∧ node.incarnation.DiedBy death
  detections : ∀ id request death, r.deathDetections.get? id = some (request, death) →
    ∃ node, r.nodes.get? death.nodeId = some node ∧ node.death = some death

theorem sound_new : Sound {} where
  keyed _ _ h := by simp at h
  recorded _ _ h := by simp at h
  exact _ _ _ h := by simp at h
  detections _ _ _ h := by simp at h

/-! ## Registration -/

inductive Registered (r : NodeRegistry) (nodeId : NodeID) : NodeRegistry → Prop
  | replayed (node : NodeSnapshot) (known : r.nodes.get? nodeId = some node)
      (alive : node.state = .alive) : Registered r nodeId r
  | added (node : NodeSnapshot) (registration membership : Nat)
      (new : r.nodes.get? nodeId = none) (named : node.nodeId = nodeId)
      (alive : node.state = .alive) (pristine : node.death = none) :
      Registered r nodeId { r with
        registrationEpoch := registration
        membershipEpoch := membership
        nodes := r.nodes.set nodeId node }

theorem register_spec {nodeId : NodeID} {address : Address} {nodePid : Nat} {hpid : 0 < nodePid}
    {fresh : Bool} (h : r.register nodeId address nodePid hpid = some (fresh, r')) :
    Registered r nodeId r' := by
  unfold register at h
  split at h
  · rename_i old hold
    split at h
    · cases h
    · rename_i hdead
      split at h
      · cases h
      · cases h
        refine .replayed old hold ?_
        cases hstate : old.state with
        | alive => rfl
        | dead => exact absurd hstate hdead
  · rename_i hnew
    cases h
    exact .added _ _ _ hnew rfl rfl rfl

theorem Sound.registered (h : r.Sound) {nodeId : NodeID} (hr : Registered r nodeId r') :
    r'.Sound := by
  cases hr with
  | replayed _ _ _ => exact h
  | added node registration membership new named alive pristine =>
    have hget : ∀ id x, (r.nodes.set nodeId node).get? id = some x →
        (nodeId = id ∧ node = x) ∨ r.nodes.get? id = some x := by
      intro id x hx
      rcases Dict.of_get?_set hx with ⟨hid, hx⟩ | hx
      · exact .inl ⟨hid, hx⟩
      · exact .inr hx
    refine ⟨?_, ?_, ?_, ?_⟩
    · intro id x hx
      rcases hget id x hx with ⟨rfl, rfl⟩ | hold
      · exact named
      · exact h.keyed id x hold
    · intro id x hx hdead
      rcases hget id x hx with ⟨rfl, rfl⟩ | hold
      · rw [alive] at hdead
        cases hdead
      · exact h.recorded id x hold hdead
    · intro id x death hx hdeath
      rcases hget id x hx with ⟨rfl, rfl⟩ | hold
      · rw [pristine] at hdeath
        cases hdeath
      · exact h.exact id x death hold hdeath
    · intro id request death hd
      obtain ⟨x, hx, hdeath⟩ := h.detections id request death hd
      have hne : nodeId ≠ death.nodeId := by
        intro heq
        rw [← heq, new] at hx
        cases hx
      exact ⟨x, (Dict.get?_set_of_ne _ _ hne).trans hx, hdeath⟩

/-! ## Reports -/

/-- The report would bury a live Node. -/
structure Reportable (r : NodeRegistry) (request : ReportNodeDeath) (node : NodeSnapshot) :
    Prop where
  fresh : r.deathDetections.get? request.detectionId = none
  known : r.nodes.get? request.nodeId = some node
  alive : node.state = .alive
  pid : node.nodePid = request.nodePid
  epoch : node.registrationEpoch = request.expectedRegistrationEpoch

def buries (r : NodeRegistry) (request : ReportNodeDeath) : NodeDeathRecord :=
  request.record (r.membershipEpoch + 1) (Nat.succ_pos _)

def bury (r : NodeRegistry) (request : ReportNodeDeath) (node : NodeSnapshot) : NodeRegistry :=
  { r with
    membershipEpoch := r.membershipEpoch + 1
    nodes := r.nodes.set request.nodeId
      { node with state := .dead, death := some (r.buries request) }
    deathDetections := r.deathDetections.set request.detectionId (request, r.buries request) }

inductive Reported (r : NodeRegistry) (request : ReportNodeDeath) :
    ReportNodeDeathReply → NodeRegistry → Prop
  | applied (node : NodeSnapshot) (reportable : r.Reportable request node) :
      Reported r request { disposition := .applied, death := some (r.buries request) }
        (r.bury request node)
  | replayed (death : NodeDeathRecord) (node : NodeSnapshot)
      (known : r.nodes.get? death.nodeId = some node) (dead : node.death = some death) :
      Reported r request { disposition := .alreadyDead, death := some death } r
  | refused (reply : ReportNodeDeathReply) (none_dead : reply.death = none) :
      Reported r request reply r

theorem reportDeath_spec (h : r.Sound) (request : ReportNodeDeath) :
    Reported r request (r.reportDeath request).1 (r.reportDeath request).2 := by
  unfold reportDeath
  cases hdetection : r.deathDetections.get? request.detectionId with
  | some prior =>
    obtain ⟨priorRequest, death⟩ := prior
    dsimp only
    split
    · obtain ⟨node, hnode, hdead⟩ := h.detections _ _ _ hdetection
      exact .replayed death node hnode hdead
    · exact .refused _ rfl
  | none =>
    cases hknown : r.nodes.get? request.nodeId with
    | none => exact .refused _ rfl
    | some old =>
      dsimp only
      split
      · rename_i hdead
        split
        · obtain ⟨death, hdeath⟩ := Option.ne_none_iff_exists'.mp
            (h.recorded _ old hknown hdead)
          have hid : death.nodeId = request.nodeId :=
            (h.exact _ old death hknown hdeath).2.1.trans (h.keyed _ old hknown)
          rw [hdeath]
          exact .replayed death old (hid ▸ hknown) hdeath
        · exact .refused _ rfl
      · rename_i hdead
        split
        · exact .refused _ rfl
        · rename_i hsame
          have hidentity := not_not.mp hsame
          have halive : old.state = .alive := by
            cases hstate : old.state with
            | alive => rfl
            | dead => exact absurd hstate hdead
          exact .applied old ⟨hdetection, hknown, halive, hidentity.1, hidentity.2⟩

theorem get?_bury (r : NodeRegistry) (request : ReportNodeDeath) (node : NodeSnapshot)
    (id : NodeID) : (r.bury request node).nodes.get? id = if request.nodeId = id then
      some { node with state := .dead, death := some (r.buries request) }
      else r.nodes.get? id := Dict.get?_set _ _ _ _

variable {request : ReportNodeDeath}

theorem Sound.bury (h : r.Sound) {node : NodeSnapshot} (hr : r.Reportable request node) :
    (r.bury request node).Sound := by
  have hget := get?_bury r request node
  refine ⟨?_, ?_, ?_, ?_⟩
  · intro id x hx
    rw [hget] at hx
    split at hx
    · rename_i hid
      cases hx
      exact (h.keyed _ node hr.known).trans hid
    · exact h.keyed id x hx
  · intro id x hx hdead
    rw [hget] at hx
    split at hx
    · cases hx
      simp
    · exact h.recorded id x hx hdead
  · intro id x death hx hdeath
    rw [hget] at hx
    split at hx
    · cases hx
      cases hdeath
      exact ⟨rfl, (h.keyed _ node hr.known).symm, hr.pid.symm, hr.epoch.symm⟩
    · exact h.exact id x death hx hdeath
  · intro id prior death hd
    change (r.deathDetections.set _ _).get? id = _ at hd
    rcases Dict.of_get?_set hd with ⟨_, hd⟩ | hd
    · cases hd
      exact ⟨_, (hget _).trans (if_pos rfl), rfl⟩
    · obtain ⟨x, hx, hdeath⟩ := h.detections id prior death hd
      have hne : request.nodeId ≠ death.nodeId := by
        intro heq
        rw [← heq, hr.known, Option.some.injEq] at hx
        have hdead := (h.exact _ node death hr.known (hx ▸ hdeath)).1
        rw [hr.alive] at hdead
        cases hdead
      exact ⟨x, (hget _).trans ((if_neg hne).trans hx), hdeath⟩

theorem Sound.reported (h : r.Sound) {reply : ReportNodeDeathReply}
    (hr : Reported r request reply r') : r'.Sound := by
  cases hr with
  | applied node reportable => exact h.bury reportable
  | replayed _ _ _ _ => exact h
  | refused _ _ => exact h

end NodeRegistry

end MiniRay
