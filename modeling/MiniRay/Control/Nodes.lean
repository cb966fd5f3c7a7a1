import MiniRay.Library.Dict
import MiniRay.Protocol

/-! The control plane's record of every physical Node; a dead NodeID is a tombstone for ever. -/

namespace MiniRay

inductive NodeMembershipState
  | alive
  | dead
  deriving DecidableEq

/-- The membership record of one NodeID; resources only feed the scheduler. -/
structure NodeSnapshot where
  nodeId : NodeID
  nodePid : Nat
  registrationEpoch : Nat
  address : Address
  state : NodeMembershipState := .alive
  death : Option NodeDeathRecord := none
  positive : 0 < nodePid ∧ 0 < registrationEpoch

@[ext] structure ReportNodeDeath where
  detectionId : String
  nodeId : NodeID
  nodePid : Nat
  expectedRegistrationEpoch : Nat
  exitCode : Int
  reason : NodeDeathReason
  detail : String
  detection_ne : detectionId ≠ ""
  positive : 0 < nodePid ∧ 0 < expectedRegistrationEpoch
  detail_ne : detail ≠ ""

instance : DecidableEq ReportNodeDeath := byFields ReportNodeDeath.ext_iff

structure UnregisterNode where
  nodeId : NodeID
  nodePid : Nat
  registrationEpoch : Nat
  detectionId : String
  detection_ne : detectionId ≠ ""
  positive : 0 < nodePid ∧ 0 < registrationEpoch

/-- Expected termination is the same immutable death fact. -/
def UnregisterNode.report (self : UnregisterNode) : ReportNodeDeath where
  detectionId := self.detectionId
  nodeId := self.nodeId
  nodePid := self.nodePid
  expectedRegistrationEpoch := self.registrationEpoch
  exitCode := 0
  reason := .expected
  detail := "node unregistered normally"
  detection_ne := self.detection_ne
  positive := self.positive
  detail_ne := by decide

inductive NodeDeathDisposition
  | applied
  | alreadyDead
  | unknown
  | conflict
  deriving DecidableEq

/-- The control-plane reply, less its epoch and its list of live Nodes. -/
structure ReportNodeDeathReply where
  disposition : NodeDeathDisposition
  death : Option NodeDeathRecord := none
  error : Option String := none

def ReportNodeDeathReply.refused (disposition : NodeDeathDisposition) (error : String) :
    ReportNodeDeathReply := { disposition := disposition, error := some error }

structure NodeRegistry where
  nodes : Dict NodeID NodeSnapshot := .empty
  deathDetections : Dict String (ReportNodeDeath × NodeDeathRecord) := .empty
  membershipEpoch : Nat := 0
  registrationEpoch : Nat := 0

namespace NodeRegistry

variable (self : NodeRegistry)

/-- Register a Node; `none` is a refused registration. -/
def register (nodeId : NodeID) (address : Address) (nodePid : Nat) (hpid : 0 < nodePid) :
    Option (Bool × NodeRegistry) :=
  match self.nodes.get? nodeId with
  | some old =>
    if old.state = .dead then none
    else if old.nodePid ≠ nodePid ∨ old.address ≠ address then none
    else some (false, self)
  | none => some (true, { self with
      registrationEpoch := self.registrationEpoch + 1
      membershipEpoch := self.membershipEpoch + 1
      nodes := self.nodes.set nodeId {
        nodeId := nodeId, nodePid := nodePid, registrationEpoch := self.registrationEpoch + 1,
        address := address, positive := ⟨hpid, Nat.succ_pos _⟩ } })

def get? (nodeId : NodeID) : Option NodeSnapshot := self.nodes.get? nodeId

def snapshot (schedulingVisible : NodeID → Bool) : List NodeSnapshot :=
  self.nodes.values.filter fun node => node.state = .alive ∧ schedulingVisible node.nodeId = true

def exactReport (request : ReportNodeDeath) (old : NodeSnapshot) : Bool :=
  (old.nodePid = request.nodePid ∧ old.registrationEpoch = request.expectedRegistrationEpoch) ∧
    old.death.any fun death => death.detectionId = request.detectionId ∧
      death.exitCode = request.exitCode ∧ death.reason = request.reason ∧
      death.detail = request.detail

def reportDeath (request : ReportNodeDeath) : ReportNodeDeathReply × NodeRegistry :=
  match self.deathDetections.get? request.detectionId with
  | some (priorRequest, death) =>
    if priorRequest = request then ({ disposition := .alreadyDead, death := some death }, self)
    else (.refused .conflict "node death detection_id was reused for another proof", self)
  | none =>
    match self.nodes.get? request.nodeId with
    | none => (.refused .unknown "unknown NodeID", self)
    | some old =>
      if old.state = .dead then
        if exactReport request old then ({ disposition := .alreadyDead, death := old.death }, self)
        else (.refused .conflict "node death report conflicts with the immutable tombstone", self)
      else if ¬ (old.nodePid = request.nodePid ∧
          old.registrationEpoch = request.expectedRegistrationEpoch) then
        (.refused .conflict "node death report targets another Node incarnation", self)
      else
        let death : NodeDeathRecord := {
          detectionId := request.detectionId, nodeId := request.nodeId, nodePid := request.nodePid,
          registrationEpoch := request.expectedRegistrationEpoch,
          deathEpoch := self.membershipEpoch + 1, exitCode := request.exitCode,
          reason := request.reason, detail := request.detail,
          detection_ne := request.detection_ne,
          positive := ⟨request.positive.1, request.positive.2, Nat.succ_pos _⟩,
          detail_ne := request.detail_ne }
        ({ disposition := .applied, death := some death }, { self with
          membershipEpoch := self.membershipEpoch + 1
          nodes := self.nodes.set request.nodeId
            { old with state := .dead, death := some death }
          deathDetections := self.deathDetections.set request.detectionId (request, death) })

def Dead (nodeId : NodeID) : Prop := ∃ node, self.nodes.get? nodeId = some node ∧ node.state = .dead

variable {self} {nodeId : NodeID}

variable {self' : NodeRegistry}

theorem Dead.register {node : NodeID} {address : Address} {nodePid : Nat} {hpid : 0 < nodePid}
    {fresh : Bool} (h : self.Dead nodeId)
    (hregister : self.register node address nodePid hpid = some (fresh, self')) :
    self'.Dead nodeId := by
  unfold NodeRegistry.register at hregister
  split at hregister
  · split at hregister
    · cases hregister
    · split at hregister
      · cases hregister
      · cases hregister
        exact h
  · rename_i hnew
    cases hregister
    obtain ⟨old, hold, hdead⟩ := h
    exact ⟨old, Dict.get?_set_kept hnew hold, hdead⟩

theorem reportDeath_nodes (self : NodeRegistry) (request : ReportNodeDeath) :
    (self.reportDeath request).2.nodes = self.nodes ∨
      ∃ old node, self.nodes.get? request.nodeId = some old ∧ node.state = .dead ∧
        (self.reportDeath request).2.nodes = self.nodes.set request.nodeId node := by
  unfold reportDeath
  split
  · split <;> exact .inl rfl
  · split
    · exact .inl rfl
    · rename_i old hold
      split
      · split <;> exact .inl rfl
      · split
        · exact .inl rfl
        · exact .inr ⟨old, _, hold, rfl, rfl⟩

theorem Dead.reportDeath (h : self.Dead nodeId) (request : ReportNodeDeath) :
    (self.reportDeath request).2.Dead nodeId := by
  obtain ⟨old, hold, hdead⟩ := h
  rcases self.reportDeath_nodes request with hsame | ⟨_, node, _, hnode, hset⟩
  · exact ⟨old, by rw [hsame]; exact hold, hdead⟩
  · by_cases hid : request.nodeId = nodeId
    · exact ⟨node, by rw [hset, ← hid]; exact Dict.get?_set_self _ _ _, hnode⟩
    · exact ⟨old, by rw [hset]; exact (Dict.get?_set_of_ne _ _ hid).trans hold, hdead⟩

/-- Nodes stand under their own id, and every remembered detection names a dead Node. -/
structure Inv (s : NodeRegistry) : Prop where
  keyed : ∀ id node, s.nodes.get? id = some node → node.nodeId = id
  tombstones : ∀ id node death, s.nodes.get? id = some node → node.death = some death →
    death.nodeId = id
  detections : ∀ detection request death,
    s.deathDetections.get? detection = some (request, death) →
      death.nodeId = request.nodeId ∧ s.Dead request.nodeId

theorem inv_new : Inv {} where
  keyed _ _ h := by simp at h
  tombstones _ _ _ h := by simp at h
  detections _ _ _ h := by simp at h

theorem register_inv (h : self.Inv) {node : NodeID} {address : Address} {nodePid : Nat}
    {hpid : 0 < nodePid} {fresh : Bool}
    (hregister : self.register node address nodePid hpid = some (fresh, self')) : self'.Inv := by
  have hdead : ∀ id, self.Dead id → self'.Dead id := fun id hid => hid.register hregister
  unfold register at hregister
  split at hregister
  · split at hregister
    · cases hregister
    · split at hregister
      · cases hregister
      · cases hregister
        exact h
  · cases hregister
    refine ⟨fun id x hx => ?_, fun id x death hx hdeath => ?_, fun detection request death hd => ?_⟩
    · rcases Dict.of_get?_set hx with ⟨hid, rfl⟩ | hx
      · exact hid
      · exact h.keyed id x hx
    · rcases Dict.of_get?_set hx with ⟨_, rfl⟩ | hx
      · cases hdeath
      · exact h.tombstones id x death hx hdeath
    · obtain ⟨hnode, hdetected⟩ := h.detections detection request death hd
      exact ⟨hnode, hdead _ hdetected⟩

theorem reportDeath_inv (h : self.Inv) (request : ReportNodeDeath) :
    (self.reportDeath request).2.Inv := by
  have hdead : ∀ id, self.Dead id → (self.reportDeath request).2.Dead id :=
    fun id hid => hid.reportDeath request
  unfold reportDeath at hdead ⊢
  split
  · split <;> exact h
  · rename_i hnew
    split
    · exact h
    · rename_i old hold
      split
      · split <;> exact h
      · split
        · exact h
        · rename_i hstate hsame
          simp only [hnew, hold, if_neg hstate, if_neg hsame] at hdead
          refine ⟨fun id x hx => ?_, fun id x death hx hdeath => ?_,
            fun detection report death hd => ?_⟩
          · rcases Dict.of_get?_set hx with ⟨hid, rfl⟩ | hx
            · exact (h.keyed _ _ hold).trans hid
            · exact h.keyed id x hx
          · rcases Dict.of_get?_set hx with ⟨hid, rfl⟩ | hx
            · cases hdeath
              exact hid
            · exact h.tombstones id x death hx hdeath
          · rcases Dict.of_get?_set hd with ⟨_, hd⟩ | hd
            · cases hd
              exact ⟨rfl, _, Dict.get?_set_self _ _ _, rfl⟩
            · obtain ⟨hnode, hdetected⟩ := h.detections detection report death hd
              exact ⟨hnode, hdead _ hdetected⟩

theorem reportDeath_dead (h : self.Inv) {request : ReportNodeDeath} {death : NodeDeathRecord}
    (hreply : (self.reportDeath request).1.death = some death) :
    death.nodeId = request.nodeId ∧ (self.reportDeath request).2.Dead request.nodeId := by
  unfold reportDeath at hreply ⊢
  split at hreply
  · rename_i priorRequest priorDeath hprior
    split at hreply
    · rename_i hsame
      cases hreply
      simp only [hsame, if_true]
      obtain ⟨hnode, hdetected⟩ := h.detections _ _ _ hprior
      exact ⟨hsame ▸ hnode, hsame ▸ hdetected⟩
    · cases hreply
  · rename_i hnew
    split at hreply
    · cases hreply
    · rename_i old hold
      split at hreply
      · rename_i hstate
        split at hreply
        · rename_i hexact
          simp only [if_pos hstate, if_pos hexact]
          exact ⟨h.tombstones _ _ _ hold hreply, old, hold, hstate⟩
        · cases hreply
      · rename_i hstate
        split at hreply
        · cases hreply
        · rename_i hsame
          cases hreply
          simp only [if_neg hstate, if_neg hsame]
          exact ⟨trivial, _, Dict.get?_set_self _ _ _, rfl⟩

end NodeRegistry

end MiniRay
