import MiniRay.Node.ClusterSnapshots
import MiniRay.Resources.Quantities

/-! The certificate that every survivor has installed a snapshot, with the Node deaths behind it,
and the rule by which one certificate succeeds another. -/

namespace MiniRay

open Checked

structure InstallClusterSnapshotReply where
  membershipEpoch : Nat
  snapshotId : String
  nodeId : NodeID
  installed : Bool
  error : Option String
  consistent : installed = true ↔ error = none

inductive ViewError
  | quantity (error : QuantityError)
  | protocol (message : String)
  | value (message : String)

/-- The copy of a certified Node, whose vectors go through `to_dict`. -/
def NodeInfo.copy (node : NodeInfo) : Except ViewError NodeInfo := do
  let total ← node.totalResources.reparse.mapError .quantity
  let available ← node.availableResources.reparse.mapError .quantity
  raiseIf (available.fitsIn total = false)
    (.protocol "node available resources cannot exceed total resources")
  return { node with totalResources := total, availableResources := available }

def InstallClusterSnapshotReply.Proves (ack : InstallClusterSnapshotReply)
    (membershipEpoch : Nat) (snapshotId : String) : Prop :=
  ack.installed = true ∧ ack.error = none ∧ ack.membershipEpoch = membershipEpoch ∧
    ack.snapshotId = snapshotId
  deriving Decidable

structure InstalledNodeDeathView where
  snapshot : InstallClusterSnapshot
  survivorAcks : List InstallClusterSnapshotReply
  deaths : List NodeDeathRecord
  copied : ∀ node ∈ snapshot.nodes, node.copy = .ok node
  canonical : (snapshot.nodes.map NodeInfo.nodeId).Pairwise (· ≤ ·)
  proved : ∀ ack ∈ survivorAcks, ack.Proves snapshot.membershipEpoch snapshot.snapshotId
  barrier : survivorAcks.map InstallClusterSnapshotReply.nodeId =
    snapshot.nodes.map NodeInfo.nodeId
  committed : ∀ death ∈ deaths, death.deathEpoch ≤ snapshot.membershipEpoch
  deaths_ne : deaths ≠ []
  ordered : (deaths.map NodeDeathRecord.deathEpoch).Pairwise (· < ·)
  nodes : (deaths.map NodeDeathRecord.nodeId).Nodup
  detections : (deaths.map NodeDeathRecord.detectionId).Nodup
  survivors : ∀ node ∈ snapshot.nodes, ∀ death ∈ deaths, node.nodeId ≠ death.nodeId

theorem NodeInfo.copy_eq_ok {node copy : NodeInfo} : node.copy = .ok copy ↔
    ∃ total available, node.totalResources.reparse = .ok total ∧
      node.availableResources.reparse = .ok available ∧ available.fitsIn total = true ∧
      { node with totalResources := total, availableResources := available } = copy := by
  simp [NodeInfo.copy]

theorem NodeInfo.copy_copy {node copy : NodeInfo} (h : node.copy = .ok copy) :
    copy.copy = .ok copy := by
  obtain ⟨total, available, htotal, havailable, hfits, rfl⟩ := NodeInfo.copy_eq_ok.mp h
  exact NodeInfo.copy_eq_ok.mpr ⟨total, available, ResourceVector.reparse_reparse htotal,
    ResourceVector.reparse_reparse havailable, hfits, rfl⟩

theorem NodeInfo.copied {nodes copies : List NodeInfo} (h : nodes.mapM NodeInfo.copy = .ok copies) :
    ∀ node ∈ copies, node.copy = .ok node := by
  intro node hnode
  obtain ⟨source, -, hcopy⟩ := exists_of_forall₂_right (mapM_eq_ok.mp h) hnode
  exact NodeInfo.copy_copy hcopy

namespace InstalledNodeDeathView

def make (value : InstallClusterSnapshot) (acks : List InstallClusterSnapshotReply)
    (deaths : List NodeDeathRecord) : Except ViewError InstalledNodeDeathView :=
  match hnodes : value.nodes.mapM NodeInfo.copy with
  | .error error => .error error
  | .ok nodes => do
      let ⟨hunique⟩ ← certify (nodes.map NodeInfo.nodeId).Nodup
        (.protocol "cluster snapshot node IDs must be unique")
      let ⟨hcanonical⟩ ← certify ((nodes.map NodeInfo.nodeId).Pairwise (· ≤ ·))
        (.value "survivor snapshot must have canonical Node order")
      let ⟨hproved⟩ ← certify (∀ ack ∈ acks, ack.Proves value.membershipEpoch value.snapshotId)
        (.value "survivor ACK does not prove this installed snapshot")
      let ⟨hbarrier⟩ ← certify
        (acks.map InstallClusterSnapshotReply.nodeId = nodes.map NodeInfo.nodeId)
        (.value "barrier must contain one ordered ACK for every survivor")
      let ⟨hcommitted⟩ ← certify (∀ death ∈ deaths, death.deathEpoch ≤ value.membershipEpoch)
        (.value "snapshot predates a committed Node death")
      let ⟨hdeaths⟩ ← certify (deaths ≠ [])
        (.value "a certified death view must contain a death fact")
      let ⟨hordered⟩ ← certify ((deaths.map NodeDeathRecord.deathEpoch).Pairwise (· < ·))
        (.value "Node deaths must be unique and ordered by death epoch")
      let ⟨hids⟩ ← certify (deaths.map NodeDeathRecord.nodeId).Nodup
        (.value "NodeID cannot have two death records")
      let ⟨hdetections⟩ ← certify (deaths.map NodeDeathRecord.detectionId).Nodup
        (.value "Node death detection ID cannot be rebound")
      let ⟨hsurvivors⟩ ← certify (∀ node ∈ nodes, ∀ death ∈ deaths, node.nodeId ≠ death.nodeId)
        (.value "certified survivor view resurrects a dead Node")
      return ⟨⟨value.membershipEpoch, value.snapshotId, nodes, value.snapshot_ne, hunique⟩, acks,
        deaths, NodeInfo.copied hnodes, hcanonical, hproved, hbarrier, hcommitted, hdeaths,
          hordered,
        hids, hdetections, hsurvivors⟩

/-- `replace(view)`. -/
def replace (view : InstalledNodeDeathView) : Except ViewError InstalledNodeDeathView :=
  make view.snapshot view.survivorAcks view.deaths

variable (c : InstalledNodeDeathView)

def deathOf (nodeId : NodeID) : Option NodeDeathRecord :=
  c.deaths.find? fun death => death.nodeId = nodeId

def nodeOf (nodeId : NodeID) : Option NodeInfo :=
  c.snapshot.nodes.find? fun node => node.nodeId = nodeId

/-- What a death-only update may not change of a surviving Node. -/
def sameIncarnation (before node : NodeInfo) : Bool :=
  before.nodePid = node.nodePid ∧ before.registrationEpoch = node.registrationEpoch ∧
    before.address = node.address ∧ before.totalResources = node.totalResources

def validateSurvivor (previous : InstalledNodeDeathView) (node : NodeInfo) :
    Except ViewError Unit :=
  raiseIf (¬ (previous.nodeOf node.nodeId).any fun before => sameIncarnation before node)
    (.value "death-only update changed a surviving Node incarnation")

def validateRemoved (previous : InstalledNodeDeathView) (node : NodeInfo) :
    Except ViewError Unit :=
  match c.deathOf node.nodeId with
  | none => .error (.value "removed Node lacks its exact committed death fact")
  | some death => do
      raiseIf (death.nodePid ≠ node.nodePid ∨ death.registrationEpoch ≠ node.registrationEpoch)
        (.value "removed Node lacks its exact committed death fact")
      raiseIf (death.deathEpoch ≤ previous.snapshot.membershipEpoch)
        (.value "newly removed Node death predates its certified live view")

def validateSuccessor (previous : Option InstalledNodeDeathView) : Except ViewError Unit :=
  match previous with
  | none => .ok ()
  | some previous => do
      let previous ← previous.replace
      raiseIf (c.snapshot.membershipEpoch < previous.snapshot.membershipEpoch)
        (.value "certified death view regressed its membership epoch")
      raiseIf (c.snapshot.membershipEpoch = previous.snapshot.membershipEpoch ∧
        c.snapshot ≠ previous.snapshot)
        (.value "one membership epoch cannot name different snapshots")
      raiseIf (∃ death ∈ previous.deaths, c.deathOf death.nodeId ≠ some death)
        (.value "certified view lost or rebound an earlier death fact")
      checkAll (validateSurvivor previous) c.snapshot.nodes
      checkAll (c.validateRemoved previous)
        (previous.snapshot.nodes.filter fun node => (c.nodeOf node.nodeId).isNone)

/-! ## What a successor is -/

theorem find_key_eq_some {α κ : Type*} [DecidableEq κ] {key : α → κ} {xs : List α}
    (h : (xs.map key).Nodup) {k : κ} {x : α} :
    (xs.find? fun y => key y = k) = some x ↔ x ∈ xs ∧ key x = k := by
  constructor
  · intro hfind
    exact ⟨List.mem_of_find?_eq_some hfind, by simpa using List.find?_some hfind⟩
  · rintro ⟨hmem, rfl⟩
    cases hfind : xs.find? fun y => key y = key x with
    | none => simpa using List.find?_eq_none.mp hfind x hmem
    | some y =>
      have hkey : key y = key x := by simpa using List.find?_some hfind
      rw [List.inj_on_of_nodup_map h (List.mem_of_find?_eq_some hfind) hmem hkey]

theorem deathOf_eq_some {nodeId : NodeID} {death : NodeDeathRecord} :
    c.deathOf nodeId = some death ↔ death ∈ c.deaths ∧ death.nodeId = nodeId :=
  find_key_eq_some c.nodes

variable {node : NodeInfo}

theorem nodeOf_eq_some {nodeId : NodeID} :
    c.nodeOf nodeId = some node ↔ node ∈ c.snapshot.nodes ∧ node.nodeId = nodeId :=
  find_key_eq_some c.snapshot.unique

theorem replace_eq : c.replace = .ok c := by
  have hcopies : c.snapshot.nodes.mapM NodeInfo.copy = .ok c.snapshot.nodes :=
    mapM_eq_ok.mpr (List.forall₂_same.mpr c.copied)
  unfold replace make
  split
  · rename_i error hnodes
    rw [hcopies] at hnodes
    cases hnodes
  · rename_i nodes hnodes
    obtain rfl := Except.ok.inj (hcopies.symm.trans hnodes)
    rw [certify_ok c.snapshot.unique, certify_ok c.canonical, certify_ok c.proved,
      certify_ok c.barrier, certify_ok c.committed, certify_ok c.deaths_ne, certify_ok c.ordered,
      certify_ok c.nodes, certify_ok c.detections, certify_ok c.survivors]
    rfl

/-- How a view follows an earlier one. -/
structure Succeeds (previous c : InstalledNodeDeathView) : Prop where
  epoch : previous.snapshot.membershipEpoch ≤ c.snapshot.membershipEpoch
  same : c.snapshot.membershipEpoch = previous.snapshot.membershipEpoch →
    c.snapshot = previous.snapshot
  deaths : ∀ death ∈ previous.deaths, death ∈ c.deaths
  survivors : ∀ node ∈ c.snapshot.nodes, ∃ before ∈ previous.snapshot.nodes,
    before.nodeId = node.nodeId ∧ sameIncarnation before node = true
  removed : ∀ node ∈ previous.snapshot.nodes, node.nodeId ∉ c.snapshot.nodes.map NodeInfo.nodeId →
    ∃ death ∈ c.deaths, death.nodeId = node.nodeId ∧ death.nodePid = node.nodePid ∧
      death.registrationEpoch = node.registrationEpoch ∧
      previous.snapshot.membershipEpoch < death.deathEpoch

variable {previous : InstalledNodeDeathView}

theorem validateSurvivor_eq_ok :
    validateSurvivor previous node = .ok () ↔ ∃ before ∈ previous.snapshot.nodes,
      before.nodeId = node.nodeId ∧ sameIncarnation before node = true := by
  rw [validateSurvivor, raiseIf_eq_ok, not_not, Option.any_eq_true]
  constructor
  · rintro ⟨before, hfind, hsame⟩
    obtain ⟨hmem, hid⟩ := previous.nodeOf_eq_some.mp hfind
    exact ⟨before, hmem, hid, hsame⟩
  · rintro ⟨before, hmem, hid, hsame⟩
    exact ⟨before, previous.nodeOf_eq_some.mpr ⟨hmem, hid⟩, hsame⟩

theorem validateRemoved_eq_ok :
    c.validateRemoved previous node = .ok () ↔ ∃ death ∈ c.deaths, death.nodeId = node.nodeId ∧
      death.nodePid = node.nodePid ∧ death.registrationEpoch = node.registrationEpoch ∧
      previous.snapshot.membershipEpoch < death.deathEpoch := by
  unfold validateRemoved
  cases hdeath : c.deathOf node.nodeId with
  | none =>
    refine ⟨nofun, ?_⟩
    rintro ⟨death, hmem, hid, -⟩
    rw [(c.deathOf_eq_some).mpr ⟨hmem, hid⟩] at hdeath
    cases hdeath
  | some death =>
    obtain ⟨hmem, hid⟩ := (c.deathOf_eq_some).mp hdeath
    simp only [bind_eq_ok, raiseIf_eq_ok, not_or, not_not, not_le, exists_const]
    constructor
    · rintro ⟨⟨hpid, hregistration⟩, hepoch⟩
      exact ⟨death, hmem, hid, hpid, hregistration, hepoch⟩
    · rintro ⟨other, hother, hother', hpid, hregistration, hepoch⟩
      have hfind := (c.deathOf_eq_some).mpr ⟨hother, hother'⟩
      obtain rfl := Option.some.inj (hdeath.symm.trans hfind)
      exact ⟨⟨hpid, hregistration⟩, hepoch⟩

theorem validateSuccessor_eq_ok :
    c.validateSuccessor (some previous) = .ok () ↔ Succeeds previous c := by
  have hlost : (¬ ∃ death ∈ previous.deaths, c.deathOf death.nodeId ≠ some death) ↔
      ∀ death ∈ previous.deaths, death ∈ c.deaths := by
    simp [deathOf_eq_some]
  have hgone : ∀ node : NodeInfo, (c.nodeOf node.nodeId).isNone = true ↔
      node.nodeId ∉ c.snapshot.nodes.map NodeInfo.nodeId := by
    intro node
    simp [nodeOf, List.find?_eq_none]
  simp only [validateSuccessor, replace_eq, bind_eq_ok, raiseIf_eq_ok, checkAll_eq_ok, hlost,
    validateSurvivor_eq_ok, validateRemoved_eq_ok, List.mem_filter, hgone, Except.ok.injEq,
    exists_eq_left', not_lt, not_and, ne_eq, not_not, exists_const]
  constructor
  · rintro ⟨hepoch, hsame, hdeaths, hsurvivors, hremoved⟩
    exact ⟨hepoch, hsame, hdeaths, hsurvivors, fun node hnode hgone => hremoved node ⟨hnode, hgone⟩⟩
  · intro h
    exact ⟨h.epoch, h.same, h.deaths, h.survivors, fun node hnode => h.removed node hnode.1 hnode.2⟩

/-! ## Chains of views -/

theorem sameIncarnation_iff {before : NodeInfo} : sameIncarnation before node = true ↔
    before.nodePid = node.nodePid ∧ before.registrationEpoch = node.registrationEpoch ∧
      before.address = node.address ∧ before.totalResources = node.totalResources := by
  simp [sameIncarnation]

theorem Succeeds.refl : Succeeds c c where
  epoch := le_rfl
  same _ := rfl
  deaths _ h := h
  survivors node h := ⟨node, h, rfl, sameIncarnation_iff.mpr ⟨rfl, rfl, rfl, rfl⟩⟩
  removed _ h hgone := absurd (List.mem_map_of_mem h) hgone

theorem Succeeds.trans {u v w : InstalledNodeDeathView} (h : Succeeds u v) (h' : Succeeds v w) :
    Succeeds u w where
  epoch := h.epoch.trans h'.epoch
  same heq := by
    have hfirst := h.epoch
    have hsecond := h'.epoch
    rw [h'.same (by omega), h.same (by omega)]
  deaths death hdeath := h'.deaths death (h.deaths death hdeath)
  survivors node hnode := by
    obtain ⟨middle, hmiddle, hid, hsame⟩ := h'.survivors node hnode
    obtain ⟨before, hbefore, hid', hsame'⟩ := h.survivors middle hmiddle
    refine ⟨before, hbefore, hid'.trans hid, ?_⟩
    rw [sameIncarnation_iff] at *
    exact ⟨hsame'.1.trans hsame.1, hsame'.2.1.trans hsame.2.1, hsame'.2.2.1.trans hsame.2.2.1,
      hsame'.2.2.2.trans hsame.2.2.2⟩
  removed node hnode hgone := by
    by_cases hmiddle : node.nodeId ∈ v.snapshot.nodes.map NodeInfo.nodeId
    · obtain ⟨later, hlater, hid⟩ := List.mem_map.mp hmiddle
      obtain ⟨before, hbefore, hid', hsame⟩ := h.survivors later hlater
      obtain rfl := List.inj_on_of_nodup_map u.snapshot.unique hbefore hnode (hid'.trans hid)
      obtain ⟨death, hdeath, hid'', hpid, hregistration, hepoch⟩ :=
        h'.removed later hlater (hid ▸ hgone)
      rw [sameIncarnation_iff] at hsame
      exact ⟨death, hdeath, hid''.trans hid, hpid.trans hsame.1.symm,
        hregistration.trans hsame.2.1.symm, h.epoch.trans_lt hepoch⟩
    · obtain ⟨death, hdeath, hfact⟩ := h.removed node hnode hmiddle
      exact ⟨death, h'.deaths death hdeath, hfact⟩

end InstalledNodeDeathView

open InstalledNodeDeathView

/-- Succession is a preorder along which epochs grow, deaths stay and nobody comes back. -/
structure SuccessorSpec : Prop where
  refl : ∀ view : InstalledNodeDeathView, view.validateSuccessor (some view) = .ok ()
  trans : ∀ u v w : InstalledNodeDeathView, v.validateSuccessor (some u) = .ok () →
    w.validateSuccessor (some v) = .ok () → w.validateSuccessor (some u) = .ok ()
  chain : ∀ views : List InstalledNodeDeathView,
    views.IsChain (fun previous view => view.validateSuccessor (some previous) = .ok ()) →
    views.Pairwise fun earlier later =>
      earlier.snapshot.membershipEpoch ≤ later.snapshot.membershipEpoch ∧
      (∀ death ∈ earlier.deaths, death ∈ later.deaths) ∧
      (∀ death ∈ earlier.deaths, death.nodeId ∉ later.snapshot.nodes.map NodeInfo.nodeId) ∧
      ∀ nodeId ∉ earlier.snapshot.nodes.map NodeInfo.nodeId,
        nodeId ∉ later.snapshot.nodes.map NodeInfo.nodeId

theorem successorSpec : SuccessorSpec where
  refl view := view.validateSuccessor_eq_ok.mpr (Succeeds.refl view)
  trans u v w huv hvw := by
    rw [validateSuccessor_eq_ok] at *
    exact huv.trans hvw
  chain views hchain := by
    simp only [validateSuccessor_eq_ok] at hchain
    have : IsTrans InstalledNodeDeathView Succeeds := ⟨fun _ _ _ h h' => h.trans h'⟩
    refine (List.isChain_iff_pairwise.mp hchain).imp fun {earlier later} h => ?_
    refine ⟨h.epoch, h.deaths, fun death hdeath hlive => ?_, fun nodeId hgone hlive => ?_⟩
    · obtain ⟨node, hnode, hid⟩ := List.mem_map.mp hlive
      exact later.survivors node hnode death (h.deaths death hdeath) hid
    · obtain ⟨node, hnode, rfl⟩ := List.mem_map.mp hlive
      obtain ⟨before, hbefore, hid, -⟩ := h.survivors node hnode
      exact hgone (hid ▸ List.mem_map_of_mem hbefore)

end MiniRay
