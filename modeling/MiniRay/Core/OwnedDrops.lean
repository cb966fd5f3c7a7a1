import MiniRay.Ownership.Canonical

/-! `request_drop_owned_object` is serialized by one lock, but the Core lock is free while the Node
is asked, so that the table and the routes may change in any way before the answer. A call that
raises has no reply. -/

namespace MiniRay

open Checked

variable {ε : Type}

/-- Ask an owner to delete one replica using an active capability. -/
@[ext] structure RequestDropOwnedObject where
  operationId : String
  objectId : ObjectID
  ownerWorkerId : WorkerID
  requesterWorkerId : WorkerID
  source : BorrowSource
  borrowerToken : String
  expectedOwnerAttempt : AttemptID
  nodeId : Option NodeID
  attempt_task : expectedOwnerAttempt.taskId = objectId.taskId

instance : DecidableEq RequestDropOwnedObject := byFields RequestDropOwnedObject.ext_iff

inductive DropOwnedObjectDisposition
  | dropped
  | alreadyDropped
  | failed

inductive DropOwnedObjectFailure
  | requestConflict
  | wrongOwner
  | ownerStopped
  | unknownObject
  | releasedCredential
  | inactiveCredential
  | credentialMismatch
  | expectedAttemptMismatch
  | notStored
  | unknownReplica
  | nodeRejected

/-- Exact request echo plus the owner-selected replica and outcome. -/
structure RequestDropOwnedObjectReply where
  request : RequestDropOwnedObject
  disposition : DropOwnedObjectDisposition
  droppedNodeId : Option NodeID := none
  failure : Option DropOwnedObjectFailure := none
  detail : Option String := none

inductive DropAnswer
  | unreachable
  | malformed
  | reply (reply : DropObjectReplicaReply)

/-- The owner's side. `calling` holds the lock; `requests`, `sent` and `replied` only record. -/
structure OwnedDrops (ε : Type) where
  workerId : WorkerID
  ownerProtocolOpen : Bool
  ownerTable : ObjectOwnerTable ε
  storedDescriptors : Dict ObjectID ResultDescriptor
  claims : Dict String RequestDropOwnedObject
  replies : Dict String RequestDropOwnedObjectReply
  calling : Option (RequestDropOwnedObject × DropObjectReplica)
  requests : List RequestDropOwnedObject
  sent : List (RequestDropOwnedObject × DropObjectReplica)
  replied : List (RequestDropOwnedObject × RequestDropOwnedObjectReply)

inductive DropAction (ε : Type)
  | request (request : RequestDropOwnedObject)
  | answer (answer : DropAnswer)
  | change (ownerProtocolOpen : Bool) (ownerTable : ObjectOwnerTable ε)
      (storedDescriptors : Dict ObjectID ResultDescriptor)

namespace OwnedDrops

variable (self : OwnedDrops ε) (request : RequestDropOwnedObject)

def tell (reply : RequestDropOwnedObjectReply) : OwnedDrops ε :=
  { self with replied := self.replied ++ [(request, reply)] }

def failedReply (failure : DropOwnedObjectFailure) (detail : String) :
    RequestDropOwnedObjectReply :=
  { request, disposition := .failed, failure := some failure, detail := some detail }

def conflict : RequestDropOwnedObjectReply :=
  failedReply request .requestConflict "drop operation_id is bound to another request"

/-- The replica of a request that names none; a stored object has locations. -/
def preferred (descriptor : ResultDescriptor) (e : ObjectOwnerEntry ε) : NodeID :=
  if descriptor.nodeId ∈ e.locationAttempts.keys then descriptor.nodeId
  else e.locationAttempts.keys.min?.getD descriptor.nodeId

/-- The replica to drop and its checksum, or nothing if the object is lost already. -/
def validate : Except (DropOwnedObjectFailure × String) (Option (NodeID × String)) := do
  raiseIf (request.ownerWorkerId ≠ self.workerId)
    (.wrongOwner, "request targets a different object owner")
  raiseIf (¬ self.ownerProtocolOpen) (.ownerStopped, "object owner is stopped")
  match self.ownerTable.entries.get? request.objectId with
  | none => .error (.unknownObject, "owner does not know the requested object")
  | some e =>
    let token := .worker request.requesterWorkerId request.borrowerToken
    raiseIf (token ∈ e.releasedBorrowedTokens)
      (.releasedCredential, "borrower credential was already released")
    raiseIf (token ∉ e.borrowedTokens)
      (.inactiveCredential, "borrower credential is not active")
    raiseIf (e.borrowedSources.get? token ≠ some request.source)
      (.credentialMismatch, "borrower credential is bound to another source")
    raiseIf (e.currentAttempt ≠ some request.expectedOwnerAttempt)
      (.expectedAttemptMismatch, "owner producer attempt changed before drop")
    if e.state = .lost then return none
    raiseIf (e.state ≠ .readyStored) (.notStored, "drop_object requires a stored object")
    match self.storedDescriptors.get? request.objectId with
    | none => .error (.notStored, "stored object metadata is incomplete")
    | some descriptor =>
      let target := request.nodeId.getD (preferred descriptor e)
      raiseIf (target ∉ e.locationAttempts.keys)
        (.unknownReplica, "requested node has no owner-advertised replica")
      return some (target, descriptor.checksum)

/-- The first section under the Core lock, for a request without a cached reply. -/
def tryDrop : OwnedDrops ε :=
  match self.validate request with
  | .error (failure, detail) => self.tell request (failedReply request failure detail)
  | .ok none =>
    let reply := { request, disposition := .alreadyDropped, droppedNodeId := request.nodeId }
    { self with
      claims := self.claims.set request.operationId request
      replies := self.replies.set request.operationId reply }.tell request reply
  | .ok (some (target, checksum)) =>
    let claimed := { self with claims := self.claims.set request.operationId request }
    if h : Sha256.IsLowerHexDigest checksum then
      let drop := ⟨request.objectId, request.expectedOwnerAttempt, self.workerId, target, checksum,
        request.attempt_task, h⟩
      { claimed with calling := some (request, drop), sent := self.sent ++ [(request, drop)] }
    else claimed

def requestDrop : OwnedDrops ε :=
  match self.claims.get? request.operationId, self.replies.get? request.operationId with
  | none, some _ => self
  | none, none => self.tryDrop request
  | some claimed, replay =>
    if claimed ≠ request then self.tell request (conflict request)
    else match replay with
      | some reply => self.tell request reply
      | none => self.tryDrop request

/-- The route of an object whose replica was removed. -/
def reroute (ownerTable : ObjectOwnerTable ε) (objectId : ObjectID) (target : NodeID) :
    Dict ObjectID ResultDescriptor :=
  match self.storedDescriptors.get? objectId, ownerTable.entries.get? objectId with
  | some current, some e =>
    match e.locationAttempts.keys.min? with
    | some nodeId =>
      if current.nodeId = target then
        self.storedDescriptors.set objectId { current with nodeId }
      else self.storedDescriptors
    | none => self.storedDescriptors
  | _, _ => self.storedDescriptors

/-- The second section, after an acknowledgement of the drop. -/
def acknowledge (drop : DropObjectReplica) (status : DropObjectReplicaStatus) : OwnedDrops ε :=
  match self.ownerTable.removeLocation request.objectId (some request.expectedOwnerAttempt)
      drop.nodeId with
  | .error _ => self
  | .ok (removed, ownerTable) =>
    let reply := { request, droppedNodeId := some drop.nodeId, disposition :=
      if status = .dropped then .dropped else .alreadyDropped }
    { self with
      ownerTable
      storedDescriptors :=
        if removed then self.reroute ownerTable request.objectId drop.nodeId
        else self.storedDescriptors
      replies := self.replies.set request.operationId reply }.tell request reply

def rejected (error : Option String) : OwnedDrops ε :=
  self.tell request (failedReply request .nodeRejected
    ((error.filter (· ≠ "")).getD "Node rejected or malformed the replica drop"))

def finishDrop (drop : DropObjectReplica) : DropAnswer → OwnedDrops ε
  | .unreachable => self
  | .malformed => self.rejected request none
  | .reply reply =>
    if reply.identity = drop ∧ (reply.status = .dropped ∨ reply.status = .alreadyDropped) then
      self.acknowledge request drop reply.status
    else self.rejected request reply.error

def step : DropAction ε → OwnedDrops ε
  | .request request =>
    if self.calling = none then
      { self with requests := self.requests ++ [request] }.requestDrop request
    else self
  | .answer answer =>
    match self.calling with
    | none => self
    | some (request, drop) => { self with calling := none }.finishDrop request drop answer
  | .change ownerProtocolOpen ownerTable storedDescriptors =>
    { self with ownerProtocolOpen, ownerTable, storedDescriptors }

/-! ## Idempotence -/

variable (s : OwnedDrops ε)

def Succeeded (reply : RequestDropOwnedObjectReply) : Prop := reply.disposition ≠ .failed

/-- The first request under an operation id. -/
def First (operationId : String) (request : RequestDropOwnedObject) : Prop :=
  s.requests.find? (·.operationId = operationId) = some request

/-- An id is bound by its first contents, and replays prefer the replica of the first try. -/
structure Steady : Prop where
  bound : ∀ first, s.First request.operationId first → first ≠ request →
    s.claims.get? request.operationId ≠ none
  kept : request.nodeId = none → ∀ drop descriptor e, (request, drop) ∈ s.sent →
    s.storedDescriptors.get? request.objectId = some descriptor →
    s.ownerTable.entries.get? request.objectId = some e → e.state = .readyStored →
    preferred descriptor e = drop.nodeId

def Condition : DropAction ε → Prop
  | .request request => s.calling = none → s.Steady request
  | _ => True

structure Idempotent : Prop where
  replica : ∀ r drop r' drop', (r, drop) ∈ s.sent → (r', drop') ∈ s.sent →
    r.operationId = r'.operationId → drop.objectId = drop'.objectId ∧
      drop.producerAttemptId = drop'.producerAttemptId ∧ drop.nodeId = drop'.nodeId
  replayed : ∀ r reply, (r, reply) ∈ s.replied → Succeeded reply →
    s.requestDrop r = s.tell r reply
  refused : ∀ r r', s.First r'.operationId r → r ≠ r' → s.Steady r' →
    s.requestDrop r' = s.tell r' (conflict r')

/-- What claims, cached replies and the call under way say of the records. -/
structure Inv : Prop where
  sent : ∀ r drop, (r, drop) ∈ s.sent → s.claims.get? r.operationId = some r ∧
    drop.objectId = r.objectId ∧ drop.producerAttemptId = r.expectedOwnerAttempt ∧
    ∀ nodeId, r.nodeId = some nodeId → drop.nodeId = nodeId
  target : ∀ r drop drop', (r, drop) ∈ s.sent → (r, drop') ∈ s.sent →
    drop.nodeId = drop'.nodeId
  replied : ∀ r reply, (r, reply) ∈ s.replied → Succeeded reply →
    s.claims.get? r.operationId = some r ∧ s.replies.get? r.operationId = some reply
  calling : ∀ r drop, s.calling = some (r, drop) → s.claims.get? r.operationId = some r ∧
    s.replies.get? r.operationId = none
  first : ∀ operationId r, s.claims.get? operationId = some r → s.First operationId r

variable {s : OwnedDrops ε} {request r : RequestDropOwnedObject}

theorem Inv.receive (h : s.Inv) (r : RequestDropOwnedObject) :
    ({ s with requests := s.requests ++ [r] } : OwnedDrops ε).Inv where
  sent := h.sent
  target := h.target
  replied := h.replied
  calling := h.calling
  first id c hc := by
    have hfirst : s.requests.find? (·.operationId = id) = some c := h.first id c hc
    rw [First, List.find?_append, hfirst]
    rfl

theorem Steady.first (hsteady : s.Steady r) (hnew : s.claims.get? r.operationId = none) :
    ({ s with requests := s.requests ++ [r] } : OwnedDrops ε).First r.operationId r := by
  rw [First, List.find?_append]
  cases hfirst : s.requests.find? (·.operationId = r.operationId) with
  | none => simp
  | some first =>
    have hsame : first = r := not_not.mp fun hne => hsteady.bound first hfirst hne hnew
    rw [hsame]
    rfl

theorem Inv.claim (h : s.Inv) (hfirst : s.First r.operationId r)
    (hfree : ∀ c, s.claims.get? r.operationId = some c → c = r) :
    ({ s with claims := s.claims.set r.operationId r } : OwnedDrops ε).Inv := by
  have hkept : ∀ {id c}, s.claims.get? id = some c →
      (s.claims.set r.operationId r).get? id = some c := by
    intro id c hc
    rw [Dict.get?_set]
    by_cases hid : r.operationId = id
    · rw [if_pos hid, hfree c (hid ▸ hc)]
    · rwa [if_neg hid]
  refine ⟨fun r' drop hd => (h.sent r' drop hd).imp_left hkept, h.target,
    fun r' reply hr hok => (h.replied r' reply hr hok).imp_left hkept,
    fun r' drop hc => (h.calling r' drop hc).imp_left hkept, fun id c hc => ?_⟩
  rcases Dict.of_get?_set hc with ⟨rfl, rfl⟩ | hc
  · exact hfirst
  · exact h.first id c hc

theorem Inv.cache (h : s.Inv) (hidle : s.calling = none)
    (hnone : s.replies.get? r.operationId = none) (reply : RequestDropOwnedObjectReply) :
    ({ s with replies := s.replies.set r.operationId reply } : OwnedDrops ε).Inv := by
  refine ⟨h.sent, h.target, fun r' reply' hr hok => ?_, fun r' drop hc => ?_, h.first⟩
  · exact (h.replied r' reply' hr hok).imp_right (Dict.get?_set_kept hnone)
  · cases hidle.symm.trans hc

theorem Inv.hold (h : s.Inv) (hclaim : s.claims.get? r.operationId = some r)
    (hnone : s.replies.get? r.operationId = none) (drop : DropObjectReplica) :
    ({ s with calling := some (r, drop) } : OwnedDrops ε).Inv := by
  refine ⟨h.sent, h.target, h.replied, fun r' drop' hc => ?_, h.first⟩
  cases hc
  exact ⟨hclaim, hnone⟩

theorem Inv.change (h : s.Inv) (ownerProtocolOpen : Bool) (ownerTable : ObjectOwnerTable ε)
    (storedDescriptors : Dict ObjectID ResultDescriptor) :
    ({ s with ownerProtocolOpen, ownerTable, storedDescriptors } : OwnedDrops ε).Inv :=
  ⟨h.sent, h.target, h.replied, h.calling, h.first⟩

theorem Inv.tell (h : s.Inv) {reply : RequestDropOwnedObjectReply}
    (hcached : Succeeded reply → s.claims.get? r.operationId = some r ∧
      s.replies.get? r.operationId = some reply) : (s.tell r reply).Inv := by
  refine ⟨h.sent, h.target, fun r' reply' hr hok => ?_, h.calling, h.first⟩
  rcases List.mem_append.mp hr with hold | hnew
  · exact h.replied r' reply' hold hok
  · cases List.mem_singleton.mp hnew
    exact hcached hok

theorem Inv.send (h : s.Inv) {drop : DropObjectReplica}
    (hclaim : s.claims.get? r.operationId = some r) (hobject : drop.objectId = r.objectId)
    (hattempt : drop.producerAttemptId = r.expectedOwnerAttempt)
    (hnode : ∀ nodeId, r.nodeId = some nodeId → drop.nodeId = nodeId)
    (hsame : ∀ drop', (r, drop') ∈ s.sent → drop.nodeId = drop'.nodeId) :
    ({ s with sent := s.sent ++ [(r, drop)] } : OwnedDrops ε).Inv := by
  refine ⟨fun r' drop' hd => ?_, fun r' drop₁ drop₂ h₁ h₂ => ?_, h.replied, h.calling, h.first⟩
  · rcases List.mem_append.mp hd with hold | hnew
    · exact h.sent r' drop' hold
    · cases List.mem_singleton.mp hnew
      exact ⟨hclaim, hobject, hattempt, hnode⟩
  · rcases List.mem_append.mp h₁ with h₁ | h₁ <;> rcases List.mem_append.mp h₂ with h₂ | h₂
    · exact h.target r' drop₁ drop₂ h₁ h₂
    · cases List.mem_singleton.mp h₂
      exact (hsame drop₁ h₁).symm
    · cases List.mem_singleton.mp h₁
      exact hsame drop₂ h₂
    · cases List.mem_singleton.mp h₁
      cases List.mem_singleton.mp h₂
      rfl

/-! ## The steps -/

theorem validate_some {target : NodeID} {checksum : String}
    (h : s.validate r = .ok (some (target, checksum))) :
    ∃ descriptor e, s.storedDescriptors.get? r.objectId = some descriptor ∧
      s.ownerTable.entries.get? r.objectId = some e ∧ e.state = .readyStored ∧
      target = r.nodeId.getD (preferred descriptor e) := by
  simp only [validate, bind_eq_ok] at h
  obtain ⟨_, -, _, -, h⟩ := h
  cases he : s.ownerTable.entries.get? r.objectId with
  | none =>
    rw [he] at h
    cases h
  | some e =>
    simp only [he, bind_eq_ok] at h
    obtain ⟨_, -, _, -, _, -, _, -, h⟩ := h
    split at h
    · cases h
    · simp only [bind_eq_ok, raiseIf_eq_ok, not_not] at h
      obtain ⟨_, hstate, h⟩ := h
      cases hd : s.storedDescriptors.get? r.objectId with
      | none =>
        rw [hd] at h
        cases h
      | some descriptor =>
        simp only [hd, bind_eq_ok] at h
        obtain ⟨_, -, h⟩ := h
        cases h
        exact ⟨descriptor, e, rfl, rfl, hstate, rfl⟩

theorem Inv.tryDrop (h : s.Inv) (hidle : s.calling = none)
    (hnone : s.replies.get? r.operationId = none) (hfirst : s.First r.operationId r)
    (hfree : ∀ c, s.claims.get? r.operationId = some c → c = r)
    (hkept : r.nodeId = none → ∀ drop descriptor e, (r, drop) ∈ s.sent →
      s.storedDescriptors.get? r.objectId = some descriptor →
      s.ownerTable.entries.get? r.objectId = some e → e.state = .readyStored →
      preferred descriptor e = drop.nodeId) : (s.tryDrop r).Inv := by
  have hclaimed := h.claim hfirst hfree
  have hself : (s.claims.set r.operationId r).get? r.operationId = some r :=
    Dict.get?_set_self _ _ _
  unfold OwnedDrops.tryDrop
  split
  · exact h.tell fun hok => absurd rfl hok
  · exact (hclaimed.cache hidle hnone _).tell fun _ => ⟨hself, Dict.get?_set_self _ _ _⟩
  · rename_i target checksum hvalid
    obtain ⟨descriptor, e, hdescriptor, he, hstate, htarget⟩ := validate_some hvalid
    dsimp only
    split
    · refine (hclaimed.hold hself hnone _).send hself rfl rfl (fun nodeId hnode => ?_)
        fun drop' hmem => ?_
      · change target = nodeId
        rw [htarget, hnode]
        rfl
      · change target = drop'.nodeId
        cases hnode : r.nodeId with
        | some nodeId =>
          rw [htarget, hnode, (h.sent r drop' hmem).2.2.2 nodeId hnode]
          rfl
        | none =>
          rw [htarget, hnode]
          exact hkept hnode drop' descriptor e hmem hdescriptor he hstate
    · exact hclaimed

theorem Inv.requestDrop (h : s.Inv) (hidle : s.calling = none) (hsteady : s.Steady r) :
    ({ s with requests := s.requests ++ [r] }.requestDrop r).Inv := by
  have h' := h.receive r
  unfold OwnedDrops.requestDrop
  cases hclaim : s.claims.get? r.operationId with
  | none =>
    cases hreply : s.replies.get? r.operationId with
    | none =>
      exact h'.tryDrop hidle hreply (hsteady.first hclaim)
        (fun c hc => nomatch hclaim.symm.trans hc) hsteady.kept
    | some reply => exact h'
  | some claimed =>
    dsimp only
    by_cases hother : claimed ≠ r
    · rw [if_pos hother]
      exact h'.tell fun hok => absurd rfl hok
    · obtain rfl := not_not.mp hother
      rw [if_neg hother]
      cases hreply : s.replies.get? claimed.operationId with
      | none =>
        exact h'.tryDrop hidle hreply (h'.first _ _ hclaim)
          (fun c hc => Option.some.inj (hc.symm.trans hclaim)) hsteady.kept
      | some reply => exact h'.tell fun _ => ⟨hclaim, hreply⟩

theorem Inv.rejected (h : s.Inv) (error : Option String) : (s.rejected r error).Inv :=
  h.tell fun hok => absurd rfl hok

theorem Inv.finishDrop (h : s.Inv) (hidle : s.calling = none) {drop : DropObjectReplica}
    (hclaim : s.claims.get? r.operationId = some r) (hnone : s.replies.get? r.operationId = none)
    (answer : DropAnswer) : (s.finishDrop r drop answer).Inv := by
  cases answer with
  | unreachable => exact h
  | malformed => exact h.rejected none
  | reply reply =>
    rw [OwnedDrops.finishDrop]
    split
    · unfold acknowledge
      split
      · exact h
      · refine Inv.tell ?_ fun _ => ⟨hclaim, Dict.get?_set_self _ _ _⟩
        exact (h.cache hidle hnone _).change s.ownerProtocolOpen _ _
    · exact h.rejected reply.error

theorem Inv.step (h : s.Inv) (action : DropAction ε) (hcondition : s.Condition action) :
    (s.step action).Inv := by
  cases action with
  | request request =>
    rw [OwnedDrops.step]
    by_cases hidle : s.calling = none
    · rw [if_pos hidle]
      exact h.requestDrop hidle (hcondition hidle)
    · rwa [if_neg hidle]
  | answer answer =>
    rw [OwnedDrops.step]
    cases hcalling : s.calling with
    | none => exact h
    | some call =>
      obtain ⟨hclaim, hnone⟩ := h.calling call.1 call.2 hcalling
      have hidle : ({ s with calling := none } : OwnedDrops ε).Inv :=
        ⟨h.sent, h.target, h.replied, (by intro _ _ hc; cases hc), h.first⟩
      exact hidle.finishDrop rfl hclaim hnone answer
  | change ownerProtocolOpen ownerTable storedDescriptors => exact h.change _ _ _

theorem Inv.idempotent (h : s.Inv) : s.Idempotent where
  replica r drop r' drop' hd hd' hid := by
    obtain ⟨hclaim, hobject, hattempt, -⟩ := h.sent r drop hd
    obtain ⟨hclaim', hobject', hattempt', -⟩ := h.sent r' drop' hd'
    rw [hid] at hclaim
    obtain rfl := Option.some.inj (hclaim.symm.trans hclaim')
    exact ⟨hobject.trans hobject'.symm, hattempt.trans hattempt'.symm,
      h.target r drop drop' hd hd'⟩
  replayed r reply hr hok := by
    obtain ⟨hclaim, hreply⟩ := h.replied r reply hr hok
    simp [OwnedDrops.requestDrop, hclaim, hreply]
  refused r r' hfirst hne hsteady := by
    obtain ⟨c, hclaim⟩ := Option.ne_none_iff_exists'.mp (hsteady.bound r hfirst hne)
    obtain rfl := Option.some.inj ((h.first _ _ hclaim).symm.trans hfirst)
    simp [OwnedDrops.requestDrop, hclaim, hne]

structure Fresh (s : OwnedDrops ε) : Prop where
  claims : s.claims = .empty
  replies : s.replies = .empty
  calling : s.calling = none
  requests : s.requests = []
  sent : s.sent = []
  replied : s.replied = []

theorem Fresh.inv (h : s.Fresh) : s.Inv where
  sent r drop hd := by simp [h.sent] at hd
  target r drop drop' hd := by simp [h.sent] at hd
  replied r reply hr := by simp [h.replied] at hr
  calling r drop hc := by simp [h.calling] at hc
  first id r hr := by simp [h.claims, Dict.get?, Dict.empty, Dict.lookup] at hr

namespace Sample

open ObjectOwnerTable.Sample

def hold : TaskReferenceHold := ⟨.submitted, ⟨11⟩, task, ⟨task, 0⟩, rfl⟩

/-- A stored object on two Nodes, with one borrower. -/
def twoReplicas : OwnedDrops Unit where
  workerId := ⟨11⟩
  ownerProtocolOpen := true
  ownerTable := Run.run ObjectOwnerTable.step .empty
    [.register object (some ⟨task, 0⟩) none none, .commitPublishTaskOutputs (publication 1),
      .publishStored object (some ⟨task, 0⟩) ⟨4⟩ none, .addSubmittedReference object hold,
      .acquireExportedReference object (.taskHold hold) (.worker ⟨12⟩ "borrower")]
  storedDescriptors := Dict.empty.set object (stored 1)
  claims := .empty
  replies := .empty
  calling := none
  requests := []
  sent := []
  replied := []

def asked (operationId : String) (nodeId : Option NodeID) : RequestDropOwnedObject :=
  ⟨operationId, object, ⟨11⟩, ⟨12⟩, .taskHold hold, "borrower", ⟨task, 0⟩, nodeId, rfl⟩

def dropped (nodeId : NodeID) : DropObjectReplica :=
  ⟨object, ⟨task, 0⟩, ⟨11⟩, nodeId, (stored 1).checksum, rfl, by decide⟩

/-- The first answer is lost, and replayed after another drop told what it did. -/
def replayed : List (DropAction Unit) :=
  [.request (asked "first" none), .answer .unreachable, .request (asked "other" (some node)),
    .answer (.reply
      ⟨dropped node, .alreadyDropped, none, fun _ => rfl, fun h => (h (.inr rfl)).elim⟩),
    .request (asked "first" none)]

end Sample

open Sample ObjectOwnerTable.Sample

end OwnedDrops

end MiniRay
