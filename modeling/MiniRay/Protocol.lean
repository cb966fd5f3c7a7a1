import MiniRay.ContainedEdges

/-! Wire values whose constructors check them carry those checks as fields, so that an ill-formed
value cannot be built. Fields that no modelled operation reads are left out; `TaskSpec.definition`
stands for the ones that are only compared. -/

namespace MiniRay

/-! ## Checksums -/

def isHexDigit (c : Char) : Bool := Sha256.isLowerHexDigit c || ('A' ≤ c && c ≤ 'F')

/-- Digits with single underscores between them. -/
def hexDigitGroups : List Char → Bool
  | [] => false
  | [c] => isHexDigit c
  | c :: '_' :: rest => isHexDigit c && hexDigitGroups rest
  | c :: rest => isHexDigit c && hexDigitGroups rest

def stripBlank (cs : List Char) : List Char :=
  ((cs.dropWhile Char.isWhitespace).reverse.dropWhile Char.isWhitespace).reverse

def stripSign : List Char → List Char
  | '+' :: rest => rest
  | '-' :: rest => rest
  | cs => cs

def stripPrefix16 : List Char → List Char
  | '0' :: 'x' :: '_' :: rest => rest
  | '0' :: 'X' :: '_' :: rest => rest
  | '0' :: 'x' :: rest => rest
  | '0' :: 'X' :: rest => rest
  | cs => cs

/-- Whether `int(text, 16)` accepts an ASCII text. -/
def parsesBase16 (text : String) : Bool :=
  hexDigitGroups (stripPrefix16 (stripSign (stripBlank text.toList)))

/-- The checksum test of result descriptors, weaker than a lower-case digest. -/
def IsResultChecksum (text : String) : Prop := text.toList.length = 64 ∧ parsesBase16 text = true

instance (text : String) : Decidable (IsResultChecksum text) := inferInstanceAs (Decidable (_ ∧ _))

section LowerHex

variable {cs : List Char} (h : ∀ c ∈ cs, Sha256.isLowerHexDigit c = true)
include h

theorem not_mem_of_lowerHex {c : Char} (hc : Sha256.isLowerHexDigit c = false) : c ∉ cs := by
  intro hm
  simp [h c hm] at hc

theorem stripBlank_of_lowerHex : stripBlank cs = cs := by
  have hblank : ∀ c ∈ cs, c.isWhitespace = false := by
    intro c hc
    by_contra hw
    simp only [Bool.not_eq_false, Char.isWhitespace, Bool.or_eq_true, decide_eq_true_eq] at hw
    rcases hw with ((rfl | rfl) | rfl) | rfl <;>
      exact not_mem_of_lowerHex h (by decide) hc
  have hdrop : ∀ l : List Char, (∀ c ∈ l, c.isWhitespace = false) →
      l.dropWhile Char.isWhitespace = l := by
    intro l hl
    cases l with
    | nil => rfl
    | cons c l => simp [hl c (by simp)]
  rw [stripBlank, hdrop _ hblank, hdrop _ (by simpa using hblank), List.reverse_reverse]

theorem stripSign_of_lowerHex : stripSign cs = cs := by
  unfold stripSign
  split
  · exact absurd (by simp) (not_mem_of_lowerHex h (by decide : Sha256.isLowerHexDigit '+' = false))
  · exact absurd (by simp) (not_mem_of_lowerHex h (by decide : Sha256.isLowerHexDigit '-' = false))
  · rfl

theorem stripPrefix16_of_lowerHex : stripPrefix16 cs = cs := by
  have hx := not_mem_of_lowerHex h (by decide : Sha256.isLowerHexDigit 'x' = false)
  have hX := not_mem_of_lowerHex h (by decide : Sha256.isLowerHexDigit 'X' = false)
  unfold stripPrefix16
  split
  · exact absurd (by simp) hx
  · exact absurd (by simp) hX
  · exact absurd (by simp) hx
  · exact absurd (by simp) hX
  · rfl

theorem hexDigitGroups_of_lowerHex (hne : cs ≠ []) : hexDigitGroups cs = true := by
  induction cs with
  | nil => exact absurd rfl hne
  | cons c rest ih =>
    have hc : isHexDigit c = true := by simp [isHexDigit, h c (by simp)]
    cases rest with
    | nil => simpa [hexDigitGroups] using hc
    | cons d rest =>
      have hrest := ih (fun x hx => h x (List.mem_cons_of_mem c hx)) (by simp)
      have hd : d ≠ '_' := by
        rintro rfl
        exact not_mem_of_lowerHex h (by decide : Sha256.isLowerHexDigit '_' = false) (by simp)
      rw [hexDigitGroups.eq_4 c (d :: rest) (by simp) (by simp [hd]), hc, hrest]
      rfl

end LowerHex

variable {text : String}

/-- A lower-case digest passes the weaker test of result descriptors. -/
theorem isResultChecksum_of_lower (h : Sha256.IsLowerHexDigest text) : IsResultChecksum text := by
  obtain ⟨hlen, hall⟩ := h
  rw [List.all_eq_true] at hall
  refine ⟨hlen, ?_⟩
  rw [parsesBase16, stripBlank_of_lowerHex hall, stripSign_of_lowerHex hall,
    stripPrefix16_of_lowerHex hall]
  refine hexDigitGroups_of_lowerHex hall ?_
  rintro hnil
  simp [hnil] at hlen

theorem toLower_of_isLowerHexDigit {c : Char} (h : Sha256.isLowerHexDigit c = true) :
    c.toLower = c := by
  simp only [Sha256.isLowerHexDigit, Bool.or_eq_true, Bool.and_eq_true, decide_eq_true_eq,
    Char.le_def, UInt32.le_iff_toNat_le] at h
  have hn : ¬ (c.val ≥ 'A'.val ∧ c.val ≤ 'Z'.val) := by
    simp only [ge_iff_le, UInt32.le_iff_toNat_le]
    have : 'A'.val.toNat = 65 ∧ 'Z'.val.toNat = 90 ∧ '9'.val.toNat = 57 ∧ 'a'.val.toNat = 97 := by
      decide
    omega
  exact dif_neg hn

theorem isLowerHexDigit_toLower {c : Char} (h : isHexDigit c = true) :
    Sha256.isLowerHexDigit c.toLower = true := by
  by_cases hl : Sha256.isLowerHexDigit c = true
  · rw [toLower_of_isLowerHexDigit hl, hl]
  · simp only [isHexDigit, Bool.or_eq_true, hl, false_or, Bool.and_eq_true, decide_eq_true_eq,
      Char.le_def, UInt32.le_iff_toNat_le, Bool.false_eq_true] at h
    have hu : c.val ≥ 'A'.val ∧ c.val ≤ 'Z'.val := by
      simp only [ge_iff_le, UInt32.le_iff_toNat_le]
      have : 'F'.val.toNat = 70 ∧ 'Z'.val.toNat = 90 := by decide
      omega
    have hval : c.toLower.val = c.val + 32 := congrArg Char.val (dif_pos hu)
    have hnat : c.toLower.val.toNat = c.val.toNat + 32 := by
      rw [hval, UInt32.toNat_add]
      have : 'F'.val.toNat = 70 := by decide
      have : (32 : UInt32).toNat = 32 := by decide
      omega
    simp only [Sha256.isLowerHexDigit, Bool.or_eq_true, Bool.and_eq_true, decide_eq_true_eq,
      Char.le_def, UInt32.le_iff_toNat_le, hnat]
    have : 'A'.val.toNat = 65 ∧ 'F'.val.toNat = 70 ∧ 'a'.val.toNat = 97 ∧
      'f'.val.toNat = 102 := by decide
    omega

/-- `str.lower` on a checksum. -/
def lowerHex (text : String) : String := String.ofList (text.toList.map Char.toLower)

theorem lowerHex_of_lower (h : Sha256.IsLowerHexDigest text) : lowerHex text = text := by
  have hmap : text.toList.map Char.toLower = text.toList :=
    (List.map_congr_left fun c hc =>
      toLower_of_isLowerHexDigit (List.all_eq_true.mp h.2 c hc)).trans (List.map_id _)
  rw [lowerHex, hmap, String.ofList_toList]

theorem isLowerHexDigest_lowerHex (hlen : text.toList.length = 64)
    (h : text.toList.all isHexDigit = true) : Sha256.IsLowerHexDigest (lowerHex text) := by
  refine ⟨by simp [lowerHex, hlen], ?_⟩
  simp only [lowerHex, String.toList_ofList, List.all_map, List.all_eq_true, Function.comp_apply]
  exact fun c hc => isLowerHexDigit_toLower (List.all_eq_true.mp h c hc)

/-! ## Process deaths -/

inductive NodeDeathReason
  | expected
  | processExit
  deriving DecidableEq

inductive WorkerDeathReason
  | processExit
  | nodeExit
  | expected
  deriving DecidableEq

def WorkerDeathReason.value : WorkerDeathReason → String
  | .processExit => "PROCESS_EXIT"
  | .nodeExit => "NODE_EXIT"
  | .expected => "EXPECTED"

@[ext] structure NodeDeathRecord where
  detectionId : String
  nodeId : NodeID
  nodePid : Nat
  registrationEpoch : Nat
  deathEpoch : Nat
  exitCode : Int
  reason : NodeDeathReason
  detail : String
  detection_ne : detectionId ≠ ""
  positive : 0 < nodePid ∧ 0 < registrationEpoch ∧ 0 < deathEpoch
  detail_ne : detail ≠ ""

instance : DecidableEq NodeDeathRecord := byFields NodeDeathRecord.ext_iff

/-- Physical identity of one ordinary Worker supervised by one Node. -/
@[ext] structure WorkerIncarnation where
  nodeId : NodeID
  nodePid : Nat
  nodeRegistrationEpoch : Nat
  workerId : WorkerID
  workerPid : Nat
  positive : 0 < nodePid ∧ 0 < nodeRegistrationEpoch ∧ 0 < workerPid

instance : DecidableEq WorkerIncarnation := byFields WorkerIncarnation.ext_iff

/-- Immutable fact that one ordinary Worker exited. -/
@[ext] structure WorkerDeathRecord where
  detectionId : String
  incarnation : WorkerIncarnation
  deathEpoch : Nat
  exitCode : Int
  reason : WorkerDeathReason
  detection_ne : detectionId ≠ ""
  epoch_pos : 0 < deathEpoch

instance : DecidableEq WorkerDeathRecord := byFields WorkerDeathRecord.ext_iff

def WorkerDeathRecord.workerId (death : WorkerDeathRecord) : WorkerID := death.incarnation.workerId

/-- The bounds `owner_death` adds when a record crosses an effect boundary. -/
def WorkerDeathRecord.OwnerDeath (death : WorkerDeathRecord) : Prop :=
  Uint64 death.incarnation.nodePid ∧ Uint64 death.incarnation.nodeRegistrationEpoch ∧
    Uint64 death.incarnation.workerPid ∧ Uint64 death.deathEpoch

instance (death : WorkerDeathRecord) : Decidable death.OwnerDeath :=
  inferInstanceAs (Decidable (_ ∧ _))

def WorkerDeathRecord.ConfirmedExit (death : WorkerDeathRecord) : Prop :=
  death.reason = .processExit ∨ death.reason = .nodeExit

instance (death : WorkerDeathRecord) : Decidable death.ConfirmedExit :=
  inferInstanceAs (Decidable (_ ∨ _))

/-! ## Worker membership -/

inductive WorkerMembershipState
  | alive
  | dead
  deriving DecidableEq

/-- A found Worker has its own incarnation, and a death record exactly when it is dead. -/
structure FoundWorker (workerId : WorkerID) (watermark : Nat) (state : Option WorkerMembershipState)
    (incarnation : Option WorkerIncarnation) (death : Option WorkerDeathRecord) : Prop where
  state_known : state ≠ none
  own_incarnation : incarnation.map WorkerIncarnation.workerId = some workerId
  dead_record : state = some .dead → ∃ d, death = some d ∧ incarnation = some d.incarnation ∧
    d.deathEpoch ≤ watermark
  alive_record : state = some .alive → death = none

structure GetWorkerStateReply where
  workerId : WorkerID
  found : Bool
  watermark : Nat
  state : Option WorkerMembershipState
  incarnation : Option WorkerIncarnation
  death : Option WorkerDeathRecord
  error : Option String
  missing : found = false →
    state = none ∧ incarnation = none ∧ death = none ∧ error ≠ none ∧ error ≠ some ""
  present : found = true → error = none ∧ FoundWorker workerId watermark state incarnation death
  deriving DecidableEq

/-! ## Reference credentials -/

inductive TaskReferenceHoldKind
  | submitted
  | retained
  deriving DecidableEq

/-- Stable credential for one logical Task-hold incarnation. -/
structure TaskReferenceHold where
  kind : TaskReferenceHoldKind
  submittingWorkerId : WorkerID
  taskId : TaskID
  originAttemptId : AttemptID
  origin_task : originAttemptId.taskId = taskId
  deriving DecidableEq

/-- Immutable owner route and Task-hold proof for a nested reference. -/
structure NestedReferenceTransfer where
  objectId : ObjectID
  ownerWorkerId : WorkerID
  ownerAddress : Address
  hold : TaskReferenceHold
  submitted_owner : hold.kind = .submitted → hold.submittingWorkerId = ownerWorkerId
  deriving DecidableEq

/-- The proof that authorizes a borrower: a contained pin or an active Task hold. -/
inductive BorrowSource
  | contained (hold : ContainedReferenceHold)
  | taskHold (hold : TaskReferenceHold)
  deriving DecidableEq

/-! ## Results and replicas -/

inductive ResultStorage
  | inline
  | objectStore
  deriving DecidableEq

def ResultStorage.value : ResultStorage → String
  | .inline => "INLINE"
  | .objectStore => "OBJECT_STORE"

structure ResultDescriptor where
  objectId : ObjectID
  storage : ResultStorage
  sizeBytes : Nat
  ownerWorkerId : WorkerID
  nodeId : NodeID
  checksum : String
  inlineData : Option (List UInt8)
  inline_payload : storage = .inline → inlineData.map List.length = some sizeBytes ∧
    inlineData.map Sha256.hexdigest = some checksum
  stored_payload : storage = .objectStore → inlineData = none
  checksum_hex : IsResultChecksum checksum
  deriving DecidableEq

theorem stored_none (_ : ResultStorage.objectStore = .objectStore) :
    (none : Option (List UInt8)) = none := rfl

/-- How an owner's table answered a prepared transfer. -/
inductive StoredContainedReferenceDisposition
  | prepared
  | alreadyPrepared
  | promoted
  | alreadyPromoted
  deriving DecidableEq

/-- Byte-free identity and integrity metadata for one sealed replica. -/
structure ObjectStoreDescriptor where
  objectId : ObjectID
  ownerWorkerId : WorkerID
  producerAttemptId : AttemptID
  nodeId : NodeID
  sizeBytes : Nat
  checksum : String
  attempt_task : producerAttemptId.taskId = objectId.taskId
  checksum_hex : Sha256.IsLowerHexDigest checksum
  deriving DecidableEq

structure SealObjectReply where
  objectId : ObjectID
  isSealed : Bool
  nodeId : NodeID
  sizeBytes : Nat
  checksum : String
  error : Option String
  absenceFenced : Bool
  flags : ¬ (isSealed = true ∧ absenceFenced = true)
  sealed_error : isSealed = true → error = none
  rejected_error : isSealed = false → error ≠ none ∧ error ≠ some ""
  deriving DecidableEq

/-- Delete exactly one physical replica, fenced by immutable metadata. -/
structure DropObjectReplica where
  objectId : ObjectID
  producerAttemptId : AttemptID
  ownerWorkerId : WorkerID
  nodeId : NodeID
  checksum : String
  attempt_task : producerAttemptId.taskId = objectId.taskId
  checksum_hex : Sha256.IsLowerHexDigest checksum
  deriving DecidableEq

inductive DropObjectReplicaStatus
  | dropped
  | alreadyDropped
  | pinned
  | staleEpoch
  | nodeDraining
  | inconsistent
  | rejected
  deriving DecidableEq

/-- Typed reply that echoes the complete immutable replica identity. -/
structure DropObjectReplicaReply where
  identity : DropObjectReplica
  status : DropObjectReplicaStatus
  error : Option String
  acknowledged : status = .dropped ∨ status = .alreadyDropped → error = none
  rejected : ¬ (status = .dropped ∨ status = .alreadyDropped) →
    error ≠ none ∧ error ≠ some ""
  deriving DecidableEq

/-! ## Contained releases -/

/-- Release one transfer pin at the contained object's logical owner. -/
structure ReleaseContainedReference where
  objectId : ObjectID
  ownerWorkerId : WorkerID
  hold : ContainedReferenceHold
  deriving DecidableEq

structure ReleaseContainedReferenceReply where
  objectId : ObjectID
  ownerWorkerId : WorkerID
  hold : ContainedReferenceHold
  accepted : Bool
  released : Bool
  error : Option String
  accepted_error : accepted = true → error = none
  rejected_error : accepted = false → error ≠ none ∧ error ≠ some "" ∧ released = false
  deriving DecidableEq

/-! ## Task specifications -/

/-- One ordinary task; `definition` stands for the function, arguments, resources, retry
budget and scheduling fields, which the modelled code only compares. -/
structure TaskSpec where
  jobId : JobID
  taskId : TaskID
  attemptId : AttemptID
  ownerWorkerId : WorkerID
  definition : String
  attempt_task : attemptId.taskId = taskId
  deriving DecidableEq

/-- An ordinary task has one output, at return index zero. -/
def TaskSpec.returnIds (spec : TaskSpec) : List ObjectID := [ObjectID.forTask spec.taskId 0]

end MiniRay
