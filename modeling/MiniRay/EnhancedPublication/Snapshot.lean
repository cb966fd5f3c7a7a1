import MiniRay.Library.Checked
import MiniRay.EnhancedPublication.Facts
import Mathlib.Data.Finset.Union
import Mathlib.Data.Finset.Image

/-! One record of the authority: a publication, its receipts and the facts behind them. The
constructor re-checks the whole lifecycle; `Valid` is what those checks say. -/

namespace MiniRay

open Checked

/-! ## Preparation and cleanup checks -/

theorem Publication.transfers_framable (p : Publication) : ∀ t ∈ p.transfers, t.Framable := by
  cases p with
  | task p => exact p.manifest.slot.framable
  | put p => exact p.manifest.framable

/-- The requests a complete preparation must have answered, one per child in order. -/
def Publication.expectedPins (p : Publication)
    (kind : StoredContainedPin → StoredContainedPinRequest) :
    List StoredContainedPinRequest :=
  p.transfers.pmap (fun t h => kind ⟨t, t.containedOwnerWorkerId, h, rfl⟩) p.transfers_framable

/-- A STORED put names the Node that sealed exactly its bytes. -/
def SealedBytes (manifest : PutManifest) (node : Option PublicationNodeIncarnation)
    (reply : Option SealObjectReply) : Prop :=
  match node, reply with
  | some node, some reply =>
    reply.isSealed = true ∧ reply.objectId = manifest.objectId ∧ reply.nodeId = node.nodeId ∧
      reply.sizeBytes = manifest.sizeBytes ∧ reply.checksum = manifest.checksum
  | _, _ => False

instance (manifest : PutManifest) (node : Option PublicationNodeIncarnation)
    (reply : Option SealObjectReply) : Decidable (SealedBytes manifest node reply) := by
  unfold SealedBytes
  split <;> infer_instance

def validatePrepared (publication : Publication) (prepared : PreparedReceipt) :
    Except Failure Unit := do
  raiseIf (prepared.fields.reference ≠ publication.reference)
    (conflict "preparation changed publication reference")
  raiseIf (prepared.isTask ≠ publication.isTask) (conflict "preparation kind changed")
  checkAll (fun (replies, kind) =>
      raiseIf (replies.map StoredContainedPinReply.request ≠ publication.expectedPins kind)
        (conflict "preparation must cover every exact manifest child in order"))
    [(prepared.fields.prepareReplies, .prepareStoredContainedPin),
      (prepared.fields.promoteReplies, .promoteStoredContainedPin)]
  let node := prepared.fields.materialization.nodeIncarnation
  match publication, prepared with
  | .put publication, .put prepared =>
    if publication.manifest.tier = .inline then
      raiseIf (node ≠ none ∨ prepared.sealReply ≠ none)
        (conflict "INLINE put materialization belongs to its owner")
    else
      raiseIf (¬ SealedBytes publication.manifest node prepared.sealReply)
        (conflict "STORED put preparation requires its exact successful Seal")
  | .task publication, _ =>
    raiseIf (node ≠ some publication.manifest.header.nodeIncarnation)
      (conflict "Task materialization changed publishing Node incarnation")
  | .put _, .task _ => .error (conflict "preparation kind changed")

theorem validatePrepared_kind {publication : Publication} {prepared : PreparedReceipt}
    (h : validatePrepared publication prepared = .ok ()) :
    prepared.isTask = publication.isTask := by
  simp only [validatePrepared, bind_eq_ok, raiseIf_eq_ok, exists_const] at h
  exact not_not.mp h.2.1

def validateScope (publication : Publication) (scope : TaskRollbackScope) :
    Except Failure Unit := do
  raiseIf (publication.isTask = false ∨ scope.reference ≠ publication.reference)
    (conflict "rollback scope changed Task publication")
  raiseIf (∃ index ∈ scope.prepareIntents ++ scope.promoteIntents,
      publication.transfers.length ≤ index)
    (conflict "rollback scope names an absent child")

/-! ## Snapshots -/

structure PublicationSnapshot where
  publication : Publication
  receipts : List PublicationReceipt
  fence : Option FenceProof
  prepared : Option PreparedReceipt
  complete : Option OutputPublicationCompleteWitness
  adoption : Option OutputPublicationAdoptionProof
  closedHolds : Option ClosedContainedHolds
  deriving DecidableEq

/-- A child hold named by its object, owner and credential. -/
abbrev HoldKey := ObjectID × WorkerID × ContainedReferenceHold

namespace PublicationSnapshot

def reference (s : PublicationSnapshot) : PublicationRef := s.publication.reference

def receipt (s : PublicationSnapshot) (stage : PublicationStage) : Option PublicationReceipt :=
  s.receipts.find? fun receipt => receipt.stage = stage

def has (s : PublicationSnapshot) (stage : PublicationStage) : Bool := (s.receipt stage).isSome

def forwardOpen (s : PublicationSnapshot) : Bool := s.fence.isNone && !s.has .retired

def graphActive (s : PublicationSnapshot) : Bool := s.has .prepared && !s.has .retired

def provisionalKey (t : PreparedContainedTransfer) : HoldKey :=
  (t.containedObjectId, t.containedOwnerWorkerId, t.provisionalHold)

def finalKey (t : PreparedContainedTransfer) : HoldKey :=
  (t.containedObjectId, t.containedOwnerWorkerId, t.finalHold)

/-- The child indices whose provisional and final holds may exist. -/
def possibleIndices (publication : Publication) (scope : Option TaskRollbackScope) :
    List Nat × List Nat :=
  match scope with
  | some scope => (scope.prepareIntents, scope.promoteIntents)
  | none => (List.range publication.transfers.length, List.range publication.transfers.length)

/-- The holds a retirement must settle. A recorded promotion has already tombstoned the
provisional hold. -/
def requiredHolds (publication : Publication) (promoted : Bool) (indices : List Nat × List Nat) :
    Finset HoldKey :=
  publication.transfers.zipIdx.foldl (fun required (t, index) =>
    let required := if index ∈ indices.1 then insert (provisionalKey t) required else required
    let required := if index ∈ indices.2 then insert (finalKey t) required else required
    if promoted then required.erase (provisionalKey t) else required) ∅

/-- The checks on a rollback scope, against the recorded facts. -/
def checkScope (s : PublicationSnapshot) (scope : TaskRollbackScope) : Except Failure Unit := do
  validateScope s.publication scope
  raiseIf (s.complete ≠ none ∨ s.adoption ≠ none)
    (state "successful Complete cannot have a rollback scope")
  raiseIf (s.prepared ≠ none ∧
      (scope.prepareIntents ≠ List.range s.publication.transfers.length ∨
        scope.promoteIntents ≠ List.range s.publication.transfers.length ∨
        scope.materializationStarted = false))
    (conflict "rollback scope contradicts recorded complete preparation")

/-- Cleanup names only manifest holds and owners, and settles every required hold. -/
def checkSettlement (publication : Publication) (promoted : Bool) (closed : ClosedContainedHolds) :
    Except Failure Unit := do
  let required := requiredHolds publication promoted
    (possibleIndices publication closed.rollbackScope)
  let released := closed.releases.map fun reply => (reply.objectId, reply.ownerWorkerId, reply.hold)
  raiseIf (¬ released ⊆ publication.transfers.flatMap fun t => [provisionalKey t, finalKey t])
    (conflict "cleanup includes a hold outside its manifest")
  let dead := closed.childDeaths.map WorkerDeathRecord.workerId
  raiseIf (¬ dead ⊆ publication.transfers.map PreparedContainedTransfer.containedOwnerWorkerId)
    (conflict "cleanup death names no manifest child owner")
  raiseIf (∃ hold ∈ required, hold ∉ released ∧ hold.2.1 ∉ dead)
    (state "graph retirement requires exact settlement of every possible child hold")

def validateClosed (s : PublicationSnapshot) (closed : ClosedContainedHolds) :
    Except Failure Unit := do
  raiseIf (closed.reference ≠ s.reference) (conflict "hold cleanup changed publication identity")
  checkSome (s.checkScope) closed.rollbackScope
  checkSettlement s.publication s.prepared.isSome closed

/-- Causal prerequisites, later stage first. -/
def causalOrder : List (PublicationStage × PublicationStage) :=
  [(.prepared, .intent), (.armed, .prepared), (.terminal, .armed), (.committed, .prepared),
    (.adopted, .committed), (.retired, .fenced)]

/-- `before` was accepted first. A missing receipt has no sequence to read. -/
def checkOrder (s : PublicationSnapshot) (after before : PublicationStage) (message : String) :
    Except Failure Unit :=
  match s.receipt after, s.receipt before with
  | none, _ => pure ()
  | some a, some b => raiseIf (a.sequence ≤ b.sequence) (.valueError message)
  | some _, none => throw (.attributeError "'NoneType' object has no attribute 'sequence'")

def validateSnapshot (s : PublicationSnapshot) : Except Failure Unit := do
  raiseIf (s.fence.isSome ≠ s.has .fenced) (.valueError "fence fact and receipt must agree")
  raiseIf (s.complete.isSome ≠ s.has .terminal)
    (.valueError "Complete fact and terminal receipt must agree")
  raiseIf (s.adoption.isSome ≠ s.has .adopted) (.valueError "adoption fact and receipt must agree")
  raiseIf (s.closedHolds.isSome ≠ s.has .retired)
    (.valueError "closed holds and retired receipt must agree")
  let task := s.publication.isTask
  raiseIf (s.has .prepared ∧ ¬ s.has .intent)
    (.valueError "graph reservation requires INTENT history")
  raiseIf (s.has .armed ∧ (task = false ∨ ¬ s.has .prepared ∨ s.prepared = none))
    (.valueError "ARM requires Task graph and preparation history")
  checkSome (fun prepared => do
    validatePrepared s.publication prepared
    raiseIf (¬ s.has (if task then .armed else .committed))
      (.valueError "preparation has no matching acceptance receipt")) s.prepared
  checkSome (fun complete =>
    raiseIf (task = false ∨ ¬ s.has .armed ∨
        (PublicationKey.output complete.publicationId, complete.manifestDigest) ≠
          (s.reference.key, s.reference.digest))
      (.valueError "terminal fact changed armed Task publication")) s.complete
  raiseIf (s.has .committed ∧ (¬ s.has .prepared ∨ (task = true ∧ s.complete = none) ∨
      (task = false ∧ s.prepared = none)))
    (.valueError "graph commit lacks exact preparation or Complete")
  checkSome (fun adoption =>
    raiseIf (¬ s.has .committed ∨ some adoption.complete ≠ s.complete ∨
        adoption.ownerWorkerId ≠ s.publication.ownerWorkerId)
      (.valueError "adoption changed committed owner or Complete")) s.adoption
  checkSome (fun closed => do
    raiseIf (s.fence = none) (.valueError "retirement requires a forward fence")
    s.validateClosed closed) s.closedHolds
  checkAll (fun (after, before) =>
    s.checkOrder after before "publication receipts violate causal acceptance order") causalOrder
  if task ∧ s.has .committed then
    s.checkOrder .committed .terminal "Task graph commit must follow actual terminal acceptance"
  else pure ()

/-- The checks of `__post_init__`. -/
def validate (s : PublicationSnapshot) : Except Failure Unit := do
  raiseIf (¬ (s.receipts.map PublicationReceipt.stage).Nodup)
    (.valueError "receipt stages must not contain duplicates")
  raiseIf (∃ receipt ∈ s.receipts, receipt.reference ≠ s.reference)
    (.valueError "snapshot receipt changed reference")
  raiseIf (¬ s.receipts.Pairwise fun a b => a.sequence ≤ b.sequence)
    (.valueError "snapshot receipts must follow original acceptance order")
  checkSome (fun fence =>
    raiseIf (¬ ValidFence s.publication fence)
      (.valueError "owner fence changed publication identity")) s.fence
  s.validateSnapshot

variable {s : PublicationSnapshot}

variable {closed : ClosedContainedHolds}

theorem validateClosed_scope (h : s.validateClosed closed = .ok ()) (hc : s.complete ≠ none) :
    closed.rollbackScope = none := by
  simp only [validateClosed, checkScope, bind_eq_ok, checkSome_eq_ok, raiseIf_eq_ok,
    exists_const] at h
  cases hs : closed.rollbackScope with
  | none => rfl
  | some scope =>
    obtain ⟨_, _, hfacts, _⟩ := h.2.1 scope hs
    exact absurd (Or.inl hc) hfacts

theorem validateClosed_congr {s' : PublicationSnapshot} (hpub : s'.publication = s.publication)
    (hprep : s'.prepared = s.prepared)
    (hscope : closed.rollbackScope = none ∨ s'.complete = s.complete ∧ s'.adoption = s.adoption)
    (h : s.validateClosed closed = .ok ()) : s'.validateClosed closed = .ok () := by
  simp only [validateClosed, checkScope, bind_eq_ok, raiseIf_eq_ok, checkSome_eq_ok,
    exists_const] at h ⊢
  rw [reference, hpub, hprep]
  refine ⟨h.1, ?_, h.2.2⟩
  rcases hscope with hscope | ⟨hcomplete, hadoption⟩
  · simp [hscope]
  · rw [hcomplete, hadoption]
    exact h.2.1

/-- Construct a snapshot, or raise. -/
def create (s : PublicationSnapshot) : Except Failure PublicationSnapshot := do
  s.validate
  return s

def registered (publication : Publication) : PublicationSnapshot :=
  ⟨publication, [], none, none, none, none, none⟩

/-! ## What the checks say -/

/-- `before` was accepted ahead of `after` wherever `after` was accepted. -/
def Precedes (s : PublicationSnapshot) (before after : PublicationStage) : Prop :=
  ∀ a, s.receipt after = some a → ∃ b, s.receipt before = some b ∧ b.sequence < a.sequence

structure Valid (s : PublicationSnapshot) : Prop where
  stages : (s.receipts.map PublicationReceipt.stage).Nodup
  references : ∀ receipt ∈ s.receipts, receipt.reference = s.reference
  ordered : s.receipts.Pairwise fun a b => a.sequence < b.sequence
  fence_valid : ∀ fence, s.fence = some fence → ValidFence s.publication fence
  fence_receipt : s.fence.isSome = s.has .fenced
  complete_receipt : s.complete.isSome = s.has .terminal
  adoption_receipt : s.adoption.isSome = s.has .adopted
  closed_receipt : s.closedHolds.isSome = s.has .retired
  intent_prepared : s.Precedes .intent .prepared
  prepared_armed : s.Precedes .prepared .armed
  armed_terminal : s.Precedes .armed .terminal
  prepared_committed : s.Precedes .prepared .committed
  committed_adopted : s.Precedes .committed .adopted
  fenced_retired : s.Precedes .fenced .retired
  terminal_committed : s.publication.isTask = true → s.Precedes .terminal .committed
  armed_fact : s.has .armed = true → s.publication.isTask = true ∧ s.prepared ≠ none
  prepared_fact : ∀ prepared, s.prepared = some prepared →
    validatePrepared s.publication prepared = .ok () ∧
      s.has (if s.publication.isTask then .armed else .committed) = true
  complete_fact : ∀ complete, s.complete = some complete → s.publication.isTask = true ∧
    s.reference.key = .output complete.publicationId ∧ s.reference.digest = complete.manifestDigest
  commit_fact : s.has .committed = true → s.publication.isTask = false → s.prepared ≠ none
  adoption_fact : ∀ adoption, s.adoption = some adoption →
    s.complete = some adoption.complete ∧ adoption.ownerWorkerId = s.publication.ownerWorkerId
  closed_fact : ∀ closed, s.closedHolds = some closed → s.validateClosed closed = .ok ()

variable {before after : PublicationStage}

theorem Precedes.has (h : s.Precedes before after) (ha : s.has after = true) :
    s.has before = true := by
  obtain ⟨a, ha⟩ := Option.isSome_iff_exists.mp ha
  obtain ⟨b, hb, _⟩ := h a ha
  simp [PublicationSnapshot.has, hb]

theorem Precedes.checkOrder (h : s.Precedes before after) (message : String) :
    s.checkOrder after before message = .ok () := by
  unfold PublicationSnapshot.checkOrder
  cases ha : s.receipt after with
  | none => rfl
  | some a =>
    obtain ⟨b, hb, hlt⟩ := h a ha
    simp [hb, hlt]

theorem Valid.validateSnapshot (h : Valid s) : s.validateSnapshot = .ok () := by
  have hpi := h.intent_prepared.has
  have hap := h.prepared_armed.has
  have hta := h.armed_terminal.has
  have hcp := h.prepared_committed.has
  have hac := h.committed_adopted.has
  have hct (ht : s.publication.isTask = true) := (h.terminal_committed ht).has
  have hrf := h.fenced_retired.has
  simp only [PublicationSnapshot.validateSnapshot, bind_eq_ok, raiseIf_eq_ok, checkSome_eq_ok,
    checkAll_eq_ok, exists_const, ite_eq_ok]
  refine ⟨not_not.mpr h.fence_receipt, not_not.mpr h.complete_receipt,
    not_not.mpr h.adoption_receipt, not_not.mpr h.closed_receipt,
    ?_, ?_, ?_, ?_, ?_, ?_, ?_, ?_, ?_⟩
  · rintro ⟨hp, hi⟩
    exact hi (hpi hp)
  · rintro ⟨ha, ht | hp | hp⟩
    · simp [(h.armed_fact ha).1] at ht
    · exact hp (hap ha)
    · exact (h.armed_fact ha).2 hp
  · intro prepared hp
    obtain ⟨hv, hs⟩ := h.prepared_fact prepared hp
    exact ⟨(), hv, not_not.mpr hs⟩
  · intro complete hc
    obtain ⟨ht, hk, hd⟩ := h.complete_fact complete hc
    have hterminal : s.has .terminal = true := by rw [← h.complete_receipt, hc]; rfl
    simp [ht, hta hterminal, hk, hd]
  · rintro ⟨hc, hp | ⟨ht, hn⟩ | ⟨ht, hn⟩⟩
    · exact hp (hcp hc)
    · have hcomplete := h.complete_receipt
      rw [hct ht hc, hn] at hcomplete
      simp at hcomplete
    · exact h.commit_fact hc ht hn
  · intro adoption ha
    obtain ⟨hc, ho⟩ := h.adoption_fact adoption ha
    have hadopted : s.has .adopted = true := by rw [← h.adoption_receipt, ha]; rfl
    simp [hac hadopted, hc, ho]
  · intro closed hc
    have hretired : s.has .retired = true := by rw [← h.closed_receipt, hc]; rfl
    have hfence : s.fence.isSome = true := by rw [h.fence_receipt, hrf hretired]
    exact ⟨Option.isSome_iff_ne_none.mp hfence, h.closed_fact closed hc⟩
  · simp only [causalOrder, List.forall_mem_cons, List.not_mem_nil, false_imp_iff, implies_true,
      and_true]
    exact ⟨h.intent_prepared.checkOrder _, h.prepared_armed.checkOrder _,
      h.armed_terminal.checkOrder _, h.prepared_committed.checkOrder _,
      h.committed_adopted.checkOrder _, h.fenced_retired.checkOrder _⟩
  · by_cases htask : s.publication.isTask = true ∧ s.has .committed = true
    · exact Or.inl ⟨htask, (h.terminal_committed htask.1).checkOrder _⟩
    · exact Or.inr ⟨htask, rfl⟩

theorem Valid.validate (h : Valid s) : s.validate = .ok () := by
  simp only [PublicationSnapshot.validate, bind_eq_ok, raiseIf_eq_ok, checkSome_eq_ok, exists_const]
  refine ⟨by simpa using h.stages, ?_, ?_, ?_, h.validateSnapshot⟩
  · rintro ⟨receipt, hr, hne⟩
    exact hne (h.references receipt hr)
  · exact not_not.mpr (h.ordered.imp Nat.le_of_lt)
  · intro fence hf
    exact not_not.mpr (h.fence_valid fence hf)

end PublicationSnapshot

end MiniRay
