import MiniRay.Protocol

/-! # Source capabilities of contained transfers -/

namespace MiniRay

def utf8 (text : String) : List UInt8 := text.toUTF8.data.toList

/-- One length-prefixed field. -/
def framed (value : List UInt8) : List UInt8 := Sha256.bigEndian 8 value.length ++ value

def feedObject (o : ObjectID) : List UInt8 :=
  framed o.taskId.value.bytes ++ framed (Sha256.bigEndian 8 o.returnIndex)

def feedHold (hold : ContainedReferenceHold) : List UInt8 :=
  feedObject hold.containerObjectId ++ framed hold.containerOwnerWorkerId.value.bytes ++
    framed (utf8 hold.transferToken)

/-! ## Sources and transfers -/

/-- Physical publishing-Node identity used by the death fence. -/
@[ext] structure PublicationNodeIncarnation where
  nodeId : NodeID
  nodePid : Nat
  registrationEpoch : Nat
  positive : 0 < nodePid ∧ 0 < registrationEpoch

instance : DecidableEq PublicationNodeIncarnation := byFields PublicationNodeIncarnation.ext_iff

/-- Complete live borrower proof used to derive a contained pin. -/
@[ext] structure BorrowedContainedSource where
  borrowerWorkerId : WorkerID
  borrowerToken : String
  originalSource : BorrowSource
  token_ne : borrowerToken ≠ ""

instance : DecidableEq BorrowedContainedSource := byFields BorrowedContainedSource.ext_iff

inductive ContainedPublicationSource
  | owned (ownerWorkerId : WorkerID)
  | borrowed (source : BorrowedContainedSource)
  deriving DecidableEq

/-- The Worker that serialized the child reference. -/
def ContainedPublicationSource.executor : ContainedPublicationSource → WorkerID
  | .owned ownerWorkerId => ownerWorkerId
  | .borrowed source => source.borrowerWorkerId

/-- One ordered child transfer and both custody identities. -/
structure PreparedContainedTransfer where
  containedObjectId : ObjectID
  containedOwnerWorkerId : WorkerID
  containedOwnerAddress : Address
  source : ContainedPublicationSource
  provisionalHold : ContainedReferenceHold
  finalHold : ContainedReferenceHold
  owned_source : ∀ owner, source = .owned owner → owner = containedOwnerWorkerId
  share_outer : provisionalHold.containerObjectId = finalHold.containerObjectId
  custody_change : provisionalHold ≠ finalHold
  token_namespace : provisionalHold.transferToken =
    if provisionalHold.containerOwnerWorkerId = finalHold.containerOwnerWorkerId then
      "provisional:" ++ finalHold.transferToken
    else finalHold.transferToken

instance : DecidableEq PreparedContainedTransfer := fun a b =>
  decidable_of_iff
    (a.containedObjectId = b.containedObjectId ∧
      a.containedOwnerWorkerId = b.containedOwnerWorkerId ∧
      a.containedOwnerAddress = b.containedOwnerAddress ∧ a.source = b.source ∧
      a.provisionalHold = b.provisionalHold ∧ a.finalHold = b.finalHold)
    (by cases a; cases b; simp)

def PreparedContainedTransfer.edge (t : PreparedContainedTransfer) : ContainedReferenceEdge :=
  ⟨t.finalHold.containerObjectId, t.containedObjectId, t.containedOwnerWorkerId,
    t.containedOwnerAddress, t.finalHold.transferToken, t.finalHold.token_ne⟩

def TaskReferenceHoldKind.value : TaskReferenceHoldKind → String
  | .submitted => "SUBMITTED"
  | .retained => "RETAINED"

def feedSource : ContainedPublicationSource → List UInt8
  | .owned owner => framed (utf8 "owned") ++ framed owner.value.bytes
  | .borrowed source =>
    framed (utf8 "borrowed") ++ framed source.borrowerWorkerId.value.bytes ++
      framed (utf8 source.borrowerToken) ++
      match source.originalSource with
      | .contained hold => framed (utf8 "contained") ++ framed (utf8 "typed") ++ feedHold hold
      | .taskHold hold =>
        framed (utf8 "task") ++ framed (utf8 hold.kind.value) ++
          framed hold.submittingWorkerId.value.bytes ++ framed hold.taskId.value.bytes ++
          framed hold.originAttemptId.taskId.value.bytes ++
          framed (Sha256.bigEndian 8 hold.originAttemptId.attemptNumber)

def ContainedReferenceHold.Framable (hold : ContainedReferenceHold) : Prop :=
  Uint64 hold.containerObjectId.returnIndex

def ContainedPublicationSource.Framable : ContainedPublicationSource → Prop
  | .owned _ => True
  | .borrowed source =>
    match source.originalSource with
    | .contained hold => hold.Framable
    | .taskHold hold => Uint64 hold.originAttemptId.attemptNumber

/-- Every number of the transfer fits its eight-byte frame. -/
def PreparedContainedTransfer.Framable (t : PreparedContainedTransfer) : Prop :=
  Uint64 t.containedObjectId.returnIndex ∧ t.source.Framable ∧
    t.provisionalHold.Framable ∧ t.finalHold.Framable

/-- Stable digest of one complete child-source capability. -/
def preparedContainedTransferFingerprint (t : PreparedContainedTransfer) : List UInt8 :=
  Sha256.digest <|
    utf8 "miniray-prepared-contained-transfer-v1" ++ [0] ++
      feedObject t.containedObjectId ++ framed t.containedOwnerWorkerId.value.bytes ++
      framed (utf8 t.containedOwnerAddress.host) ++
      framed (Sha256.bigEndian 8 t.containedOwnerAddress.port) ++ feedSource t.source ++
      feedHold t.provisionalHold ++ feedHold t.finalHold

/-- A `setdefault` loop over the pairs meets no conflict. -/
def Functional {κ ν : Type*} (pairs : List (κ × ν)) : Prop :=
  ∀ p ∈ pairs, ∀ q ∈ pairs, p.1 = q.1 → p.2 = q.2

instance {κ ν : Type*} [DecidableEq κ] [DecidableEq ν] (pairs : List (κ × ν)) :
    Decidable (Functional pairs) :=
  inferInstanceAs (Decidable (∀ p ∈ pairs, ∀ q ∈ pairs, p.1 = q.1 → p.2 = q.2))

end MiniRay
