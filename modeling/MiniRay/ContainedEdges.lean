import MiniRay.Ids

/-! The container owner keeps the outgoing edge; the owner of the contained object keeps the
matching hold. -/

namespace MiniRay

/-- A bound `(host, port)` tuple. -/
structure Address where
  host : String
  port : Nat
  host_ne : host ≠ ""
  port_bound : 1 ≤ port ∧ port ≤ 65535
  deriving DecidableEq

instance : Inhabited Address := ⟨⟨"127.0.0.1", 7000, by decide, by decide⟩⟩

instance : LinearOrder Address :=
  LinearOrder.lift' (fun a => toLex (a.host, a.port)) fun a b h => by
    cases a; cases b; simp_all

/-- One incoming pin owned by a concrete container incarnation. -/
structure ContainedReferenceHold where
  containerObjectId : ObjectID
  containerOwnerWorkerId : WorkerID
  transferToken : String
  token_ne : transferToken ≠ ""
  deriving DecidableEq

instance lawfulHold : LawfulBEq (ObjectID × WorkerID × ContainedReferenceHold) := inferInstance

/-- One durable container-to-contained-object lifetime edge. -/
structure ContainedReferenceEdge where
  containerObjectId : ObjectID
  containedObjectId : ObjectID
  containedOwnerWorkerId : WorkerID
  containedOwnerAddress : Address
  transferToken : String
  token_ne : transferToken ≠ ""
  deriving DecidableEq

instance : LinearOrder ContainedReferenceEdge :=
  LinearOrder.lift'
    (fun e => toLex (e.containerObjectId, toLex (e.containedObjectId,
      toLex (e.containedOwnerWorkerId, toLex (e.containedOwnerAddress, e.transferToken)))))
    fun a b h => by cases a; cases b; simp_all

/-- One producer-output obligation retaining a local dependency lineage. -/
structure LineageReferenceEdge where
  producerObjectId : ObjectID
  dependencyObjectId : ObjectID
  token : String
  token_ne : token ≠ ""
  deriving DecidableEq

instance : LinearOrder LineageReferenceEdge :=
  LinearOrder.lift'
    (fun e => toLex (e.producerObjectId, toLex (e.dependencyObjectId, e.token)))
    fun a b h => by cases a; cases b; simp_all

end MiniRay
