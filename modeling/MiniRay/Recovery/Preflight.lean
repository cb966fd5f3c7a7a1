import MiniRay.Ownership.Guards
import MiniRay.Recovery.Manager

/-! The depth-first walk over lost producers that decides whether an object can be reconstructed,
and in which order. It reads the owner table and the recovery manager and writes to neither. -/

namespace MiniRay

open Checked

variable {ε : Type}

/-- A positional or keyword argument; keyword names do not matter here. -/
inductive TaskArg
  | ref (objectId : ObjectID) (ownerWorkerId : WorkerID)
  | inline (nestedRefs : List NestedReferenceTransfer)
  deriving DecidableEq

inductive ReconstructionGraphAction
  | readySkip
  | pendingJoin
  | lostReconstruct
  deriving DecidableEq

structure ReconstructionGraphNode where
  objectId : ObjectID
  taskId : Option TaskID
  action : ReconstructionGraphAction
  taskSpec : Option TaskSpec
  outputIds : List ObjectID
  dependencyIds : List ObjectID
  nestedLocalHolds : List ObjectID
  currentAttempt : Option AttemptID
  activeAttempt : Option AttemptID
  deriving DecidableEq

structure ReconstructionGraphPlan where
  requestedObjectId : ObjectID
  nodes : List ReconstructionGraphNode
  steps : List ReconstructionGraphNode

/-- An error of the coordinator, an authority or the queue; `recursion` is the depth limit. -/
inductive ReconstructionError
  | runtime (message : String)
  | recovery (e : RecoveryError)
  | owner (e : Raised)
  | assertion
  | key
  | value
  | callback
  | recursion

namespace Preflight

def cycle : ReconstructionError := .runtime "recursive lineage contains a dependency cycle"

def ownerSnapshot (owner : ObjectOwnerTable ε) (o : ObjectID) (message : String) :
    Except ReconstructionError (ObjectOwnerEntry ε) :=
  (owner.entry o).mapError fun _ => .runtime message

/-! ## Inputs of a producer -/

def addSeen (seen : List ObjectID) (o : ObjectID) : List ObjectID :=
  if o ∈ seen then seen else seen ++ [o]

/-- The lifetime edge of one nested handle. -/
def nestedHold (owner : ObjectOwnerTable ε) (spec : TaskSpec) (nestedLocalHolds : List ObjectID)
    (transfer : NestedReferenceTransfer) : Except ReconstructionError (List ObjectID) :=
  if transfer.ownerWorkerId ≠ spec.ownerWorkerId then do
    raiseIf (transfer.hold.kind ≠ .retained)
      (.runtime "foreign nested ObjectRef lineage requires a RETAINED hold")
    return nestedLocalHolds
  else do
    raiseIf (transfer.hold.kind ≠ .submitted)
      (.runtime "local nested ObjectRef lineage requires a SUBMITTED hold")
    let nestedOwner ← ownerSnapshot owner transfer.objectId
      ("nested ObjectRef owner does not know lifetime handle " ++ transfer.objectId.str)
    raiseIf nestedOwner.collectionPending
      (.runtime "cannot reconstruct while a nested ObjectRef is being collected")
    return addSeen nestedLocalHolds transfer.objectId

/-- Readiness edges and lifetime edges found so far. -/
structure LineageInputs where
  dependencies : List ObjectID
  nestedLocalHolds : List ObjectID

def lineageInput (owner : ObjectOwnerTable ε) (spec : TaskSpec) (inputs : LineageInputs) :
    TaskArg → Except ReconstructionError LineageInputs
  | .ref o ownerWorkerId =>
    if ownerWorkerId = spec.ownerWorkerId then
      .ok { inputs with dependencies := addSeen inputs.dependencies o }
    else .ok inputs
  | .inline nestedRefs => do
      let nestedLocalHolds ← nestedRefs.foldlM (nestedHold owner spec) inputs.nestedLocalHolds
      return { inputs with nestedLocalHolds := nestedLocalHolds }

/-- Split readiness edges from nested-handle lifetime edges. -/
def validateLineageInputs (arguments : TaskSpec → List TaskArg) (owner : ObjectOwnerTable ε)
    (spec : TaskSpec) : Except ReconstructionError LineageInputs :=
  (arguments spec).foldlM (lineageInput owner spec) ⟨[], []⟩

/-! ## One producer -/

def validateGraphLineage (o : ObjectID) (lineage : ProducerLineage) :
    Except ReconstructionError Unit := do
  raiseIf (lineage.taskSpec.taskId ≠ lineage.taskId)
    (.runtime "producer lineage changed TaskID")
  raiseIf (lineage.outputIds = [] ∨ o ∉ lineage.outputIds)
    (.runtime "requested object is not in its producer output manifest")
  raiseIf (lineage.taskSpec.returnIds ≠ lineage.outputIds)
    (.runtime "producer lineage changed its complete output manifest")

def validateOutput (owner : ObjectOwnerTable ε) (spec : TaskSpec) (expectedAttempt : AttemptID)
    (o : ObjectID) : Except ReconstructionError ObjectState := do
  let snapshot ← ownerSnapshot owner o "producer output manifest is not fully registered"
  raiseIf snapshot.collectionPending
    (.runtime "cannot reconstruct while producer output collection is pending")
  raiseIf (snapshot.producerTaskSpec ≠ some spec)
    (.runtime "producer output metadata disagrees on canonical lineage")
  raiseIf (snapshot.currentAttempt ≠ some expectedAttempt)
    (.runtime "producer output metadata disagrees on current attempt")
  return snapshot.state

def validateOutputGroup (owner : ObjectOwnerTable ε) (spec : TaskSpec)
    (outputIds : List ObjectID) (expectedAttempt : AttemptID) :
    Except ReconstructionError (List ObjectState) :=
  outputIds.mapM (validateOutput owner spec expectedAttempt)

def AllIn (state : ObjectState) (states : List ObjectState) : Prop :=
  states ≠ [] ∧ ∀ s ∈ states, s = state

instance (state : ObjectState) (states : List ObjectState) : Decidable (AllIn state states) :=
  inferInstanceAs (Decidable (_ ∧ _))

def chooseAction (recovery : ReconstructionSnapshot) (ownerAttempt : Option AttemptID)
    (outputStates : List ObjectState) : Except ReconstructionError ReconstructionGraphAction :=
  if AllIn .pending outputStates then do
    raiseIf (recovery.activeRecovery = none ∨ recovery.activeRecovery ≠ ownerAttempt)
      (.runtime "pending lineage node has no matching active reconstruction")
    return .pendingJoin
  else if AllIn .lost outputStates then do
    raiseIf (recovery.taskState ≠ some .succeeded)
      (.runtime "lost lineage producer was not previously successful")
    raiseIf (recovery.retriesRemaining = some 0)
      (.runtime "lineage reconstruction retry budget is exhausted")
    return .lostReconstruct
  else throw (.runtime ("reconstruction requires the producer output to be LOST (or PENDING " ++
    "in the same active reconstruction)"))

/-- What is known of an unfinished object before its producer is looked at. -/
structure Candidate where
  ownerAttempt : Option AttemptID
  recovery : ReconstructionSnapshot
  lineage : ProducerLineage

inductive Inspection
  | ready (node : ReconstructionGraphNode)
  | producer (candidate : Candidate)

def readyNode (o : ObjectID) (currentAttempt : Option AttemptID) : ReconstructionGraphNode where
  objectId := o
  taskId := none
  action := .readySkip
  taskSpec := none
  outputIds := [o]
  dependencyIds := []
  nestedLocalHolds := []
  currentAttempt := currentAttempt
  activeAttempt := none

/-- The checks made before the producer's own colour is read. -/
def inspect (recovery : RecoveryManager) (owner : ObjectOwnerTable ε) (current : ObjectID) :
    Except ReconstructionError Inspection := do
  let entry ← ownerSnapshot owner current
    ("recursive lineage owner does not know dependency " ++ current.str)
  raiseIf entry.collectionPending
    (.runtime "cannot plan reconstruction while collection is pending")
  if entry.state = .readyInline ∨ entry.state = .readyStored then
    return .ready (readyNode current entry.currentAttempt)
  else do
    let snapshot ← (recovery.reconstructionSnapshot current).mapError .recovery
    raiseIf snapshot.isPut
      (.runtime "lost put objects have no reconstructible producer lineage")
    match snapshot.lineage with
    | none => throw (.runtime "object has no registered producer lineage")
    | some lineage => do
        validateGraphLineage current lineage
        return .producer ⟨entry.currentAttempt, snapshot, lineage⟩

/-- The node of a producer that is looked at for the first time. -/
def producerNode (arguments : TaskSpec → List TaskArg) (owner : ObjectOwnerTable ε)
    (current : ObjectID) (candidate : Candidate) :
    Except ReconstructionError ReconstructionGraphNode := do
  let spec := candidate.lineage.taskSpec
  raiseIf (candidate.ownerAttempt ≠ candidate.recovery.currentAttempt)
    (.runtime "owner and recovery disagree on current attempt")
  match candidate.recovery.currentAttempt with
  | none => throw .assertion
  | some attempt => do
      let outputStates ← validateOutputGroup owner spec candidate.lineage.outputIds attempt
      let inputs ← validateLineageInputs arguments owner spec
      let action ← chooseAction candidate.recovery candidate.ownerAttempt outputStates
      return {
        objectId := current
        taskId := some spec.taskId
        action := action
        taskSpec := some spec
        outputIds := candidate.lineage.outputIds
        dependencyIds := inputs.dependencies
        nestedLocalHolds := inputs.nestedLocalHolds
        currentAttempt := some attempt
        activeAttempt := candidate.recovery.activeRecovery }

/-! ## The walk -/

inductive Colour
  | active
  | done

/-- The walk's colours and nodes, its audit trail and the planned steps. -/
structure GraphWalk where
  states : Dict ObjectID Colour
  nodes : Dict ObjectID ReconstructionGraphNode
  producerStates : Dict TaskID Colour
  producerNodes : Dict TaskID ReconstructionGraphNode
  auditNodes : List ReconstructionGraphNode
  postorder : List ReconstructionGraphNode

namespace GraphWalk

def empty : GraphWalk := ⟨.empty, .empty, .empty, .empty, [], []⟩

def enter (walk : GraphWalk) (o : ObjectID) : GraphWalk :=
  { walk with states := walk.states.set o .active }

def enterProducer (walk : GraphWalk) (taskId : TaskID) : GraphWalk :=
  { walk with producerStates := walk.producerStates.set taskId .active }

def settle (walk : GraphWalk) (node : ReconstructionGraphNode) (o : ObjectID) : GraphWalk :=
  { walk with nodes := walk.nodes.set o node, states := walk.states.set o .done }

def audit (walk : GraphWalk) (node : ReconstructionGraphNode) : GraphWalk :=
  { walk with auditNodes := walk.auditNodes ++ [node] }

/-- Leave a producer: its outputs are settled and its step is planned. -/
def leave (walk : GraphWalk) (taskId : TaskID) (node : ReconstructionGraphNode) : GraphWalk :=
  let closed := { walk with
    producerNodes := walk.producerNodes.set taskId node
    producerStates := walk.producerStates.set taskId .done }
  let settled := node.outputIds.foldl (settle · node) (closed.audit node)
  if node.action ≠ .readySkip then { settled with postorder := settled.postorder ++ [node] }
  else settled

end GraphWalk

/-- Whose dependencies the walk goes on to: those of a lost producer. -/
def followed (node : ReconstructionGraphNode) : List ObjectID :=
  if node.action = .lostReconstruct then node.dependencyIds else []

def subscript {κ : Type} [DecidableEq κ] (d : Dict κ ReconstructionGraphNode) (k : κ) :
    Except ReconstructionError ReconstructionGraphNode :=
  match d.get? k with
  | some node => .ok node
  | none => .error .key

def visit (arguments : TaskSpec → List TaskArg) (recovery : RecoveryManager)
    (owner : ObjectOwnerTable ε) :
    Nat → ObjectID → GraphWalk → Except ReconstructionError (ReconstructionGraphNode × GraphWalk)
  | 0, _, _ => .error .recursion
  | depth + 1, current, walk =>
    match walk.states.get? current with
    | some .active => .error cycle
    | some .done => do
        let node ← subscript walk.nodes current
        return (node, walk)
    | none => do
        let entered := walk.enter current
        match ← inspect recovery owner current with
        | .ready ready => return (ready, (entered.audit ready).settle ready current)
        | .producer candidate =>
          let taskId := candidate.lineage.taskSpec.taskId
          match entered.producerStates.get? taskId with
          | some .active => throw cycle
          | some .done => do
              let existing ← subscript entered.producerNodes taskId
              return (existing, entered.settle existing current)
          | none => do
              let node ← producerNode arguments owner current candidate
              let left ← (followed node).foldlM
                (fun walk dependency => do
                  let visited ← visit arguments recovery owner depth dependency walk
                  return visited.2)
                (entered.enterProducer taskId)
              return (node, left.leave taskId node)

end Preflight

/-- Validate a lineage graph; no path of the walk is longer than the owner table. -/
def preflightGraph (arguments : TaskSpec → List TaskArg) (recovery : RecoveryManager)
    (owner : ObjectOwnerTable ε) (o : ObjectID) :
    Except ReconstructionError ReconstructionGraphPlan := do
  let visited ← Preflight.visit arguments recovery owner (owner.entries.items.length + 1) o .empty
  return ⟨o, visited.2.auditNodes, visited.2.postorder⟩

end MiniRay
