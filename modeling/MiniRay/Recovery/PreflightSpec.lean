import MiniRay.Library.DepthFirst
import MiniRay.Recovery.Preflight
import MiniRay.Recovery.Transitions

/-! The conditions every object the walk meets has to satisfy, the walk as a depth-first search over
them, and the order of the steps it plans. -/

namespace MiniRay

open Checked Relation

variable {ε : Type}

namespace Preflight

/-! ## The explored graph -/

section Conditions

variable (arguments : TaskSpec → List TaskArg) (recovery : RecoveryManager)
  (owner : ObjectOwnerTable ε)

/-- A lost object needs the dependencies its producer names at its own owner. -/
def Needs (o d : ObjectID) : Prop :=
  ∃ e taskId lineage, owner.entries.get? o = some e ∧ e.state = .lost ∧
    recovery.objectProducers.get? o = some taskId ∧
    recovery.lineages.get? taskId = some lineage ∧
    .ref d lineage.taskSpec.ownerWorkerId ∈ arguments lineage.taskSpec

/-- A nested handle that a replay can rely on. -/
def Held (spec : TaskSpec) (transfer : NestedReferenceTransfer) : Prop :=
  if transfer.ownerWorkerId ≠ spec.ownerWorkerId then transfer.hold.kind = .retained
  else transfer.hold.kind = .submitted ∧
    ∃ e, owner.entries.get? transfer.objectId = some e ∧ e.collectionPending = false

/-- Both authorities agree on the producer, its inputs are held, and it may run or runs. -/
structure Producer (o : ObjectID) (e : ObjectOwnerEntry ε) (taskId : TaskID)
    (lineage : ProducerLineage) (record : TaskRecord) : Prop where
  produces : recovery.objectProducers.get? o = some taskId
  registered : recovery.lineages.get? taskId = some lineage
  recorded : recovery.tasks.get? taskId = some record
  same_task : lineage.taskSpec.taskId = lineage.taskId
  manifest : lineage.outputIds = lineage.taskSpec.returnIds
  output : o ∈ lineage.outputIds
  spec : e.producerTaskSpec = some lineage.taskSpec
  attempt : e.currentAttempt = some record.currentAttempt
  held : ∀ nestedRefs, .inline nestedRefs ∈ arguments lineage.taskSpec →
    ∀ transfer ∈ nestedRefs, Held owner lineage.taskSpec transfer
  outcome : e.state = .pending ∧
      recovery.activeRecoveries.get? taskId = some record.currentAttempt ∨
    e.state = .lost ∧ record.state = .succeeded ∧ record.retriesRemaining ≠ 0

def IsReady (state : ObjectState) : Prop := state = .readyInline ∨ state = .readyStored

instance (state : ObjectState) : Decidable (IsReady state) :=
  inferInstanceAs (Decidable (_ ∨ _))

/-- The object is not being collected, and ready, or its producer can be joined or started. -/
def Plannable (o : ObjectID) : Prop :=
  ∃ e, owner.entries.get? o = some e ∧ e.collectionPending = false ∧
    (IsReady e.state ∨ ∃ taskId lineage record,
      Producer arguments recovery owner o e taskId lineage record)

/-- The checks of one object, as the walk makes them. -/
def nodeOf (o : ObjectID) : Except ReconstructionError ReconstructionGraphNode := do
  match ← inspect recovery owner o with
  | .ready node => return node
  | .producer candidate => producerNode arguments owner o candidate

def expand (o : ObjectID) : Except ReconstructionError (List ObjectID) :=
  followed <$> nodeOf arguments recovery owner o

end Conditions

variable {arguments : TaskSpec → List TaskArg} {recovery : RecoveryManager}
  {owner : ObjectOwnerTable ε}

/-! ## Inputs -/

variable {e : ObjectOwnerEntry ε}

theorem ownerSnapshot_eq_ok {o : ObjectID} {message : String} :
    ownerSnapshot owner o message = .ok e ↔ owner.entries.get? o = some e := by
  rw [ownerSnapshot, mapError_eq_ok, ObjectOwnerTable.entry_eq_ok]

variable {d : ObjectID}

variable {seen : List ObjectID}

theorem mem_addSeen {o : ObjectID} : d ∈ addSeen seen o ↔ d ∈ seen ∨ d = o := by
  unfold addSeen
  by_cases h : o ∈ seen
  · rw [if_pos h]
    exact ⟨.inl, fun hd => hd.elim id fun heq => heq ▸ h⟩
  · rw [if_neg h, List.mem_append, List.mem_singleton]

variable {spec : TaskSpec}

theorem nestedHold_ok {transfer : NestedReferenceTransfer} :
    (∃ held, nestedHold owner spec seen transfer = .ok held) ↔ Held owner spec transfer := by
  unfold nestedHold Held
  by_cases h : transfer.ownerWorkerId ≠ spec.ownerWorkerId
  · simp [if_pos h]
  · simp [if_neg h, ownerSnapshot_eq_ok]

/-- A loop that may stop returns when every turn can, whatever was collected before. -/
theorem foldlM_ok_iff {α β : Type} {step : β → α → Except ReconstructionError β} {p : α → Prop}
    (hstep : ∀ b a, (∃ b', step b a = .ok b') ↔ p a) {xs : List α} {b : β} :
    (∃ b', xs.foldlM step b = .ok b') ↔ ∀ a ∈ xs, p a := by
  induction xs generalizing b with
  | nil => simp
  | cons a xs ih =>
    simp only [List.foldlM_cons, bind_eq_ok, List.forall_mem_cons]
    constructor
    · rintro ⟨b', middle, ha, hrest⟩
      exact ⟨(hstep b a).mp ⟨middle, ha⟩, ih.mp ⟨b', hrest⟩⟩
    · rintro ⟨ha, hrest⟩
      obtain ⟨middle, hmiddle⟩ := (hstep b a).mpr ha
      obtain ⟨b', hb'⟩ := ih.mpr hrest
      exact ⟨b', middle, hmiddle, hb'⟩

/-- What one argument needs. -/
def ArgHeld (owner : ObjectOwnerTable ε) (spec : TaskSpec) : TaskArg → Prop
  | .ref _ _ => True
  | .inline nestedRefs => ∀ transfer ∈ nestedRefs, Held owner spec transfer

theorem lineageInput_ok (inputs : LineageInputs) (argument : TaskArg) :
    (∃ inputs', lineageInput owner spec inputs argument = .ok inputs') ↔
      ArgHeld owner spec argument := by
  cases argument with
  | ref o ownerWorkerId =>
    simp only [lineageInput, ArgHeld, iff_true]
    by_cases h : ownerWorkerId = spec.ownerWorkerId
    · exact ⟨_, if_pos h⟩
    · exact ⟨_, if_neg h⟩
  | inline nestedRefs =>
    have hturn : ∀ seen transfer, (∃ held, nestedHold owner spec seen transfer = .ok held) ↔
        Held owner spec transfer := fun _ _ => nestedHold_ok
    simp only [lineageInput, ArgHeld, bind_eq_ok, pure_eq_ok,
      ← foldlM_ok_iff hturn (b := inputs.nestedLocalHolds)]
    constructor
    · rintro ⟨_, held, hheld, _⟩
      exact ⟨held, hheld⟩
    · rintro ⟨held, hheld⟩
      exact ⟨_, held, hheld, rfl⟩

theorem validateLineageInputs_ok :
    (∃ inputs, validateLineageInputs arguments owner spec = .ok inputs) ↔
      ∀ nestedRefs, .inline nestedRefs ∈ arguments spec →
        ∀ transfer ∈ nestedRefs, Held owner spec transfer := by
  rw [validateLineageInputs, foldlM_ok_iff lineageInput_ok]
  constructor
  · intro h nestedRefs hmem
    exact h _ hmem
  · intro h argument hmem
    cases argument with
    | ref o ownerWorkerId => trivial
    | inline nestedRefs => exact h nestedRefs hmem

theorem lineageInput_dependencies {inputs inputs' : LineageInputs} {argument : TaskArg}
    (h : lineageInput owner spec inputs argument = .ok inputs') (d : ObjectID) :
    d ∈ inputs'.dependencies ↔
      d ∈ inputs.dependencies ∨ argument = .ref d spec.ownerWorkerId := by
  cases argument with
  | ref o ownerWorkerId =>
    rw [lineageInput] at h
    by_cases howner : ownerWorkerId = spec.ownerWorkerId
    · rw [if_pos howner] at h
      cases h
      rw [mem_addSeen, TaskArg.ref.injEq]
      exact or_congr Iff.rfl ⟨fun heq => ⟨heq.symm, howner⟩, fun heq => heq.1.symm⟩
    · rw [if_neg howner] at h
      cases h
      exact ⟨.inl, fun hd => hd.elim id fun heq => absurd (TaskArg.ref.inj heq).2 howner⟩
  | inline nestedRefs =>
    simp only [lineageInput, bind_eq_ok, pure_eq_ok] at h
    obtain ⟨held, -, rfl⟩ := h
    exact ⟨.inl, fun hd => hd.elim id fun heq => by cases heq⟩

theorem mem_dependencies {inputs : LineageInputs}
    (h : validateLineageInputs arguments owner spec = .ok inputs) (d : ObjectID) :
    d ∈ inputs.dependencies ↔ .ref d spec.ownerWorkerId ∈ arguments spec := by
  have hfold : ∀ (args : List TaskArg) (start inputs : LineageInputs),
      args.foldlM (lineageInput owner spec) start = .ok inputs →
      (d ∈ inputs.dependencies ↔
        d ∈ start.dependencies ∨ .ref d spec.ownerWorkerId ∈ args) := by
    intro args
    induction args with
    | nil =>
      intro start inputs h
      rw [List.foldlM_nil, pure_eq_ok] at h
      subst h
      simp
    | cons argument args ih =>
      intro start inputs h
      rw [List.foldlM_cons, bind_eq_ok] at h
      obtain ⟨middle, hfirst, hrest⟩ := h
      rw [ih middle inputs hrest, lineageInput_dependencies hfirst d, List.mem_cons, or_assoc,
        eq_comm (a := argument)]
  have h := hfold _ _ _ h
  rw [h]
  simp

/-! ## One object -/

def reported (recovery : RecoveryManager) (o : ObjectID) (taskId : TaskID)
    (lineage : ProducerLineage) (record : TaskRecord) : ReconstructionSnapshot :=
  ⟨o, some lineage, some record.state, some record.currentAttempt,
    recovery.activeRecoveries.get? taskId, false, some record.retriesRemaining⟩

variable {lineage : ProducerLineage}

theorem validateGraphLineage_eq_ok {o : ObjectID} {u : Unit} :
    validateGraphLineage o lineage = .ok u ↔ lineage.taskSpec.taskId = lineage.taskId ∧
      o ∈ lineage.outputIds ∧ lineage.outputIds = lineage.taskSpec.returnIds := by
  simp only [validateGraphLineage, bind_eq_ok, raiseIf_eq_ok, exists_const, not_not, not_or]
  constructor
  · rintro ⟨htask, ⟨-, ho⟩, hmanifest⟩
    exact ⟨htask, ho, hmanifest.symm⟩
  · rintro ⟨htask, ho, hmanifest⟩
    exact ⟨htask, ⟨List.ne_nil_of_mem ho, ho⟩, hmanifest.symm⟩

theorem inspect_eq_ok {o : ObjectID} {inspection : Inspection} :
    inspect recovery owner o = .ok inspection ↔ ∃ e, owner.entries.get? o = some e ∧
      e.collectionPending = false ∧
      (IsReady e.state ∧ inspection = .ready (readyNode o e.currentAttempt) ∨
        ¬ IsReady e.state ∧ ∃ taskId lineage record,
          recovery.objectProducers.get? o = some taskId ∧
          recovery.lineages.get? taskId = some lineage ∧
          recovery.tasks.get? taskId = some record ∧
          lineage.taskSpec.taskId = lineage.taskId ∧ o ∈ lineage.outputIds ∧
          lineage.outputIds = lineage.taskSpec.returnIds ∧
          inspection =
            .producer ⟨e.currentAttempt, reported recovery o taskId lineage record, lineage⟩) := by
  simp only [inspect, bind_eq_ok, ownerSnapshot_eq_ok, raiseIf_eq_ok, exists_const,
    Bool.not_eq_true]
  refine exists_congr fun e => and_congr Iff.rfl (and_congr Iff.rfl ?_)
  change (if IsReady e.state then _ else _) = _ ↔ _
  by_cases hready : IsReady e.state
  · rw [if_pos hready, pure_eq_ok]
    exact ⟨fun h => .inl ⟨hready, h.symm⟩, fun h => h.elim (fun h => h.2.symm)
      fun h => absurd hready h.1⟩
  rw [if_neg hready]
  simp only [hready, not_false_eq_true, true_and, false_and, false_or, bind_eq_ok,
    mapError_eq_ok, raiseIf_eq_ok, exists_const, Bool.not_eq_true]
  unfold RecoveryManager.reconstructionSnapshot
  cases hproducer : recovery.objectProducers.get? o with
  | none => simp
  | some taskId =>
    simp only [bind_eq_ok, pure_eq_ok, RecoveryManager.subscript_eq_ok]
    constructor
    · rintro ⟨_, ⟨lineage, hlineage, record, hrecord, rfl⟩, -, h⟩
      simp only [bind_eq_ok, validateGraphLineage_eq_ok, pure_eq_ok, exists_const] at h
      exact ⟨taskId, lineage, record, rfl, hlineage, hrecord, h.1.1, h.1.2.1, h.1.2.2, h.2.symm⟩
    · rintro ⟨_, lineage, record, hsame, hlineage, hrecord, htask, ho, hmanifest, hinspection⟩
      cases hsame
      refine ⟨_, ⟨lineage, hlineage, record, hrecord, rfl⟩, rfl, ?_⟩
      simp only [bind_eq_ok, validateGraphLineage_eq_ok, pure_eq_ok, exists_const]
      exact ⟨⟨htask, ho, hmanifest⟩, hinspection.symm⟩

/-- What is done with a producer whose output is in that state. -/
def Acts (recovery : RecoveryManager) (state : ObjectState) (taskId : TaskID)
    (record : TaskRecord) (action : ReconstructionGraphAction) : Prop :=
  state = .pending ∧ recovery.activeRecoveries.get? taskId = some record.currentAttempt ∧
      action = .pendingJoin ∨
    state = .lost ∧ record.state = .succeeded ∧ record.retriesRemaining ≠ 0 ∧
      action = .lostReconstruct

variable {state : ObjectState}

theorem allIn_singleton {s : ObjectState} : AllIn state [s] ↔ s = state := by
  simp [AllIn]

variable {taskId : TaskID} {record : TaskRecord} {action : ReconstructionGraphAction}

theorem chooseAction_eq_ok {o : ObjectID} :
    chooseAction (reported recovery o taskId lineage record) (some record.currentAttempt)
      [state] = .ok action ↔ Acts recovery state taskId record action := by
  unfold chooseAction Acts
  by_cases hpending : state = .pending
  · rw [if_pos (allIn_singleton.mpr hpending)]
    simp only [bind_eq_ok, raiseIf_eq_ok, pure_eq_ok, exists_const, not_or, not_not]
    constructor
    · rintro ⟨⟨-, hactive⟩, haction⟩
      exact .inl ⟨hpending, hactive, haction.symm⟩
    · rintro (⟨-, hactive, haction⟩ | ⟨hlost, -⟩)
      · have hsome : (reported recovery o taskId lineage record).activeRecovery ≠ none := by
          intro hnone
          exact Option.some_ne_none _ (hactive.symm.trans hnone)
        exact ⟨⟨hsome, hactive⟩, haction.symm⟩
      · rw [hpending] at hlost
        cases hlost
  rw [if_neg (fun h => hpending (allIn_singleton.mp h))]
  by_cases hlost : state = .lost
  · rw [if_pos (allIn_singleton.mpr hlost)]
    simp only [bind_eq_ok, raiseIf_eq_ok, pure_eq_ok, exists_const, not_not]
    constructor
    · rintro ⟨hstate, hretries, haction⟩
      exact .inr ⟨hlost, Option.some.inj hstate, fun h => hretries (congrArg some h),
        haction.symm⟩
    · rintro (⟨h, -⟩ | ⟨-, hstate, hretries, haction⟩)
      · exact absurd h hpending
      · exact ⟨congrArg some hstate, fun h => hretries (Option.some.inj h), haction.symm⟩
  · rw [if_neg (fun h => hlost (allIn_singleton.mp h)), throw_ne_ok]
    exact ⟨False.elim, fun h => h.elim (fun h => hpending h.1) fun h => hlost h.1⟩

def plannedNode (recovery : RecoveryManager) (o : ObjectID) (taskId : TaskID)
    (lineage : ProducerLineage) (record : TaskRecord) (inputs : LineageInputs)
    (action : ReconstructionGraphAction) : ReconstructionGraphNode where
  objectId := o
  taskId := some lineage.taskSpec.taskId
  action := action
  taskSpec := some lineage.taskSpec
  outputIds := lineage.outputIds
  dependencyIds := inputs.dependencies
  nestedLocalHolds := inputs.nestedLocalHolds
  currentAttempt := some record.currentAttempt
  activeAttempt := recovery.activeRecoveries.get? taskId

theorem validateOutputGroup_eq_ok {o : ObjectID} {attempt : AttemptID} {states : List ObjectState}
    (he : owner.entries.get? o = some e) (hpending : e.collectionPending = false) :
    validateOutputGroup owner spec [o] attempt = .ok states ↔
      e.producerTaskSpec = some spec ∧ e.currentAttempt = some attempt ∧ states = [e.state] := by
  have hsnapshot : ownerSnapshot owner o "producer output manifest is not fully registered" =
      .ok e := ownerSnapshot_eq_ok.mpr he
  simp only [validateOutputGroup, List.mapM_cons, List.mapM_nil, validateOutput, hsnapshot,
    bind_eq_ok, raiseIf_eq_ok, pure_eq_ok, exists_const, not_not, Bool.not_eq_true]
  constructor
  · rintro ⟨_, ⟨_, heq, -, hspec, hattempt, rfl⟩, _, rfl, rfl⟩
    cases heq
    exact ⟨hspec, hattempt, rfl⟩
  · rintro ⟨hspec, hattempt, rfl⟩
    exact ⟨_, ⟨e, rfl, hpending, hspec, hattempt, rfl⟩, [], rfl, rfl⟩

variable {node : ReconstructionGraphNode}

theorem producerNode_eq_ok {o : ObjectID} (he : owner.entries.get? o = some e)
    (hpending : e.collectionPending = false) (houtput : lineage.outputIds = [o]) :
    producerNode arguments owner o
        ⟨e.currentAttempt, reported recovery o taskId lineage record, lineage⟩ = .ok node ↔
      e.producerTaskSpec = some lineage.taskSpec ∧
      e.currentAttempt = some record.currentAttempt ∧
      ∃ inputs, validateLineageInputs arguments owner lineage.taskSpec = .ok inputs ∧
        ∃ action, Acts recovery e.state taskId record action ∧
          node = plannedNode recovery o taskId lineage record inputs action := by
  simp only [producerNode, bind_eq_ok, raiseIf_eq_ok, exists_const, not_not]
  change (e.currentAttempt = some record.currentAttempt ∧
    (validateOutputGroup owner lineage.taskSpec lineage.outputIds record.currentAttempt >>= _) =
      .ok node) ↔ _
  simp only [bind_eq_ok]
  constructor
  · rintro ⟨hattempt, states, hstates, inputs, hinputs, action, haction, hnode⟩
    rw [houtput, validateOutputGroup_eq_ok he hpending] at hstates
    obtain ⟨hspec, -, rfl⟩ := hstates
    rw [hattempt, chooseAction_eq_ok] at haction
    rw [pure_eq_ok] at hnode
    exact ⟨hspec, hattempt, inputs, hinputs, action, haction, hnode.symm⟩
  · rintro ⟨hspec, hattempt, inputs, hinputs, action, haction, rfl⟩
    refine ⟨hattempt, [e.state], ?_, inputs, hinputs, action, ?_, rfl⟩
    · rw [houtput, validateOutputGroup_eq_ok he hpending]
      exact ⟨hspec, hattempt, rfl⟩
    · rw [hattempt, chooseAction_eq_ok]
      exact haction

theorem outputs_eq {o : ObjectID} (houtput : o ∈ lineage.outputIds)
    (hmanifest : lineage.outputIds = lineage.taskSpec.returnIds) :
    lineage.outputIds = [o] ∧ lineage.taskSpec.taskId = o.taskId := by
  rw [hmanifest, TaskSpec.returnIds, List.mem_singleton] at houtput
  rw [hmanifest, TaskSpec.returnIds, ← houtput]
  exact ⟨rfl, (congrArg ObjectID.taskId houtput).symm⟩

theorem Acts.not_ready (h : Acts recovery state taskId record action) : ¬ IsReady state := by
  rcases h with ⟨rfl, -⟩ | ⟨rfl, -⟩
  · exact fun hready => hready.elim (fun h => nomatch h) fun h => nomatch h
  · exact fun hready => hready.elim (fun h => nomatch h) fun h => nomatch h

theorem nodeOf_eq_ok {o : ObjectID} :
    nodeOf arguments recovery owner o = .ok node ↔ ∃ e, owner.entries.get? o = some e ∧
      e.collectionPending = false ∧
      (IsReady e.state ∧ node = readyNode o e.currentAttempt ∨
        ∃ taskId lineage record inputs action,
          Producer arguments recovery owner o e taskId lineage record ∧
          validateLineageInputs arguments owner lineage.taskSpec = .ok inputs ∧
          Acts recovery e.state taskId record action ∧
          node = plannedNode recovery o taskId lineage record inputs action) := by
  simp only [nodeOf, bind_eq_ok, inspect_eq_ok]
  constructor
  · rintro ⟨_, ⟨e, he, hpending, ⟨hready, rfl⟩ |
      ⟨-, taskId, lineage, record, hproduces, hregistered, hrecorded, htask, houtput, hmanifest,
        rfl⟩⟩, hnode⟩
    · simp only [pure_eq_ok] at hnode
      exact ⟨e, he, hpending, .inl ⟨hready, hnode.symm⟩⟩
    · have hnode := (producerNode_eq_ok he hpending (outputs_eq houtput hmanifest).1).mp hnode
      obtain ⟨hspec, hattempt, inputs, hinputs, action, haction, hnode⟩ := hnode
      refine ⟨e, he, hpending, .inr ⟨taskId, lineage, record, inputs, action, ?_, hinputs,
        haction, hnode⟩⟩
      exact {
        produces := hproduces
        registered := hregistered
        recorded := hrecorded
        same_task := htask
        manifest := hmanifest
        output := houtput
        spec := hspec
        attempt := hattempt
        held := validateLineageInputs_ok.mp ⟨inputs, hinputs⟩
        outcome := haction.imp (fun h => ⟨h.1, h.2.1⟩) fun h => ⟨h.1, h.2.1, h.2.2.1⟩ }
  · rintro ⟨e, he, hpending, ⟨hready, rfl⟩ |
      ⟨taskId, lineage, record, inputs, action, hproducer, hinputs, haction, rfl⟩⟩
    · exact ⟨_, ⟨e, he, hpending, .inl ⟨hready, rfl⟩⟩, rfl⟩
    · refine ⟨_, ⟨e, he, hpending, .inr ⟨haction.not_ready, taskId, lineage, record,
        hproducer.produces, hproducer.registered, hproducer.recorded, hproducer.same_task,
        hproducer.output, hproducer.manifest, rfl⟩⟩, ?_⟩
      have houtput := (outputs_eq hproducer.output hproducer.manifest).1
      exact (producerNode_eq_ok he hpending houtput).mpr
        ⟨hproducer.spec, hproducer.attempt, inputs, hinputs, action, haction, rfl⟩

theorem nodeOf_ok_iff {o : ObjectID} :
    (∃ node, nodeOf arguments recovery owner o = .ok node) ↔
      Plannable arguments recovery owner o := by
  constructor
  · rintro ⟨node, h⟩
    obtain ⟨e, he, hpending, ⟨hready, -⟩ | ⟨taskId, lineage, record, inputs, action, hproducer,
      -⟩⟩ := nodeOf_eq_ok.mp h
    · exact ⟨e, he, hpending, .inl hready⟩
    · exact ⟨e, he, hpending, .inr ⟨taskId, lineage, record, hproducer⟩⟩
  · rintro ⟨e, he, hpending, hready | ⟨taskId, lineage, record, hproducer⟩⟩
    · exact ⟨_, nodeOf_eq_ok.mpr ⟨e, he, hpending, .inl ⟨hready, rfl⟩⟩⟩
    · obtain ⟨inputs, hinputs⟩ := validateLineageInputs_ok.mpr hproducer.held
      have haction : ∃ action, Acts recovery e.state taskId record action :=
        hproducer.outcome.elim (fun h => ⟨.pendingJoin, .inl ⟨h.1, h.2, rfl⟩⟩)
          fun h => ⟨.lostReconstruct, .inr ⟨h.1, h.2.1, h.2.2, rfl⟩⟩
      obtain ⟨action, haction⟩ := haction
      exact ⟨_, nodeOf_eq_ok.mpr ⟨e, he, hpending, .inr ⟨taskId, lineage, record, inputs, action,
        hproducer, hinputs, haction, rfl⟩⟩⟩

theorem nodeOf_object {o : ObjectID} (h : nodeOf arguments recovery owner o = .ok node) :
    node.objectId = o ∧ node.outputIds = [o] := by
  obtain ⟨e, -, -, ⟨-, rfl⟩ | ⟨taskId, lineage, record, inputs, action, hproducer, -, -, rfl⟩⟩ :=
    nodeOf_eq_ok.mp h
  · exact ⟨rfl, rfl⟩
  · exact ⟨rfl, (outputs_eq hproducer.output hproducer.manifest).1⟩

/-- The walk goes on exactly to what a plannable object needs. -/
theorem mem_followed {o : ObjectID} (h : nodeOf arguments recovery owner o = .ok node) :
    d ∈ followed node ↔ Needs arguments recovery owner o d := by
  obtain ⟨e, he, -, ⟨hready, rfl⟩ | ⟨taskId, lineage, record, inputs, action, hproducer, hinputs,
    haction, rfl⟩⟩ := nodeOf_eq_ok.mp h
  · constructor
    · intro hd
      exact absurd hd List.not_mem_nil
    · rintro ⟨e', _, _, he', hlost, -⟩
      rw [he] at he'
      cases he'
      rw [hlost] at hready
      exact hready.elim (fun h => nomatch h) fun h => nomatch h
  · rcases haction with ⟨hstate, -, rfl⟩ | ⟨hstate, -, -, rfl⟩
    · constructor
      · intro hd
        exact absurd hd List.not_mem_nil
      · rintro ⟨e', _, _, he', hlost, -⟩
        rw [he] at he'
        cases he'
        rw [hstate] at hlost
        cases hlost
    · change d ∈ inputs.dependencies ↔ _
      rw [mem_dependencies hinputs]
      constructor
      · intro hd
        exact ⟨e, taskId, lineage, he, hstate, hproducer.produces, hproducer.registered, hd⟩
      · rintro ⟨_, taskId', lineage', -, -, hproduces, hregistered, hd⟩
        rw [hproducer.produces] at hproduces
        cases hproduces
        rw [hproducer.registered] at hregistered
        cases hregistered
        exact hd

/-! ## The explored graph as an unfolded graph -/

theorem expand_ok_iff {o : ObjectID} :
    (∃ children, expand arguments recovery owner o = .ok children) ↔
      Plannable arguments recovery owner o := by
  rw [← nodeOf_ok_iff]
  simp only [expand, map_eq_ok]
  constructor
  · rintro ⟨_, node, hnode, -⟩
    exact ⟨node, hnode⟩
  · rintro ⟨node, hnode⟩
    exact ⟨_, node, hnode, rfl⟩

theorem edge_iff {o : ObjectID} (h : Plannable arguments recovery owner o) :
    DepthFirst.Edge (expand arguments recovery owner) o d ↔
      Needs arguments recovery owner o d := by
  obtain ⟨node, hnode⟩ := nodeOf_ok_iff.mpr h
  have hexpand : expand arguments recovery owner o = .ok (followed node) :=
    map_eq_ok.mpr ⟨node, hnode, rfl⟩
  rw [← mem_followed hnode]
  constructor
  · rintro ⟨children, hchildren, hd⟩
    rw [hexpand] at hchildren
    cases hchildren
    exact hd
  · intro hd
    exact ⟨_, hexpand, hd⟩

/-! ## The walk as a depth-first search -/

/-- The walk's tables while `path` is open and `closed` is settled. -/
structure Mirrors (arguments : TaskSpec → List TaskArg) (recovery : RecoveryManager)
    (owner : ObjectOwnerTable ε) (path closed : List ObjectID) (walk : GraphWalk) : Prop where
  active : ∀ o, walk.states.get? o = some .active ↔ o ∈ path
  done : ∀ o, walk.states.get? o = some .done ↔ o ∈ closed
  producers : ∀ taskId, walk.producerStates.get? taskId ≠ none →
    walk.states.get? (ObjectID.forTask taskId 0) ≠ none
  known : ∀ o ∈ closed, walk.nodes.get? o ≠ none
  audited : List.Forall₂ (fun o node => nodeOf arguments recovery owner o = .ok node)
    closed walk.auditNodes
  planned : walk.postorder = walk.auditNodes.filter fun node => node.action ≠ .readySkip

def errorOf : DepthFirst.Stop ReconstructionError → ReconstructionError
  | .refused e => e
  | .cycle => cycle
  | .depth => .recursion

/-- A walk stops where the search stops, for its reason, or mirrors what it returned. -/
def Simulates (arguments : TaskSpec → List TaskArg) (recovery : RecoveryManager)
    (owner : ObjectOwnerTable ε) (path : List ObjectID) :
    Except (DepthFirst.Stop ReconstructionError) (List ObjectID) →
      Except ReconstructionError GraphWalk → Prop
  | .ok closed, .ok walk => Mirrors arguments recovery owner path closed walk
  | .error stop, .error e => e = errorOf stop
  | _, _ => False

variable {path closed : List ObjectID} {walk : GraphWalk} {o : ObjectID}

theorem Simulates.bind {search : Except (DepthFirst.Stop ReconstructionError) (List ObjectID)}
    {result : Except ReconstructionError GraphWalk} {path' : List ObjectID}
    {next : List ObjectID → Except (DepthFirst.Stop ReconstructionError) (List ObjectID)}
    {next' : GraphWalk → Except ReconstructionError GraphWalk}
    (h : Simulates arguments recovery owner path search result)
    (hnext : ∀ closed walk, Mirrors arguments recovery owner path closed walk →
      Simulates arguments recovery owner path' (next closed) (next' walk)) :
    Simulates arguments recovery owner path' (search >>= next) (result >>= next') := by
  cases search with
  | ok closed =>
    cases result with
    | ok walk => exact hnext closed walk h
    | error e => exact h.elim
  | error stop =>
    cases result with
    | ok walk => exact h.elim
    | error e => exact h

theorem foldlM_simulates
    {step : List ObjectID → ObjectID → Except (DepthFirst.Stop ReconstructionError) (List ObjectID)}
    {step' : GraphWalk → ObjectID → Except ReconstructionError GraphWalk}
    (hstep : ∀ o closed walk, Mirrors arguments recovery owner path closed walk →
      Simulates arguments recovery owner path (step closed o) (step' walk o))
    {roots : List ObjectID} (h : Mirrors arguments recovery owner path closed walk) :
    Simulates arguments recovery owner path (roots.foldlM step closed)
      (roots.foldlM step' walk) := by
  induction roots generalizing closed walk with
  | nil => exact h
  | cons o roots ih =>
    rw [List.foldlM_cons, List.foldlM_cons]
    exact (hstep o closed walk h).bind fun closed walk h => ih h

theorem Mirrors.enter (h : Mirrors arguments recovery owner path closed walk)
    (hnew : walk.states.get? o = none) (htask : ObjectID.forTask taskId 0 = o) :
    Mirrors arguments recovery owner (o :: path) closed
      ((walk.enter o).enterProducer taskId) where
  active x := by
    change (walk.states.set o .active).get? x = _ ↔ _
    rw [Dict.get?_set, List.mem_cons]
    by_cases hx : o = x
    · rw [if_pos hx]
      exact ⟨fun _ => .inl hx.symm, fun _ => rfl⟩
    · rw [if_neg hx, h.active]
      exact ⟨.inr, fun hmem => hmem.elim (fun heq => absurd heq.symm hx) id⟩
  done x := by
    change (walk.states.set o .active).get? x = _ ↔ _
    rw [Dict.get?_set]
    by_cases hx : o = x
    · rw [if_pos hx]
      subst hx
      have hclosed : o ∉ closed := fun hmem => by
        rw [(h.done o).mpr hmem] at hnew
        cases hnew
      exact ⟨fun hsame => (nomatch hsame), fun hmem => absurd hmem hclosed⟩
    · rw [if_neg hx, h.done]
  producers t := by
    change (walk.producerStates.set taskId .active).get? t ≠ none →
      (walk.states.set o .active).get? _ ≠ none
    rw [Dict.get?_set, Dict.get?_set]
    by_cases ht : taskId = t
    · subst ht
      intro _
      rw [if_pos htask.symm]
      exact Option.some_ne_none _
    · rw [if_neg ht]
      intro hstate
      by_cases hx : o = ObjectID.forTask t 0
      · rw [if_pos hx]
        exact Option.some_ne_none _
      · rw [if_neg hx]
        exact h.producers t hstate
  known := h.known
  audited := h.audited
  planned := h.planned

theorem Mirrors.close {walk' : GraphWalk} {opened : List ObjectID}
    (h : Mirrors arguments recovery owner opened closed walk)
    (hopened : ∀ x, x ≠ o → (x ∈ opened ↔ x ∈ path)) (hpath : o ∉ path)
    (hnode : nodeOf arguments recovery owner o = .ok node)
    (hstates : ∀ x, walk'.states.get? x = if o = x then some .done else walk.states.get? x)
    (hnodes : ∀ x, walk'.nodes.get? x = if o = x then some node else walk.nodes.get? x)
    (hproducers : ∀ t, walk'.producerStates.get? t ≠ none → walk.producerStates.get? t ≠ none ∨
      ObjectID.forTask t 0 = o)
    (haudit : walk'.auditNodes = walk.auditNodes ++ [node])
    (hplanned :
      walk'.postorder = walk.postorder ++ if node.action ≠ .readySkip then [node] else []) :
    Mirrors arguments recovery owner path (closed ++ [o]) walk' where
  active x := by
    rw [hstates]
    by_cases hx : o = x
    · rw [if_pos hx]
      exact ⟨fun hsame => (nomatch hsame), fun hmem => absurd (hx ▸ hmem) hpath⟩
    · rw [if_neg hx, h.active, hopened x (Ne.symm hx)]
  done x := by
    rw [hstates, List.mem_append, List.mem_singleton]
    by_cases hx : o = x
    · rw [if_pos hx]
      exact ⟨fun _ => .inr hx.symm, fun _ => rfl⟩
    · rw [if_neg hx, h.done]
      exact ⟨.inl, fun hmem => hmem.elim id fun heq => absurd heq.symm hx⟩
  producers t ht := by
    rw [hstates]
    by_cases hx : o = ObjectID.forTask t 0
    · rw [if_pos hx]
      exact Option.some_ne_none _
    · rw [if_neg hx]
      exact h.producers t ((hproducers t ht).resolve_right (Ne.symm hx))
  known x hx := by
    rw [hnodes]
    by_cases heq : o = x
    · rw [if_pos heq]
      exact Option.some_ne_none _
    · rw [if_neg heq]
      rcases List.mem_append.mp hx with hx | hx
      · exact h.known x hx
      · exact absurd (List.mem_singleton.mp hx).symm heq
  audited := by
    rw [haudit]
    exact List.rel_append h.audited (.cons hnode .nil)
  planned := by
    rw [hplanned, haudit, List.filter_append, h.planned]
    by_cases haction : node.action ≠ .readySkip
    · simp [haction]
    · simp [haction]

theorem GraphWalk.leave_eq (h : node.outputIds = [o]) : walk.leave taskId node = {
      states := walk.states.set o .done
      nodes := walk.nodes.set o node
      producerStates := walk.producerStates.set taskId .done
      producerNodes := walk.producerNodes.set taskId node
      auditNodes := walk.auditNodes ++ [node]
      postorder := walk.postorder ++ if node.action ≠ .readySkip then [node] else [] } := by
  by_cases haction : node.action ≠ .readySkip
  · simp [GraphWalk.leave, GraphWalk.settle, GraphWalk.audit, h, haction]
  · simp [GraphWalk.leave, GraphWalk.settle, GraphWalk.audit, h, haction]

theorem Mirrors.leave (h : Mirrors arguments recovery owner (o :: path) closed walk)
    (hpath : o ∉ path) (htask : ObjectID.forTask taskId 0 = o)
    (hnode : nodeOf arguments recovery owner o = .ok node) :
    Mirrors arguments recovery owner path (closed ++ [o]) (walk.leave taskId node) := by
  have hopened : ∀ x, x ≠ o → (x ∈ o :: path ↔ x ∈ path) := by
    intro x hx
    rw [List.mem_cons]
    exact ⟨fun hmem => hmem.resolve_left hx, .inr⟩
  rw [GraphWalk.leave_eq (nodeOf_object hnode).2]
  refine h.close hopened hpath hnode (fun x => Dict.get?_set _ _ _ _)
    (fun x => Dict.get?_set _ _ _ _) ?_ rfl rfl
  intro t ht
  change (walk.producerStates.set taskId .done).get? t ≠ none at ht
  rw [Dict.get?_set] at ht
  by_cases hsame : taskId = t
  · exact .inr (hsame ▸ htask)
  · rw [if_neg hsame] at ht
    exact .inl ht

theorem Mirrors.ready (h : Mirrors arguments recovery owner path closed walk) (hpath : o ∉ path)
    (hnode : nodeOf arguments recovery owner o = .ok node) (haction : node.action = .readySkip) :
    Mirrors arguments recovery owner path (closed ++ [o])
      (((walk.enter o).audit node).settle node o) := by
  refine h.close (fun _ _ => Iff.rfl) hpath hnode ?_ (fun x => Dict.get?_set _ _ _ _)
    (fun t ht => .inl ht) rfl ?_
  · intro x
    change ((walk.states.set o .active).set o .done).get? x = _
    rw [Dict.set_set, Dict.get?_set]
  · rw [if_neg (not_not_intro haction), List.append_nil]
    rfl

/-- One visit, as a turn of the loop over dependencies. -/
def visited (arguments : TaskSpec → List TaskArg) (recovery : RecoveryManager)
    (owner : ObjectOwnerTable ε) (depth : Nat) (walk : GraphWalk) (o : ObjectID) :
    Except ReconstructionError GraphWalk := do
  let visited ← visit arguments recovery owner depth o walk
  return visited.2

theorem visited_new {depth : Nat} {candidate : Candidate}
    (hnew : walk.states.get? o = none)
    (hproducer : walk.producerStates.get? candidate.lineage.taskSpec.taskId = none)
    (hinspect : inspect recovery owner o = .ok (.producer candidate)) :
    visited arguments recovery owner (depth + 1) walk o = (do
      let node ← producerNode arguments owner o candidate
      let left ← (followed node).foldlM (visited arguments recovery owner depth)
        ((walk.enter o).enterProducer candidate.lineage.taskSpec.taskId)
      return left.leave candidate.lineage.taskSpec.taskId node) := by
  have hentered : (walk.enter o).producerStates.get? candidate.lineage.taskSpec.taskId = none :=
    hproducer
  rw [visited, visit, hnew, hinspect]
  simp only [bind, Except.bind, hentered]
  cases producerNode arguments owner o candidate with
  | error e => rfl
  | ok node =>
    let loop := (followed node).foldlM (visited arguments recovery owner depth)
      ((walk.enter o).enterProducer candidate.lineage.taskSpec.taskId)
    change (do
      let visited ← loop >>= fun left =>
        pure (node, left.leave candidate.lineage.taskSpec.taskId node)
      pure visited.2) = loop >>= fun left =>
        (pure (left.leave candidate.lineage.taskSpec.taskId node) : Except ReconstructionError _)
    cases loop with
    | error e => rfl
    | ok left => rfl

theorem visit_simulates {depth : Nat} (h : Mirrors arguments recovery owner path closed walk) :
    Simulates arguments recovery owner path
      (DepthFirst.visit (expand arguments recovery owner) depth path o closed)
      (visited arguments recovery owner depth walk o) := by
  induction depth generalizing path closed walk o with
  | zero => rfl
  | succ depth ih =>
    rw [DepthFirst.visit]
    by_cases hpath : o ∈ path
    · rw [if_pos hpath, visited, visit, (h.active o).mpr hpath]
      rfl
    rw [if_neg hpath]
    by_cases hclosed : o ∈ closed
    · obtain ⟨node, hnode⟩ := Option.ne_none_iff_exists'.mp (h.known o hclosed)
      rw [if_pos hclosed, visited, visit, (h.done o).mpr hclosed, subscript, hnode]
      exact h
    rw [if_neg hclosed]
    have hnew : walk.states.get? o = none := by
      cases hstate : walk.states.get? o with
      | none => rfl
      | some colour =>
        cases colour with
        | active => exact absurd ((h.active o).mp hstate) hpath
        | done => exact absurd ((h.done o).mp hstate) hclosed
    cases hinspect : inspect recovery owner o with
    | error e =>
      have hexpand : expand arguments recovery owner o = .error e := by
        rw [expand, nodeOf, hinspect]
        rfl
      rw [hexpand, visited, visit, hnew, hinspect]
      rfl
    | ok inspection =>
      cases inspection with
      | ready node =>
        obtain ⟨e, -, -, ⟨-, hready⟩ | ⟨-, _, _, _, -, -, -, -, -, -, himpossible⟩⟩ :=
          inspect_eq_ok.mp hinspect
        · have hnode : nodeOf arguments recovery owner o = .ok node := by
            rw [nodeOf, hinspect]
            rfl
          have haction : node.action = .readySkip := by
            rw [Inspection.ready.inj hready]
            rfl
          have hexpand : expand arguments recovery owner o = .ok [] := by
            rw [expand, hnode]
            change Except.ok (followed node) = _
            rw [followed, haction, if_neg (by decide)]
          rw [hexpand, visited, visit, hnew, hinspect]
          exact h.ready hpath hnode haction
        · cases himpossible
      | producer candidate =>
        obtain ⟨e, -, -, ⟨-, himpossible⟩ | ⟨-, taskId, lineage, record, -, -, -, -, houtput,
          hmanifest, hcandidate⟩⟩ := inspect_eq_ok.mp hinspect
        · cases himpossible
        have htask : ObjectID.forTask candidate.lineage.taskSpec.taskId 0 = o := by
          rw [Inspection.producer.inj hcandidate]
          rw [hmanifest, TaskSpec.returnIds, List.mem_singleton] at houtput
          exact houtput.symm
        have hproducer : walk.producerStates.get? candidate.lineage.taskSpec.taskId =
            none := by
          by_contra hsome
          exact h.producers _ hsome (htask ▸ hnew)
        rw [visited_new hnew hproducer hinspect]
        have hnodeOf : nodeOf arguments recovery owner o =
            producerNode arguments owner o candidate := by
          rw [nodeOf, hinspect]
          rfl
        cases hnode : producerNode arguments owner o candidate with
        | error e =>
          have hexpand : expand arguments recovery owner o = .error e := by
            rw [expand, hnodeOf, hnode]
            rfl
          rw [hexpand]
          rfl
        | ok node =>
          have hexpand : expand arguments recovery owner o = .ok (followed node) := by
            rw [expand, hnodeOf, hnode]
            rfl
          rw [hexpand]
          have hturn : ∀ x closed walk,
              Mirrors arguments recovery owner (o :: path) closed walk →
                Simulates arguments recovery owner (o :: path)
                  (DepthFirst.visit (expand arguments recovery owner) depth (o :: path) x
                    closed)
                  (visited arguments recovery owner depth walk x) := fun _ _ _ h => ih h
          refine (foldlM_simulates hturn (h.enter hnew htask)).bind ?_
          exact fun closed walk h => h.leave hpath htask (hnodeOf.trans hnode)

/-! ## Only the walk itself can run out of depth -/

section Depth

/-- The checks of one object do not recurse. -/
abbrev Shallow {α : Type} (x : Except ReconstructionError α) : Prop :=
  RaisesOnly (fun e => e ≠ .recursion) x

variable {α : Type}

theorem shallow_mapError {δ : Type} {f : δ → ReconstructionError} {x : Except δ α}
    (h : ∀ e, f e ≠ .recursion) : Shallow (x.mapError f) := by
  cases x with
  | ok a => exact raisesOnly_ok
  | error e => exact raisesOnly_error.mpr (h e)

theorem shallow_foldlM {β : Type} {step : β → α → Except ReconstructionError β}
    (h : ∀ b a, Shallow (step b a)) (xs : List α) (b : β) : Shallow (xs.foldlM step b) := by
  induction xs generalizing b with
  | nil => exact raisesOnly_ok
  | cons a xs ih =>
    rw [List.foldlM_cons]
    exact raisesOnly_bind.mpr ⟨h b a, fun b' _ => ih b'⟩

theorem shallow_mapM {β : Type} {f : α → Except ReconstructionError β} (h : ∀ a, Shallow (f a))
    (xs : List α) : Shallow (xs.mapM f) := by
  induction xs with
  | nil => exact raisesOnly_ok
  | cons a xs ih =>
    rw [List.mapM_cons]
    refine raisesOnly_bind.mpr ⟨h a, fun b _ => ?_⟩
    exact raisesOnly_bind.mpr ⟨ih, fun _ _ => raisesOnly_pure⟩

variable {message : String}

theorem shallow_ownerSnapshot : Shallow (ownerSnapshot owner o message) :=
  shallow_mapError fun _ h => nomatch h

theorem shallow_runtime : Shallow (throw (.runtime message) : Except ReconstructionError α) :=
  raisesOnly_throw.mpr fun h => nomatch h

theorem shallow_raiseIf {c : Prop} [Decidable c] : Shallow (raiseIf c (.runtime message)) :=
  raisesOnly_raiseIf.mpr fun _ h => nomatch h

theorem shallow_guard {c : Prop} [Decidable c] {rest : Unit → Except ReconstructionError α}
    (h : ∀ u, Shallow (rest u)) : Shallow (raiseIf c (.runtime message) >>= rest) :=
  raisesOnly_bind.mpr ⟨shallow_raiseIf, fun u _ => h u⟩

theorem shallow_nestedHold (spec : TaskSpec) (seen : List ObjectID)
    (transfer : NestedReferenceTransfer) : Shallow (nestedHold owner spec seen transfer) := by
  refine raisesOnly_ite.mpr ⟨fun _ => shallow_guard fun _ => raisesOnly_pure, fun _ => ?_⟩
  refine shallow_guard fun _ => raisesOnly_bind.mpr ⟨shallow_ownerSnapshot, fun _ _ => ?_⟩
  exact shallow_guard fun _ => raisesOnly_pure

theorem shallow_validateLineageInputs (spec : TaskSpec) :
    Shallow (validateLineageInputs arguments owner spec) := by
  refine shallow_foldlM (fun inputs argument => ?_) _ _
  cases argument with
  | ref o ownerWorkerId => exact raisesOnly_ite.mpr ⟨fun _ => raisesOnly_ok, fun _ => raisesOnly_ok⟩
  | inline nestedRefs =>
    exact raisesOnly_bind.mpr ⟨shallow_foldlM (shallow_nestedHold spec) _ _,
      fun _ _ => raisesOnly_pure⟩

theorem shallow_validateOutput (spec : TaskSpec) (attempt : AttemptID) (output : ObjectID) :
    Shallow (validateOutput owner spec attempt output) := by
  refine raisesOnly_bind.mpr ⟨shallow_ownerSnapshot, fun _ _ => ?_⟩
  exact shallow_guard fun _ => shallow_guard fun _ => shallow_guard fun _ => raisesOnly_pure

theorem shallow_chooseAction (snapshot : ReconstructionSnapshot)
    (ownerAttempt : Option AttemptID) (states : List ObjectState) :
    Shallow (chooseAction snapshot ownerAttempt states) := by
  refine raisesOnly_ite.mpr ⟨fun _ => shallow_guard fun _ => raisesOnly_pure, fun _ => ?_⟩
  refine raisesOnly_ite.mpr ⟨fun _ => ?_, fun _ => shallow_runtime⟩
  exact shallow_guard fun _ => shallow_guard fun _ => raisesOnly_pure

theorem shallow_producerNode (candidate : Candidate) :
    Shallow (producerNode arguments owner o candidate) := by
  refine shallow_guard fun _ => ?_
  cases candidate.recovery.currentAttempt with
  | none => exact raisesOnly_throw.mpr fun h => nomatch h
  | some attempt =>
    refine raisesOnly_bind.mpr ⟨shallow_mapM (shallow_validateOutput _ _) _, fun _ _ => ?_⟩
    refine raisesOnly_bind.mpr ⟨shallow_validateLineageInputs _, fun _ _ => ?_⟩
    exact raisesOnly_bind.mpr ⟨shallow_chooseAction _ _ _, fun _ _ => raisesOnly_pure⟩

theorem shallow_validateGraphLineage (lineage : ProducerLineage) :
    Shallow (validateGraphLineage o lineage) :=
  shallow_guard fun _ => shallow_guard fun _ => shallow_raiseIf

theorem shallow_inspect : Shallow (inspect recovery owner o) := by
  refine raisesOnly_bind.mpr ⟨shallow_ownerSnapshot, fun _ _ => shallow_guard fun _ => ?_⟩
  refine raisesOnly_ite.mpr ⟨fun _ => raisesOnly_pure, fun _ => ?_⟩
  refine raisesOnly_bind.mpr ⟨shallow_mapError (fun _ h => nomatch h), fun snapshot _ => ?_⟩
  refine shallow_guard fun _ => ?_
  cases snapshot.lineage with
  | none => exact shallow_runtime
  | some lineage =>
    exact raisesOnly_bind.mpr ⟨shallow_validateGraphLineage lineage, fun _ _ => raisesOnly_pure⟩

theorem shallow_nodeOf : Shallow (nodeOf arguments recovery owner o) := by
  refine raisesOnly_bind.mpr ⟨shallow_inspect, fun inspection _ => ?_⟩
  cases inspection with
  | ready node => exact raisesOnly_pure
  | producer candidate => exact shallow_producerNode candidate

end Depth

/-! ## The preflight -/

theorem mirrors_empty : Mirrors arguments recovery owner [] [] .empty where
  active _ := ⟨fun h => (nomatch h), fun h => absurd h List.not_mem_nil⟩
  done _ := ⟨fun h => (nomatch h), fun h => absurd h List.not_mem_nil⟩
  producers _ h := absurd rfl h
  known _ h := absurd h List.not_mem_nil
  audited := .nil
  planned := rfl

theorem mem_entries_of_expand {children : List ObjectID}
    (h : expand arguments recovery owner o = .ok children) : o ∈ owner.entries.keys := by
  obtain ⟨e, he, -⟩ := expand_ok_iff.mp ⟨children, h⟩
  exact Dict.mem_keys_iff.mpr ⟨e, he⟩

abbrev searchOf (arguments : TaskSpec → List TaskArg) (recovery : RecoveryManager)
    (owner : ObjectOwnerTable ε) (o : ObjectID) :
    Except (DepthFirst.Stop ReconstructionError) (List ObjectID) :=
  DepthFirst.search (expand arguments recovery owner) (owner.entries.items.length + 1) o

theorem preflightGraph_eq : preflightGraph arguments recovery owner o =
    (fun walk => ⟨o, walk.auditNodes, walk.postorder⟩) <$>
      visited arguments recovery owner (owner.entries.items.length + 1) .empty o := by
  rw [preflightGraph, visited]
  cases visit arguments recovery owner (owner.entries.items.length + 1) o .empty with
  | error e => rfl
  | ok result => rfl

theorem preflightGraph_of_search_ok (h : searchOf arguments recovery owner o = .ok closed) :
    ∃ walk, Mirrors arguments recovery owner [] closed walk ∧
      preflightGraph arguments recovery owner o = .ok ⟨o, walk.auditNodes, walk.postorder⟩ := by
  have hsim : Simulates arguments recovery owner [] (searchOf arguments recovery owner o) _ :=
    visit_simulates mirrors_empty
  rw [h] at hsim
  rw [preflightGraph_eq]
  cases hvisited : visited arguments recovery owner (owner.entries.items.length + 1) .empty o with
  | error e =>
    rw [hvisited] at hsim
    exact hsim.elim
  | ok walk =>
    rw [hvisited] at hsim
    exact ⟨walk, hsim, rfl⟩

theorem preflightGraph_of_search_error {stop : DepthFirst.Stop ReconstructionError}
    (h : searchOf arguments recovery owner o = .error stop) :
    preflightGraph arguments recovery owner o = .error (errorOf stop) := by
  have hsim : Simulates arguments recovery owner [] (searchOf arguments recovery owner o) _ :=
    visit_simulates mirrors_empty
  rw [h] at hsim
  rw [preflightGraph_eq]
  cases hvisited : visited arguments recovery owner (owner.entries.items.length + 1) .empty o with
  | error e =>
    rw [hvisited] at hsim
    rw [hsim]
    rfl
  | ok walk =>
    rw [hvisited] at hsim
    exact hsim.elim

/-- The walk is never cut by its bound. -/
theorem preflightGraph_terminates :
    preflightGraph arguments recovery owner o ≠ .error .recursion := by
  cases h : searchOf arguments recovery owner o with
  | ok closed =>
    obtain ⟨walk, -, hplan⟩ := preflightGraph_of_search_ok h
    rw [hplan]
    rintro ⟨⟩
  | error stop =>
    rw [preflightGraph_of_search_error h]
    have hfuel : owner.entries.keys.length < owner.entries.items.length + 1 := by
      rw [Dict.keys, List.length_map]
      exact Nat.lt_succ_self _
    have hblame := DepthFirst.search_blames (fun w _ => mem_entries_of_expand) hfuel h
    cases stop with
    | refused e =>
      obtain ⟨w, -, hrefused⟩ := hblame
      have hrefused : followed <$> nodeOf arguments recovery owner w = .error e := hrefused
      rw [map_eq_error] at hrefused
      intro hsame
      exact shallow_nodeOf e hrefused (Except.error.inj hsame)
    | cycle => rintro ⟨⟩
    | depth => exact hblame.elim

/-- What a preflight explores from an object. -/
def Explores (arguments : TaskSpec → List TaskArg) (recovery : RecoveryManager)
    (owner : ObjectOwnerTable ε) : ObjectID → ObjectID → Prop :=
  ReflTransGen (Needs arguments recovery owner)

theorem needs_of_edge (h : DepthFirst.Edge (expand arguments recovery owner) o d) :
    Needs arguments recovery owner o d := by
  obtain ⟨children, hexpand, -⟩ := id h
  exact (edge_iff (expand_ok_iff.mp ⟨children, hexpand⟩)).mp h

variable {w : ObjectID}

section

variable (hplannable : ∀ w, ReflTransGen (DepthFirst.Edge (expand arguments recovery owner)) o w →
  Plannable arguments recovery owner w)
include hplannable

/-- While everything met is plannable, exploring is walking the unfolded graph. -/
theorem reach_of_explores (h : Explores arguments recovery owner o w) :
    ReflTransGen (DepthFirst.Edge (expand arguments recovery owner)) o w := by
  induction h with
  | refl => exact .refl
  | tail _ hneeds ih => exact ih.tail ((edge_iff (hplannable _ ih)).mpr hneeds)

theorem cycle_of_needs {x : ObjectID} (hw : ReflTransGen
    (DepthFirst.Edge (expand arguments recovery owner)) o w)
    (h : TransGen (Needs arguments recovery owner) w x) :
    TransGen (DepthFirst.Edge (expand arguments recovery owner)) w x := by
  induction h with
  | single hneeds => exact .single ((edge_iff (hplannable w hw)).mpr hneeds)
  | tail _ hneeds ih =>
    have hreach := hw.trans ih.to_reflTransGen
    exact ih.tail ((edge_iff (hplannable _ hreach)).mpr hneeds)

end

/-- Everything explored is plannable, and nothing explored is on a cycle. -/
def Safe (arguments : TaskSpec → List TaskArg) (recovery : RecoveryManager)
    (owner : ObjectOwnerTable ε) (o : ObjectID) : Prop :=
  ∀ w, Explores arguments recovery owner o w →
    Plannable arguments recovery owner w ∧ ¬ TransGen (Needs arguments recovery owner) w w

theorem safe_iff : Safe arguments recovery owner o ↔
    ∀ w, ReflTransGen (DepthFirst.Edge (expand arguments recovery owner)) o w →
      (∃ children, expand arguments recovery owner w = .ok children) ∧
        ¬ TransGen (DepthFirst.Edge (expand arguments recovery owner)) w w := by
  constructor
  · intro h w hr
    have hw := h w (ReflTransGen.mono (fun _ _ => needs_of_edge) _ _ hr)
    exact ⟨expand_ok_iff.mpr hw.1, fun hcycle =>
      hw.2 (TransGen.mono (fun _ _ => needs_of_edge) _ _ hcycle)⟩
  · intro h w hr
    have hplannable := fun w hr => expand_ok_iff.mp (h w hr).1
    have hreach := reach_of_explores hplannable hr
    exact ⟨hplannable w hreach, fun hcycle =>
      (h w hreach).2 (cycle_of_needs hplannable hreach hcycle)⟩

theorem search_ok_iff_safe : (∃ closed, searchOf arguments recovery owner o = .ok closed) ↔
    Safe arguments recovery owner o := by
  have hfuel : owner.entries.keys.length < owner.entries.items.length + 1 := by
    rw [Dict.keys, List.length_map]
    exact Nat.lt_succ_self _
  rw [safe_iff]
  exact DepthFirst.search_ok_iff (fun w _ => mem_entries_of_expand) hfuel

/-- A preflight returns a plan exactly for a safe object. -/
theorem preflightGraph_ok_iff :
    (∃ plan, preflightGraph arguments recovery owner o = .ok plan) ↔
      Safe arguments recovery owner o := by
  rw [← search_ok_iff_safe]
  constructor
  · rintro ⟨plan, hplan⟩
    cases h : searchOf arguments recovery owner o with
    | ok closed => exact ⟨closed, rfl⟩
    | error stop =>
      rw [preflightGraph_of_search_error h] at hplan
      cases hplan
  · rintro ⟨closed, h⟩
    obtain ⟨walk, -, hplan⟩ := preflightGraph_of_search_ok h
    exact ⟨_, hplan⟩

/-! ## The planned steps -/

def InState (owner : ObjectOwnerTable ε) (o : ObjectID) (state : ObjectState) : Prop :=
  ∃ e, owner.entries.get? o = some e ∧ e.state = state

/-- The steps of a plan: every lost producer to reconstruct and every pending one to join,
once, and a lost one after the steps of what it needs. -/
structure PlanSpec (arguments : TaskSpec → List TaskArg) (recovery : RecoveryManager)
    (owner : ObjectOwnerTable ε) (o : ObjectID) (plan : ReconstructionGraphPlan) : Prop where
  requested : plan.requestedObjectId = o
  lost : ∀ w, (∃ step ∈ plan.steps, step.objectId = w ∧ step.action = .lostReconstruct) ↔
    Explores arguments recovery owner o w ∧ InState owner w .lost
  pending : ∀ w, (∃ step ∈ plan.steps, step.objectId = w ∧ step.action = .pendingJoin) ↔
    Explores arguments recovery owner o w ∧ InState owner w .pending
  producers : ∀ step ∈ plan.steps, step.action ≠ .readySkip ∧
    step.taskId = some step.objectId.taskId ∧ step.outputIds = [step.objectId]
  once : (plan.steps.map ReconstructionGraphNode.taskId).Nodup
  ordered : ∀ front step back, plan.steps = front ++ step :: back →
    step.action = .lostReconstruct →
    ∀ d, Needs arguments recovery owner step.objectId d →
      (∃ earlier ∈ front, earlier.objectId = d) ∨
        ∃ e, owner.entries.get? d = some e ∧ IsReady e.state

/-- The action of a node tells the state of its object. -/
inductive Chosen (o : ObjectID) (node : ReconstructionGraphNode) (e : ObjectOwnerEntry ε) : Prop
  | ready (hready : IsReady e.state) (haction : node.action = .readySkip)
  | join (hstate : e.state = .pending) (haction : node.action = .pendingJoin)
      (htask : node.taskId = some o.taskId) (hindex : o.returnIndex = 0)
  | reconstruct (hstate : e.state = .lost) (haction : node.action = .lostReconstruct)
      (htask : node.taskId = some o.taskId) (hindex : o.returnIndex = 0)

theorem nodeOf_chosen (h : nodeOf arguments recovery owner o = .ok node) :
    ∃ e, owner.entries.get? o = some e ∧ Chosen o node e := by
  obtain ⟨e, he, -, ⟨hready, rfl⟩ | ⟨taskId, lineage, record, inputs, action, hproducer, -,
    haction, rfl⟩⟩ := nodeOf_eq_ok.mp h
  · exact ⟨e, he, .ready hready rfl⟩
  · have htask := (outputs_eq hproducer.output hproducer.manifest).2
    have hindex : o.returnIndex = 0 := by
      have houtput := hproducer.output
      rw [hproducer.manifest, TaskSpec.returnIds, List.mem_singleton] at houtput
      rw [houtput]
      rfl
    rcases haction with ⟨hstate, -, rfl⟩ | ⟨hstate, -, -, rfl⟩
    · exact ⟨e, he, .join hstate rfl (congrArg some htask) hindex⟩
    · exact ⟨e, he, .reconstruct hstate rfl (congrArg some htask) hindex⟩

theorem action_iff (h : nodeOf arguments recovery owner o = .ok node) :
    (node.action = .lostReconstruct ↔ InState owner o .lost) ∧
      (node.action = .pendingJoin ↔ InState owner o .pending) := by
  obtain ⟨e, he, hchosen⟩ := nodeOf_chosen h
  have hstate : ∀ state, InState owner o state ↔ e.state = state := by
    intro state
    constructor
    · rintro ⟨e', he', hstate⟩
      rw [he] at he'
      cases he'
      exact hstate
    · exact fun hstate => ⟨e, he, hstate⟩
  rw [hstate, hstate]
  cases hchosen with
  | ready hready haction =>
    rcases hready with hready | hready
    · simp [hready, haction]
    · simp [hready, haction]
  | join hpending haction => simp [hpending, haction]
  | reconstruct hlost haction => simp [hlost, haction]

section Steps

variable {nodes : List ReconstructionGraphNode}

section

variable (h : List.Forall₂ (fun o node => nodeOf arguments recovery owner o =
  .ok node) closed nodes)
include h

theorem audited_objects :
    nodes.map ReconstructionGraphNode.objectId = closed := by
  induction h with
  | nil => rfl
  | cons hnode _ ih => rw [List.map_cons, ih, (nodeOf_object hnode).1]

theorem audited_node (hnode : node ∈ nodes) :
    node.objectId ∈ closed ∧ nodeOf arguments recovery owner node.objectId = .ok node := by
  induction h with
  | nil => exact absurd hnode List.not_mem_nil
  | cons hfirst _ ih =>
    rcases List.mem_cons.mp hnode with rfl | hnode
    · rw [(nodeOf_object hfirst).1]
      exact ⟨List.mem_cons_self, hfirst⟩
    · exact ⟨List.mem_cons_of_mem _ (ih hnode).1, (ih hnode).2⟩

theorem audited_of_mem (hw : w ∈ closed) :
    ∃ node ∈ nodes, node.objectId = w ∧ nodeOf arguments recovery owner w = .ok node := by
  rw [← audited_objects h] at hw
  obtain ⟨node, hnode, rfl⟩ := List.mem_map.mp hw
  exact ⟨node, hnode, rfl, (audited_node h hnode).2⟩

end

end Steps

variable {step : ReconstructionGraphNode}

section

variable (hm : Mirrors arguments recovery owner [] closed walk)
include hm

theorem mem_postorder :
    step ∈ walk.postorder ↔
      step ∈ walk.auditNodes ∧ step.action ≠ .readySkip := by
  rw [hm.planned, List.mem_filter, decide_eq_true_iff]

/-- The steps that take one action are those of the closed objects with that action. -/
theorem exists_step_iff (hnode : nodeOf arguments recovery owner w = .ok node)
    (hready : action ≠ .readySkip) :
    (∃ step ∈ walk.postorder, step.objectId = w ∧ step.action = action) ↔
      w ∈ closed ∧ node.action = action := by
  constructor
  · rintro ⟨step, hmem, rfl, haction⟩
    have hstep := audited_node hm.audited ((mem_postorder hm).mp hmem).1
    rw [hnode] at hstep
    cases hstep.2
    exact ⟨hstep.1, haction⟩
  · rintro ⟨hw, haction⟩
    obtain ⟨step, hmem, hobject, hstep⟩ := audited_of_mem hm.audited hw
    rw [hnode] at hstep
    cases hstep
    exact ⟨node, (mem_postorder hm).mpr ⟨hmem, haction ▸ hready⟩, hobject, haction⟩

theorem step_producer (h : step ∈ walk.postorder) :
    step.taskId = some step.objectId.taskId ∧ step.objectId.returnIndex = 0 ∧
      step.outputIds = [step.objectId] := by
  obtain ⟨hmem, haction⟩ := (mem_postorder hm).mp h
  have hnode := (audited_node hm.audited hmem).2
  obtain ⟨e, -, hchosen⟩ := nodeOf_chosen hnode
  have houtputs := (nodeOf_object hnode).2
  cases hchosen with
  | ready _ hready => exact absurd hready haction
  | join _ _ htask hindex => exact ⟨htask, hindex, houtputs⟩
  | reconstruct _ _ htask hindex => exact ⟨htask, hindex, houtputs⟩

theorem postorder_nodup (hclosed : closed.Nodup) :
    (walk.postorder.map ReconstructionGraphNode.taskId).Nodup := by
  have haudit : (walk.auditNodes.map ReconstructionGraphNode.objectId).Nodup := by
    rw [audited_objects hm.audited]
    exact hclosed
  have hobjects : (walk.postorder.map ReconstructionGraphNode.objectId).Nodup := by
    rw [hm.planned]
    exact haudit.sublist (List.filter_sublist.map _)
  refine hobjects.of_map _ |>.map_on fun x hx y hy htask => ?_
  have hxs := step_producer hm hx
  have hys := step_producer hm hy
  rw [hxs.1, hys.1] at htask
  have hobject : x.objectId = y.objectId := by
    change ObjectID.mk x.objectId.taskId x.objectId.returnIndex =
      ObjectID.mk y.objectId.taskId y.objectId.returnIndex
    rw [Option.some.inj htask, hxs.2.1, hys.2.1]
  exact List.inj_on_of_nodup_map hobjects hx hy hobject

theorem audited_before {front back : List ReconstructionGraphNode}
    (h : walk.postorder = front ++ step :: back) :
    ∃ before after, walk.auditNodes = before ++ step :: after ∧
      ∀ node ∈ before, node ∈ front ∨ node.action = .readySkip := by
  rw [hm.planned, List.filter_eq_append_iff] at h
  obtain ⟨first, rest, hsplit, hfirst, hrest⟩ := h
  obtain ⟨skipped, after, hcons, hskipped, -⟩ := List.filter_eq_cons_iff.mp hrest
  refine ⟨first ++ skipped, after, ?_, ?_⟩
  · rw [hsplit, hcons, List.append_assoc]
  · intro node hnode
    rcases List.mem_append.mp hnode with hnode | hnode
    · by_cases haction : node.action = .readySkip
      · exact .inr haction
      · rw [← hfirst]
        exact .inl (List.mem_filter.mpr ⟨hnode, decide_eq_true haction⟩)
    · right
      by_contra haction
      exact hskipped node hnode (decide_eq_true haction)

end

theorem planSpec (h : searchOf arguments recovery owner o = .ok closed)
    (hm : Mirrors arguments recovery owner [] closed walk) :
    PlanSpec arguments recovery owner o ⟨o, walk.auditNodes, walk.postorder⟩ := by
  have hsafe : Safe arguments recovery owner o := search_ok_iff_safe.mp ⟨closed, h⟩
  have hplannable := fun w hr => expand_ok_iff.mp (safe_iff.mp hsafe w hr).1
  have hclosed : ∀ w, w ∈ closed ↔ Explores arguments recovery owner o w := by
    intro w
    rw [DepthFirst.search_mem_iff h]
    exact ⟨ReflTransGen.mono (fun _ _ => needs_of_edge) _ _, reach_of_explores hplannable⟩
  have hexplored := DepthFirst.search_explored h
  have hlisted : ∀ w action state, action ≠ .readySkip →
      (∀ node, nodeOf arguments recovery owner w = .ok node →
        (node.action = action ↔ InState owner w state)) →
      ((∃ step ∈ walk.postorder, step.objectId = w ∧ step.action = action) ↔
        Explores arguments recovery owner o w ∧ InState owner w state) := by
    intro w action state hready haction
    by_cases hw : Explores arguments recovery owner o w
    · obtain ⟨node, hnode⟩ := nodeOf_ok_iff.mpr (hsafe w hw).1
      rw [exists_step_iff hm hnode hready, hclosed, haction node hnode]
    · constructor
      · rintro ⟨step, hmem, rfl, -⟩
        exact absurd ((hclosed _).mp (audited_node hm.audited ((mem_postorder hm).mp hmem).1).1) hw
      · exact fun hboth => absurd hboth.1 hw
  exact {
    requested := rfl
    lost := fun w => hlisted w _ _ (by decide) fun node hnode => (action_iff hnode).1
    pending := fun w => hlisted w _ _ (by decide) fun node hnode => (action_iff hnode).2
    producers := by
      intro step hmem
      have hstep := step_producer hm hmem
      exact ⟨((mem_postorder hm).mp hmem).2, hstep.1, hstep.2.2⟩
    once := postorder_nodup hm hexplored.nodup
    ordered := by
      intro front step back hsplit haction d hneeds
      obtain ⟨before, after, haudit, hbefore⟩ := audited_before hm hsplit
      have hobjects := audited_objects hm.audited
      rw [haudit, List.map_append, List.map_cons] at hobjects
      obtain ⟨children, hexpand, hchildren⟩ := hexplored.ordered _ _ _ hobjects.symm
      have hd : d ∈ before.map ReconstructionGraphNode.objectId := by
        apply hchildren
        obtain ⟨children', hexpand', hd⟩ :=
          (edge_iff (expand_ok_iff.mp ⟨children, hexpand⟩)).mpr hneeds
        rw [hexpand] at hexpand'
        cases hexpand'
        exact hd
      obtain ⟨node, hnode, rfl⟩ := List.mem_map.mp hd
      rcases hbefore node hnode with hfront | hready
      · exact .inl ⟨node, hfront, rfl⟩
      · have hmem : node ∈ walk.auditNodes := by
          rw [haudit]
          exact List.mem_append_left _ hnode
        obtain ⟨e, he, hchosen⟩ := nodeOf_chosen (audited_node hm.audited hmem).2
        cases hchosen with
        | ready hstate _ => exact .inr ⟨e, he, hstate⟩
        | join _ hjoin _ _ =>
          rw [hready] at hjoin
          cases hjoin
        | reconstruct _ hreconstruct _ _ =>
          rw [hready] at hreconstruct
          cases hreconstruct }

/-- A preflight ends within its bound. It returns a plan exactly when everything it explores
through lost producers is plannable and on no cycle, and the plan's steps are then the lost
and the joined producers, each lost one after what it needs. -/
theorem preflightGraph_plans (arguments : TaskSpec → List TaskArg) (recovery : RecoveryManager)
    (owner : ObjectOwnerTable ε) (o : ObjectID) :
    preflightGraph arguments recovery owner o ≠ .error .recursion ∧
      ((∃ plan, preflightGraph arguments recovery owner o = .ok plan) ↔
        Safe arguments recovery owner o) ∧
      ∀ plan, preflightGraph arguments recovery owner o = .ok plan →
        PlanSpec arguments recovery owner o plan := by
  refine ⟨preflightGraph_terminates, preflightGraph_ok_iff, ?_⟩
  intro plan hplan
  obtain ⟨closed, h⟩ := search_ok_iff_safe.mpr (preflightGraph_ok_iff.mp ⟨plan, hplan⟩)
  obtain ⟨walk, hm, hwalk⟩ := preflightGraph_of_search_ok h
  rw [hplan] at hwalk
  cases hwalk
  exact planSpec h hm

namespace Sample

/-- The refusals of lost, pending, failed and collecting objects alone. -/
def Refusable (arguments : TaskSpec → List TaskArg) (recovery : RecoveryManager)
    (owner : ObjectOwnerTable Unit) (w : ObjectID) : Prop :=
  TransGen (Needs arguments recovery owner) w w ∨
    ∃ e, owner.entries.get? w = some e ∧ (e.state = .error ∨ e.collectionPending = true ∨
      e.state = .lost ∧ w ∈ recovery.putObjects ∨
      ∃ taskId record, recovery.objectProducers.get? w = some taskId ∧
        recovery.tasks.get? taskId = some record ∧
        (e.state = .lost ∧ (record.state ≠ .succeeded ∨ record.retriesRemaining = 0) ∨
          e.state = .pending ∧
            recovery.activeRecoveries.get? taskId ≠ some record.currentAttempt))

def specOf (task : TaskID) : TaskSpec := ⟨⟨9⟩, task, ⟨task, 1⟩, ⟨8⟩, "", rfl⟩

def entryOf (task : TaskID) (state : ObjectState) : ObjectOwnerEntry Unit :=
  { ObjectOwnerEntry.fresh (.forTask task 0) (some ⟨task, 1⟩) (some (specOf task)) none
      (fun a ha => by cases ha; rfl) with
    state := state }

/-- The first task needs the other two, the second needs the third. -/
def inputs (spec : TaskSpec) : List TaskArg :=
  if spec.taskId = ⟨1⟩ then [.ref (.forTask ⟨2⟩ 0) ⟨8⟩, .ref (.forTask ⟨3⟩ 0) ⟨8⟩]
  else if spec.taskId = ⟨2⟩ then [.ref (.forTask ⟨3⟩ 0) ⟨8⟩]
  else []

def table : ObjectOwnerTable Unit :=
  ((ObjectOwnerTable.empty.setEntry (entryOf ⟨1⟩ .lost)).setEntry
    (entryOf ⟨2⟩ .pending)).setEntry (entryOf ⟨3⟩ .lost)

def recordOf (task : TaskID) (state : TaskState) : TaskRecord :=
  ⟨task, ⟨task, 1⟩, 3, 1, state, none, rfl, by decide⟩

def lineageOf (task : TaskID) : ProducerLineage := ⟨task, specOf task, [.forTask task 0]⟩

/-- The second task is being reconstructed. -/
def manager : RecoveryManager where
  tasks := ((Dict.empty.set ⟨1⟩ (recordOf ⟨1⟩ .succeeded)).set ⟨2⟩ (recordOf ⟨2⟩ .running)).set
    ⟨3⟩ (recordOf ⟨3⟩ .succeeded)
  lineages := ((Dict.empty.set ⟨1⟩ (lineageOf ⟨1⟩)).set ⟨2⟩ (lineageOf ⟨2⟩)).set
    ⟨3⟩ (lineageOf ⟨3⟩)
  objectProducers := ((Dict.empty.set (.forTask ⟨1⟩ 0) ⟨1⟩).set (.forTask ⟨2⟩ 0) ⟨2⟩).set
    (.forTask ⟨3⟩ 0) ⟨3⟩
  putObjects := []
  activeRecoveries := Dict.empty.set ⟨2⟩ ⟨⟨2⟩, 1⟩

def planned : Except ReconstructionError ReconstructionGraphPlan :=
  preflightGraph inputs manager table (.forTask ⟨1⟩ 0)

theorem planned_steps : planned.toOption.map (fun plan => plan.steps.map (·.objectId)) =
    some [.forTask ⟨2⟩ 0, .forTask ⟨3⟩ 0, .forTask ⟨1⟩ 0] := by
  decide +kernel

theorem planned_specs : planned.toOption.map (fun plan => plan.steps.map (·.taskSpec)) =
    some [some (specOf ⟨2⟩), some (specOf ⟨3⟩), some (specOf ⟨1⟩)] := by
  decide +kernel

def orphaned : ObjectOwnerTable Unit := ObjectOwnerTable.empty.setEntry (entryOf ⟨1⟩ .lost)

theorem orphaned_refused :
    preflightGraph inputs .empty orphaned (.forTask ⟨1⟩ 0) =
      .error (.runtime "object has no registered producer lineage") := by
  rfl

theorem not_needs (w d : ObjectID) : ¬ Needs inputs .empty orphaned w d := by
  rintro ⟨_, _, _, -, -, hproduces, -⟩
  cases hproduces

theorem not_refusable (h : Explores inputs .empty orphaned (.forTask ⟨1⟩ 0) w) :
    ¬ Refusable inputs .empty orphaned w := by
  have hw : w = .forTask ⟨1⟩ 0 := by
    cases h with
    | refl => rfl
    | tail _ hneeds => exact absurd hneeds (not_needs _ _)
  subst hw
  rintro (hcycle | ⟨e, he, hrefused⟩)
  · cases hcycle with
    | single hneeds => exact not_needs _ _ hneeds
    | tail _ hneeds => exact not_needs _ _ hneeds
  · have hentry : orphaned.entries.get? (.forTask ⟨1⟩ 0) = some (entryOf ⟨1⟩ .lost) := rfl
    rw [hentry] at he
    cases he
    rcases hrefused with hstate | hpending | ⟨-, hput⟩ | ⟨_, _, hproduces, -⟩
    · cases hstate
    · cases hpending
    · cases hput
    · cases hproduces

end Sample

/-- Lost objects without lineage are refused, and joined producers' inputs not planned. -/
theorem preflight_refuses_more :
    (¬ ∀ (arguments : TaskSpec → List TaskArg) (recovery : RecoveryManager)
      (owner : ObjectOwnerTable Unit) (o : ObjectID),
      (∃ plan, preflightGraph arguments recovery owner o = .ok plan) ↔
        ∀ w, Explores arguments recovery owner o w →
          ¬ Sample.Refusable arguments recovery owner w) ∧
    (¬ ∀ (arguments : TaskSpec → List TaskArg) (recovery : RecoveryManager)
      (owner : ObjectOwnerTable Unit) (o : ObjectID) (plan : ReconstructionGraphPlan),
      preflightGraph arguments recovery owner o = .ok plan →
        ∀ front step back, plan.steps = front ++ step :: back → ∀ spec, step.taskSpec = some spec →
          ∀ d, .ref d spec.ownerWorkerId ∈ arguments spec →
            (∃ other ∈ plan.steps, other.objectId = d) →
              ∃ earlier ∈ front, earlier.objectId = d) := by
  constructor
  · intro h
    have hplan := (h Sample.inputs .empty Sample.orphaned (.forTask ⟨1⟩ 0)).mpr
      fun w hw => Sample.not_refusable hw
    obtain ⟨plan, hplan⟩ := hplan
    rw [Sample.orphaned_refused] at hplan
    cases hplan
  · intro h
    have hsteps := Sample.planned_steps
    have hspecs := Sample.planned_specs
    cases hplan : Sample.planned with
    | error e =>
      rw [hplan] at hsteps
      cases hsteps
    | ok plan =>
      rw [hplan] at hsteps hspecs
      have hsteps : plan.steps.map (·.objectId) = _ := Option.some.inj hsteps
      have hspecs : plan.steps.map (·.taskSpec) = _ := Option.some.inj hspecs
      cases hlist : plan.steps with
      | nil =>
        rw [hlist] at hsteps
        cases hsteps
      | cons step rest =>
        rw [hlist] at hsteps hspecs
        have hspec := (List.cons.inj hspecs).1
        have hrest := (List.cons.inj hsteps).2
        have hother : ∃ other ∈ plan.steps, other.objectId = .forTask ⟨3⟩ 0 := by
          have hmem : ObjectID.forTask ⟨3⟩ 0 ∈ rest.map (·.objectId) := by
            rw [hrest]
            exact List.mem_cons_self
          obtain ⟨other, hmem, hobject⟩ := List.mem_map.mp hmem
          rw [hlist]
          exact ⟨other, List.mem_cons_of_mem _ hmem, hobject⟩
        obtain ⟨earlier, hmem, -⟩ := h _ _ _ _ plan hplan [] step rest hlist
          (Sample.specOf ⟨2⟩) hspec (.forTask ⟨3⟩ 0) (by decide) hother
        exact absurd hmem List.not_mem_nil

end Preflight

end MiniRay
