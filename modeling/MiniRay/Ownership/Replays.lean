import MiniRay.Ownership.Reports

/-! An accepted result value may be reported again at once: the repetition is answered the same way
and finds nothing to change. -/

namespace MiniRay

open Checked Run

namespace ObjectOwnerTable

variable {ε : Type} {s s' : ObjectOwnerTable ε} {o : ObjectID} {x : Option AttemptID}
  {e e' : ObjectOwnerEntry ε} {b : Bool}

theorem setEntry_self (he : s.entries.get? e.objectId = some e) : s.setEntry e = s := by
  simp only [setEntry, Dict.set_get? he]

theorem get?_setEntry_self (he : s.entries.get? o = some e)
    (e' : ObjectOwnerEntry ε) (hid : e'.objectId = e.objectId) :
    (s.setEntry e').entries.get? o = some e' := by
  rw [get?_setEntry, hid, s.keyed o e he, if_pos rfl]

theorem Answer.admits {current replayed : Prop} {rewrites : ObjectOwnerEntry ε → Prop}
    {p : ObjectOwnerEntry ε → Prop} (h : Answer s s' current replayed rewrites true)
    (he : Admits s o e) (hcurrent : current → e.currentAttempt = x)
    (hreplayed : replayed → p e)
    (hrewrites : ∀ e', rewrites e' → Rewrites e e' ∧ e'.currentAttempt = e.currentAttempt ∧
      e'.outputRetirementId = e.outputRetirementId ∧ p e') :
    ∃ e', Admits s' o e' ∧ e'.currentAttempt = x ∧ p e' := by
  cases h with
  | replayed now hknown same =>
    subst same
    exact ⟨e, he, hcurrent now, hreplayed hknown⟩
  | rewritten now e' effect set =>
    obtain ⟨hframe, hattempt, hmark, hknown⟩ := hrewrites e' effect
    have hidle : e'.collectionPending = false := by
      rw [hframe.collection]
      exact he.idle
    refine ⟨e', ⟨?_, hmark.trans he.unmarked, hidle⟩, hattempt.trans (hcurrent now), hknown⟩
    rw [set]
    exact get?_setEntry_self he.entry e' hframe.objectId

theorem publishInline_again {data : List UInt8} (h : s.publishInline o x data = .ok (true, s')) :
    s'.publishInline o x data = .ok (true, s') := by
  obtain ⟨e, he, hanswer⟩ := publishInline_cases h
  obtain ⟨e', he', hx, hstate, hdata⟩ := hanswer.admits
    (p := fun e => e.state = .readyInline ∧ e.inlineData = some data) he id id (by
      rintro e' ⟨_, rfl⟩
      exact ⟨⟨rfl, rfl, rfl⟩, rfl, rfl, rfl, rfl⟩)
  simp only [publishInline, bind_eq_ok] at h
  obtain ⟨_, _, _, _, _, _, _, hattempt, _⟩ := h
  simp only [publishInline, bind_eq_ok]
  refine ⟨e', by simpa using he'.entry, (), by simpa using he'.unmarked, (),
    by simpa using he'.idle, (), hattempt, ?_⟩
  rw [if_neg (by simp [hx]), if_pos hstate]
  simp [hdata]

theorem publishError_again [BEq ε] [EquivBEq ε] {error : Option ε}
    (h : s.publishError o x error = .ok (true, s')) :
    s'.publishError o x error = .ok (true, s') := by
  obtain ⟨e, he, hanswer⟩ := publishError_cases h
  obtain ⟨e', he', hx, hstate, herror⟩ := hanswer.admits
    (p := fun e => e.state = .error ∧ (e.error == error) = true) he id id (by
      rintro e' ⟨_, rfl⟩
      exact ⟨⟨rfl, rfl, rfl⟩, rfl, rfl, rfl, option_beq_refl⟩)
  simp only [publishError, bind_eq_ok] at h
  obtain ⟨_, _, _, _, _, _, _, hattempt, _⟩ := h
  simp only [publishError, bind_eq_ok]
  refine ⟨e', by simpa using he'.entry, (), by simpa using he'.unmarked, (),
    by simpa using he'.idle, (), hattempt, ?_⟩
  rw [if_neg (by simp [hx]), if_pos hstate]
  simp [herror]

variable {d : ResultDescriptor}

theorem publishStored_known {node : NodeID} {known : ResultDescriptor} (he : Admits s o e)
    (hx : e.currentAttempt = x) (hattempt : ∀ a, x = some a → a.taskId = o.taskId)
    (hmatch : d.objectId = o ∧ d.storage = .objectStore ∧ d.nodeId = node)
    (hstate : e.state = .readyStored) (hcanonical : e.canonicalStoredResult = some known)
    (hsame : SameStoredResultIdentity known d)
    (hepochs : ∀ n a, e.locationAttempts.get? n = some a → a = x)
    (hnode : e.locationAttempts.get? node = some x) :
    s.publishStored o x node (some d) = .ok (true, s) := by
  have hset : s.setEntry { e with
      canonicalStoredResult := e.canonicalStoredResult.or (some d)
      locationAttempts := e.locationAttempts.set node x } = s := by
    have hor : e.canonicalStoredResult.or (some d) = e.canonicalStoredResult := by
      rw [hcanonical]
      rfl
    rw [Dict.set_get? hnode, hor]
    exact setEntry_self (get?_objectId he.entry)
  simp only [publishStored, bind_eq_ok]
  refine ⟨(), by simp [hmatch], e, by simpa using he.entry, (), by simpa using he.unmarked, (),
    by simpa using he.idle, (), by simpa using hattempt, ?_⟩
  rw [if_neg (by simp [hx])]
  simp only [bind_eq_ok]
  refine ⟨(), by simp [hcanonical, hsame], (), ?_, ?_⟩
  · rw [conflictingLocation_eq_none.mpr hepochs]
    exact raiseIf_ok (by simp)
  · rw [if_pos hstate, hset]
    rfl

theorem sameStoredResultIdentity_self (h : d.storage = .objectStore) :
    SameStoredResultIdentity d d :=
  ⟨rfl, h, h, rfl, rfl, rfl, d.stored_payload h, d.stored_payload h⟩

theorem publishStored_again {node : NodeID} (h : s.publishStored o x node (some d) =
    .ok (true, s')) :
    s'.publishStored o x node (some d) = .ok (true, s') := by
  obtain ⟨e, he, hanswer⟩ := publishStored_cases h
  simp only [publishStored, bind_eq_ok, raiseIf_eq_ok] at h
  obtain ⟨_, hmatch, _, _, _, _, _, _, _, hattempt, _⟩ := h
  have hmatch : d.objectId = o ∧ d.storage = .objectStore ∧ d.nodeId = node := by
    simpa [not_or] using hmatch
  cases hanswer with
  | replayed _ known => exact known.elim
  | rewritten now e' gains set =>
    have hknown : ∃ d', e.canonicalStoredResult.or (some d) = some d' ∧
        SameStoredResultIdentity d' d := by
      cases hd : e.canonicalStoredResult with
      | none => exact ⟨d, rfl, sameStoredResultIdentity_self hmatch.2.1⟩
      | some d' => exact ⟨d', rfl, gains.known d d' rfl hd⟩
    obtain ⟨d', hd', hsame⟩ := hknown
    have hepochs : ∀ n a, (e.locationAttempts.set node x).get? n = some a → a = x := by
      intro n a ha
      rcases Dict.of_get?_set ha with ⟨_, ha⟩ | ha
      · exact ha.symm
      · exact gains.epochs n a ha
    subst set
    rcases gains.effect with ⟨hstate, rfl⟩ | ⟨_, rfl⟩
    · exact publishStored_known ⟨get?_setEntry_self he.entry _ rfl, he.unmarked, he.idle⟩ now
        (requireAttempt_eq_ok.mp hattempt) hmatch hstate hd' hsame hepochs
        (Dict.get?_set_self _ _ _)
    · exact publishStored_known ⟨get?_setEntry_self he.entry _ rfl, he.unmarked, he.idle⟩ now
        (requireAttempt_eq_ok.mp hattempt) hmatch rfl hd' hsame hepochs
        (Dict.get?_set_self _ _ _)

/-! ## Puts -/

variable {edges : List ContainedReferenceEdge}

theorem publishPutValue_known {a : AttemptID} {d' : ResultDescriptor}
    {children : {children : List ContainedReferenceEdge // ∀ x ∈ children, x.containerObjectId = o}}
    (hreturn : Uint64 o.returnIndex) (hnumber : Uint64 a.attemptNumber)
    (hattempt : requireAttempt o (some a) = .ok ()) (hd : checkedDescriptor d = .ok d')
    (hname : d'.objectId = o) (hchildren : putEdges o [] edges = .ok children) (he : Admits s o e)
    (hnow : e.currentAttempt = some a)
    (hput : e.producerTaskSpec = none ∧ ¬ (s.taskLineage.get? o.taskId).isSome = true ∧
      e.outgoingLineageEdges = ∅ ∧ e.outputPublication = none)
    (halive : ¬ s.Dead d'.ownerWorkerId)
    (hreplay : PutReplayValid e (putIdentityOf a d') children.val.toFinset d') :
    s.publishPutValue o a d edges = .ok (true, s) := by
  have hid := s.keyed o e he.entry
  simp only [publishPutValue, bind_eq_ok]
  refine ⟨(), raiseIf_ok (by simpa using hreturn), (), raiseIf_ok (by simpa using hnumber), (),
    hattempt, d', hd, (), raiseIf_ok (by simpa using hname), children, hchildren, ⟨e, hid⟩,
    by simpa using he.entry, (), by simpa using he.unmarked, (), by simpa using he.idle, ?_⟩
  rw [if_neg (by simpa using hnow)]
  simp only [bind_eq_ok]
  refine ⟨(), raiseIf_ok (by simpa using hput), ?_⟩
  rw [if_neg halive, if_pos (by simp [hreplay.1])]
  simp only [bind_eq_ok]
  exact ⟨(), raiseIf_ok (not_not.mpr hreplay), rfl⟩

theorem publishPutValue_again {a : AttemptID} (h : s.publishPutValue o a d edges = .ok (true, s')) :
    s'.publishPutValue o a d edges = .ok (true, s') := by
  have hfirst := h
  simp only [publishPutValue, bind_eq_ok, keyedEntry_eq_ok, requireNoOutputRetirement_eq_ok,
    requireNotCollecting_eq_ok, raiseIf_eq_ok, ite_eq_ok, pure_eq_ok, Prod.mk.injEq, ne_eq,
    not_not, not_or] at h
  obtain ⟨_, hreturn, _, hnumber, _, hattempt, d', hd, _, hname, children, hchildren, e, he, _,
    hopen, _, hidle, h⟩ := h
  rcases h with ⟨_, hfalse, _⟩ | ⟨hnow, _, hput, ⟨_, hfalse, _⟩ | ⟨halive, h⟩⟩
  · cases hfalse
  · cases hfalse
  rcases h with ⟨_, _, _, _, rfl⟩ | ⟨_, _, hpublish, _, hpristine, _, rfl⟩
  · exact hfirst
  have hset := get?_setEntry_self he
  refine publishPutValue_known hreturn hnumber hattempt hd hname hchildren
    ⟨hset _ rfl, hopen, hidle⟩ hnow hput halive ?_
  refine ⟨rfl, rfl, by simpa using hpristine.2.1, ?_⟩
  by_cases hinline : d'.storage = .inline
  · exact .inl ⟨hinline, if_pos hinline, if_pos hinline, if_pos hinline, by simp [hinline]⟩
  · refine .inr ⟨hinline, if_neg hinline, if_neg hinline, if_neg hinline, ?_, ?_⟩
    · simp only [if_neg hinline]
      exact Dict.items_set_ne_nil _ _ _
    · intro epoch hepoch
      simp only [if_neg hinline] at hepoch
      obtain ⟨n, hn⟩ := Dict.mem_values_iff.mp hepoch
      rcases Dict.of_get?_set hn with ⟨_, hn⟩ | hn
      · exact hn.symm
      · simp at hn

/-! ## Task outputs -/

theorem taskOutputEntry_of {execution : TaskExecutionKey}
    {e₁ : {e : ObjectOwnerEntry ε // e.objectId = execution.output}}
    (h : s.taskOutputEntry execution = .ok e₁)
    (he : s'.entries.get? execution.output = some e)
    (hspec : e.producerTaskSpec = e₁.val.producerTaskSpec) :
    s'.taskOutputEntry execution = .ok ⟨e, s'.keyed _ e he⟩ := by
  simp only [taskOutputEntry, bind_eq_ok] at h ⊢
  obtain ⟨_, hrequire, e₂, he₂, h⟩ := h
  refine ⟨(), hrequire, ⟨e, s'.keyed _ e he⟩, by simpa using he, ?_⟩
  have hsame : e₂ = e₁ ∧ ∀ spec, e₁.val.producerTaskSpec = some spec →
      (TaskExecutionKey.fromTaskSpec spec).manifest = execution.manifest := by
    cases hs : e₂.val.producerTaskSpec with
    | none =>
      simp only [hs, pure_eq_ok] at h
      subst h
      simp [hs]
    | some spec =>
      simp only [hs, bind_eq_ok, raiseIf_eq_ok, pure_eq_ok, ne_eq, not_not] at h
      obtain ⟨_, hmanifest, rfl⟩ := h
      refine ⟨rfl, ?_⟩
      rintro spec' hspec'
      cases hs.symm.trans hspec'
      exact hmanifest
  simp only [hspec]
  cases hs : e₁.val.producerTaskSpec with
  | none => rfl
  | some spec =>
    simp only [bind_eq_ok]
    exact ⟨(), raiseIf_ok (not_not.mpr (hsame.2 spec hs)), rfl⟩

theorem assignResult_spec (plan : TaskOutputPublicationPlan) (e : ObjectOwnerEntry ε) :
    (assignResult plan e).producerTaskSpec = e.producerTaskSpec ∧
      (assignResult plan e).outputRetirementId = e.outputRetirementId := by
  simp only [assignResult]
  split <;> exact ⟨rfl, rfl⟩

theorem assignResult_again (plan : TaskOutputPublicationPlan) (e : ObjectOwnerEntry ε) :
    assignResult plan (assignResult plan e) = assignResult plan e := by
  by_cases hs : plan.result.storage = .inline
  · simp [assignResult, hs]
  · simp [assignResult, hs, Dict.set_get? (Dict.get?_set_self _ _ _)]

variable {plan : TaskOutputPublicationPlan}

theorem validatePublishTaskOutputs_again (hv : s.validatePublishTaskOutputs plan = .ok true)
    (he : s.entries.get? plan.execution.output = some e) :
    (s.setEntry (assignResult plan e)).validatePublishTaskOutputs plan = .ok true := by
  have hset := get?_setEntry_self he _ (assignResult_objectId plan e)
  obtain ⟨hspec, hmark⟩ := assignResult_spec plan e
  have hcollection := assignResult_collection plan e
  have hattempt := assignResult_currentAttempt plan e
  simp only [validatePublishTaskOutputs, bind_eq_ok, requireNotCollecting_eq_ok,
    requireNoOutputRetirement_eq_ok] at hv ⊢
  obtain ⟨e₁, he₁, _, howner, _, hidle, _, hopen, h⟩ := hv
  cases he.symm.trans (taskOutputEntry_get? he₁)
  have hnow : e₁.val.currentAttempt = some plan.execution.attemptId := by
    by_contra hne
    rw [if_pos hne] at h
    cases h
  refine ⟨_, taskOutputEntry_of he₁ hset hspec, (), by simpa only [hspec] using howner, (),
    by rw [hcollection]; exact hidle, (), by rw [hmark]; exact hopen, ?_⟩
  rw [if_neg (by simpa [hattempt] using hnow)]
  by_cases hs : plan.result.storage = .inline
  · rw [if_pos hs]
    simp [assignResult, hs]
  · rw [if_neg hs]
    simp [assignResult, hs]

theorem commitPublishTaskOutputs_again (h : s.commitPublishTaskOutputs plan = .ok (true, s')) :
    s'.commitPublishTaskOutputs plan = .ok (true, s') := by
  obtain ⟨hv, e, he, hanswer⟩ := commitPublishTaskOutputs_cases h
  cases hanswer with
  | replayed _ known => exact known.elim
  | rewritten now e' effect set =>
    obtain ⟨_, rfl⟩ := effect
    subst set
    have hset := get?_setEntry_self he.entry _ (assignResult_objectId plan e)
    have hopen : (assignResult plan e).outputRetirementId = none :=
      (assignResult_spec plan e).2.trans he.unmarked
    simp only [commitPublishTaskOutputs, bind_eq_ok]
    refine ⟨⟨_, keyed _ _ _ hset⟩, by simpa using hset, (), by simpa using hopen, true,
      validatePublishTaskOutputs_again hv he.entry, ?_⟩
    rw [if_pos rfl, assignResult_again, setEntry_self (get?_objectId hset)]
    rfl

theorem commitValidatedPublishTaskOutputs_again {u : Unit}
    (h : s.commitValidatedPublishTaskOutputs plan = .ok (u, s')) :
    s'.commitValidatedPublishTaskOutputs plan = .ok (u, s') := by
  obtain ⟨e, he, hopen, rfl⟩ := commitValidatedPublishTaskOutputs_cases h
  have hset := get?_setEntry_self he _ (assignResult_objectId plan e)
  simp only [commitValidatedPublishTaskOutputs, bind_eq_ok]
  refine ⟨⟨_, keyed _ _ _ hset⟩, by simpa using hset, (), ?_, ?_⟩
  · simpa using (assignResult_spec plan e).2.trans hopen
  · rw [assignResult_again, setEntry_self (get?_objectId hset)]
    rfl

theorem commitPublishTaskError_again [BEq ε] [EquivBEq ε] {plan : TaskOutputErrorPlan ε}
    (h : s.commitPublishTaskError plan = .ok (true, s')) :
    s'.commitPublishTaskError plan = .ok (true, s') := by
  obtain ⟨hv, e, he, hanswer⟩ := commitPublishTaskError_cases h
  cases hanswer with
  | replayed _ known => exact known.elim
  | rewritten now e' effect set =>
    obtain ⟨_, rfl⟩ := effect
    subst set
    have hset := get?_setEntry_self he.entry (assignError plan e) rfl
    simp only [validatePublishTaskError, bind_eq_ok] at hv
    obtain ⟨e₁, he₁, _⟩ := hv
    cases he.entry.symm.trans (taskOutputEntry_get? he₁)
    have hidle : (assignError plan e₁.val).collectionPending = false := he.idle
    have hopen : (assignError plan e₁.val).outputRetirementId = none := he.unmarked
    have hnow : (assignError plan e₁.val).currentAttempt = some plan.execution.attemptId := now
    have hstate : (assignError plan e₁.val).state = .error := rfl
    have hagain : (s.setEntry (assignError plan e₁.val)).validatePublishTaskError plan =
        .ok true := by
      simp only [validatePublishTaskError, bind_eq_ok]
      refine ⟨_, taskOutputEntry_of he₁ hset rfl, (), by simpa using hidle, (),
        by simpa using hopen, ?_⟩
      rw [if_neg (by simpa using hnow), if_pos hstate]
      simp only [bind_eq_ok]
      exact ⟨(), raiseIf_ok (by simp [assignError]), rfl⟩
    simp only [commitPublishTaskError, bind_eq_ok]
    refine ⟨⟨_, keyed _ _ _ hset⟩, by simpa using hset, (), by simpa using hopen, true,
      hagain, ?_⟩
    rw [if_pos rfl]
    exact congrArg (fun t => Except.ok (true, t)) (setEntry_self (get?_objectId hset))

theorem commitValidatedPublishTaskError_again {plan : TaskOutputErrorPlan ε} {u : Unit}
    (h : s.commitValidatedPublishTaskError plan = .ok (u, s')) :
    s'.commitValidatedPublishTaskError plan = .ok (u, s') := by
  obtain ⟨e, he, hopen, rfl⟩ := commitValidatedPublishTaskError_cases h
  have hset := get?_setEntry_self he (assignError plan e) rfl
  have hmark : (assignError plan e).outputRetirementId = none := hopen
  simp only [commitValidatedPublishTaskError, bind_eq_ok]
  refine ⟨⟨_, keyed _ _ _ hset⟩, by simpa using hset, (), by simpa using hmark, ?_⟩
  exact congrArg (fun t => Except.ok (u, t)) (setEntry_self (get?_objectId hset))

/-! ## Output publications -/

theorem adopt_intact (plan : OutputOwnerPublicationPlan) (e : ObjectOwnerEntry ε)
    (he : e.objectId = plan.output) : AdoptedResultIntact (adopt plan e he)
      plan.execution.attemptId plan.envelope.result ∧ (adopt plan e he).state ≠ .lost := by
  by_cases hinline : plan.envelope.result.storage = .inline
  · simp [AdoptedResultIntact, adopt, hinline]
  · simp only [AdoptedResultIntact, adopt, if_neg hinline]
    refine ⟨⟨.inl trivial, trivial, trivial, ?_, .inl ⟨trivial, Dict.items_set_ne_nil _ _ _⟩⟩,
      by simp⟩
    intro epoch hepoch
    obtain ⟨n, hn⟩ := Dict.mem_values_iff.mp hepoch
    rcases Dict.of_get?_set hn with ⟨_, hn⟩ | hn
    · exact hn.symm
    · simp at hn

theorem validateOutputPublication_again {plan : OutputOwnerPublicationPlan}
    (hv : s.validateOutputPublication plan = .ok .applied)
    (he : s.entries.get? plan.output = some e) (hid : e.objectId = plan.output)
    (hentries : s'.entries = (s.setEntry (adopt plan e hid)).entries)
    (hreceipt : s'.outputPublicationReceipts.get? plan.publicationId =
      some plan.envelope.manifest)
    (hretired : s'.retiredOutputSlots = s.retiredOutputSlots ∧
      s'.retiredOutputAttempts = s.retiredOutputAttempts)
    (hcollected : s'.collected = s.collected)
    (hdead : s'.deadWorkerCleanups = s.deadWorkerCleanups) :
    s'.validateOutputPublication plan = .ok .alreadyApplied := by
  have hentry : s'.entries.get? plan.output = some (adopt plan e hid) := by
    rw [hentries]
    exact get?_setEntry_self he _ rfl
  obtain ⟨hintact, hfound⟩ := adopt_intact plan e hid
  simp only [validateOutputPublication, bind_eq_ok, ite_eq_ok, entry_eq_ok,
    requireNotCollecting_eq_ok, requireNoOutputRetirement_eq_ok, pure_eq_ok] at hv
  obtain ⟨_, _, ⟨_, hfalse⟩ | ⟨hfence, e₁, he₁, _, hspec, _, howner, h⟩⟩ := hv
  · cases hfalse
  rcases h with ⟨_, hfalse⟩ | ⟨hattempt, _, hidle, _, hopen, _⟩
  · cases hfalse
  cases he.symm.trans he₁
  have hfence' : ¬ (s'.IsCollected plan.output ∨
      (plan.publicationId, plan.output) ∈ s'.retiredOutputSlots ∨
      (plan.output, plan.execution.attemptId) ∈ s'.retiredOutputAttempts ∨
      s'.Dead plan.envelope.manifest.header.ownerWorkerId) := by
    simpa only [IsCollected, ReferenceHistory.Dead, hcollected, hretired.1, hretired.2, hdead]
      using hfence
  have hmember : (adopt plan e hid).outputPublication = some (.ofManifest plan.envelope.manifest) :=
    rfl
  have hcurrent : (adopt plan e hid).currentAttempt = some plan.execution.attemptId :=
    not_not.mp hattempt
  have hidle' : (adopt plan e hid).collectionPending = false := hidle
  have hopen' : (adopt plan e hid).outputRetirementId = none := hopen
  simp only [validateOutputPublication, bind_eq_ok]
  refine ⟨(), raiseIf_ok (by simp [hreceipt]), ?_⟩
  rw [if_neg hfence']
  simp only [bind_eq_ok]
  refine ⟨_, entry_eq_ok.mpr hentry, (), hspec, (), howner, ?_⟩
  rw [if_neg (by simpa using hcurrent)]
  simp only [bind_eq_ok]
  refine ⟨(), by simpa using hidle', (), by simpa using hopen', ?_⟩
  rw [if_neg (by simp [hmember])]
  simp only [hmember, bind_eq_ok]
  refine ⟨(), raiseIf_ok (by simp), (), raiseIf_ok (by simp [hreceipt]), (),
    raiseIf_ok (by simp [adopt]), (), raiseIf_ok (not_not.mpr hintact), ?_⟩
  rw [if_neg hfound]
  rfl

theorem commitOutputPublication_again {plan : OutputOwnerPublicationPlan}
    {receipt : OutputOwnerPublicationReceipt}
    (h : s.commitOutputPublication plan = .ok (receipt, s'))
    (haccepted : receipt.disposition ≠ .fenced) :
    s'.commitOutputPublication plan = .ok (⟨plan, .alreadyApplied⟩, s') := by
  have hknown : s'.validateOutputPublication plan = .ok .alreadyApplied := by
    simp only [commitOutputPublication, bind_eq_ok, ite_eq_ok, pure_eq_ok, Prod.mk.injEq,
      subscript_eq_ok] at h
    obtain ⟨disposition, hv, ⟨hne, rfl, rfl⟩ | ⟨happlied, e, he, _, rfl⟩⟩ := h
    · cases disposition with
      | applied => exact absurd rfl hne
      | alreadyApplied => exact hv
      | fenced => exact absurd rfl haccepted
    · rw [not_not.mp happlied] at hv
      exact validateOutputPublication_again hv he e.property rfl (Dict.get?_set_self _ _ _)
        ⟨rfl, rfl⟩ rfl rfl
  simp only [commitOutputPublication, bind_eq_ok]
  refine ⟨_, hknown, ?_⟩
  rw [if_pos (by simp)]
  rfl

theorem resolveOutputNodeLoss_again {manifest : OutputPublicationManifest}
    {resolution : NodeLostOutputResolution} {envelope : Option OutputPublicationEnvelope}
    {nodes : List NodeID}
    (h : s.resolveOutputNodeLoss manifest resolution envelope nodes = .ok (b, s')) :
    s'.resolveOutputNodeLoss manifest resolution envelope nodes = .ok (false, s') := by
  have hfirst := h
  simp only [resolveOutputNodeLoss, bind_eq_ok] at h ⊢
  obtain ⟨_, hmanifest, _, hdeath, _, henvelope, _, hbytes, h⟩ := h
  refine ⟨_, hmanifest, _, hdeath, _, henvelope, _, hbytes, ?_⟩
  have hloss : s'.outputLossReceipts.get? manifest.publicationId = some resolution := by
    cases hp : s.outputLossReceipts.get? manifest.publicationId with
    | some prior =>
      simp only [hp, bind_eq_ok, raiseIf_eq_ok, pure_eq_ok, Prod.mk.injEq, ne_eq,
        not_not] at h
      obtain ⟨_, rfl, _, rfl⟩ := h
      exact hp
    | none =>
      simp only [hp, bind_eq_ok, ite_eq_ok, pure_eq_ok, Prod.mk.injEq] at h
      obtain ⟨e, _, _, _, _, _, _, _, ⟨_, _, rfl⟩ | ⟨_, _, rfl⟩⟩ := h
      · exact Dict.get?_set_self _ _ _
      · exact Dict.get?_set_self _ _ _
  simp only [hloss, bind_eq_ok]
  exact ⟨(), raiseIf_ok (by simp), rfl⟩

/-! ## Every report -/

/-- A call whose accepted repetition is accepted and changes nothing. -/
theorem replays_of {α : Type} {f : ObjectOwnerTable ε → Except Raised (α × ObjectOwnerTable ε)}
    {g : α → Bool} (h : (returned (f s)).map g = some true)
    (hagain : ∀ a s', f s = .ok (a, s') → g a = true → ∃ a', f s' = .ok (a', s') ∧ g a' = true) :
    commit (commit s (f s)) (f (commit s (f s))) = commit s (f s) ∧
      (returned (f (commit s (f s)))).map g = some true := by
  obtain ⟨a, ha, hg⟩ := Option.map_eq_some_iff.mp h
  obtain ⟨s', hs⟩ := returned_eq_some.mp ha
  obtain ⟨a', hs', hg'⟩ := hagain a s' hs hg
  have hcommit : commit s (f s) = s' := by
    rw [hs]
    rfl
  rw [hcommit, hs']
  exact ⟨rfl, congrArg some hg'⟩

theorem replays_of_true {f : ObjectOwnerTable ε → Except Raised (Bool × ObjectOwnerTable ε)}
    (h : returned (f s) = some true)
    (hagain : ∀ s', f s = .ok (true, s') → f s' = .ok (true, s')) :
    commit (commit s (f s)) (f (commit s (f s))) = commit s (f s) ∧
      returned (f (commit s (f s))) = some true := by
  have hid := replays_of (g := id) (f := f) (s := s) (by rwa [Option.map_id])
    fun a s' hf ha => ⟨true, hagain s' (by rwa [← show a = true from ha]), rfl⟩
  rwa [Option.map_id] at hid

variable [BEq ε] [EquivBEq ε]

/-- An accepted value is accepted again unchanged, a resolution from its record. -/
theorem replayed_step {op : Op ε} {v : Outcome ε} (hop : op.outcome = some v)
    (h : s.Accepts op) : (s.step op).step op = s.step op ∧
      ((s.step op).Accepts op ∨ op.IsResolution) := by
  cases op with
  | publishInline o x data =>
    exact (replays_of_true (f := fun t => t.publishInline o x data) h
      fun _ => publishInline_again).imp_right .inl
  | publishPutValue o a d edges =>
    exact (replays_of_true (f := fun t => t.publishPutValue o a d edges) h
      fun _ => publishPutValue_again).imp_right .inl
  | publishStored o x node d =>
    obtain ⟨d, rfl, _⟩ := Option.map_eq_some_iff.mp hop
    exact (replays_of_true (f := fun t => t.publishStored o x node (some d)) h
      fun _ => publishStored_again).imp_right .inl
  | publishError o x error =>
    exact (replays_of_true (f := fun t => t.publishError o x error) h
      fun _ => publishError_again).imp_right .inl
  | commitPublishTaskOutputs plan =>
    exact (replays_of_true (f := fun t => t.commitPublishTaskOutputs plan) h
      fun _ => commitPublishTaskOutputs_again).imp_right .inl
  | commitValidatedPublishTaskOutputs plan =>
    refine (replays_of (f := fun t => t.commitValidatedPublishTaskOutputs plan) h
      fun u _ hs _ => ?_).imp_right .inl
    exact ⟨u, commitValidatedPublishTaskOutputs_again hs, rfl⟩
  | commitOutputPublication plan =>
    refine (replays_of (f := fun t => t.commitOutputPublication plan) h
      fun r _ hs hr => ?_).imp_right .inl
    exact ⟨_, commitOutputPublication_again hs (by simpa using hr), rfl⟩
  | resolveOutputNodeLoss manifest resolution envelope nodes =>
    obtain ⟨s', hs⟩ := returned_eq_some.mp h
    refine ⟨?_, .inr trivial⟩
    simp only [step, hs, commit, resolveOutputNodeLoss_again hs]
  | commitPublishTaskError plan =>
    exact (replays_of_true (f := fun t => t.commitPublishTaskError plan) h
      fun _ => commitPublishTaskError_again).imp_right .inl
  | commitValidatedPublishTaskError plan =>
    refine (replays_of (f := fun t => t.commitValidatedPublishTaskError plan) h
      fun u _ hs _ => ?_).imp_right .inl
    exact ⟨u, commitValidatedPublishTaskError_again hs, rfl⟩
  | _ => cases hop

end ObjectOwnerTable

end MiniRay
