import MiniRay.Ownership.Outcomes

/-! The calls that speak for one attempt of one object. A report for another attempt than the
current one is refused and changes nothing; an accepted result value is shown afterwards. -/

namespace MiniRay

open Checked Run

namespace Op

variable {ε : Type}

/-- The object and the attempt a publication, an error or a location report names. -/
def report : Op ε → Option (ObjectID × Option AttemptID)
  | .publishInline o a _ => some (o, a)
  | .publishPutValue o a _ _ => some (o, some a)
  | .publishStored o a _ _ => some (o, a)
  | .removeLocation o a _ => some (o, a)
  | .publishError o a _ => some (o, a)
  | .markLost o a => some (o, a)
  | .commitPublishTaskOutputs plan => some (plan.execution.output, some plan.execution.attemptId)
  | .commitValidatedPublishTaskOutputs plan =>
    some (plan.execution.output, some plan.execution.attemptId)
  | .commitOutputPublication plan => some (plan.output, some plan.execution.attemptId)
  | .resolveOutputNodeLoss manifest _ _ _ =>
    some (manifest.slot.objectId, some manifest.publicationId.attemptId)
  | .commitPublishTaskError plan => some (plan.execution.output, some plan.execution.attemptId)
  | .commitValidatedPublishTaskError plan =>
    some (plan.execution.output, some plan.execution.attemptId)
  | _ => none

/-- The value of the report: a put's descriptor, the bytes a resolution keeps. -/
def outcome : Op ε → Option (Outcome ε)
  | .publishInline _ _ data => some (.inline data)
  | .publishPutValue _ _ d _ => (checkedDescriptor d).toOption.map ResultDescriptor.outcome
  | .publishStored _ _ _ d => d.map Outcome.stored
  | .publishError _ _ error => some (.error error)
  | .commitPublishTaskOutputs plan => some plan.result.outcome
  | .commitValidatedPublishTaskOutputs plan => some plan.result.outcome
  | .commitOutputPublication plan => some plan.envelope.result.outcome
  | .resolveOutputNodeLoss manifest resolution envelope _ =>
    if resolution.keep = true ∧ manifest.slot.tier = .inline then
      (envelope.bind fun kept => kept.result.inlineData).map Outcome.inline
    else none
  | .commitPublishTaskError plan => some (.error plan.error)
  | .commitValidatedPublishTaskError plan => some (.error plan.error)
  | _ => none

/-- The call resolves the loss of a publishing Node. -/
def IsResolution : Op ε → Prop
  | .resolveOutputNodeLoss _ _ _ _ => True
  | _ => False

end Op

namespace ObjectOwnerTable

variable {ε : Type} {s s' : ObjectOwnerTable ε} {o : ObjectID} {x : Option AttemptID}
  {e e' : ObjectOwnerEntry ε} {b : Bool} {c : CallerConditions}

/-! ## Answers to reports -/

def returned {α : Type} (r : Except Raised (α × ObjectOwnerTable ε)) : Option α :=
  r.toOption.map Prod.fst

variable {α : Type} {r : Except Raised (α × ObjectOwnerTable ε)}

theorem returned_eq_some {a : α} : returned r = some a ↔ ∃ s', r = .ok (a, s') := by
  cases r with
  | error raised => simp [returned, Except.toOption]
  | ok p =>
    obtain ⟨a', s'⟩ := p
    simp [returned, Except.toOption]

theorem returned_eq_none : returned r = none ↔ ∃ raised, r = .error raised := by
  cases r <;> simp [returned, Except.toOption]

variable [BEq ε]

/-- How a report was answered: `false` is a refusal, `none` an exception. -/
def answer (s : ObjectOwnerTable ε) : Op ε → Option Bool
  | .publishInline o a data => returned (s.publishInline o a data)
  | .publishPutValue o a d edges => returned (s.publishPutValue o a d edges)
  | .publishStored o a node d => returned (s.publishStored o a node d)
  | .removeLocation o a node => returned (s.removeLocation o a node)
  | .publishError o a error => returned (s.publishError o a error)
  | .markLost o a => returned (s.markLost o a)
  | .commitPublishTaskOutputs plan => returned (s.commitPublishTaskOutputs plan)
  | .commitValidatedPublishTaskOutputs plan =>
    (returned (s.commitValidatedPublishTaskOutputs plan)).map fun _ => true
  | .commitOutputPublication plan =>
    (returned (s.commitOutputPublication plan)).map fun r => decide (r.disposition ≠ .fenced)
  | .resolveOutputNodeLoss manifest resolution envelope nodes =>
    returned (s.resolveOutputNodeLoss manifest resolution envelope nodes)
  | .commitPublishTaskError plan => returned (s.commitPublishTaskError plan)
  | .commitValidatedPublishTaskError plan =>
    (returned (s.commitValidatedPublishTaskError plan)).map fun _ => true
  | _ => none

def Accepts (s : ObjectOwnerTable ε) (op : Op ε) : Prop := s.answer op = some true

/-- What the answer to a report says about the table before and after it. -/
structure Speaks (s s' : ObjectOwnerTable ε) (o : ObjectID) (x : Option AttemptID)
    (v : Option (Outcome ε)) (b : Bool) : Prop where
  silent : b = false → s' = s
  heard : b = true → ∃ e e', s.entries.get? o = some e ∧ e.currentAttempt = x ∧
    s'.entries.get? o = some e' ∧ e'.currentAttempt = x ∧ ∀ w, v = some w → e'.Shows w

variable {v : Option (Outcome ε)}

theorem Speaks.quiet : Speaks s s o x v false := ⟨fun _ => rfl, nofun⟩

theorem Speaks.set (he : s.entries.get? o = some e) (hx : e.currentAttempt = x)
    (hs : s'.entries = (s.setEntry e').entries) (hid : e'.objectId = e.objectId)
    (hx' : e'.currentAttempt = e.currentAttempt) (hv : ∀ w, v = some w → e'.Shows w) :
    Speaks s s' o x v true := by
  refine ⟨by rintro ⟨⟩, fun _ => ⟨e, e', he, hx, ?_, hx'.trans hx, hv⟩⟩
  rw [hs, get?_setEntry, hid, s.keyed o e he, if_pos rfl]

theorem Answer.speaks {current replayed : Prop} {rewrites : ObjectOwnerEntry ε → Prop}
    (h : Answer s s' current replayed rewrites b) (he : Admits s o e)
    (hcurrent : current → e.currentAttempt = x) (hreplayed : replayed → ∀ w, v = some w → e.Shows w)
    (hrewrites : ∀ e', current → rewrites e' → e'.objectId = e.objectId ∧
      e'.currentAttempt = e.currentAttempt ∧ ∀ w, v = some w → e'.Shows w) :
    Speaks s s' o x v b := by
  cases h with
  | stale _ same => exact same ▸ .quiet
  | replayed now known same =>
    have hx := hcurrent now
    exact ⟨by rintro ⟨⟩, fun _ => ⟨e, e, he.entry, hx, same ▸ he.entry, hx, hreplayed known⟩⟩
  | rewritten now e' effect set =>
    obtain ⟨hid, hattempt, hshows⟩ := hrewrites e' now effect
    exact .set he.entry (hcurrent now) (congrArg ObjectOwnerTable.entries set) hid hattempt hshows

theorem speaks_of_returned (f : α → Bool) (h : ∀ a s', r = .ok (a, s') → Speaks s s' o x v (f a)) :
    (∀ b, (returned r).map f = some b → Speaks s (commit s r) o x v b) ∧
      ((returned r).map f = none → commit s r = s) := by
  constructor
  · intro b hb
    obtain ⟨a, ha, rfl⟩ := Option.map_eq_some_iff.mp hb
    obtain ⟨s', rfl⟩ := returned_eq_some.mp ha
    exact h a s' rfl
  · intro hn
    obtain ⟨raised, rfl⟩ := returned_eq_none.mp (Option.map_eq_none_iff.mp hn)
    rfl

theorem speaks_of_answered {r : Except Raised (Bool × ObjectOwnerTable ε)}
    (h : ∀ b s', r = .ok (b, s') → Speaks s s' o x v b) :
    (∀ b, returned r = some b → Speaks s (commit s r) o x v b) ∧
      (returned r = none → commit s r = s) := by
  have hid := speaks_of_returned id h
  rwa [Option.map_id] at hid

/-! ## One lemma per report -/

theorem publishInline_speaks {data : List UInt8}
    (h : s.publishInline o x data = .ok (b, s')) :
    Speaks s s' o x (some (.inline data)) b := by
  obtain ⟨e, he, hanswer⟩ := publishInline_cases h
  refine hanswer.speaks he id ?_ ?_
  · rintro hknown w ⟨⟩
    exact hknown
  · rintro e' _ ⟨_, rfl⟩
    refine ⟨rfl, rfl, ?_⟩
    rintro w ⟨⟩
    exact ⟨rfl, rfl⟩

theorem publishError_speaks [EquivBEq ε] {error : Option ε}
    (h : s.publishError o x error = .ok (b, s')) : Speaks s s' o x (some (.error error)) b := by
  obtain ⟨e, he, hanswer⟩ := publishError_cases h
  refine hanswer.speaks he id ?_ ?_
  · rintro hknown w ⟨⟩
    exact hknown
  · rintro e' _ ⟨_, rfl⟩
    refine ⟨rfl, rfl, ?_⟩
    rintro w ⟨⟩
    exact ⟨rfl, option_beq_refl⟩

variable {d : ResultDescriptor}

omit [BEq ε] in
theorem known_integrity
    (h : ∀ d', e.canonicalStoredResult = some d' → SameStoredResultIdentity d' d) :
    ∃ d', e.canonicalStoredResult.or (some d) = some d' ∧ SameIntegrity d d' := by
  cases hd : e.canonicalStoredResult with
  | none => exact ⟨d, rfl, .refl d⟩
  | some d' => exact ⟨d', rfl, (h d' hd).integrity.symm⟩

theorem publishStored_speaks {node : NodeID} {d : Option ResultDescriptor}
    (h : s.publishStored o x node d = .ok (b, s')) :
    Speaks s s' o x (d.map Outcome.stored) b := by
  obtain ⟨e, he, hanswer⟩ := publishStored_cases h
  refine hanswer.speaks he id False.elim ?_
  intro e' _ gains
  have hshows : ∀ w, d.map Outcome.stored = some w → ∀ r : ResultFields ε,
      r.state = .readyStored → r.canonicalStoredResult = e.canonicalStoredResult.or d →
        r.Shows w := by
    intro w hw r hstate hcanonical
    obtain ⟨d₁, rfl, rfl⟩ := Option.map_eq_some_iff.mp hw
    obtain ⟨d₂, hd₂, hsame⟩ := known_integrity fun d' hd' => gains.known d₁ d' rfl hd'
    exact ⟨.inl hstate, d₂, hcanonical.trans hd₂, hsame⟩
  rcases gains.effect with ⟨hstate, rfl⟩ | ⟨_, rfl⟩
  · exact ⟨rfl, rfl, fun w hw => hshows w hw _ hstate rfl⟩
  · exact ⟨rfl, rfl, fun w hw => hshows w hw _ rfl rfl⟩

theorem removeLocation_speaks {node : NodeID} (hs : s.Represented)
    (h : s.removeLocation o x node = .ok (b, s')) : Speaks s s' o x none b := by
  obtain ⟨e, he, _, ⟨rfl, rfl⟩ | ⟨rfl, hnode, rfl⟩⟩ := removeLocation_cases h
  · exact .quiet
  · have hr := hs o e he
    have hx : e.currentAttempt = x := by
      cases hstate : e.state with
      | readyStored => exact ((hr.stored hstate).2.1 node x hnode).symm
      | readyInline => simp [Dict.eq_empty (hr.inline hstate).1] at hnode
      | error => simp [Dict.eq_empty (hr.failed hstate).2] at hnode
      | pending => simp [Dict.eq_empty (hr.unsettled (.inr hstate)).1] at hnode
      | lost => simp [Dict.eq_empty (hr.unsettled (.inl hstate)).1] at hnode
    exact .set he hx rfl rfl rfl nofun

theorem markLost_speaks (h : s.markLost o x = .ok (b, s')) : Speaks s s' o x none b := by
  obtain ⟨e, he, hanswer⟩ := markLost_cases h
  refine hanswer.speaks he id (fun _ => nofun) ?_
  rintro e' _ ⟨_, rfl⟩
  exact ⟨rfl, rfl, nofun⟩

theorem publishPutValue_speaks {a : AttemptID} {edges : List ContainedReferenceEdge}
    (h : s.publishPutValue o a d edges = .ok (b, s')) :
    Speaks s s' o (some a) ((checkedDescriptor d).toOption.map ResultDescriptor.outcome) b := by
  obtain ⟨d, e, children, hd, he, hanswer⟩ := publishPutValue_cases h
  rw [hd]
  refine hanswer.speaks he And.left ?_ ?_
  · rintro ⟨_, _, _, hvalue⟩ w ⟨⟩
    rcases hvalue with ⟨hinline, hstate, hdata, _⟩ | ⟨hstored, hstate, _, hcanonical, _⟩
    · obtain ⟨data, hpayload, _⟩ := Option.map_eq_some_iff.mp (d.inline_payload hinline).1
      rw [ResultDescriptor.outcome_inline hpayload]
      exact ⟨hstate, hdata.trans hpayload⟩
    · rw [ResultDescriptor.outcome_stored hstored]
      exact ⟨.inl hstate, d, hcanonical, .refl d⟩
  · intro e' _ puts
    refine ⟨puts.frame.objectId, by rw [puts.result], ?_⟩
    rintro w ⟨⟩
    rw [puts.result]
    by_cases hinline : d.storage = .inline
    · obtain ⟨data, hpayload, _⟩ := Option.map_eq_some_iff.mp (d.inline_payload hinline).1
      rw [ResultDescriptor.outcome_inline hpayload]
      exact ⟨if_pos hinline, by simp only [if_pos hinline, hpayload]⟩
    · rw [ResultDescriptor.outcome_stored hinline]
      exact ⟨.inl (if_neg hinline), d, if_neg hinline, .refl d⟩

theorem assignResult_shows (plan : TaskOutputPublicationPlan) (e : ObjectOwnerEntry ε) :
    (assignResult plan e).toResultFields.Shows plan.result.outcome := by
  simp only [assignResult]
  by_cases hinline : plan.result.storage = .inline
  · obtain ⟨data, hpayload, _⟩ :=
      Option.map_eq_some_iff.mp (plan.result.inline_payload hinline).1
    rw [ResultDescriptor.outcome_inline hpayload, if_pos hinline]
    exact ⟨rfl, hpayload⟩
  · rw [ResultDescriptor.outcome_stored hinline, if_neg hinline]
    exact ⟨.inl rfl, plan.result, rfl, .refl _⟩

omit [BEq ε] in
theorem assignResult_currentAttempt (plan : TaskOutputPublicationPlan) (e : ObjectOwnerEntry ε) :
    (assignResult plan e).currentAttempt = e.currentAttempt := by
  simp only [assignResult]
  split <;> rfl

variable {plan : TaskOutputPublicationPlan}

theorem commitPublishTaskOutputs_speaks (h : s.commitPublishTaskOutputs plan = .ok (b, s')) :
    Speaks s s' plan.execution.output (some plan.execution.attemptId)
      (some plan.result.outcome) b := by
  obtain ⟨_, e, he, hanswer⟩ := commitPublishTaskOutputs_cases h
  refine hanswer.speaks he id False.elim ?_
  rintro e' _ ⟨_, rfl⟩
  refine ⟨assignResult_objectId .., assignResult_currentAttempt .., ?_⟩
  rintro w ⟨⟩
  exact assignResult_shows plan e

theorem commitValidatedPublishTaskOutputs_speaks {u : Unit}
    (hv : s.validatePublishTaskOutputs plan = .ok true)
    (h : s.commitValidatedPublishTaskOutputs plan = .ok (u, s')) :
    Speaks s s' plan.execution.output (some plan.execution.attemptId)
      (some plan.result.outcome) true := by
  obtain ⟨e, he, _, rfl⟩ := commitValidatedPublishTaskOutputs_cases h
  obtain ⟨e₁, he₁, ⟨hfalse, _⟩ | ⟨_, hnow, _⟩⟩ := validatePublishTaskOutputs_cases hv
  · cases hfalse
  cases he.symm.trans he₁.entry
  refine .set he hnow rfl (assignResult_objectId ..) (assignResult_currentAttempt ..) ?_
  rintro w ⟨⟩
  exact assignResult_shows plan e

theorem commitPublishTaskError_speaks [EquivBEq ε] {plan : TaskOutputErrorPlan ε}
    (h : s.commitPublishTaskError plan = .ok (b, s')) :
    Speaks s s' plan.execution.output (some plan.execution.attemptId)
      (some (.error plan.error)) b := by
  obtain ⟨_, e, he, hanswer⟩ := commitPublishTaskError_cases h
  refine hanswer.speaks he id False.elim ?_
  rintro e' _ ⟨_, rfl⟩
  refine ⟨rfl, rfl, ?_⟩
  rintro w ⟨⟩
  exact ⟨rfl, option_beq_refl⟩

theorem commitValidatedPublishTaskError_speaks [EquivBEq ε] {plan : TaskOutputErrorPlan ε}
    {u : Unit} (hv : s.validatePublishTaskError plan = .ok true)
    (h : s.commitValidatedPublishTaskError plan = .ok (u, s')) :
    Speaks s s' plan.execution.output (some plan.execution.attemptId)
      (some (.error plan.error)) true := by
  obtain ⟨e, he, _, rfl⟩ := commitValidatedPublishTaskError_cases h
  obtain ⟨e₁, he₁, ⟨hfalse, _⟩ | ⟨_, hnow, _⟩⟩ := validatePublishTaskError_cases hv
  · cases hfalse
  cases he.symm.trans he₁.entry
  refine .set he hnow rfl rfl rfl ?_
  rintro w ⟨⟩
  exact ⟨rfl, option_beq_refl⟩

theorem adopted_shows {a : AttemptID} (h : AdoptedResultIntact e a d) :
    e.toResultFields.Shows d.outcome := by
  by_cases hinline : d.storage = .inline
  · rw [AdoptedResultIntact, if_pos hinline] at h
    obtain ⟨data, hpayload, _⟩ := Option.map_eq_some_iff.mp (d.inline_payload hinline).1
    rw [ResultDescriptor.outcome_inline hpayload]
    exact ⟨h.1, h.2.1.trans hpayload⟩
  · rw [AdoptedResultIntact, if_neg hinline] at h
    rw [ResultDescriptor.outcome_stored hinline]
    exact ⟨h.1, d, h.2.2.1, .refl d⟩

theorem adopt_shows (plan : OutputOwnerPublicationPlan) (e : ObjectOwnerEntry ε)
    (he : e.objectId = plan.output) :
    (adopt plan e he).toResultFields.Shows plan.envelope.result.outcome := by
  by_cases hinline : plan.envelope.result.storage = .inline
  · obtain ⟨data, hpayload, _⟩ :=
      Option.map_eq_some_iff.mp (plan.envelope.result.inline_payload hinline).1
    rw [ResultDescriptor.outcome_inline hpayload]
    exact ⟨if_pos hinline, (if_pos hinline).trans hpayload⟩
  · rw [ResultDescriptor.outcome_stored hinline]
    exact ⟨.inl (if_neg hinline), _, if_neg hinline, .refl _⟩

theorem commitOutputPublication_speaks {plan : OutputOwnerPublicationPlan}
    {receipt : OutputOwnerPublicationReceipt}
    (h : s.commitOutputPublication plan = .ok (receipt, s')) :
    Speaks s s' plan.output (some plan.execution.attemptId) (some plan.envelope.result.outcome)
      (decide (receipt.disposition ≠ .fenced)) := by
  rcases commitOutputPublication_cases h with ⟨hne, hv, rfl⟩ | ⟨happlied, e, hid, happ, rfl⟩
  · refine ⟨fun _ => rfl, fun hb => ?_⟩
    have hknown : receipt.disposition = .alreadyApplied := by
      cases hd : receipt.disposition with
      | applied => exact absurd hd hne
      | alreadyApplied => rfl
      | fenced => simp [hd] at hb
    rw [hknown] at hv
    obtain ⟨e, he, hattempt, hintact⟩ := validateOutputPublication_alreadyApplied hv
    refine ⟨e, e, he, hattempt, he, hattempt, ?_⟩
    rintro w ⟨⟩
    exact adopted_shows hintact
  · rw [happlied]
    refine .set happ.entry happ.attempt rfl rfl rfl ?_
    rintro w ⟨⟩
    exact adopt_shows plan e hid

theorem resolveOutputNodeLoss_speaks {manifest : OutputPublicationManifest}
    {resolution : NodeLostOutputResolution} {envelope : Option OutputPublicationEnvelope}
    {nodes : List NodeID}
    (h : s.resolveOutputNodeLoss manifest resolution envelope nodes = .ok (b, s')) :
    Speaks s s' manifest.slot.objectId (some manifest.publicationId.attemptId)
      (Op.resolveOutputNodeLoss manifest resolution envelope nodes : Op ε).outcome b := by
  rcases resolveOutputNodeLoss_cases h with ⟨rfl, rfl⟩ |
    ⟨rfl, e, e', hid, hres, hentries, _, _, heffect⟩
  · exact .quiet
  have he : s.entries.get? manifest.slot.objectId = some e := hid ▸ hres.entry
  rcases heffect with ⟨_, rfl, _⟩ | ⟨hdiscard, rfl, _⟩
  · refine .set he hres.slot.attempt hentries rfl rfl fun w hw => ?_
    simp only [Op.outcome] at hw
    by_cases hkeeps : resolution.keep = true ∧ manifest.slot.tier = .inline
    · obtain ⟨data, hdata, rfl⟩ := Option.map_eq_some_iff.mp ((if_pos hkeeps).symm.trans hw)
      exact ⟨if_pos hkeeps.2, (if_pos hkeeps.2).trans hdata⟩
    · simp [if_neg hkeeps] at hw
  · refine .set he hres.slot.attempt hentries rfl rfl fun w hw => ?_
    simp [Op.outcome, hdiscard] at hw

/-- A validated publication is the one its validator just accepted. -/
theorem speaks_step [EquivBEq ε] (s : ObjectOwnerTable ε) (op : Op ε) (hs : s.Represented)
    (hv : (s.callerConditions op).validated) (hop : op.report = some (o, x)) :
    (∀ b, s.answer op = some b → Speaks s (s.step op) o x op.outcome b) ∧
      (s.answer op = none → s.step op = s) := by
  cases op with
  | publishInline =>
    cases hop
    exact speaks_of_answered fun _ _ h => publishInline_speaks h
  | publishPutValue =>
    cases hop
    exact speaks_of_answered fun _ _ h => publishPutValue_speaks h
  | publishStored =>
    cases hop
    exact speaks_of_answered fun _ _ h => publishStored_speaks h
  | removeLocation =>
    cases hop
    exact speaks_of_answered fun _ _ h => removeLocation_speaks hs h
  | publishError =>
    cases hop
    exact speaks_of_answered fun _ _ h => publishError_speaks h
  | markLost =>
    cases hop
    exact speaks_of_answered fun _ _ h => markLost_speaks h
  | commitPublishTaskOutputs =>
    cases hop
    exact speaks_of_answered fun _ _ h => commitPublishTaskOutputs_speaks h
  | commitValidatedPublishTaskOutputs =>
    cases hop
    exact speaks_of_returned _ fun _ _ h => commitValidatedPublishTaskOutputs_speaks hv h
  | commitOutputPublication =>
    cases hop
    exact speaks_of_returned _ fun _ _ h => commitOutputPublication_speaks h
  | resolveOutputNodeLoss =>
    cases hop
    exact speaks_of_answered fun _ _ h => resolveOutputNodeLoss_speaks h
  | commitPublishTaskError =>
    cases hop
    exact speaks_of_answered fun _ _ h => commitPublishTaskError_speaks h
  | commitValidatedPublishTaskError =>
    cases hop
    exact speaks_of_returned _ fun _ _ h => commitValidatedPublishTaskError_speaks hv h
  | _ => cases hop

end ObjectOwnerTable

end MiniRay
