import MiniRay.Ownership.Step

/-! Which result fields each state of an object uses. The two commits of one advance differ here:
only the one that repeats its validation leaves a settled result alone. -/

namespace MiniRay

open Checked Run

/-! ## The invariant -/

/-- The state of a result agrees with its fields. -/
structure ResultFields.Represented {ε : Type} (r : ResultFields ε) : Prop where
  inline_iff : r.state = .readyInline ↔ r.inlineData.isSome
  inline : r.state = .readyInline → r.locationAttempts.items = [] ∧
    r.canonicalStoredResult = none ∧ r.error = none
  stored : r.state = .readyStored → r.locationAttempts.items ≠ [] ∧
    (∀ n a, r.locationAttempts.get? n = some a → a = r.currentAttempt) ∧
    r.inlineData = none ∧ r.error = none
  unsettled : r.state = .lost ∨ r.state = .pending →
    r.locationAttempts.items = [] ∧ r.inlineData = none
  failed : r.state = .error → r.inlineData = none ∧ r.locationAttempts.items = []
  canonical : r.canonicalStoredResult.isSome → r.state = .readyStored ∨ r.state = .lost

namespace ResultFields

variable {ε : Type} {r r' : ResultFields ε} {c : CallerConditions} {h h' : PublicationHistory}
  {o : ObjectID}

namespace Represented

theorem of_pending (state : r.state = .pending) (locations : r.locationAttempts.items = [])
    (inline : r.inlineData = none) (canonical : r.canonicalStoredResult = none) :
    r.Represented := by
  constructor <;> simp [*]

theorem of_inline (state : r.state = .readyInline) (inline : r.inlineData.isSome)
    (locations : r.locationAttempts.items = []) (canonical : r.canonicalStoredResult = none)
    (error : r.error = none) : r.Represented := by
  constructor <;> simp [*]

theorem of_stored (state : r.state = .readyStored) (locations : r.locationAttempts.items ≠ [])
    (epochs : ∀ n a, r.locationAttempts.get? n = some a → a = r.currentAttempt)
    (inline : r.inlineData = none) (error : r.error = none) : r.Represented := by
  constructor <;> simp [*]
  exact epochs

theorem of_lost (state : r.state = .lost) (locations : r.locationAttempts.items = [])
    (inline : r.inlineData = none) : r.Represented := by
  constructor <;> simp [*]

theorem of_error (state : r.state = .error) (locations : r.locationAttempts.items = [])
    (inline : r.inlineData = none) (canonical : r.canonicalStoredResult = none) :
    r.Represented := by
  constructor <;> simp [*]

theorem no_locations (hr : r.Represented) (hs : r.state ≠ .readyStored) :
    r.locationAttempts.items = [] := by
  cases state : r.state with
  | pending => exact (hr.unsettled (.inr state)).1
  | readyInline => exact (hr.inline state).1
  | readyStored => exact absurd state hs
  | error => exact (hr.failed state).2
  | lost => exact (hr.unsettled (.inl state)).1

end Represented

theorem epochs_set (hepochs : ∀ n a, r.locationAttempts.get? n = some a → a = r.currentAttempt)
    (node n : NodeID) (a : Option AttemptID)
    (hn : (r.locationAttempts.set node r.currentAttempt).get? n = some a) :
    a = r.currentAttempt := by
  rcases Dict.of_get?_set hn with ⟨_, hn⟩ | hn
  · exact hn.symm
  · exact hepochs n a hn

theorem get?_of_items {d : Dict NodeID (Option AttemptID)} (hd : d.items = []) (n : NodeID) :
    d.get? n = none := Dict.items_eq_nil_iff.mp hd n

theorem Represented.forgotReplica (hr : r.Represented) (node : NodeID) :
    ResultFields.Represented { r with
      locationAttempts := r.locationAttempts.erase node
      state := if r.state = .readyStored ∧ (r.locationAttempts.erase node).items = [] then .lost
        else r.state } := by
  have herase : r.locationAttempts.items = [] → (r.locationAttempts.erase node).items = [] := by
    intro he
    rw [Dict.eq_empty he]
    rfl
  by_cases hs : r.state = .readyStored
  · obtain ⟨_, hepochs, hinline, herror⟩ := hr.stored hs
    by_cases hl : (r.locationAttempts.erase node).items = []
    · exact .of_lost (by simp [hs, hl]) hl hinline
    · refine .of_stored (by simp [hs, hl]) hl (fun n a hn => ?_) hinline herror
      exact hepochs n a (Dict.get?_filter_eq_some.mp hn).1
  · simp only [hs, false_and, if_false]
    have hl := herase (hr.no_locations hs)
    exact ⟨hr.inline_iff, fun hi => ⟨hl, (hr.inline hi).2⟩, fun hi => absurd hi hs,
      fun hi => ⟨hl, (hr.unsettled hi).2⟩, fun hi => ⟨(hr.failed hi).1, hl⟩, hr.canonical⟩

theorem Represented.move (hr : r.Represented) (hv : c.validated) (ha : c.vacant)
    (hm : ResultMove c h h' o r r') : r'.Represented := by
  cases hm with
  | same => exact hr
  | advanced next free vacant renewed => exact .of_pending rfl (vacant ha) rfl rfl
  | publishedInline data put edges state locations unretired own =>
    exact .of_inline rfl rfl locations rfl rfl
  | republishedInline state =>
    exact .of_inline state (hr.inline_iff.mp state) (hr.inline state).1 rfl rfl
  | publishedStored node canonical put edges state locations unretired integrity own described =>
    refine .of_stored rfl (Dict.items_set_ne_nil _ _ _) (epochs_set ?_ node) rfl rfl
    intro n a hn
    simp [get?_of_items locations] at hn
  | replicated node canonical state epochs integrity described =>
    obtain ⟨_, _, hinline, herror⟩ := hr.stored state
    exact .of_stored state (Dict.items_set_ne_nil _ _ _) (epochs_set epochs node) hinline herror
  | republishedStored node state known =>
    exact .of_stored state (Dict.items_set_ne_nil _ _ _)
      (epochs_set (hr.stored state).2.1 node) rfl rfl
  | forgotReplica node => exact hr.forgotReplica node
  | lost state => exact .of_lost rfl rfl (hr.stored state).2.2.1
  | failed error canonical state canonical_le =>
    have hcanonical : r.canonicalStoredResult = none := by
      rw [← Option.not_isSome_iff_eq_none]
      intro hc
      rcases hr.canonical hc with hs | hs <;> simp [hs] at state
    refine .of_error rfl (hr.no_locations ?_) rfl ?_
    · rintro hs
      simp [hs] at state
    · rcases canonical_le with hc | hc
      · exact hc.trans hcanonical
      · exact hc
  | assigned r' trust settled attempt spec publication retirement edges => exact absurd hv trust
  | adopted envelope output attempt pristine free unretired produced =>
    cases hs : envelope.result.storage with
    | inline =>
      obtain ⟨data, hdata, _⟩ :=
        Option.map_eq_some_iff.mp (envelope.result.inline_payload hs).1
      exact .of_inline rfl (by simp [hdata]) rfl rfl rfl
    | objectStore =>
      refine .of_stored rfl (Dict.items_set_ne_nil _ _ _) (fun n a hn => ?_) rfl rfl
      simp only [reduceCtorEq, if_false, Dict.get?_set] at hn
      split at hn
      · exact (Option.some.inj hn).symm
      · simp at hn
  | keptInline manifest data output attempt member tier canonical produced =>
    exact .of_inline rfl rfl rfl rfl rfl
  | keptStored manifest unavailable member epochs state edges =>
    by_cases hl : (r.locationAttempts.filter fun node _ => !unavailable node).items = []
    · exact .of_lost (by simp [hl]) hl rfl
    · refine .of_stored (by simp [hl]) hl (fun n a hn => ?_) rfl rfl
      exact epochs n a (Dict.get?_filter_eq_some.mp hn).1
  | discarded a completed attempt named retired pristine =>
    cases completed with
    | true => exact .of_lost rfl rfl rfl
    | false => exact .of_pending rfl rfl rfl rfl
  | retiring id => exact ⟨hr.1, hr.2, hr.3, hr.4, hr.5, hr.6⟩
  | retired a state attempt named retired => exact .of_lost state rfl rfl
  | edged edges free => exact ⟨hr.1, hr.2, hr.3, hr.4, hr.5, hr.6⟩

end ResultFields

/-! ## Runs -/

def ObjectOwnerTable.Represented {ε : Type} (s : ObjectOwnerTable ε) : Prop :=
  ∀ o e, s.entries.get? o = some e → e.toResultFields.Represented

theorem ResultSpec.represented {ε : Type} {c : CallerConditions} {s s' : ObjectOwnerTable ε}
    (h : ResultSpec c s s') (hv : c.validated) (ha : c.vacant) (hs : s.Represented) :
    s'.Represented := by
  intro o e' he'
  have hslot := h.slots o
  rw [he'] at hslot
  generalize ho : s.entries.get? o = before at hslot
  cases hslot with
  | registered _ fresh =>
    obtain ⟨attempt, spec, hfresh⟩ := fresh
    rw [hfresh]
    exact .of_pending rfl rfl rfl rfl
  | moved e _ collection frozen move => exact (hs o e ho).move hv ha move
  | frozen e _ plan idle result => exact result ▸ hs o e ho

namespace ObjectOwnerTable

variable {ε : Type} [BEq ε]

/-- No trusted advance starts over from a result that still has replicas. -/
def VacantRun (ops : List (Op ε)) : Prop :=
  Admissible step (fun s op => (s.callerConditions op).vacant) .empty ops

theorem represented_of_vacant {ops : List (Op ε)} (hcontract : ValidatedRun ops)
    (hvacant : VacantRun ops) : (run step .empty ops).Represented :=
  (hcontract.and hvacant).invariant (p := Represented)
    (fun s op hc hs => (s.step_spec op).results.represented hc.1 hc.2 hs) (by simp [Represented])

/-- The trusted advance starts over without looking at the result. -/
theorem step_commitValidatedAdvance (s : ObjectOwnerTable ε)
    {plan : TaskOutputAttemptAdvancePlan} {e : ObjectOwnerEntry ε}
    (he : s.entries.get? plan.expected.output = some e) (hopen : e.outputRetirementId = none)
    (hfree : e.outputPublication = none) :
    (s.step (.commitValidatedAdvanceTaskOutputs plan)).entries.get? plan.expected.output =
      some (restart plan e (s.keyed _ e he)) := by
  have hid := s.keyed _ e he
  have hsub : s.subscript plan.expected.output = .ok ⟨e, hid⟩ := by simpa using he
  have hcommit : s.commitValidatedAdvanceTaskOutputs plan =
      .ok ((), s.setEntry (restart plan e hid)) := by
    simp only [commitValidatedAdvanceTaskOutputs, bind_eq_ok]
    exact ⟨⟨e, hid⟩, hsub, (), by simpa using hopen, (), by simpa using hfree, rfl⟩
  simp [step, hcommit, commit, get?_setEntry, restart, hid]

/-- A trusted advance leaves a pending result with whatever replicas it found. -/
theorem vacant_of_represented (s : ObjectOwnerTable ε) (op : Op ε)
    (h : (s.step op).Represented) : (s.callerConditions op).vacant := by
  cases op with
  | commitValidatedAdvanceTaskOutputs plan =>
    intro e he hopen hfree
    exact ((h _ _ (s.step_commitValidatedAdvance he hopen hfree)).unsettled (.inr rfl)).1
  | _ => trivial

/-- Along every run that keeps the contract of the `commit_validated` calls, all entries
stay represented exactly when each trusted advance finds no replicas. -/
theorem represented_iff_vacant (ops : List (Op ε)) (hcontract : ValidatedRun ops) :
    (∀ as bs, ops = as ++ bs → (run step .empty as).Represented) ↔ VacantRun ops := by
  constructor
  · intro h
    refine admissible_iff.mpr fun as op bs hops => vacant_of_represented _ op ?_
    have hstep := h (as ++ [op]) bs (by simp [hops])
    rwa [run_concat] at hstep
  · rintro h as bs rfl
    exact represented_of_vacant (admissible_append.mp hcontract).1 (admissible_append.mp h).1

/-! ## A trusted advance onto the current attempt -/

namespace Sample

def task : TaskID := ⟨7⟩

def object : ObjectID := .forTask task 0

def node : NodeID := ⟨3⟩

def execution (n : Nat) : TaskExecutionKey := .ofAttempt ⟨task, n⟩

def advance : TaskOutputAttemptAdvancePlan := ⟨execution 0, execution 1, rfl, by decide⟩

/-- A trusted advance onto the attempt that is already current and has a replica. -/
def replayedAdvance : List (Op Unit) :=
  [.register object (some ⟨task, 1⟩) none none,
    .publishStored object (some ⟨task, 1⟩) node none,
    .commitValidatedAdvanceTaskOutputs advance]

end Sample

open Sample in
/-- A task output advances to its second attempt under a validated plan. -/
theorem represented_iff_vacant_advance :
    let ops : List (Op Unit) := [.register object (some ⟨task, 0⟩) none none,
      .commitValidatedAdvanceTaskOutputs advance]
    (∀ as bs, ops = as ++ bs → (run step .empty as).Represented) ↔ VacantRun ops :=
  represented_iff_vacant _ ⟨trivial, ⟨.apply, by rfl⟩, trivial⟩

open Sample in
/-- The plan passes as a replay, and its trusted commit resets the result with its replica. -/
theorem not_represented_of_validated : ¬ ∀ ops : List (Op Unit), ValidatedRun ops →
    (run step .empty ops).Represented := by
  intro h
  have hbad := h replayedAdvance ⟨trivial, trivial, ⟨.replay, by rfl⟩, trivial⟩
  have hentry : ((run step .empty replayedAdvance).entries.get? object).map
      (fun e => (e.state, e.locationAttempts.items)) =
        some (.pending, [(node, some ⟨task, 1⟩)]) := by
    rfl
  obtain ⟨e, he, hfields⟩ := Option.map_eq_some_iff.mp hentry
  rw [Prod.mk.injEq] at hfields
  have hempty := ((hbad object e he).unsettled (.inr hfields.1)).1
  simp [hfields.2] at hempty

end ObjectOwnerTable

end MiniRay
