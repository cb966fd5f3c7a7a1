import MiniRay.Ownership.Replays

/-! The current attempt of a registered object only moves forward, and each attempt has at most one
outcome. The calls that trust their caller with a validated advance, a republication or the kept
bytes have to be called in order for it. -/

namespace MiniRay

open Checked Run

/-- Later than, or the same as, another attempt of the task. -/
def AttemptLe (x y : Option AttemptID) : Prop :=
  ∀ a, x = some a → ∃ b, y = some b ∧ a.attemptNumber ≤ b.attemptNumber

theorem AttemptLe.refl (x : Option AttemptID) : AttemptLe x x :=
  fun a ha => ⟨a, ha, le_rfl⟩

theorem AttemptLe.trans {x y z : Option AttemptID} (h : AttemptLe x y) (h' : AttemptLe y z) :
    AttemptLe x z := by
  intro a ha
  obtain ⟨b, hb, hab⟩ := h a ha
  obtain ⟨c, hc, hbc⟩ := h' b hb
  exact ⟨c, hc, hab.trans hbc⟩

namespace ObjectOwnerTable

variable {ε : Type} {s s' : ObjectOwnerTable ε} {o : ObjectID} {x : Option AttemptID}
  {e e' : ObjectOwnerEntry ε} {c : CallerConditions}

theorem attemptLe_antisymm (he : e.objectId = e'.objectId)
    (h : AttemptLe e.currentAttempt e'.currentAttempt)
    (h' : AttemptLe e'.currentAttempt e.currentAttempt) : e.currentAttempt = e'.currentAttempt := by
  cases ha : e.currentAttempt with
  | none =>
    cases hb : e'.currentAttempt with
    | none => rfl
    | some b =>
      obtain ⟨a, ha', _⟩ := h' b hb
      cases ha.symm.trans ha'
  | some a =>
    obtain ⟨b, hb, hab⟩ := h a ha
    obtain ⟨a', ha', hba⟩ := h' b hb
    cases ha.symm.trans ha'
    have htask : a.taskId = b.taskId := by
      rw [e.attempt_task a ha, e'.attempt_task b hb, he]
    have hnumber : a.attemptNumber = b.attemptNumber := le_antisymm hab hba
    rw [hb]
    cases a
    cases b
    simp_all

/-! ## One step -/

/-- What an advance found, and the attempt it moved on to. -/
structure AdvancesTo (op : Op ε) (o : ObjectID) (e e' : ObjectOwnerEntry ε)
    (next : AttemptID) : Prop where
  named : op.Advances o next
  current : e'.currentAttempt = some next
  later : ∀ a, e.currentAttempt = some a → a.attemptNumber < next.attemptNumber
  unsettled : e.state = .pending ∨ e.state = .lost
  free : e.outputPublication = none
  vacant : e.locationAttempts.items = []
  idle : e.collectionPending = false

end ObjectOwnerTable

theorem ResultFields.attempt_move {ε : Type} {r r' : ResultFields ε} {c : CallerConditions}
    {h h' : PublicationHistory} {o : ObjectID} (ho : c.ordered) (hm : ResultMove c h h' o r r') :
    r'.currentAttempt = r.currentAttempt ∨ ∃ next, c.advances o next ∧
      r'.currentAttempt = some next ∧ r.outputPublication = none ∧ r.StartsOver next := by
  cases hm with
  | advanced next free vacant renewed ordered named =>
    exact .inr ⟨next, named, rfl, free, ordered ho⟩
  | assigned r' trust settled attempt => exact .inl attempt
  | _ => exact .inl rfl

namespace ObjectOwnerTable

variable {ε : Type} [BEq ε] {s s' : ObjectOwnerTable ε} {o : ObjectID} {x : Option AttemptID}
  {e e' : ObjectOwnerEntry ε} {c : CallerConditions} {op : Op ε}

/-- What the calls trust their callers with as far as outcomes go. -/
def KeepsOutcomes (s : ObjectOwnerTable ε) (op : Op ε) : Prop :=
  (s.callerConditions op).ordered ∧ (s.callerConditions op).identical ∧
    (s.callerConditions op).bytes

theorem attempt_step (hv : (s.callerConditions op).validated)
    (ho : (s.callerConditions op).ordered) (he : s.entries.get? o = some e)
    (he' : (s.step op).entries.get? o = some e') (hne : e'.currentAttempt ≠ e.currentAttempt) :
    ∃ next, AdvancesTo op o e e' next := by
  have hslot := (s.step_spec op).results.slots o
  rw [he, he'] at hslot
  obtain ⟨next, hnamed, hnext, hfree, hstarts⟩ :=
    (ResultFields.attempt_move ho (slot_move hslot)).resolve_left hne
  have hidle : e.collectionPending = false := by
    cases hslot with
    | moved e e' collection frozen move =>
      by_contra hpending
      exact hne (by rw [frozen hv (by simpa using hpending)])
    | frozen e e' plan idle result => exact idle
  refine ⟨next, hnamed, hnext, ?_, hstarts.unsettled, hfree, hstarts.vacant, hidle⟩
  intro a ha
  rcases hstarts.later a ha with hlt | ⟨rfl, _⟩
  · exact hlt
  · exact absurd (hnext.trans ha.symm) hne

theorem attemptLe_step (hv : (s.callerConditions op).validated)
    (ho : (s.callerConditions op).ordered) (he : s.entries.get? o = some e)
    (he' : (s.step op).entries.get? o = some e') :
    AttemptLe e.currentAttempt e'.currentAttempt := by
  by_cases hsame : e'.currentAttempt = e.currentAttempt
  · rw [hsame]
    exact .refl _
  · obtain ⟨next, hadvances⟩ := attempt_step hv ho he he' hsame
    exact fun a ha => ⟨next, hadvances.current, (hadvances.later a ha).le⟩

theorem restatesEqually_step [EquivBEq ε] (hv : (s.callerConditions op).validated)
    (he : s.entries.get? o = some e) (he' : (s.step op).entries.get? o = some e') :
    ResultFields.RestatesEqually (s.callerConditions op) e.toResultFields e'.toResultFields := by
  intro hrestates herror
  have hassigned : ∀ (plan : TaskOutputErrorPlan ε) (e₁ : ObjectOwnerEntry ε),
      s.entries.get? plan.execution.output = some e₁ →
      (e₁.state = .error ∧ (e₁.error == plan.error) = true ∨
        s.requirePublishable e₁ false = .ok ()) →
      (s.setEntry (assignError plan e₁)).entries.get? o = some e' →
      (e'.error == e.error) = true := by
    intro plan e₁ he₁ haccepts hentry
    rw [get?_setEntry] at hentry
    split at hentry
    · next hid =>
        have hsame : plan.execution.output = o := (s.keyed _ e₁ he₁).symm.trans hid
        subst hsame
        cases he.symm.trans he₁
        cases hentry
        rcases haccepts with ⟨_, hequal⟩ | hpublish
        · exact option_beq_symm hequal
        · obtain ⟨_, hstate, _⟩ := requirePublishable_eq_ok.mp hpublish
          simp [herror] at hstate
    · cases he.symm.trans hentry
      simp
  cases op with
  | commitPublishTaskError plan =>
    simp only [step] at he'
    cases hcall : s.commitPublishTaskError plan with
    | error raised =>
      rw [hcall] at he'
      cases he.symm.trans he'
      simp
    | ok r =>
      obtain ⟨b, s'⟩ := r
      rw [hcall] at he'
      obtain ⟨_, e₁, he₁, hanswer⟩ := commitPublishTaskError_cases hcall
      cases hanswer with
      | stale _ same =>
        cases he.symm.trans (same ▸ he')
        simp
      | replayed _ known => exact known.elim
      | rewritten _ e₂ effect set =>
        obtain ⟨haccepts, rfl⟩ := effect
        exact hassigned plan e₁ he₁.entry haccepts (set ▸ he')
  | commitValidatedPublishTaskError plan =>
    simp only [step] at he'
    cases hcall : s.commitValidatedPublishTaskError plan with
    | error raised =>
      rw [hcall] at he'
      cases he.symm.trans he'
      simp
    | ok r =>
      obtain ⟨u, s'⟩ := r
      rw [hcall] at he'
      obtain ⟨e₁, he₁, _, rfl⟩ := commitValidatedPublishTaskError_cases hcall
      obtain ⟨e₂, he₂, ⟨hfalse, _⟩ | ⟨_, _, haccepts⟩⟩ := validatePublishTaskError_cases hv
      · cases hfalse
      · cases he₁.symm.trans he₂.entry
        exact hassigned plan e₁ he₁ haccepts he'
  | _ => exact hrestates.elim

variable {v : Outcome ε}

theorem shows_step [EquivBEq ε] (hv : (s.callerConditions op).validated) (hk : s.KeepsOutcomes op)
    (he : s.entries.get? o = some e) (he' : (s.step op).entries.get? o = some e')
    (ha : e'.currentAttempt = e.currentAttempt)
    (hshown : e.Shows v ∨ e.Withdrawn s.toPublicationHistory o) :
    e'.Shows v ∨ e'.Withdrawn (s.step op).toPublicationHistory o := by
  obtain ⟨ho, hi, hb⟩ := hk
  have hspec := (s.step_spec op).results
  have hmove := slot_move (he ▸ he' ▸ hspec.slots o)
  rcases hshown with hshows | hwithdrawn
  · exact hshows.move hv ho hi hb (restatesEqually_step hv he he') hmove ha
  · exact .inr (hwithdrawn.move hspec.retired_mono hv ho hmove ha)

/-! ## Runs -/

/-- The contract of the calls that trust their callers. -/
def InContract (s : ObjectOwnerTable ε) (op : Op ε) : Prop :=
  (s.callerConditions op).validated ∧ s.KeepsOutcomes op

/-- Throughout the calls the object stays registered. -/
def Registered (s : ObjectOwnerTable ε) (ops : List (Op ε)) (o : ObjectID) : Prop :=
  ∀ as bs, ops = as ++ bs → ∃ e, (run step s as).entries.get? o = some e

variable {bs : List (Op ε)}

theorem Registered.append {as : List (Op ε)} (h : Registered s (as ++ bs) o) :
    Registered s as o := by
  rintro cs ds rfl
  exact h cs (ds ++ bs) (List.append_assoc ..)

theorem Registered.rest {as : List (Op ε)} (h : Registered s (as ++ bs) o) :
    Registered (run step s as) bs o := by
  rintro cs ds rfl
  rw [← run_append]
  exact h (as ++ cs) ds (List.append_assoc ..).symm

theorem attemptLe_run (ops : List (Op ε)) (hrun : Admissible step InContract s ops)
    (hreg : Registered s ops o) (he : s.entries.get? o = some e)
    (he' : (run step s ops).entries.get? o = some e') :
    AttemptLe e.currentAttempt e'.currentAttempt := by
  induction ops using List.reverseRecOn generalizing e' with
  | nil =>
    cases he.symm.trans he'
    exact .refl _
  | append_singleton ops op ih =>
    obtain ⟨hfirst, hlast⟩ := admissible_append.mp hrun
    obtain ⟨e₁, he₁⟩ := hreg ops [op] rfl
    rw [run_concat] at he'
    exact (ih hfirst hreg.append he₁).trans (attemptLe_step hlast.1.1 hlast.1.2.1 he₁ he')

theorem attemptHeld_of_registered {ops : List (Op ε)} (hrun : Admissible step InContract s ops)
    (hreg : Registered s ops o) (he : s.entries.get? o = some e)
    (he' : (run step s ops).entries.get? o = some e')
    (hx : e'.currentAttempt = e.currentAttempt) : AttemptHeld s ops o e.currentAttempt := by
  rintro as bs rfl
  obtain ⟨hfirst, hlast⟩ := admissible_append.mp hrun
  obtain ⟨e₁, he₁⟩ := hreg as bs rfl
  have hforward := attemptLe_run as hfirst hreg.append he he₁
  have hback := attemptLe_run bs hlast hreg.rest he₁ (by rwa [← run_append])
  rw [hx] at hback
  have hid : e₁.objectId = e.objectId := (keyed _ _ _ he₁).trans (keyed _ _ _ he).symm
  exact ⟨e₁, he₁, attemptLe_antisymm hid hback hforward⟩

theorem shows_run [EquivBEq ε] (ops : List (Op ε)) (hrun : Admissible step InContract s ops)
    (he : s.entries.get? o = some e) (hshows : e.Shows v)
    (hheld : AttemptHeld s ops o e.currentAttempt) :
    ∃ e', (run step s ops).entries.get? o = some e' ∧
      (e'.Shows v ∨ e'.Withdrawn (run step s ops).toPublicationHistory o) := by
  induction ops using List.reverseRecOn with
  | nil => exact ⟨e, he, .inl hshows⟩
  | append_singleton ops op ih =>
    obtain ⟨hfirst, hlast⟩ := admissible_append.mp hrun
    obtain ⟨e₁, he₁, hshown⟩ := ih hfirst hheld.append
    obtain ⟨e₁', he₁', ha₁⟩ := hheld.append.last
    obtain ⟨e₂, he₂, ha₂⟩ := hheld.last
    cases he₁.symm.trans he₁'
    rw [run_concat] at he₂ ⊢
    exact ⟨e₂, he₂, shows_step hlast.1.1 hlast.1.2 he₁ he₂ (ha₂.trans ha₁.symm) hshown⟩

theorem vacant_of_ordered (h : (s.callerConditions op).ordered) :
    (s.callerConditions op).vacant := by
  cases op with
  | commitValidatedAdvanceTaskOutputs plan =>
    exact fun e he hopen hfree => (h e he hopen hfree).vacant
  | _ => trivial

theorem represented_of_contract {ops : List (Op ε)} (h : Admissible step InContract .empty ops) :
    (run step .empty ops).Represented :=
  represented_of_vacant (h.mono fun _ _ hc => hc.1) (h.mono fun _ _ hc => vacant_of_ordered hc.2.1)

theorem accepted_step [EquivBEq ε] (hs : s.Represented) (hv : (s.callerConditions op).validated)
    (hop : op.report = some (o, x)) (h : s.Accepts op) :
    ∃ e e', s.entries.get? o = some e ∧ e.currentAttempt = x ∧
      (s.step op).entries.get? o = some e' ∧ e'.currentAttempt = x ∧
      ∀ v, op.outcome = some v → e'.Shows v :=
  ((speaks_step s op hs hv hop).1 true h).heard rfl

theorem refused_step [EquivBEq ε] (hs : s.Represented) (hv : (s.callerConditions op).validated)
    (hop : op.report = some (o, x)) (he : s.entries.get? o = some e)
    (hne : e.currentAttempt ≠ x) : ¬ s.Accepts op ∧ s.step op = s := by
  have hspeaks := speaks_step s op hs hv hop
  have hrefused : ¬ s.Accepts op := by
    intro h
    obtain ⟨e₁, _, he₁, hx, _⟩ := accepted_step hs hv hop h
    cases he.symm.trans he₁
    exact hne hx
  refine ⟨hrefused, ?_⟩
  cases ha : s.answer op with
  | none => exact hspeaks.2 ha
  | some b =>
    cases b with
    | true => exact absurd ha hrefused
    | false => exact (hspeaks.1 false ha).silent rfl

/-- How the attempts and the outcomes of objects evolve along a run. -/
structure AttemptSpec (ops : List (Op ε)) : Prop where
  /-- The attempt of a registered object never decreases. -/
  forward : ∀ as bs cs, ops = as ++ bs ++ cs → ∀ o e e',
    (run step .empty as).entries.get? o = some e →
    (run step .empty (as ++ bs)).entries.get? o = some e' →
    Registered (run step .empty as) bs o → AttemptLe e.currentAttempt e'.currentAttempt
  /-- It changes through advances only, and only to a later attempt. -/
  advances : ∀ as op bs, ops = as ++ op :: bs → ∀ o e e',
    (run step .empty as).entries.get? o = some e →
    ((run step .empty as).step op).entries.get? o = some e' →
    e'.currentAttempt ≠ e.currentAttempt → ∃ next, AdvancesTo op o e e' next
  /-- A report for another attempt is refused. -/
  refused : ∀ as op bs, ops = as ++ op :: bs → ∀ o x e, op.report = some (o, x) →
    (run step .empty as).entries.get? o = some e → e.currentAttempt ≠ x →
    ¬ (run step .empty as).Accepts op ∧ (run step .empty as).step op = run step .empty as
  /-- Two values accepted for one attempt of a registered object are one value. -/
  one_outcome : ∀ as op bs op' cs, ops = as ++ op :: (bs ++ op' :: cs) → ∀ o x v v',
    op.report = some (o, x) → op.outcome = some v → (run step .empty as).Accepts op →
    op'.report = some (o, x) → op'.outcome = some v' →
    (run step .empty (as ++ op :: bs)).Accepts op' →
    Registered ((run step .empty as).step op) bs o → v.Agrees v'
  /-- An accepted value is accepted again without change. -/
  replayed : ∀ as op bs, ops = as ++ op :: bs → ∀ v, op.outcome = some v →
    (run step .empty as).Accepts op →
    ((run step .empty as).step op).step op = (run step .empty as).step op ∧
      (((run step .empty as).step op).Accepts op ∨ op.IsResolution)

theorem one_outcome_run [EquivBEq ε] {op' : Op ε} {v' : Outcome ε} (hs : s.Represented)
    (hrun : Admissible step InContract s (op :: (bs ++ [op'])))
    (hs' : (run step s (op :: bs)).Represented) (hop : op.report = some (o, x))
    (hout : op.outcome = some v) (haccepts : s.Accepts op) (hop' : op'.report = some (o, x))
    (hout' : op'.outcome = some v') (haccepts' : (run step s (op :: bs)).Accepts op')
    (hreg : Registered (s.step op) bs o) : v.Agrees v' := by
  obtain ⟨hfirst, hrest⟩ := hrun
  obtain ⟨hbs, hlast⟩ := admissible_append.mp hrest
  obtain ⟨e, e₁, he, hx, he₁, hx₁, hshows⟩ := accepted_step hs hfirst.1 hop haccepts
  obtain ⟨e₂, e₃, he₂, hx₂, he₃, hx₃, hshows'⟩ := accepted_step hs' hlast.1.1 hop' haccepts'
  have hheld : AttemptHeld (s.step op) bs o e₁.currentAttempt :=
    attemptHeld_of_registered hbs hreg he₁ he₂ (hx₂.trans hx₁.symm)
  obtain ⟨e₂', he₂', hshown⟩ := shows_run bs hbs he₁ (hshows v hout) hheld
  cases he₂.symm.trans he₂'
  rcases shows_step hlast.1.1 hlast.1.2 he₂ he₃ (hx₃.trans hx₂.symm) hshown with hv | hw
  · exact hv.agrees (hshows' v' hout')
  · exact absurd (hshows' v' hout') hw.not_shows

/-- Under the contract of the trusting calls, attempts move forward and have one outcome. -/
theorem attemptSpec_run [EquivBEq ε] (ops : List (Op ε)) (hcontract : ValidatedRun ops)
    (hkeeps : Admissible step KeepsOutcomes .empty ops) : AttemptSpec ops := by
  have hrun : Admissible step InContract .empty ops := hcontract.and hkeeps
  refine ⟨?_, ?_, ?_, ?_, ?_⟩
  · rintro as bs cs rfl o e e' he he' hreg
    have hbs := (admissible_append.mp (admissible_append.mp hrun).1).2
    rw [run_append] at he'
    exact attemptLe_run bs hbs hreg he he'
  · rintro as op bs rfl o e e' he he' hne
    have hop := (admissible_append.mp hrun).2.1
    exact attempt_step hop.1 hop.2.1 he he' hne
  · rintro as op bs rfl o x e hop he hne
    have has := admissible_append.mp hrun
    exact refused_step (represented_of_contract has.1) has.2.1.1 hop he hne
  · rintro as op bs op' cs rfl o x v v' hop hout haccepts hop' hout' haccepts' hreg
    have hsplit : as ++ op :: (bs ++ op' :: cs) = as ++ (op :: (bs ++ [op'])) ++ cs := by simp
    rw [hsplit] at hrun
    have has := (admissible_append.mp hrun).1
    have hbefore : as ++ (op :: (bs ++ [op'])) = (as ++ op :: bs) ++ [op'] := by simp
    have hsecond := represented_of_contract (admissible_append.mp (hbefore ▸ has)).1
    obtain ⟨hfirst, hrest⟩ := admissible_append.mp has
    rw [run_append] at hsecond haccepts'
    exact one_outcome_run (represented_of_contract hfirst) hrest hsecond hop hout haccepts hop'
      hout' haccepts' hreg
  · rintro as op bs rfl v hout haccepts
    exact replayed_step hout haccepts

namespace Sample

def registration : Op Unit := .register object (some ⟨task, 0⟩) none none

def publicationOf (size : Nat) : Op Unit := .commitPublishTaskOutputs (publication size)

def removal : Op Unit := .removeLocation object (some ⟨task, 0⟩) node

/-- A result is published, lost, and published again with this size. -/
def republished (size : Nat) : List (Op Unit) :=
  [registration, publicationOf 1, removal, publicationOf size]

theorem validated_republished (size : Nat) : ValidatedRun (republished size) :=
  ⟨trivial, trivial, trivial, trivial, trivial⟩

end Sample

open Sample in
theorem attemptSpec_run_republished : AttemptSpec (republished 1) := by
  have hfirst : ((run step .empty [registration]).entries.get? object).map
      (fun e => e.canonicalStoredResult) = some none := by
    rfl
  have hlost : ((run step .empty [registration, publicationOf 1,
      removal]).entries.get? object).map (fun e => e.canonicalStoredResult) =
        some (some (stored 1)) := by
    rfl
  refine attemptSpec_run (republished 1) (validated_republished 1) ⟨⟨trivial, trivial, trivial⟩,
    ⟨trivial, ?_, trivial⟩, ⟨trivial, trivial, trivial⟩, ⟨trivial, ?_, trivial⟩, trivial⟩
  · intro _ _ e he _ d hd
    obtain ⟨e₁, he₁, hcanonical⟩ := Option.map_eq_some_iff.mp hfirst
    cases he₁.symm.trans he
    cases hcanonical.symm.trans hd
  · intro _ _ e he _ d hd
    obtain ⟨e₁, he₁, hcanonical⟩ := Option.map_eq_some_iff.mp hlost
    cases he₁.symm.trans he
    cases hcanonical.symm.trans hd
    exact .refl _

open Sample in
/-- A lost result is published again with another size under the same attempt. -/
theorem not_one_outcome : ¬ ∀ ops : List (Op Unit), ValidatedRun ops → AttemptSpec ops := by
  intro h
  have hspec := h (republished 2) (validated_republished 2)
  have hreg : Registered ((run step .empty [registration]).step (publicationOf 1)) [removal]
      object := by
    intro as bs hops
    cases as with
    | nil => exact Option.isSome_iff_exists.mp rfl
    | cons op as =>
      rw [List.cons_append, List.cons.injEq] at hops
      obtain ⟨rfl, hops⟩ := hops
      obtain ⟨rfl, rfl⟩ := List.append_eq_nil_iff.mp hops.symm
      exact Option.isSome_iff_exists.mp rfl
  have hagrees := hspec.one_outcome [registration] (publicationOf 1) [removal] (publicationOf 2)
    [] rfl object (some ⟨task, 0⟩) _ _ rfl rfl (by rfl) rfl rfl (by rfl) hreg
  exact absurd hagrees.1 (by decide)

end ObjectOwnerTable

end MiniRay
