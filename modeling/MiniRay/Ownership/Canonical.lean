import MiniRay.Ownership.Representation

/-! What happens to a known descriptor while its attempt is current. The publication of a whole task
output does not compare a lost result with its descriptor, so its caller has to. -/

namespace MiniRay

open Checked Run

/-! ## One change -/

theorem SameIntegrity.refl (d : ResultDescriptor) : SameIntegrity d d := ⟨rfl, rfl, rfl⟩

theorem SameIntegrity.trans {d₁ d₂ d₃ : ResultDescriptor} (h : SameIntegrity d₁ d₂)
    (h' : SameIntegrity d₂ d₃) : SameIntegrity d₁ d₃ :=
  ⟨h.1.trans h'.1, h.2.1.trans h'.2.1, h.2.2.trans h'.2.2⟩

namespace ResultFields

variable {ε : Type} {r r' : ResultFields ε} {c : CallerConditions} {h h' : PublicationHistory}
  {o : ObjectID} {a : AttemptID}

def CanonicalStored (r : ResultFields ε) : Prop :=
  r.canonicalStoredResult ≠ none → r.state = .readyStored ∨ r.state = .lost

theorem CanonicalStored.move (hr : r.CanonicalStored) (hv : c.validated)
    (hm : ResultMove c h h' o r r') : r'.CanonicalStored := by
  cases hm with
  | same => exact hr
  | publishedStored => exact fun _ => .inl rfl
  | replicated node canonical state => exact fun _ => .inl state
  | republishedStored node state => exact fun _ => .inl state
  | forgotReplica node =>
    intro hc
    rcases hr hc with hs | hs
    · by_cases hl : (r.locationAttempts.erase node).items = [] <;> simp [hs, hl]
    · simp [hs]
  | lost => exact fun _ => .inr rfl
  | failed error canonical state canonical_le =>
    intro hc
    rcases canonical_le with rfl | rfl
    · rcases hr hc with hs | hs <;> simp [hs] at state
    · exact absurd rfl hc
  | assigned r' trust => exact absurd hv trust
  | adopted envelope =>
    intro hc
    cases hs : envelope.result.storage <;> simp [hs] at hc ⊢
  | keptStored manifest unavailable =>
    intro _
    by_cases hl : (r.locationAttempts.filter fun node _ => !unavailable node).items = [] <;>
      simp [hl]
  | retiring => exact hr
  | edged => exact hr
  | _ => exact fun hc => absurd rfl hc

/-- The output of the attempt was retired, and no stored result of it can come back. -/
structure Cleared (h : PublicationHistory) (o : ObjectID) (a : AttemptID)
    (r : ResultFields ε) : Prop where
  canonical : r.canonicalStoredResult = none
  locations : r.locationAttempts.items = []
  unstored : r.state ≠ .readyStored
  retired : (o, a) ∈ h.retiredOutputAttempts

theorem Cleared.move (hr : r.Cleared h o a) (ha : r.currentAttempt = some a)
    (hmono : h.retiredOutputAttempts ⊆ h'.retiredOutputAttempts) (hv : c.validated)
    (hm : ResultMove c h h' o r r') : r'.Cleared h' o a := by
  have hretired := hmono hr.retired
  have hnot : ¬ r.Unretired h o := fun hu => hu a ha hr.retired
  cases hm with
  | same => exact ⟨hr.1, hr.2, hr.3, hretired⟩
  | advanced => exact ⟨rfl, hr.2, nofun, hretired⟩
  | publishedInline data put edges state locations unretired => exact absurd unretired hnot
  | republishedInline => exact ⟨rfl, hr.2, hr.3, hretired⟩
  | publishedStored node canonical put edges state locations unretired =>
    exact absurd unretired hnot
  | replicated node canonical state => exact absurd state hr.3
  | republishedStored node state => exact absurd state hr.3
  | forgotReplica node =>
    refine ⟨hr.1, ?_, ?_, hretired⟩
    · simp [Dict.eq_empty hr.2]
    · simp [hr.3]
  | lost state => exact absurd state hr.3
  | failed error canonical state canonical_le =>
    exact ⟨canonical_le.elim (·.trans hr.1) id, hr.2, nofun, hretired⟩
  | assigned r' trust => exact absurd hv trust
  | adopted envelope output attempt pristine free unretired => exact absurd unretired hnot
  | keptInline => exact ⟨rfl, rfl, nofun, hretired⟩
  | keptStored manifest unavailable =>
    refine ⟨hr.1, ?_, ?_, hretired⟩ <;> simp [Dict.eq_empty hr.2]
  | discarded a completed => exact ⟨rfl, rfl, by cases completed <;> simp, hretired⟩
  | retiring => exact ⟨hr.1, hr.2, hr.3, hretired⟩
  | retired a state => exact ⟨rfl, rfl, by simp [state], hretired⟩
  | edged => exact ⟨hr.1, hr.2, hr.3, hretired⟩

/-- While its attempt is current, a known descriptor keeps its integrity, or its output is
retired. -/
theorem CanonicalStored.kept {d : ResultDescriptor} (hr : r.CanonicalStored)
    (hd : r.canonicalStoredResult = some d) (hv : c.validated) (hn : c.renewed)
    (hi : c.identical) (hm : ResultMove c h h' o r r')
    (ha : r'.currentAttempt = r.currentAttempt) :
    (∃ d', r'.canonicalStoredResult = some d' ∧ SameIntegrity d d') ∨
      ∃ a, r.currentAttempt = some a ∧ c.retires o a ∧ r'.Cleared h' o a := by
  have hne : r.canonicalStoredResult ≠ none := by simp [hd]
  have hstate := hr hne
  have hpristine : ¬ r.Pristine := fun hp => hne hp.canonical
  have hsame : ∃ d', r.canonicalStoredResult = some d' ∧ SameIntegrity d d' := ⟨d, hd, .refl d⟩
  cases hm with
  | advanced next free vacant renewed => exact absurd ha.symm (renewed hn hne)
  | publishedInline data put edges state => simp [state] at hstate
  | republishedInline state => simp [state] at hstate
  | publishedStored node canonical put edges state locations unretired integrity =>
    rcases state with hs | hs
    · simp [hs] at hstate
    · exact .inl (integrity hi hs d hd)
  | replicated node canonical state epochs integrity =>
    exact .inl ⟨d, integrity d hd, .refl d⟩
  | failed error canonical state => rcases hstate with hs | hs <;> simp [hs] at state
  | assigned r' trust => exact absurd hv trust
  | adopted envelope output attempt pristine => exact absurd pristine hpristine
  | keptInline manifest data output attempt member tier canonical => exact absurd canonical hne
  | discarded a completed attempt named retired pristine =>
    cases completed with
    | false => exact absurd (pristine rfl).1 hpristine
    | true => exact .inr ⟨a, attempt, named, rfl, rfl, nofun, retired rfl⟩
  | retired a state attempt named retired =>
    exact .inr ⟨a, attempt, named, rfl, rfl, by simp [state], retired⟩
  | _ => exact .inl hsame

end ResultFields

open ResultFields

/-! ## Runs -/

namespace ObjectOwnerTable

variable {ε : Type}

/-- Only stored results have a known descriptor. -/
def CanonicalStored (s : ObjectOwnerTable ε) : Prop :=
  ∀ o e, s.entries.get? o = some e → e.toResultFields.CanonicalStored

variable {e : ObjectOwnerEntry ε}

variable {c : CallerConditions} {s' : ObjectOwnerTable ε} {e' : ObjectOwnerEntry ε}

theorem slot_move {s : ObjectOwnerTable ε} {o : ObjectID}
    (hslot : SlotMove c s s' o (some e) (some e')) :
    ResultMove c s.toPublicationHistory s'.toPublicationHistory o e.toResultFields
      e'.toResultFields := by
  cases hslot with
  | moved e e' collection frozen move => exact move
  | frozen e e' plan idle result => exact result ▸ .same

theorem CanonicalStored.step {s : ObjectOwnerTable ε} (hs : s.CanonicalStored)
    (h : ResultSpec c s s') (hv : c.validated) : s'.CanonicalStored := by
  intro o e' he'
  have hslot := h.slots o
  rw [he'] at hslot
  cases ho : s.entries.get? o with
  | none =>
    rw [ho] at hslot
    cases hslot with
    | registered _ fresh =>
      obtain ⟨attempt, spec, hfresh⟩ := fresh
      rw [hfresh]
      exact fun hc => absurd rfl hc
  | some e =>
    rw [ho] at hslot
    exact (hs o e ho).move hv (slot_move hslot)

variable [BEq ε] {s : ObjectOwnerTable ε} {o : ObjectID} {x : Option AttemptID}
  {d : ResultDescriptor}

/-- Throughout the calls the object stays registered under one attempt. -/
def AttemptHeld (s : ObjectOwnerTable ε) (ops : List (Op ε)) (o : ObjectID)
    (x : Option AttemptID) : Prop :=
  ∀ as bs, ops = as ++ bs → ∃ e, (run step s as).entries.get? o = some e ∧ e.currentAttempt = x

theorem AttemptHeld.append {as bs : List (Op ε)} (h : AttemptHeld s (as ++ bs) o x) :
    AttemptHeld s as o x := by
  rintro cs ds rfl
  exact h cs (ds ++ bs) (List.append_assoc ..)

theorem AttemptHeld.last {ops : List (Op ε)} (h : AttemptHeld s ops o x) :
    ∃ e, (run step s ops).entries.get? o = some e ∧ e.currentAttempt = x :=
  h ops [] (List.append_nil _).symm

/-- The descriptor has the same integrity, or its output was retired or discarded. -/
def DescriptorKept (s : ObjectOwnerTable ε) (ops : List (Op ε)) (o : ObjectID)
    (x : Option AttemptID) (d : ResultDescriptor) : Prop :=
  ∃ e, (run step s ops).entries.get? o = some e ∧
    ((∃ d', e.canonicalStoredResult = some d' ∧ SameIntegrity d d') ∨
      e.canonicalStoredResult = none ∧ ∃ a, x = some a ∧ ∃ op ∈ ops, op.Retires o a)

/-- What the calls trust their callers with as far as descriptors go. -/
def KeepsDescriptors (s : ObjectOwnerTable ε) (op : Op ε) : Prop :=
  (s.callerConditions op).renewed ∧ (s.callerConditions op).identical

/-- The induction over the calls: kept so far, or cleared for good. -/
theorem descriptor_run (ops : List (Op ε))
    (hrun : Admissible step (fun s op => (s.callerConditions op).validated ∧
      s.KeepsDescriptors op) s ops)
    (hs : s.CanonicalStored) (he : s.entries.get? o = some e)
    (hd : e.canonicalStoredResult = some d) (hheld : AttemptHeld s ops o e.currentAttempt) :
    (run step s ops).CanonicalStored ∧ ∃ e', (run step s ops).entries.get? o = some e' ∧
      ((∃ d', e'.canonicalStoredResult = some d' ∧ SameIntegrity d d') ∨
        ∃ a, e.currentAttempt = some a ∧ (∃ op ∈ ops, op.Retires o a) ∧
          e'.toResultFields.Cleared (run step s ops).toPublicationHistory o a) := by
  induction ops using List.reverseRecOn with
  | nil => exact ⟨hs, e, he, .inl ⟨d, hd, .refl d⟩⟩
  | append_singleton ops op ih =>
    obtain ⟨hfirst, hlast⟩ := admissible_append.mp hrun
    obtain ⟨⟨hv, hn, hi⟩, _⟩ := hlast
    obtain ⟨hstored, e₁, he₁, hcase⟩ := ih hfirst hheld.append
    obtain ⟨e₂, he₂, ha₂⟩ := hheld.last
    obtain ⟨e₁', he₁', ha₁⟩ := hheld.append.last
    cases he₁.symm.trans he₁'
    have hspec := ((run step s ops).step_spec op).results
    rw [run_concat] at he₂ ⊢
    have hmove := slot_move (he₁ ▸ he₂ ▸ hspec.slots o)
    refine ⟨hstored.step hspec hv, e₂, he₂, ?_⟩
    rcases hcase with ⟨d₁, hd₁, hsame⟩ | ⟨a, ha, ⟨op', hop', hret⟩, hcleared⟩
    · rcases (hstored o e₁ he₁).kept hd₁ hv hn hi hmove (ha₂.trans ha₁.symm) with
        ⟨d₂, hd₂, hsame'⟩ | ⟨a, ha, hret, hcleared⟩
      · exact .inl ⟨d₂, hd₂, hsame.trans hsame'⟩
      · exact .inr ⟨a, ha₁.symm.trans ha, ⟨op, by simp, hret⟩, hcleared⟩
    · exact .inr ⟨a, ha, ⟨op', by simp [hop'], hret⟩,
        hcleared.move (ha₁.trans ha) hspec.retired_mono hv hmove⟩

/-! ## The calls that lose a descriptor -/

variable {op : Op ε}

theorem attemptHeld_singleton (he : s.entries.get? o = some e)
    (he' : (s.step op).entries.get? o = some e') (ha : e'.currentAttempt = e.currentAttempt) :
    AttemptHeld s [op] o e.currentAttempt := by
  intro as bs h
  cases as with
  | nil => exact ⟨e, he, rfl⟩
  | cons a as =>
    rw [List.cons_append, List.cons.injEq] at h
    obtain ⟨rfl, h⟩ := h
    obtain ⟨rfl, rfl⟩ := List.append_eq_nil_iff.mp h.symm
    exact ⟨e', he', ha⟩

variable {plan : TaskOutputPublicationPlan}

theorem step_commitPublish
    (hop : op = .commitPublishTaskOutputs plan ∨ op = .commitValidatedPublishTaskOutputs plan)
    (hv : s.validatePublishTaskOutputs plan = .ok true)
    (he : s.entries.get? plan.execution.output = some e) :
    (s.step op).entries.get? plan.execution.output = some (assignResult plan e) := by
  have hid := s.keyed _ e he
  have hsub : s.subscript plan.execution.output = .ok ⟨e, hid⟩ := by simpa using he
  have hopen : requireNoOutputRetirement e = .ok () := by
    have h := hv
    simp only [validatePublishTaskOutputs, bind_eq_ok] at h
    obtain ⟨e₁, he₁, _, _, _, _, _, hopen, _⟩ := h
    cases he.symm.trans (taskOutputEntry_get? he₁)
    exact hopen
  have hset : (s.setEntry (assignResult plan e)).entries.get? plan.execution.output =
      some (assignResult plan e) := by
    rw [get?_setEntry, assignResult_objectId, if_pos hid]
  rcases hop with rfl | rfl
  · have hcommit : s.commitPublishTaskOutputs plan =
        .ok (true, s.setEntry (assignResult plan e)) := by
      simp only [commitPublishTaskOutputs, bind_eq_ok]
      exact ⟨⟨e, hid⟩, hsub, (), hopen, true, hv, rfl⟩
    rwa [step, hcommit]
  · have hcommit : s.commitValidatedPublishTaskOutputs plan =
        .ok ((), s.setEntry (assignResult plan e)) := by
      simp only [commitValidatedPublishTaskOutputs, bind_eq_ok]
      exact ⟨⟨e, hid⟩, hsub, (), hopen, rfl⟩
    rwa [step, hcommit]

theorem republishes_of_kept
    (hop : op = .commitPublishTaskOutputs plan ∨ op = .commitValidatedPublishTaskOutputs plan)
    (h : ∀ o e d, s.entries.get? o = some e → e.canonicalStoredResult = some d →
      AttemptHeld s [op] o e.currentAttempt → DescriptorKept s [op] o e.currentAttempt d) :
    s.RepublishesIdentically plan := by
  intro hv hstored e he hlost d hd
  have hstep := step_commitPublish hop hv he
  obtain ⟨e', he', hkept⟩ := h _ e d he hd
    (attemptHeld_singleton he hstep (by simp only [assignResult]; split <;> rfl))
  cases hstep.symm.trans he'
  have hcanonical : (assignResult plan e).canonicalStoredResult = some plan.result := by
    simp [assignResult, hstored]
  rcases hkept with ⟨d', hd', hsame⟩ | ⟨hnone, _⟩
  · cases hcanonical.symm.trans hd'
    exact hsame
  · simp [hcanonical] at hnone

theorem keepsDescriptors_of_kept (s : ObjectOwnerTable ε) (op : Op ε)
    (h : ∀ o e d, s.entries.get? o = some e → e.canonicalStoredResult = some d →
      AttemptHeld s [op] o e.currentAttempt → DescriptorKept s [op] o e.currentAttempt d) :
    s.KeepsDescriptors op := by
  cases op with
  | commitValidatedAdvanceTaskOutputs plan =>
    refine ⟨?_, trivial⟩
    intro e he hopen hfree hcanonical hattempt
    obtain ⟨d, hd⟩ := Option.ne_none_iff_exists'.mp hcanonical
    have hstep := s.step_commitValidatedAdvance he hopen hfree
    obtain ⟨e', he', hkept⟩ := h _ e d he hd (attemptHeld_singleton he hstep hattempt.symm)
    cases hstep.symm.trans he'
    rcases hkept with ⟨_, hsome, _⟩ | ⟨_, _, _, op, hop, hret⟩
    · cases hsome
    · rw [List.mem_singleton.mp hop] at hret
      exact hret
  | commitPublishTaskOutputs plan => exact ⟨trivial, republishes_of_kept (.inl rfl) h⟩
  | commitValidatedPublishTaskOutputs plan => exact ⟨trivial, republishes_of_kept (.inr rfl) h⟩
  | _ => exact ⟨trivial, trivial⟩

/-- Along every run that keeps the contract of the `commit_validated` calls, known
descriptors keep their integrity for as long as their attempt is current, retirements
apart, exactly when lost results are republished identically and no trusted advance repeats
an attempt whose descriptor is known. -/
theorem descriptors_kept_iff (ops : List (Op ε)) (hcontract : ValidatedRun ops) :
    (∀ as bs cs, ops = as ++ bs ++ cs → ∀ o e d, (run step .empty as).entries.get? o = some e →
      e.canonicalStoredResult = some d →
      AttemptHeld (run step .empty as) bs o e.currentAttempt →
      DescriptorKept (run step .empty as) bs o e.currentAttempt d) ↔
    Admissible step KeepsDescriptors .empty ops := by
  constructor
  · intro h
    refine admissible_iff.mpr fun as op cs hops => keepsDescriptors_of_kept _ op ?_
    exact h as [op] cs (by simp [hops])
  · rintro h as bs cs rfl o e d he hd hheld
    have hboth := admissible_append.mp (admissible_append.mp (hcontract.and h)).1
    have hstored : (run step (.empty : ObjectOwnerTable ε) as).CanonicalStored :=
      hboth.1.invariant (p := CanonicalStored)
        (fun s op hc hs => hs.step (s.step_spec op).results hc.1) (by simp [CanonicalStored])
    obtain ⟨_, e', he', hkept⟩ := descriptor_run bs hboth.2 hstored he hd hheld
    refine ⟨e', he', hkept.imp_right ?_⟩
    rintro ⟨a, ha, hret, hcleared⟩
    exact ⟨hcleared.canonical, a, ha, hret⟩

/-! ## Republishing a lost result -/

namespace Sample

def stored (size : Nat) : ResultDescriptor where
  objectId := object
  storage := .objectStore
  sizeBytes := size
  ownerWorkerId := ⟨11⟩
  nodeId := node
  checksum := String.ofList (List.replicate 64 '0')
  inlineData := none
  inline_payload := nofun
  stored_payload := stored_none
  checksum_hex := by decide

def publication (size : Nat) : TaskOutputPublicationPlan := ⟨execution 0, [stored size], rfl⟩

def lostResult : List (Op Unit) :=
  [.register object (some ⟨task, 0⟩) none none, .commitPublishTaskOutputs (publication 1),
    .removeLocation object (some ⟨task, 0⟩) node]

end Sample

open Sample in
theorem descriptors_kept_iff_republished :
    let ops : List (Op Unit) := lostResult ++ [.commitPublishTaskOutputs (publication 1)]
    (∀ as bs cs, ops = as ++ bs ++ cs → ∀ o e d, (run step .empty as).entries.get? o = some e →
      e.canonicalStoredResult = some d →
      AttemptHeld (run step .empty as) bs o e.currentAttempt →
      DescriptorKept (run step .empty as) bs o e.currentAttempt d) ↔
    Admissible step KeepsDescriptors .empty ops :=
  descriptors_kept_iff _ ⟨trivial, trivial, trivial, trivial, trivial⟩

open Sample in
/-- The plan for the lost result is accepted and replaces its descriptor. -/
theorem not_descriptors_kept : ¬ ∀ ops : List (Op Unit), ValidatedRun ops →
    ∀ as bs cs, ops = as ++ bs ++ cs → ∀ o e d, (run step .empty as).entries.get? o = some e →
      e.canonicalStoredResult = some d →
      AttemptHeld (run step .empty as) bs o e.currentAttempt →
      DescriptorKept (run step .empty as) bs o e.currentAttempt d := by
  intro h
  have hlost : ((run step .empty lostResult).entries.get? object).map
      (fun e => (e.currentAttempt, e.canonicalStoredResult)) =
        some (some ⟨task, 0⟩, some (stored 1)) := by
    rfl
  have hback : (((run step .empty lostResult).step
      (.commitPublishTaskOutputs (publication 2))).entries.get? object).map
      (fun e => (e.currentAttempt, e.canonicalStoredResult)) =
        some (some ⟨task, 0⟩, some (stored 2)) := by
    rfl
  obtain ⟨e, he, hfields⟩ := Option.map_eq_some_iff.mp hlost
  obtain ⟨e', he', hfields'⟩ := Option.map_eq_some_iff.mp hback
  rw [Prod.mk.injEq] at hfields hfields'
  have hheld := attemptHeld_singleton he he' (hfields'.1.trans hfields.1.symm)
  have hcontract : ValidatedRun (lostResult ++ [Op.commitPublishTaskOutputs (publication 2)]) :=
    ⟨trivial, trivial, trivial, trivial, trivial⟩
  obtain ⟨e₁, he₁, hkept⟩ := h _ hcontract lostResult [.commitPublishTaskOutputs (publication 2)]
    [] rfl object e _ he hfields.2 hheld
  cases he'.symm.trans he₁
  rcases hkept with ⟨d, hd, hsame⟩ | ⟨hnone, _⟩
  · cases hfields'.2.symm.trans hd
    exact absurd hsame.1 (by decide)
  · simp [hfields'.2] at hnone

end ObjectOwnerTable

end MiniRay
