import MiniRay.Ownership.Canonical

/-! The calls that speak for an attempt, what they report, and what an entry shows of an accepted
report for as long as the attempt is current. -/

namespace MiniRay

open Checked Run

/-! ## Result values -/

/-- Inline bytes, a stored descriptor or an error. -/
inductive Outcome (ε : Type)
  | inline (data : List UInt8)
  | stored (d : ResultDescriptor)
  | error (error : Option ε)

/-- One value reported twice. A stored value may be reported from several Nodes. -/
def Outcome.Agrees {ε : Type} [BEq ε] : Outcome ε → Outcome ε → Prop
  | .inline data, .inline data' => data = data'
  | .stored d, .stored d' => SameIntegrity d d'
  | .error x, .error y => (x == y) = true
  | _, _ => False

def ResultDescriptor.outcome {ε : Type} (d : ResultDescriptor) : Outcome ε :=
  match d.inlineData with
  | some data => .inline data
  | none => .stored d

variable {d : ResultDescriptor}

theorem ResultDescriptor.outcome_inline {ε : Type} {data : List UInt8}
    (h : d.inlineData = some data) : (d.outcome : Outcome ε) = .inline data := by
  simp [outcome, h]

theorem ResultDescriptor.outcome_stored {ε : Type} (h : d.storage ≠ .inline) :
    (d.outcome : Outcome ε) = .stored d := by
  have hs : d.storage = .objectStore := by
    cases hd : d.storage with
    | inline => exact absurd hd h
    | objectStore => rfl
  simp [outcome, d.stored_payload hs]

theorem SameIntegrity.symm {d' : ResultDescriptor} (h : SameIntegrity d d') :
    SameIntegrity d' d := ⟨h.1.symm, h.2.1.symm, h.2.2.symm⟩

section

variable {ε : Type} [BEq ε] [EquivBEq ε] {x y z : Option ε}

theorem option_beq_refl : (x == x) = true := by
  cases x <;> simp

theorem option_beq_symm (h : (x == y) = true) : (y == x) = true := by
  cases x <;> cases y <;> simp_all [BEq.comm]

theorem option_beq_trans (h : (x == y) = true) (h' : (y == z) = true) : (x == z) = true := by
  cases x <;> cases y <;> cases z <;> simp_all
  exact BEq.trans h h'

end

/-! ## What an entry shows -/

namespace ResultFields

variable {ε : Type} {r r' : ResultFields ε} {c : CallerConditions} {h h' : PublicationHistory}
  {o : ObjectID} {a : AttemptID}

/-- The result is this value; a stored value may have lost its replicas. -/
def Shows [BEq ε] (r : ResultFields ε) : Outcome ε → Prop
  | .inline data => r.state = .readyInline ∧ r.inlineData = some data
  | .stored d => (r.state = .readyStored ∨ r.state = .lost) ∧
      ∃ d', r.canonicalStoredResult = some d' ∧ SameIntegrity d d'
  | .error x => r.state = .error ∧ (r.error == x) = true

/-- The output of the attempt was published and is retired. -/
structure Withdrawn (h : PublicationHistory) (o : ObjectID) (r : ResultFields ε) : Prop where
  lost : r.state = .lost
  canonical : r.canonicalStoredResult = none
  free : r.outputPublication = none
  retired : ¬ r.Unretired h o

variable {v : Outcome ε}

theorem Shows.settled [BEq ε] (hr : r.Shows v) : r.state ≠ .pending := by
  cases v with
  | inline data => simp [hr.1]
  | stored d => rcases hr.1 with hs | hs <;> simp [hs]
  | error x => simp [hr.1]

theorem Shows.agrees [BEq ε] [EquivBEq ε] {w : Outcome ε} (hv : r.Shows v) (hw : r.Shows w) :
    v.Agrees w := by
  cases v with
  | inline data =>
    cases w with
    | inline data' => exact Option.some_inj.mp (hv.2.symm.trans hw.2)
    | stored d => rcases hw.1 with hs | hs <;> simp [hv.1] at hs
    | error x => simp [hv.1, Shows] at hw
  | stored d =>
    obtain ⟨hstate, d₁, hd₁, hsame⟩ := hv
    cases w with
    | inline data => rcases hstate with hs | hs <;> simp [hs, Shows] at hw
    | stored d' =>
      obtain ⟨_, d₂, hd₂, hsame'⟩ := hw
      cases hd₁.symm.trans hd₂
      exact hsame.trans hsame'.symm
    | error x => rcases hstate with hs | hs <;> simp [hs, Shows] at hw
  | error x =>
    cases w with
    | inline data => simp [hv.1, Shows] at hw
    | stored d => rcases hw.1 with hs | hs <;> simp [hv.1] at hs
    | error y => exact option_beq_trans (option_beq_symm hv.2) hw.2

theorem Withdrawn.not_shows [BEq ε] (hr : r.Withdrawn h o) : ¬ r.Shows v := by
  intro hv
  cases v with
  | inline data => simp [Shows, hr.lost] at hv
  | stored d =>
    obtain ⟨_, d', hd', _⟩ := hv
    simp [hr.canonical] at hd'
  | error x => simp [Shows, hr.lost] at hv

theorem StartsOver.renews {next : AttemptID} (hr : r.StartsOver next) (hp : r.state ≠ .pending) :
    r.currentAttempt ≠ some next := by
  intro ha
  rcases hr.later next ha with hlt | ⟨_, hpending⟩
  · exact absurd hlt (lt_irrefl _)
  · exact hp hpending

theorem Withdrawn.move (hr : r.Withdrawn h o)
    (hmono : h.retiredOutputAttempts ⊆ h'.retiredOutputAttempts) (hv : c.validated)
    (ho : c.ordered) (hm : ResultMove c h h' o r r') (ha : r'.currentAttempt = r.currentAttempt) :
    r'.Withdrawn h' o := by
  have hlost := hr.lost
  have hretired : ¬ r.Unretired h' o := fun hu => hr.retired fun a hc hm => hu a hc (hmono hm)
  cases hm with
  | same => exact ⟨hlost, hr.canonical, hr.free, hretired⟩
  | advanced next free vacant renewed ordered =>
    exact absurd ha.symm ((ordered ho).renews (by simp [hlost]))
  | publishedInline data put edges state => simp [hlost] at state
  | republishedInline state => simp [hlost] at state
  | publishedStored node canonical put edges state locations unretired =>
    exact absurd unretired hr.retired
  | replicated node canonical state => simp [hlost] at state
  | republishedStored node state => simp [hlost] at state
  | forgotReplica node => exact ⟨by simp [hlost], hr.canonical, hr.free, hretired⟩
  | lost state => simp [hlost] at state
  | failed error canonical state => simp [hlost] at state
  | assigned r' trust => exact absurd hv trust
  | adopted envelope output attempt pristine =>
    have hpending := pristine.pending
    simp [hlost] at hpending
  | keptInline manifest data output attempt member tier canonical produced unretired =>
    exact absurd unretired hr.retired
  | keptStored manifest unavailable member => simp [hr.free] at member
  | discarded a completed attempt named retired pristine =>
    cases completed with
    | true => exact ⟨rfl, rfl, rfl, hretired⟩
    | false =>
      have hpending := (pristine rfl).1.pending
      simp [hlost] at hpending
  | retiring => exact ⟨hlost, hr.canonical, hr.free, hretired⟩
  | retired a state => exact ⟨state, rfl, rfl, hretired⟩
  | edged => exact ⟨hlost, hr.canonical, hr.free, hretired⟩

/-- What a call must keep of an error it assigns again. -/
def RestatesEqually [BEq ε] (c : CallerConditions) (r r' : ResultFields ε) : Prop :=
  c.restates → r.state = .error → (r'.error == r.error) = true

theorem Shows.move [BEq ε] [EquivBEq ε] (hr : r.Shows v) (hv : c.validated) (ho : c.ordered)
    (hi : c.identical) (hb : c.bytes) (he : RestatesEqually c r r') (hm : ResultMove c h h' o r r')
    (ha : r'.currentAttempt = r.currentAttempt) : r'.Shows v ∨ r'.Withdrawn h' o := by
  have hsettled := hr.settled
  have hkept : ∀ r₁ : ResultFields ε, r₁.state = r.state → r₁.inlineData = r.inlineData →
      r₁.canonicalStoredResult = r.canonicalStoredResult → r₁.error = r.error → r₁.Shows v := by
    intro r₁ hstate hinline hcanonical herror
    cases v <;> simpa only [Shows, hstate, hinline, hcanonical, herror] using hr
  cases hm with
  | same => exact .inl hr
  | advanced next free vacant renewed ordered =>
    exact absurd ha.symm ((ordered ho).renews hsettled)
  | publishedInline data put edges state => exact absurd state hsettled
  | republishedInline state =>
    cases v with
    | inline data => exact .inl hr
    | stored d => rcases hr.1 with hs | hs <;> simp [state] at hs
    | error x => simp [Shows, state] at hr
  | publishedStored node canonical put edges state locations unretired integrity =>
    have hlost : r.state = .lost := state.resolve_left hsettled
    cases v with
    | inline data => simp [Shows, hlost] at hr
    | stored d =>
      obtain ⟨_, d₁, hd₁, hsame⟩ := hr
      obtain ⟨d₂, hd₂, hsame'⟩ := integrity hi hlost d₁ hd₁
      exact .inl ⟨.inl rfl, d₂, hd₂, hsame.trans hsame'⟩
    | error x => simp [Shows, hlost] at hr
  | replicated node canonical state epochs integrity =>
    cases v with
    | inline data => simp [Shows, state] at hr
    | stored d =>
      obtain ⟨_, d₁, hd₁, hsame⟩ := hr
      exact .inl ⟨.inl state, d₁, integrity d₁ hd₁, hsame⟩
    | error x => simp [Shows, state] at hr
  | republishedStored node state =>
    cases v with
    | inline data => simp [Shows, state] at hr
    | stored d => exact .inl hr
    | error x => simp [Shows, state] at hr
  | forgotReplica node =>
    by_cases hs : r.state = .readyStored ∧ (r.locationAttempts.erase node).items = []
    · cases v with
      | inline data => simp [Shows, hs.1] at hr
      | stored d => exact .inl ⟨.inr (if_pos hs), hr.2⟩
      | error x => simp [Shows, hs.1] at hr
    · exact .inl (hkept _ (if_neg hs) rfl rfl rfl)
  | lost state =>
    cases v with
    | inline data => simp [Shows, state] at hr
    | stored d => exact .inl ⟨.inr rfl, hr.2⟩
    | error x => simp [Shows, state] at hr
  | failed error canonical state =>
    rcases state with ⟨hpending, _⟩ | ⟨herror, hrestates⟩
    · exact absurd hpending hsettled
    · cases v with
      | inline data => simp [Shows, herror] at hr
      | stored d => rcases hr.1 with hs | hs <;> simp [herror] at hs
      | error x => exact .inl ⟨rfl, option_beq_trans (he hrestates herror) hr.2⟩
  | assigned r' trust => exact absurd hv trust
  | adopted envelope output attempt pristine => exact absurd pristine.pending hsettled
  | keptInline manifest data output attempt member tier canonical produced unretired state
      bytes =>
      have hinline : r.state = .readyInline := state.resolve_left hsettled
      cases v with
      | inline known => exact .inl ⟨rfl, congrArg some (bytes hb known hr.2)⟩
      | stored d => rcases hr.1 with hs | hs <;> simp [hinline] at hs
      | error x => simp [Shows, hinline] at hr
  | keptStored manifest unavailable member epochs state =>
    cases v with
    | inline data => rcases state with hs | hs <;> simp [Shows, hs] at hr
    | stored d =>
      refine .inl ⟨?_, hr.2⟩
      dsimp only
      split
      · exact .inr rfl
      · exact .inl rfl
    | error x => rcases state with hs | hs <;> simp [Shows, hs] at hr
  | discarded a completed attempt named retired pristine =>
    cases completed with
    | true =>
      exact .inr ⟨rfl, rfl, rfl, fun hu => hu a attempt (retired rfl)⟩
    | false => exact absurd (pristine rfl).1.pending hsettled
  | retiring => exact .inl (hkept _ rfl rfl rfl rfl)
  | retired a state attempt named retired =>
    exact .inr ⟨state, rfl, rfl, fun hu => hu a attempt retired⟩
  | edged => exact .inl (hkept _ rfl rfl rfl rfl)

end ResultFields

end MiniRay
