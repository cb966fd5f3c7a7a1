import MiniRay.Actor.Order

/-! What the actor started and completed along a run, caller by caller and generation by generation.
-/

namespace MiniRay.ActorMailbox

open Run

variable {π φ ρ : Type} {m : ActorMailbox π φ ρ} {started : WorkerID → List Int}

/-- The sequence numbers a caller had started in one generation, oldest first. -/
def startedIn (h : List (Event π φ ρ)) (generation : ActorGeneration) (caller : WorkerID) :
    List Int :=
  h.filterMap fun event =>
    match event with
    | .started call =>
      if call.generation = generation ∧ call.callerId = caller then some call.sequence else none
    | .completed _ _ => none

@[simp] theorem startedIn_nil (g : ActorGeneration) :
    startedIn ([] : List (Event π φ ρ)) g = fun _ => [] := rfl

theorem startedIn_append (h h' : List (Event π φ ρ)) (g : ActorGeneration) (c : WorkerID) :
    startedIn (h ++ h') g c = startedIn h g c ++ startedIn h' g c := by
  simp [startedIn, List.filterMap_append]

variable {h : List (Event π φ ρ)}

theorem startedIn_of_ne {g : ActorGeneration} (hne : ∀ event ∈ h, event.call.generation ≠ g)
    (c : WorkerID) : startedIn h g c = [] := by
  rw [startedIn, List.filterMap_eq_nil_iff]
  intro event hevent
  have hg := hne event hevent
  cases event with
  | started call => simp [show call.generation ≠ g from hg]
  | completed call result => rfl

/-! ## One step -/

/-- A step within a generation. -/
structure Works (m m' : ActorMailbox π φ ρ) (es : List (Event π φ ρ))
    (started : WorkerID → List Int) : Prop where
  leaves : m.Leaves m' fun c => started c ++ startedIn es m.generation c
  own : ∀ event ∈ es, event.call.generation = m.generation
  recorded : ∀ call result, .completed call result ∈ es → ∃ r,
    m'.records.get? call.key = some r ∧ r.state = .completed ∧ r.result = some result

variable {m' : ActorMailbox π φ ρ}

theorem Leaves.works (h : m.Leaves m' started) : m.Works m' [] started :=
  ⟨by simpa using h, by simp, by simp⟩

/-- A step that abandons the generation. -/
structure Fences (m m' : ActorMailbox π φ ρ) (es : List (Event π φ ρ)) : Prop where
  newer : m.generation.generation < m'.generation.generation
  quiet : es = []
  sound : m'.Sound none fun _ => []

theorem advanceGeneration_spec (m : ActorMailbox π φ ρ) (g : ActorGeneration) :
    (∃ raised, m.advanceGeneration g = (.error raised, m)) ∨
      m.Fences (m.advanceGeneration g).2 [] := by
  unfold advanceGeneration
  split
  · next hactor =>
      split
      · exact .inl ⟨_, rfl⟩
      · next hnewer =>
          refine .inr ⟨by simpa using hnewer, rfl, ?_⟩
          have hinitial := sound_initial (π := π) (φ := φ) (ρ := ρ) g
          simpa [initial, hactor] using hinitial
  · exact .inl ⟨_, rfl⟩

variable [Payload π] [BEq φ]

theorem step_spec (hm : m.Sound none started) (op : Op π φ ρ) :
    m.Works (m.step op) (m.events op) started ∨ m.Fences (m.step op) (m.events op) := by
  cases op with
  | submitCall call => exact .inl (submitCall_leaves call hm).works
  | takeNext =>
    rcases takeNext_spec hm with hnone | ⟨call, htake, hgeneration, hleaves⟩
    · have hsame : m.step .takeNext = m := congrArg Prod.snd hnone
      have hquiet : m.events .takeNext = [] := by simp [events, hnone]
      rw [hsame, hquiet]
      exact .inl (Leaves.refl hm).works
    · have hstep : m.step .takeNext = m.takeNext.2 := rfl
      have hevent : m.events .takeNext = [.started call] := by simp [events, htake]
      rw [hevent, hstep]
      refine .inl ⟨?_, by simp [Event.call, hgeneration], by simp⟩
      have hstarted : ∀ c, startedIn [(.started call : Event π φ ρ)] m.generation c =
          if call.callerId = c then [call.sequence] else [] := by
        intro c
        by_cases hc : call.callerId = c <;> simp [startedIn, hgeneration, hc]
      simpa only [hstarted] using hleaves
  | completeCurrent result =>
    rcases completeCurrent_spec hm result with
      hnone | ⟨call, r, hdone, hgeneration, hleaves, hr, hstate, hresult⟩
    · have hsame : m.step (.completeCurrent result) = m := congrArg Prod.snd hnone
      have hquiet : m.events (.completeCurrent result) = [] := by simp [events, hnone]
      rw [hsame, hquiet]
      exact .inl (Leaves.refl hm).works
    · have hstep : m.step (.completeCurrent result) = (m.completeCurrent result).2 := rfl
      have hevent : m.events (.completeCurrent result) = [.completed call result] := by
        simp [events, hdone]
      rw [hevent, hstep]
      refine .inl ⟨by simpa [startedIn] using hleaves, by simp [Event.call, hgeneration], ?_⟩
      intro call' result' hmem
      rw [List.mem_singleton, Event.completed.injEq] at hmem
      rw [hmem.1, hmem.2]
      exact ⟨r, hr, hstate, hresult⟩
  | advanceGeneration g =>
    rcases advanceGeneration_spec m g with ⟨raised, hsame⟩ | hfences
    · have hstep : m.step (.advanceGeneration g) = m := congrArg Prod.snd hsame
      rw [hstep]
      exact .inl (Leaves.refl hm).works
    · exact .inr hfences

/-! ## Runs -/

structure Faithful (h : List (Event π φ ρ)) (m : ActorMailbox π φ ρ) : Prop where
  sound : m.Sound none (startedIn h m.generation)
  fifo : ∀ g c, startedIn h g c = upTo (startedIn h g c).length
  past : ∀ event ∈ h, event.call.generation.generation ≤ m.generation.generation
  results : ∀ call result, .completed call result ∈ h → call.generation = m.generation →
    ∃ r, m.records.get? call.key = some r ∧ r.state = .completed ∧ r.result = some result

variable {es : List (Event π φ ρ)}

omit [Payload π] [BEq φ] in
theorem Faithful.works (hf : Faithful h m) (hw : m.Works m' es (startedIn h m.generation)) :
    Faithful (h ++ es) m' := by
  have hgeneration := hw.leaves.generation
  have hsound : m'.Sound none (startedIn (h ++ es) m'.generation) := by
    rw [hgeneration]
    simpa only [← startedIn_append] using hw.leaves.sound
  refine ⟨hsound, ?_, ?_, ?_⟩
  · intro g c
    by_cases hg : g = m'.generation
    · subst hg
      exact length_upTo (hsound.order c)
    · have hnone : startedIn es g c = [] := by
        refine startedIn_of_ne ?_ c
        intro event hevent heq
        exact hg ((heq.symm.trans (hw.own event hevent)).trans hgeneration.symm)
      rw [startedIn_append, hnone, List.append_nil]
      exact hf.fifo g c
  · intro event hevent
    rw [hgeneration]
    rcases List.mem_append.mp hevent with hold | hnew
    · exact hf.past event hold
    · rw [hw.own event hnew]
  · intro call result hevent hcall
    rcases List.mem_append.mp hevent with hold | hnew
    · obtain ⟨r, hr, hstate, hresult⟩ := hf.results call result hold (hcall.trans hgeneration)
      exact ⟨r, hw.leaves.results _ r hr hstate, hstate, hresult⟩
    · exact hw.recorded call result hnew

omit [Payload π] [BEq φ] in
theorem Faithful.fences (hf : Faithful h m) (hw : m.Fences m' es) : Faithful (h ++ es) m' := by
  have hnewer := hw.newer
  rw [hw.quiet, List.append_nil]
  have hold : ∀ event ∈ h, event.call.generation ≠ m'.generation := by
    intro event hevent heq
    have hpast := hf.past event hevent
    rw [heq] at hpast
    omega
  have hnone := fun c => startedIn_of_ne hold c
  refine ⟨?_, hf.fifo, ?_, ?_⟩
  · have heq : startedIn h m'.generation = fun _ => [] := funext hnone
    rw [heq]
    exact hw.sound
  · intro event hevent
    have hpast := hf.past event hevent
    omega
  · intro call result hevent hcall
    exact absurd hcall (hold _ hevent)

def history (generation : ActorGeneration) (ops : List (Op π φ ρ)) : List (Event π φ ρ) :=
  outputs step events (initial generation) ops

theorem faithful_run (generation : ActorGeneration) (ops : List (Op π φ ρ)) :
    Faithful (history generation ops) (run step (initial generation) ops) := by
  refine outputs_invariant (p := Faithful) ?_ ?_ ops
  · intro h m op hf
    rcases step_spec hf.sound op with hw | hw
    · exact hf.works hw
    · exact hf.fences hw
  · have hsound := sound_initial (π := π) (φ := φ) (ρ := ρ) generation
    exact ⟨by simpa using hsound, by simp [upTo], by simp, by simp⟩

/-- No later event names an older generation. -/
theorem outputs_newer (hm : m.Sound none started) (ops : List (Op π φ ρ)) :
    ∀ event ∈ outputs step events m ops,
      m.generation.generation ≤ event.call.generation.generation := by
  induction ops generalizing m started with
  | nil => simp [outputs]
  | cons op ops ih =>
    intro event hevent
    rw [outputs, List.mem_append] at hevent
    rcases step_spec hm op with hw | hw
    · rcases hevent with hnow | hlater
      · rw [hw.own event hnow]
      · have hnext := ih hw.leaves.sound event hlater
        rwa [hw.leaves.generation] at hnext
    · rcases hevent with hnow | hlater
      · simp [hw.quiet] at hnow
      · exact hw.newer.le.trans (ih hw.sound event hlater)

structure Guarantees (h : List (Event π φ ρ)) (m : ActorMailbox π φ ρ) : Prop where
  /-- Each caller's calls start in order, without a gap, each at most once. -/
  fifo : ∀ g c, startedIn h g c = upTo (startedIn h g c).length
  /-- Only the current call is running. -/
  serial : ∀ key, m.callState key = some .running ↔ m.running = some key
  line : ∀ c q, (∃ s, m.callState ⟨c, q⟩ = some s ∧ s ≠ .buffered) ↔ 0 ≤ q ∧ q < m.expected c
  ahead : ∀ c q, m.callState ⟨c, q⟩ = some .buffered → m.expected c < q
  /-- A call whose key is known is answered from its record or refused. -/
  known : ∀ (call : ActorCall π φ) r, call.actorId = m.actorId → call.generation = m.generation →
    m.records.get? call.key = some r → m.submitCall call =
      (match sameLogicalCall r.call call with
        | .error raised => .error raised
        | .ok false => .error ⟨.actorCallConflict,
            "caller sequence was reused with a different call payload"⟩
        | .ok true => .ok ⟨.duplicate, [], r.result⟩, m)
  /-- The record of a completed call keeps the result it was completed with. -/
  frozen : ∀ call result, .completed call result ∈ h → call.generation = m.generation →
    ∃ r, m.records.get? call.key = some r ∧ r.result = some result
  /-- A call of another incarnation is fenced. -/
  fenced : ∀ call : ActorCall π φ, call.actorId ≠ m.actorId ∨ call.generation ≠ m.generation →
    m.submitCall call = (.ok (.of .fenced), m)

theorem Faithful.guarantees (hf : Faithful h m) : Guarantees h m := by
  refine ⟨hf.fifo, fun key => (hf.sound.running key).symm, fun c q => hf.sound.past ⟨c, q⟩, ?_, ?_,
    ?_, ?_⟩
  · intro c q hb
    have hahead := hf.sound.ahead ⟨c, q⟩ hb
    have hgap := hf.sound.gap ⟨c, q⟩ hb
    simp only [reduceCtorEq, imp_false] at hahead hgap
    omega
  · intro call r hactor hgeneration hr
    exact submitCall_known hf.sound ⟨hactor, hgeneration⟩ hr
  · intro call result hevent hgeneration
    obtain ⟨r, hr, -, hresult⟩ := hf.results call result hevent hgeneration
    exact ⟨r, hr, hresult⟩
  · intro call hother
    rw [submitCall, if_pos hother]

/-- Complete the running call and take the next one, for each result in turn. -/
def working (results : List ρ) : List (Op π φ ρ) :=
  results.flatMap fun result => [.completeCurrent result, .takeNext]

theorem working_frame (hm : m.Sound none started) (results : List ρ) :
    (∃ started', (run step m (working results)).Sound none started') ∧
      (run step m (working results)).ready = m.ready.drop results.length ∧
      (run step m (working results)).nextSequence = m.nextSequence := by
  induction results generalizing m started with
  | nil => exact ⟨⟨started, hm⟩, rfl, rfl⟩
  | cons result results ih =>
    obtain ⟨hdone, hidle, hready, hnext⟩ := completeCurrent_frame hm result
    obtain ⟨⟨started', htaken⟩, hready', hnext'⟩ := takeNext_frame hdone hidle
    have hrest := ih htaken
    rw [hready', hnext', hready, hnext, List.drop_tail] at hrest
    exact hrest

/-- Without new calls a mailbox works off its line, a call a turn: a call is completed exactly
when its number had been reached and it is not left in the line. -/
theorem mailbox_drains (generation : ActorGeneration) (ops : List (Op π φ ρ)) (results : List ρ)
    (last : ρ) : let m := run step (initial generation) ops
    let m' := run step m (working results ++ [.completeCurrent last])
    m'.ready = m.ready.drop results.length ∧ m'.running = none ∧
      ∀ key, m'.callState key = some .completed ↔
        0 ≤ key.sequence ∧ key.sequence < m.expected key.callerId ∧ key ∉ m'.ready := by
  intro m m'
  obtain ⟨⟨started, hworked⟩, hready, hnext⟩ :=
    working_frame (faithful_run generation ops).sound results
  obtain ⟨hm, hidle, hready', hnext'⟩ := completeCurrent_frame hworked last
  have hm' : m' = ((run step m (working results)).completeCurrent last).2 := run_concat ..
  rw [hm']
  refine ⟨hready'.trans hready, hidle, fun key => ?_⟩
  have hpast := hm.past key
  simp only [expected, hnext', hnext] at hpast
  rw [expected, ← and_assoc, ← hpast, hm.queued]
  have hrunning := hm.running key
  rw [hidle] at hrunning
  constructor
  · exact fun hs => ⟨⟨_, hs, by simp⟩, fun hq => by cases hs.symm.trans hq⟩
  · rintro ⟨⟨s, hs, hbuffered⟩, hqueued⟩
    cases s with
    | buffered => exact absurd rfl hbuffered
    | queued => exact absurd hs hqueued
    | running => cases hrunning.mpr hs
    | completed => exact hs

end MiniRay.ActorMailbox
