import MiniRay.Node.ReportRuns

/-! The control plane never goes back to an older availability. A version that was sent is sent
again with the same payload only while no section changes the root without advancing it. -/

namespace MiniRay

open Run

namespace ResourceReporting

variable {s : ResourceReporting}

/-! ## The history behind the values -/

@[simp] theorem register_time (s : ResourceReporting) (registrationEpoch : Nat) (lost : Bool) :
    (s.register registrationEpoch lost).time = s.time :=
  (s.register_frame registrationEpoch lost).2.2.1

theorem beginFlush_time (s : ResourceReporting) : s.beginFlush.time = s.time := by
  have hbegun := s.beginFlush_begun
  generalize s.beginFlush = after at hbegun
  cases hbegun <;> rfl

theorem serve_time (s : ResourceReporting) (index : Nat) : (s.serve index).time = s.time := by
  unfold serve
  split <;> rfl

theorem endFlush_time (s : ResourceReporting) (lost : Bool) : (s.endFlush lost).time = s.time := by
  unfold endFlush
  split
  · rfl
  · dsimp only
    split
    · split <;> rfl
    · rfl

theorem endFlush_record (s : ResourceReporting) (lost : Bool) :
    (s.endFlush lost).record = s.record := by
  unfold endFlush
  split
  · rfl
  · dsimp only
    split
    · split <;> rfl
    · rfl

theorem endFlush_sent (s : ResourceReporting) (lost : Bool) :
    (s.endFlush lost).sent = s.sent := by
  unfold endFlush
  split
  · rfl
  · dsimp only
    split
    · split <;> rfl
    · rfl

theorem step_time (s : ResourceReporting) (action : Action) :
    (s.step action).time = s.time + 1 := by
  cases action with
  | register registrationEpoch lost =>
    exact congrArg (· + 1) (s.register_time registrationEpoch lost)
  | enter entry => rfl
  | beginFlush => exact congrArg (· + 1) s.beginFlush_time
  | serve index => exact congrArg (· + 1) (s.serve_time index)
  | endFlush lost => exact congrArg (· + 1) (s.endFlush_time lost)

theorem run_time (s : ResourceReporting) (actions : List Action) :
    (run step s actions).time = s.time + actions.length := by
  induction actions using List.reverseRecOn with
  | nil => rfl
  | append_singleton actions action ih =>
    rw [run_concat, step_time, ih, List.length_append, List.length_singleton, Nat.add_assoc]

/-- Every payload is what the root had when it was read. -/
structure Faithful (read : Nat → ResourceVector) (s : ResourceReporting) : Prop where
  sent : ∀ report ∈ s.sent, report.availableResources = read report.readAt
  record : ∀ record, s.record = some record → record.availableResources = read record.readAt

theorem Faithful.step {read : Nat → ResourceVector} (h : Faithful read s) (hinv : s.Inv)
    (hnow : s.node.available = read s.time) (action : Action) : Faithful read (s.step action) := by
  cases action with
  | register registrationEpoch lost =>
    have hsent := (s.register_frame registrationEpoch lost).1
    refine ⟨fun report hmem => h.sent report (hsent ▸ hmem), ?_⟩
    intro record hrecord
    rcases s.register_record registrationEpoch lost with hkept | ⟨_, hnew⟩
    · exact h.record record (hkept ▸ hrecord)
    · cases hnew.symm.trans hrecord
      exact hnow
  | enter entry => exact ⟨h.sent, h.record⟩
  | beginFlush =>
    have hbegun := s.beginFlush_begun
    change Faithful read s.beginFlush.tick
    generalize s.beginFlush = after at hbegun
    cases hbegun with
    | idle => exact ⟨h.sent, h.record⟩
    | sent report free pending registered hread =>
      refine ⟨?_, h.record⟩
      intro a ha
      rcases List.mem_append.mp ha with ha | ha
      · exact h.sent a ha
      · cases List.mem_singleton.mp ha
        rw [hread]
        exact hnow
  | serve index =>
    have hserves := hinv.serves index
    change Faithful read (s.serve index).tick
    generalize s.serve index = after at hserves
    cases hserves with
    | idle => exact ⟨h.sent, h.record⟩
    | refused report => exact ⟨h.sent, h.record⟩
    | replayed report record mem recorded same equal => exact ⟨h.sent, h.record⟩
    | applied report record record' mem recorded result newer =>
      refine ⟨h.sent, ?_⟩
      intro latest hlatest
      cases hlatest
      rw [result]
      exact h.sent report mem
  | endFlush lost =>
    change Faithful read (s.endFlush lost).tick
    unfold endFlush
    split
    · exact ⟨h.sent, h.record⟩
    · dsimp only
      split
      · split <;> exact ⟨h.sent, h.record⟩
      · exact ⟨h.sent, h.record⟩

/-- What the root had before each action of a run. -/
def history (start : ResourceReporting) (actions : List Action) (time : Nat) : ResourceVector :=
  (run step start (actions.take time)).node.available

theorem faithful_take (nodePid : Nat) (total : ResourceVector) (actions : List Action)
    (count : Nat) : Faithful (history (new nodePid total) actions)
      (run ResourceReporting.step (new nodePid total) (actions.take count)) := by
  induction count with
  | zero => exact ⟨nofun, nofun⟩
  | succ count ih =>
    by_cases hlt : count < actions.length
    · rw [List.take_succ_eq_append_getElem hlt, run_concat]
      refine ih.step (inv_run nodePid total _) ?_ _
      rw [run_time, List.length_take, Nat.min_eq_left (Nat.le_of_lt hlt)]
      change _ = history (new nodePid total) actions (0 + count)
      rw [Nat.zero_add]
      rfl
    · rw [List.take_of_length_le (by omega)] at ih ⊢
      exact ih

/-! ## Versions that are paid for -/

/-- One version stands for one payload, and for the present one as long as it may be sent. -/
structure Paid (s : ResourceReporting) : Prop where
  same : ∀ a ∈ s.sent, ∀ b ∈ s.sent, a.reportSeq = b.reportSeq →
    a.availableResources = b.availableResources
  current : ∀ a ∈ s.sent, a.reportSeq = s.node.resourceReportVersion →
    s.node.resourceReportedVersion < s.node.resourceReportVersion →
    a.availableResources = s.node.available

/-- A section that changes the root advances the version, unless no flush can resend it. -/
def Regular (s : ResourceReporting) : Action → Prop
  | .enter entry =>
    (s.node.enter entry).available = s.node.available ∨
      s.node.resourceReportVersion < (s.node.enter entry).resourceReportVersion ∨
      s.node.resourceReportVersion ≤ s.node.resourceReportedVersion ∨
      ∀ report ∈ s.sent, report.reportSeq ≠ s.node.resourceReportVersion
  | .endFlush false => ∀ flight, s.flight = some flight → flight.reply = some true →
      s.node.available = flight.report.availableResources
  | _ => True

theorem Paid.step (h : s.Paid) (hinv : s.Inv) {action : Action} (hregular : s.Regular action) :
    (s.step action).Paid := by
  cases action with
  | register registrationEpoch lost =>
    obtain ⟨hsent, _, _, hroot, _, hversion, hreported⟩ :=
      s.register_frame registrationEpoch lost
    refine ⟨?_, ?_⟩
    · intro a ha b hb
      exact h.same a (hsent ▸ ha) b (hsent ▸ hb)
    · intro a ha hseq hpending
      change a.reportSeq = (s.register registrationEpoch lost).node.resourceReportVersion at hseq
      change _ = (s.register registrationEpoch lost).node.root.publicAvailable
      change (s.register registrationEpoch lost).node.resourceReportedVersion <
        (s.register registrationEpoch lost).node.resourceReportVersion at hpending
      rw [hversion] at hseq hpending
      rw [hreported] at hpending
      rw [hroot]
      exact h.current a (hsent ▸ ha) hseq hpending
  | enter entry =>
    have henters := s.node.enters entry
    refine ⟨h.same, ?_⟩
    intro a ha hseq hpending
    change a.reportSeq = (s.node.enter entry).resourceReportVersion at hseq
    change (s.node.enter entry).resourceReportedVersion <
      (s.node.enter entry).resourceReportVersion at hpending
    change _ = (s.node.enter entry).available
    have hversion := (hinv.sent a ha).version
    have hadvance := henters.version
    rw [henters.reported] at hpending
    have hsame : a.reportSeq = s.node.resourceReportVersion := by omega
    rcases hregular with hkept | hadvanced | hreported | hunsent
    · rw [hkept]
      exact h.current a ha hsame (by omega)
    · omega
    · omega
    · exact absurd hsame (hunsent a ha)
  | beginFlush =>
    have hbegun := s.beginFlush_begun
    change s.beginFlush.tick.Paid
    generalize s.beginFlush = after at hbegun
    cases hbegun with
    | idle => exact ⟨h.same, h.current⟩
    | sent report free pending registered hread =>
      have hagrees : ∀ a ∈ s.sent, a.reportSeq = report.reportSeq →
          a.availableResources = report.availableResources := by
        intro a ha hseq
        rw [hread] at hseq ⊢
        exact h.current a ha hseq pending
      refine ⟨?_, ?_⟩
      · intro a ha b hb hseq
        rcases List.mem_append.mp ha with ha | ha
        · rcases List.mem_append.mp hb with hb | hb
          · exact h.same a ha b hb hseq
          · cases List.mem_singleton.mp hb
            exact hagrees a ha hseq
        · cases List.mem_singleton.mp ha
          rcases List.mem_append.mp hb with hb | hb
          · exact (hagrees b hb hseq.symm).symm
          · cases List.mem_singleton.mp hb
            rfl
      · intro a ha hseq _
        rcases List.mem_append.mp ha with ha | ha
        · exact h.current a ha hseq pending
        · cases List.mem_singleton.mp ha
          rw [hread]
          rfl
  | serve index =>
    have hserves := hinv.serves index
    change (s.serve index).tick.Paid
    generalize s.serve index = after at hserves
    cases hserves with
    | idle => exact ⟨h.same, h.current⟩
    | refused report => exact ⟨h.same, h.current⟩
    | replayed report record mem recorded same equal => exact ⟨h.same, h.current⟩
    | applied report record record' mem recorded result newer => exact ⟨h.same, h.current⟩
  | endFlush lost =>
    change (s.endFlush lost).tick.Paid
    unfold endFlush
    split
    · exact ⟨h.same, h.current⟩
    · dsimp only
      split
      · split
        · exact ⟨h.same, h.current⟩
        · refine ⟨h.same, fun a ha hseq hpending => h.current a ha hseq ?_⟩
          exact Nat.lt_of_le_of_lt (Nat.le_max_left _ _) hpending
      · exact ⟨h.same, h.current⟩

theorem paid_run {nodePid : Nat} {total : ResourceVector} {actions : List Action}
    (h : Admissible ResourceReporting.step Regular (new nodePid total) actions) :
    (run ResourceReporting.step (new nodePid total) actions).Paid := by
  have hboth : (run ResourceReporting.step (new nodePid total) actions).Inv ∧
      (run ResourceReporting.step (new nodePid total) actions).Paid :=
    h.invariant (p := fun s => s.Inv ∧ s.Paid)
      (fun _ action hregular hs => ⟨hs.1.step action, hs.2.step hs.1 hregular⟩)
      ⟨inv_new nodePid total, nofun, nofun⟩
  exact hboth.2

theorem Inv.not_reused (h : s.Inv) (hpaid : s.Paid) {report : UpdateNodeResources}
    (hmem : report ∈ s.sent) :
    (NodeResources.updateResources s.record report).1 ≠ .error NodeResources.reusedSequence := by
  obtain ⟨record, hrecord, hof, hserved⟩ := h.served hmem
  generalize NodeResources.updateResources s.record report = result at hserved
  cases hserved with
  | stale older => exact fun h => absurd (Except.error.inj h) (by decide)
  | reused same other =>
    rcases hof.origin with ⟨hzero, _⟩ | ⟨a, ha, hseq, hvalue, _⟩
    · have hpositive := (h.sent report hmem).positive
      omega
    · have hequal := hpaid.same report hmem a ha (same.trans hseq)
      exact absurd (hequal.trans hvalue.symm) other
  | replayed same equal => nofun
  | applied newer => nofun

variable {flight : ReportFlight}

theorem Inv.accepts (h : s.Inv) (hpaid : s.Paid) (hflight : s.flight = some flight) :
    ∃ applied, (NodeResources.updateResources s.record flight.report).1 = .ok applied := by
  have hof := h.flight flight hflight
  have hreused := h.not_reused hpaid hof.sent
  obtain ⟨record, hrecord, _, hserved⟩ := h.served hof.sent
  have hlatest := h.latest_ge hof.latest hrecord
  generalize NodeResources.updateResources s.record flight.report = result at hreused hserved
  cases hserved with
  | stale older => omega
  | reused same other => exact absurd rfl hreused
  | replayed same equal => exact ⟨false, rfl⟩
  | applied newer => exact ⟨true, rfl⟩

theorem Inv.step_newer (h : s.Inv) (action : Action) {record record' : NodeResources}
    (hrecord : s.record = some record) (hrecord' : (s.step action).record = some record') :
    record' = record ∨ Newer record record' := by
  have hkept : (s.step action).record = s.record → record' = record := by
    intro hsame
    exact Option.some.inj (hrecord'.symm.trans (hsame.trans hrecord))
  cases action with
  | register registrationEpoch lost =>
    left
    apply hkept
    rcases s.register_record registrationEpoch lost with hsame | ⟨hnone, _⟩
    · exact hsame
    · rw [hrecord] at hnone
      cases hnone
  | enter entry => exact .inl (hkept rfl)
  | beginFlush =>
    left
    apply hkept
    have hbegun := s.beginFlush_begun
    change s.beginFlush.record = s.record
    generalize s.beginFlush = after at hbegun
    cases hbegun <;> rfl
  | serve index =>
    have hserves := h.serves index
    change (s.serve index).record = some record' at hrecord'
    generalize s.serve index = after at hserves hrecord'
    cases hserves with
    | idle => exact .inl (Option.some.inj (hrecord'.symm.trans hrecord))
    | refused report => exact .inl (Option.some.inj (hrecord'.symm.trans hrecord))
    | replayed report old mem recorded same equal =>
      exact .inl (Option.some.inj (hrecord'.symm.trans hrecord))
    | applied report old latest mem recorded result newer =>
      cases hrecord.symm.trans recorded
      cases hrecord'
      exact .inr newer
  | endFlush lost => exact .inl (hkept (s.endFlush_record lost))

/-! ## After a confirmed flush -/

/-- The record has the value, and whatever may replace it has the value too. -/
structure Settled (value : ResourceVector) (s : ResourceReporting) : Prop where
  record : ∃ record, s.record = some record ∧ record.availableResources = value ∧
    ∀ report ∈ s.sent, record.resourceReportSeq < report.reportSeq →
      report.availableResources = value

variable {value : ResourceVector}

theorem Settled.congr {after : ResourceReporting} (h : Settled value s)
    (hrecord : after.record = s.record) (hsent : after.sent = s.sent) : Settled value after := by
  obtain ⟨record, hold, hvalue, hlater⟩ := h.record
  exact ⟨record, hrecord.trans hold, hvalue, hsent ▸ hlater⟩

theorem Settled.step (h : Settled value s) (hinv : s.Inv) (hsame : s.node.available = value)
    (action : Action) : Settled value (s.step action) := by
  obtain ⟨record, hrecord, hvalue, hlater⟩ := h.record
  cases action with
  | register registrationEpoch lost =>
    refine h.congr ?_ (s.register_frame registrationEpoch lost).1
    rcases s.register_record registrationEpoch lost with hkept | ⟨hnone, _⟩
    · exact hkept
    · rw [hrecord] at hnone
      cases hnone
  | enter entry => exact h.congr rfl rfl
  | beginFlush =>
    have hbegun := s.beginFlush_begun
    change Settled value s.beginFlush.tick
    generalize s.beginFlush = after at hbegun
    cases hbegun with
    | idle => exact h.congr rfl rfl
    | sent report free pending registered hread =>
      refine ⟨record, hrecord, hvalue, ?_⟩
      intro a ha hlt
      rcases List.mem_append.mp ha with ha | ha
      · exact hlater a ha hlt
      · cases List.mem_singleton.mp ha
        rw [hread]
        exact hsame
  | serve index =>
    have hserves := hinv.serves index
    change Settled value (s.serve index).tick
    generalize s.serve index = after at hserves
    cases hserves with
    | idle => exact h.congr rfl rfl
    | refused report => exact h.congr rfl rfl
    | replayed report record mem recorded same equal => exact h.congr rfl rfl
    | applied report old record' mem recorded result newer =>
      cases hrecord.symm.trans recorded
      have hlt := newer.seq
      refine ⟨record', rfl, ?_, fun a ha hnewer => hlater a ha (Nat.lt_trans hlt hnewer)⟩
      rw [result] at hlt ⊢
      exact hlater report mem hlt
  | endFlush lost => exact h.congr (s.endFlush_record lost) (s.endFlush_sent lost)

theorem Inv.settles (h : s.Inv) (hflight : s.flight = some flight)
    (hreply : flight.reply = some true) :
    Settled flight.report.availableResources (s.step (.endFlush false)) := by
  have hof := h.flight flight hflight
  obtain ⟨record, hrecord, hseq, hvalue⟩ := hof.confirmed hreply
  have hsettled : Settled flight.report.availableResources s := by
    refine ⟨record, hrecord, hvalue, ?_⟩
    intro report hmem hlt
    have hle := hof.latest report hmem
    omega
  exact hsettled.congr (s.endFlush_record false) (s.endFlush_sent false)

theorem Settled.run (h : Settled value s) (hinv : s.Inv) {later : List Action}
    (hconstant : ∀ before after, later = before ++ after →
      (run ResourceReporting.step s before).node.available = value) :
    Settled value (run ResourceReporting.step s later) := by
  have hadmissible : Admissible ResourceReporting.step (fun s _ => s.node.available = value)
      s later :=
    admissible_iff.mpr fun before action after hsplit => hconstant before _ hsplit
  have hboth : (Run.run ResourceReporting.step s later).Inv ∧
      Settled value (Run.run ResourceReporting.step s later) :=
    hadmissible.invariant (p := fun s => s.Inv ∧ Settled value s)
      (fun _ action hsame hs => ⟨hs.1.step action, hs.2.step hs.1 hsame action⟩) ⟨hinv, h⟩
  exact hboth.2

end ResourceReporting

open ResourceReporting

/-- What a Node and the control plane know of each other's reports. -/
structure ReportSpec (nodePid : Nat) (total : ResourceVector) : Prop where
  newer : ∀ actions action record record',
    (run step (new nodePid total) actions).record = some record →
    (run step (new nodePid total) (actions ++ [action])).record = some record' →
    record' = record ∨ Newer record record'
  read : ∀ actions record, (run step (new nodePid total) actions).record = some record →
    record.readAt < actions.length ∧
      record.availableResources = history (new nodePid total) actions record.readAt
  neverReused : ∀ actions, Admissible step Regular (new nodePid total) actions →
    ∀ report ∈ (run step (new nodePid total) actions).sent,
      (NodeResources.updateResources (run step (new nodePid total) actions).record report).1 ≠
        .error NodeResources.reusedSequence
  accepted : ∀ actions, Admissible step Regular (new nodePid total) actions →
    ∀ flight, (run step (new nodePid total) actions).flight = some flight → ∃ applied,
      (NodeResources.updateResources (run step (new nodePid total) actions).record
        flight.report).1 = .ok applied
  converged : ∀ actions flight later,
    Admissible step Regular (new nodePid total) (actions ++ .endFlush false :: later) →
    (run step (new nodePid total) actions).flight = some flight → flight.reply = some true →
    (∀ before after, later = before ++ after →
      (run step (new nodePid total) (actions ++ .endFlush false :: before)).node.available =
        (run step (new nodePid total) actions).node.available) →
    ((run step (new nodePid total) (actions ++ .endFlush false :: later)).record.map
        NodeResources.availableResources) =
      some (run step (new nodePid total) (actions ++ .endFlush false :: later)).node.available

namespace ResourceReporting.Sample

def cpu : ResourceVector := .oneCpu

def identity : BlockingIdentity := ⟨⟨5⟩, ⟨6⟩, ⟨⟨6⟩, 0⟩, ⟨3⟩⟩

/-- A lease takes the CPU and the reply to its report is lost; then the lease blocks. -/
def actions : List Action :=
  [.register 1 false, .enter (.grant ⟨5⟩ identity none cpu ⟨"grant", by decide⟩ false),
    .enter (.start ⟨5⟩), .beginFlush, .serve 0, .endFlush true,
    .enter (.notify ⟨5⟩ ⟨.blocked, identity, 0⟩),
    .beginFlush]

end ResourceReporting.Sample

end MiniRay
