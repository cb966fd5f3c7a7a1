import MiniRay.Node.ReportSections

/-! In every run a sent report is of the Node's incarnation, the versions are in the order of the
reads, and the record is the registration or one of the reports. -/

namespace MiniRay

open Run

/-- What becomes of a report that passes the guards of the Node's incarnation. -/
inductive Served (record : NodeResources) (report : UpdateNodeResources) :
    Except String Bool × Option NodeResources → Prop
  | stale (older : report.reportSeq < record.resourceReportSeq) :
      Served record report (.error NodeResources.staleSequence, some record)
  | reused (same : report.reportSeq = record.resourceReportSeq)
      (other : report.availableResources ≠ record.availableResources) :
      Served record report (.error NodeResources.reusedSequence, some record)
  | replayed (same : report.reportSeq = record.resourceReportSeq)
      (equal : report.availableResources = record.availableResources) :
      Served record report (.ok false, some record)
  | applied (newer : record.resourceReportSeq < report.reportSeq) :
      Served record report (.ok true, some { record with
        availableResources := report.availableResources
        resourceReportSeq := report.reportSeq
        readAt := report.readAt })

theorem NodeResources.updateResources_served {record : NodeResources}
    {report : UpdateNodeResources} (halive : record.state = .alive)
    (hpid : record.nodePid = report.nodePid)
    (hepoch : record.registrationEpoch = report.registrationEpoch)
    (hfits : report.availableResources.fitsIn record.totalResources = true) :
    Served record report (updateResources (some record) report) := by
  unfold updateResources
  dsimp only
  rw [if_neg (by simp [halive]), if_neg (by simp [hpid, hepoch]), if_neg (by simp [hfits])]
  by_cases hstale : report.reportSeq < record.resourceReportSeq
  · rw [if_pos hstale]
    exact .stale hstale
  · rw [if_neg hstale]
    by_cases hsame : report.reportSeq = record.resourceReportSeq
    · rw [if_pos hsame]
      by_cases hequal : report.availableResources = record.availableResources
      · rw [if_neg (by simp [hequal])]
        exact .replayed hsame hequal
      · rw [if_pos hequal]
        exact .reused hsame hequal
    · rw [if_neg hsame]
      exact .applied (by omega)

namespace ResourceReporting

variable {s : ResourceReporting}

/-! ## The invariant of every run -/

/-- A sent report was read in the past, under a version the Node has had. -/
structure SentBy (s : ResourceReporting) (report : UpdateNodeResources) : Prop where
  positive : 0 < report.reportSeq
  version : report.reportSeq ≤ s.node.resourceReportVersion
  past : report.readAt < s.time
  nodePid : report.nodePid = s.node.nodePid
  fits : report.availableResources.fitsIn s.node.root.total = true
  epoch : s.record.map NodeResources.registrationEpoch = some report.registrationEpoch

/-- Where a record comes from: the registration or a sent report. -/
def Origin (sent : List UpdateNodeResources) (record : NodeResources) : Prop :=
  (record.resourceReportSeq = 0 ∧ ∀ report ∈ sent, record.readAt < report.readAt) ∨
    ∃ report ∈ sent, record.resourceReportSeq = report.reportSeq ∧
      record.availableResources = report.availableResources ∧ record.readAt = report.readAt

structure RecordOf (s : ResourceReporting) (record : NodeResources) : Prop where
  alive : record.state = .alive
  nodePid : record.nodePid = s.node.nodePid
  total : record.totalResources = s.node.root.total
  past : record.readAt < s.time
  origin : Origin s.sent record

/-- The open flush sent the latest report, and a positive reply is about its payload. -/
structure FlightOf (s : ResourceReporting) (flight : ReportFlight) : Prop where
  sent : flight.report ∈ s.sent
  latest : ∀ report ∈ s.sent, report.reportSeq ≤ flight.report.reportSeq
  unreported : s.node.resourceReportedVersion < flight.report.reportSeq
  confirmed : flight.reply = some true → ∃ record, s.record = some record ∧
    record.resourceReportSeq = flight.report.reportSeq ∧
    record.availableResources = flight.report.availableResources

structure Inv (s : ResourceReporting) : Prop where
  balanced : s.node.root.Balanced
  registered : s.node.registeredWithGcs = true →
    s.record.map NodeResources.registrationEpoch = some s.node.registrationEpoch
  sent : ∀ report ∈ s.sent, s.SentBy report
  ordered : s.sent.Pairwise fun a b => a.reportSeq ≤ b.reportSeq ∧ a.readAt < b.readAt
  record : ∀ record, s.record = some record → s.RecordOf record
  flight : ∀ flight, s.flight = some flight → s.FlightOf flight

theorem inv_new (nodePid : Nat) (total : ResourceVector) : (new nodePid total).Inv where
  balanced := ResourceLedger.balanced_new total
  registered := nofun
  sent := nofun
  ordered := .nil
  record := nofun
  flight := nofun

theorem Inv.tick (h : s.Inv) : s.tick.Inv where
  balanced := h.balanced
  registered := h.registered
  sent report hmem :=
    { h.sent report hmem with past := Nat.lt_succ_of_lt (h.sent report hmem).past }
  ordered := h.ordered
  record record hrecord :=
    { h.record record hrecord with past := Nat.lt_succ_of_lt (h.record record hrecord).past }
  flight flight hflight := { h.flight flight hflight with }

theorem Inv.enter (h : s.Inv) (entry : ReportingNode.Section) :
    ({ s with node := s.node.enter entry } : ResourceReporting).Inv := by
  have henters := s.node.enters entry
  have htotal := henters.root.total h.balanced
  refine ⟨henters.root.balanced h.balanced, ?_, ?_, h.ordered, ?_, ?_⟩
  · intro hregistered
    rw [henters.registered] at hregistered
    rw [henters.epoch]
    exact h.registered hregistered
  · intro report hmem
    have hsent := h.sent report hmem
    exact ⟨hsent.positive, Nat.le_trans hsent.version henters.version, hsent.past,
      hsent.nodePid.trans henters.nodePid.symm, htotal ▸ hsent.fits, hsent.epoch⟩
  · intro record hrecord
    have hof := h.record record hrecord
    exact ⟨hof.alive, hof.nodePid.trans henters.nodePid.symm, hof.total.trans htotal.symm,
      hof.past, hof.origin⟩
  · intro flight hflight
    have hof := h.flight flight hflight
    exact ⟨hof.sent, hof.latest, henters.reported ▸ hof.unreported, hof.confirmed⟩

theorem register_record (s : ResourceReporting) (registrationEpoch : Nat) (lost : Bool) :
    (s.register registrationEpoch lost).record = s.record ∨
      s.record = none ∧ (s.register registrationEpoch lost).record = some {
        nodePid := s.node.nodePid, registrationEpoch := registrationEpoch,
        totalResources := s.node.root.total, availableResources := s.node.available,
        readAt := s.time } := by
  unfold register
  split
  · exact .inl rfl
  · cases hrecord : s.record with
    | none =>
      right
      refine ⟨rfl, ?_⟩
      dsimp only [Option.getD_none]
      split <;> rfl
    | some record =>
      left
      dsimp only [Option.getD_some]
      split <;> rfl

theorem register_frame (s : ResourceReporting) (registrationEpoch : Nat) (lost : Bool) :
    let after := s.register registrationEpoch lost
    after.sent = s.sent ∧ after.flight = s.flight ∧ after.time = s.time ∧
      after.node.root = s.node.root ∧ after.node.nodePid = s.node.nodePid ∧
      after.node.resourceReportVersion = s.node.resourceReportVersion ∧
      after.node.resourceReportedVersion = s.node.resourceReportedVersion := by
  unfold register
  dsimp only
  split
  · simp
  · split <;> exact ⟨rfl, rfl, rfl, rfl, rfl, rfl, rfl⟩

theorem register_registered (registrationEpoch : Nat) (lost : Bool)
    (hold : s.node.registeredWithGcs = true →
      s.record.map NodeResources.registrationEpoch = some s.node.registrationEpoch)
    (h : (s.register registrationEpoch lost).node.registeredWithGcs = true) :
    (s.register registrationEpoch lost).record.map NodeResources.registrationEpoch =
      some (s.register registrationEpoch lost).node.registrationEpoch := by
  unfold register at h ⊢
  by_cases hskip : s.node.registeredWithGcs = true ∨ s.flight.isSome = true
  · rw [if_pos hskip] at h ⊢
    exact hold h
  · rw [if_neg hskip] at h ⊢
    dsimp only at h ⊢
    cases lost with
    | false => rfl
    | true => exact absurd (.inl h) hskip

theorem Inv.sent_nil (h : s.Inv) (hrecord : s.record = none) : s.sent = [] := by
  cases hsent : s.sent with
  | nil => rfl
  | cons report rest =>
    have hepoch := (h.sent report (by simp [hsent])).epoch
    rw [hrecord] at hepoch
    cases hepoch

theorem Inv.register (h : s.Inv) (registrationEpoch : Nat) (lost : Bool) :
    (s.register registrationEpoch lost).tick.Inv := by
  obtain ⟨hsent, hflight, htime, hroot, hpid, hversion, hreported⟩ :=
    s.register_frame registrationEpoch lost
  have hregistered := register_registered registrationEpoch lost h.registered
  have hrecord := s.register_record registrationEpoch lost
  generalize s.register registrationEpoch lost = after at *
  rcases hrecord with hkept | ⟨hnone, hnew⟩
  · have hinv : after.Inv := by
      refine ⟨hroot ▸ h.balanced, hregistered, ?_, hsent ▸ h.ordered, ?_, ?_⟩
      · intro report hmem
        have hof := h.sent report (hsent ▸ hmem)
        exact ⟨hof.positive, hversion ▸ hof.version, htime ▸ hof.past, hpid ▸ hof.nodePid,
          hroot ▸ hof.fits, hkept ▸ hof.epoch⟩
      · intro record hrecord
        have hof := h.record record (hkept ▸ hrecord)
        exact ⟨hof.alive, hpid ▸ hof.nodePid, hroot ▸ hof.total, htime ▸ hof.past,
          hsent ▸ hof.origin⟩
      · intro flight hopen
        have hof := h.flight flight (hflight ▸ hopen)
        exact ⟨hsent ▸ hof.sent, hsent ▸ hof.latest, hreported ▸ hof.unreported,
          hkept ▸ hof.confirmed⟩
    exact hinv.tick
  · have hempty := h.sent_nil hnone
    have hnothing : after.sent = [] := hsent.trans hempty
    refine ⟨hroot ▸ h.balanced, hregistered, ?_, ?_, ?_, ?_⟩
    · intro report hmem
      change report ∈ after.sent at hmem
      rw [hnothing] at hmem
      cases hmem
    · change after.sent.Pairwise _
      rw [hnothing]
      exact .nil
    · intro record hrecord
      cases hnew.symm.trans hrecord
      refine ⟨rfl, hpid.symm, congrArg ResourceLedger.total hroot.symm, ?_, .inl ⟨rfl, ?_⟩⟩
      · change s.time < after.time + 1
        omega
      · intro report hmem
        change report ∈ after.sent at hmem
        rw [hnothing] at hmem
        cases hmem
    · intro flight hopen
      have hof := (h.flight flight (hflight ▸ hopen)).sent
      rw [hempty] at hof
      cases hof

/-- A flush that opens sends what the root has now, under the current version. -/
inductive Begun (s : ResourceReporting) : ResourceReporting → Prop
  | idle : Begun s s
  | sent (report : UpdateNodeResources) (free : s.flight = none)
      (pending : s.node.resourceReportedVersion < s.node.resourceReportVersion)
      (registered : s.node.registeredWithGcs = true)
      (read : report = {
        nodePid := s.node.nodePid, registrationEpoch := s.node.registrationEpoch,
        reportSeq := s.node.resourceReportVersion, availableResources := s.node.available,
        readAt := s.time }) :
      Begun s { s with flight := some ⟨report, none⟩, sent := s.sent ++ [report] }

theorem beginFlush_begun (s : ResourceReporting) : Begun s s.beginFlush := by
  unfold beginFlush
  dsimp only
  split
  · exact .idle
  · rename_i hguard
    simp only [not_or, Nat.not_le, Bool.not_eq_false, Option.not_isSome_iff_eq_none] at hguard
    exact .sent _ hguard.1 hguard.2.1 hguard.2.2 rfl

theorem Inv.beginFlush (h : s.Inv) : s.beginFlush.tick.Inv := by
  have hbegun := s.beginFlush_begun
  generalize s.beginFlush = after at hbegun
  cases hbegun with
  | idle => exact h.tick
  | sent report free pending registered read =>
    have hlatest : ∀ a ∈ s.sent, a.reportSeq ≤ report.reportSeq ∧ a.readAt < report.readAt := by
      intro a ha
      have hof := h.sent a ha
      rw [read]
      exact ⟨hof.version, hof.past⟩
    refine ⟨h.balanced, h.registered, ?_, ?_, ?_, ?_⟩
    · intro a ha
      rcases List.mem_append.mp ha with ha | ha
      · have hof := h.sent a ha
        exact { hof with past := Nat.lt_succ_of_lt hof.past }
      · cases List.mem_singleton.mp ha
        refine ⟨?_, ?_, ?_, ?_, ?_, ?_⟩
        · rw [read]
          exact Nat.zero_lt_of_lt pending
        · rw [read]
          exact Nat.le_refl _
        · rw [read]
          exact Nat.lt_succ_self _
        · rw [read]
          rfl
        · rw [read]
          exact h.balanced.fitsIn
        · rw [read]
          exact h.registered registered
    · refine List.pairwise_append.mpr ⟨h.ordered, List.pairwise_singleton _ _, ?_⟩
      intro a ha b hb
      cases List.mem_singleton.mp hb
      exact hlatest a ha
    · intro record hrecord
      have hof := h.record record hrecord
      refine ⟨hof.alive, hof.nodePid, hof.total, Nat.lt_succ_of_lt hof.past, ?_⟩
      rcases hof.origin with ⟨hzero, holder⟩ | ⟨a, ha, hfrom⟩
      · refine .inl ⟨hzero, ?_⟩
        intro a ha
        rcases List.mem_append.mp ha with ha | ha
        · exact holder a ha
        · cases List.mem_singleton.mp ha
          rw [read]
          exact hof.past
      · exact .inr ⟨a, List.mem_append_left _ ha, hfrom⟩
    · intro flight hflight
      cases hflight
      refine ⟨List.mem_append_right _ (List.mem_singleton_self _), ?_, ?_, nofun⟩
      · intro a ha
        rcases List.mem_append.mp ha with ha | ha
        · exact (hlatest a ha).1
        · cases List.mem_singleton.mp ha
          exact Nat.le_refl _
      · rw [read]
        exact pending

/-! ### Serving a report -/

theorem Inv.served (h : s.Inv) {report : UpdateNodeResources} (hmem : report ∈ s.sent) :
    ∃ record, s.record = some record ∧ s.RecordOf record ∧
      Served record report (NodeResources.updateResources s.record report) := by
  have hsent := h.sent report hmem
  obtain ⟨record, hrecord, hepoch⟩ := Option.map_eq_some_iff.mp hsent.epoch
  have hof := h.record record hrecord
  have hserved := NodeResources.updateResources_served hof.alive
    (hof.nodePid.trans hsent.nodePid.symm) hepoch (by rw [hof.total]; exact hsent.fits)
  rw [hrecord]
  exact ⟨record, rfl, hof, hserved⟩

theorem Inv.read_lt (h : s.Inv) {a b : UpdateNodeResources} (ha : a ∈ s.sent) (hb : b ∈ s.sent)
    (hlt : a.reportSeq < b.reportSeq) : a.readAt < b.readAt := by
  obtain ⟨i, hi, rfl⟩ := List.mem_iff_getElem.mp ha
  obtain ⟨j, hj, rfl⟩ := List.mem_iff_getElem.mp hb
  have hordered := List.pairwise_iff_getElem.mp h.ordered
  by_cases hij : i < j
  · exact (hordered i j hi hj hij).2
  · by_cases hji : j < i
    · have hle := (hordered j i hj hi hji).1
      omega
    · have hsame : i = j := by omega
      subst hsame
      omega

theorem Inv.latest_ge (h : s.Inv) {report : UpdateNodeResources}
    (hlatest : ∀ a ∈ s.sent, a.reportSeq ≤ report.reportSeq) {record : NodeResources}
    (hrecord : s.record = some record) : record.resourceReportSeq ≤ report.reportSeq := by
  rcases (h.record record hrecord).origin with ⟨hzero, _⟩ | ⟨a, ha, hseq, _⟩
  · omega
  · have hle := hlatest a ha
    omega

/-- The record only changes to a report that was read later, of the same incarnation. -/
structure Newer (record record' : NodeResources) : Prop where
  readAt : record.readAt < record'.readAt
  seq : record.resourceReportSeq < record'.resourceReportSeq
  nodePid : record'.nodePid = record.nodePid
  epoch : record'.registrationEpoch = record.registrationEpoch

theorem Inv.applied_newer (h : s.Inv) {report : UpdateNodeResources} (hmem : report ∈ s.sent)
    {record : NodeResources} (hof : s.RecordOf record)
    (hlt : record.resourceReportSeq < report.reportSeq) :
    Newer record { record with
      availableResources := report.availableResources
      resourceReportSeq := report.reportSeq
      readAt := report.readAt } := by
  refine ⟨?_, hlt, rfl, rfl⟩
  change record.readAt < report.readAt
  rcases hof.origin with ⟨_, holder⟩ | ⟨a, ha, hseq, _, hread⟩
  · exact holder report hmem
  · rw [hread]
    exact h.read_lt ha hmem (by omega)

def answered (flight : ReportFlight) (report : UpdateNodeResources) (updated : Bool) :
    ReportFlight :=
  if flight.report = report ∧ flight.reply = none then { flight with reply := some updated }
  else flight

theorem answered_report (flight : ReportFlight) (report : UpdateNodeResources) (updated : Bool) :
    (answered flight report updated).report = flight.report := by
  unfold answered
  split <;> rfl

theorem answered_reply {flight : ReportFlight} {report : UpdateNodeResources} {updated : Bool}
    (h : (answered flight report updated).reply = some true) :
    flight.reply = some true ∨ flight.report = report ∧ updated = true := by
  unfold answered at h
  split at h
  · rename_i hanswered
    exact .inr ⟨hanswered.1, Option.some.inj h⟩
  · exact .inl h

inductive Serves (s : ResourceReporting) : ResourceReporting → Prop
  | idle : Serves s s
  | refused (report : UpdateNodeResources) :
      Serves s { s with flight := s.flight.map fun flight => answered flight report false }
  | replayed (report : UpdateNodeResources) (record : NodeResources) (mem : report ∈ s.sent)
      (recorded : s.record = some record)
      (same : record.resourceReportSeq = report.reportSeq)
      (equal : record.availableResources = report.availableResources) :
      Serves s { s with flight := s.flight.map fun flight => answered flight report true }
  | applied (report : UpdateNodeResources) (record record' : NodeResources)
      (mem : report ∈ s.sent) (recorded : s.record = some record)
      (result : record' = { record with
        availableResources := report.availableResources
        resourceReportSeq := report.reportSeq
        readAt := report.readAt })
      (newer : Newer record record') :
      Serves s { s with
        record := some record'
        flight := s.flight.map fun flight => answered flight report true }

theorem Inv.serves (h : s.Inv) (index : Nat) : Serves s (s.serve index) := by
  unfold serve
  cases hreport : s.sent[index]? with
  | none => exact .idle
  | some report =>
    have hmem := List.mem_of_getElem? hreport
    obtain ⟨record, hrecord, hof, hserved⟩ := h.served hmem
    generalize hresult : NodeResources.updateResources s.record report = result at hserved
    have hsame : ({ s with record := some record } : ResourceReporting) = s := by
      rw [← hrecord]
    cases hserved with
    | stale older =>
      have hstep : Serves s { ({ s with record := some record } : ResourceReporting) with
          flight := s.flight.map fun flight => answered flight report false } := by
        rw [hsame]
        exact .refused report
      simpa only [hresult, answered] using hstep
    | reused same other =>
      have hstep : Serves s { ({ s with record := some record } : ResourceReporting) with
          flight := s.flight.map fun flight => answered flight report false } := by
        rw [hsame]
        exact .refused report
      simpa only [hresult, answered] using hstep
    | replayed same equal =>
      have hstep : Serves s { ({ s with record := some record } : ResourceReporting) with
          flight := s.flight.map fun flight => answered flight report true } := by
        rw [hsame]
        exact .replayed report record hmem hrecord same.symm equal.symm
      simpa only [hresult, answered] using hstep
    | applied newer =>
      have hstep := Serves.applied (s := s) report record _ hmem hrecord rfl
        (h.applied_newer hmem hof newer)
      simpa only [hresult, answered] using hstep

theorem Inv.withReply (h : s.Inv) (report : UpdateNodeResources) (updated : Bool)
    (hreply : updated = true → report ∈ s.sent ∧ ∃ record, s.record = some record ∧
      record.resourceReportSeq = report.reportSeq ∧
      record.availableResources = report.availableResources) :
    ({ s with flight := s.flight.map fun flight =>
        answered flight report updated } : ResourceReporting).Inv := by
  refine ⟨h.balanced, h.registered, ?_, h.ordered, ?_, ?_⟩
  · intro a ha
    exact { h.sent a ha with }
  · intro record hrecord
    exact { h.record record hrecord with }
  · intro flight hflight
    obtain ⟨old, hold, rfl⟩ := Option.map_eq_some_iff.mp hflight
    have hof := h.flight old hold
    refine ⟨?_, ?_, ?_, ?_⟩
    · rw [answered_report]
      exact hof.sent
    · rw [answered_report]
      exact hof.latest
    · rw [answered_report]
      exact hof.unreported
    · intro hconfirmed
      rw [answered_report]
      rcases answered_reply hconfirmed with hbefore | ⟨hsame, hupdated⟩
      · exact hof.confirmed hbefore
      · rw [hsame]
        exact (hreply hupdated).2

theorem Inv.withRecord (h : s.Inv) {report : UpdateNodeResources} (hmem : report ∈ s.sent)
    {record record' : NodeResources} (hrecord : s.record = some record)
    (hresult : record' = { record with
      availableResources := report.availableResources
      resourceReportSeq := report.reportSeq
      readAt := report.readAt })
    (hnewer : Newer record record') :
    ({ s with record := some record' } : ResourceReporting).Inv := by
  have hof := h.record record hrecord
  have hepoch : some record'.registrationEpoch = s.record.map NodeResources.registrationEpoch := by
    rw [hrecord, hnewer.epoch]
    rfl
  refine ⟨h.balanced, ?_, ?_, h.ordered, ?_, ?_⟩
  · intro hregistered
    exact hepoch.trans (h.registered hregistered)
  · intro a ha
    exact { h.sent a ha with epoch := hepoch.trans (h.sent a ha).epoch }
  · intro latest hlatest
    cases hlatest
    rw [hresult]
    exact ⟨hof.alive, hof.nodePid, hof.total, (h.sent report hmem).past,
      .inr ⟨report, hmem, rfl, rfl, rfl⟩⟩
  · intro flight hflight
    have hopen := h.flight flight hflight
    refine ⟨hopen.sent, hopen.latest, hopen.unreported, ?_⟩
    intro hconfirmed
    obtain ⟨old, hold, hseq, _⟩ := hopen.confirmed hconfirmed
    cases hrecord.symm.trans hold
    have hle := hopen.latest report hmem
    have hlt := hnewer.seq
    rw [hresult] at hlt
    dsimp only at hlt
    omega

theorem Inv.serve (h : s.Inv) (index : Nat) : (s.serve index).tick.Inv := by
  have hserves := h.serves index
  generalize s.serve index = after at hserves
  cases hserves with
  | idle => exact h.tick
  | refused report => exact (h.withReply report false nofun).tick
  | replayed report record mem recorded same equal =>
    exact (h.withReply report true fun _ => ⟨mem, record, recorded, same, equal⟩).tick
  | applied report record record' mem recorded result newer =>
    have hinv := h.withRecord mem recorded result newer
    refine (hinv.withReply report true fun _ => ⟨mem, record', rfl, ?_⟩).tick
    rw [result]
    exact ⟨rfl, rfl⟩

/-! ### The end of a flush -/

theorem Inv.endFlush (h : s.Inv) (lost : Bool) : (s.endFlush lost).tick.Inv := by
  have hidle : ({ s with flight := none } : ResourceReporting).Inv :=
    ⟨h.balanced, h.registered, fun a ha => { h.sent a ha with }, h.ordered,
      fun record hrecord => { h.record record hrecord with }, nofun⟩
  unfold ResourceReporting.endFlush
  split
  · exact h.tick
  · dsimp only
    split
    · split
      · exact hidle.tick
      · refine Inv.tick ⟨h.balanced, h.registered, fun a ha => { h.sent a ha with }, h.ordered,
          fun record hrecord => { h.record record hrecord with }, nofun⟩
    · exact hidle.tick

theorem Inv.step (h : s.Inv) (action : Action) : (s.step action).Inv := by
  cases action with
  | register registrationEpoch lost => exact h.register registrationEpoch lost
  | enter entry => exact (h.enter entry).tick
  | beginFlush => exact h.beginFlush
  | serve index => exact h.serve index
  | endFlush lost => exact h.endFlush lost

theorem inv_run (nodePid : Nat) (total : ResourceVector) (actions : List Action) :
    (run ResourceReporting.step (new nodePid total) actions).Inv :=
  run_invariant (p := Inv) (fun _ action h => h.step action) (inv_new nodePid total) actions

end ResourceReporting

end MiniRay
