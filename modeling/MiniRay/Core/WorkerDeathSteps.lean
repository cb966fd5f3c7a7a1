import MiniRay.Core.WorkerDeathSync

/-! One step either adds at most the record right after the cursor, or moves the cursor over it when
that record is installed everywhere. -/

namespace MiniRay

open Checked Run

variable {ε : Type}

/-! ## One sweep -/

namespace DeathSync

variable {c c' : DeathSync ε} {death : WorkerDeathRecord}

/-- No obligation toward the Worker is left. -/
structure Released (c : DeathSync ε) (w : WorkerID) : Prop where
  borrowed : ∀ key, key.1 = w → c.borrowedReleases.get? key = none
  attempts : ∀ key, key.1 = w → c.attemptReleases.get? key = none
  guards : ∀ key, key.1 = w → c.orphanGuards.get? key = none

/-- Every obligation that is left toward the Worker is one that the script takes. -/
structure Swept (c : DeathSync ε) (w : WorkerID) (script : List InstallStep) : Prop where
  dead : c.ownerIsDead w = true
  borrowed : ∀ key, key.1 = w → c.borrowedReleases.get? key ≠ none →
    .write (.popBorrowed key) ∈ script
  attempts : ∀ key, key.1 = w → c.attemptReleases.get? key ≠ none →
    .write (.popAttempt key) ∈ script
  guards : ∀ key, key.1 = w → c.orphanGuards.get? key ≠ none → .write (.popOrphan key) ∈ script

/-- How far the installation of a death has come. -/
structure Progress (c : DeathSync ε) (death : WorkerDeathRecord)
    (cleanup : Option DeadWorkerReferenceCleanup) (script : List InstallStep) : Prop where
  receipt : ∀ known, cleanup = some known →
    c.ownerTable.deadWorkerCleanups.get? death.workerId = some known
  installed : .installDeadWorker ∉ script → cleanup.isSome
  recorded : .recordDeath ∉ script → c.deathRecords.get? death.workerId = some death
  marked : .markOwnerDead ∉ script → ∃ known,
    c.ownerTable.deadWorkerCleanups.get? death.workerId = some known ∧
      c.foreign.deadOwners.get? death.workerId = some known.record
  swept : .discharge ∉ script → Swept c death.workerId script

/-- No obligation toward a dead owner is new. -/
structure Fenced (c c' : DeathSync ε) : Prop where
  borrowed : ∀ key, c.ownerIsDead key.1 = true → c.borrowedReleases.get? key = none →
    c'.borrowedReleases.get? key = none
  attempts : ∀ key, c.ownerIsDead key.1 = true → c.attemptReleases.get? key = none →
    c'.attemptReleases.get? key = none
  guards : ∀ key, c.ownerIsDead key.1 = true → c.orphanGuards.get? key = none →
    c'.orphanGuards.get? key = none

theorem Fenced.refl (c : DeathSync ε) : c.Fenced c :=
  ⟨fun _ _ h => h, fun _ _ h => h, fun _ _ h => h⟩

theorem Released.fenced {w : WorkerID} (h : c.Released w) (hdead : c.ownerIsDead w = true)
    (hf : c.Fenced c') : c'.Released w where
  borrowed key hkey := hf.borrowed key (hkey ▸ hdead) (h.borrowed key hkey)
  attempts key hkey := hf.attempts key (hkey ▸ hdead) (h.attempts key hkey)
  guards key hkey := hf.guards key (hkey ▸ hdead) (h.guards key hkey)

theorem Swept.released {w : WorkerID} (h : Swept c w []) : c.Released w where
  borrowed key hkey := by
    by_contra hne
    cases h.borrowed key hkey hne
  attempts key hkey := by
    by_contra hne
    cases h.attempts key hkey hne
  guards key hkey := by
    by_contra hne
    cases h.guards key hkey hne

end DeathSync

/-! ## Records of the journal -/

namespace DeathJournal

open DeathSync

variable {journal journal' : List WorkerDeathRecord} {c c' : DeathSync ε}
  {death : WorkerDeathRecord}

/-- Records are numbered from one, and no Worker dies twice. -/
structure Genuine (journal : List WorkerDeathRecord) : Prop where
  epoch : ∀ i d, journal[i]? = some d → d.deathEpoch = i + 1
  unique : ∀ d ∈ journal, ∀ d' ∈ journal, d.workerId = d'.workerId → d = d'

theorem genuine_journal {r : WorkerRegistry} (h : r.Inv) : Genuine r.deathJournal where
  epoch i d hd := by
    have hmap := congrArg (·[i]?) h.epochs
    simp only [List.getElem?_map, hd, Option.map_some] at hmap
    obtain ⟨_, hi⟩ := List.getElem?_eq_some_iff.mp hmap.symm
    rw [← hi, List.getElem_range']
    omega
  unique d hd d' hd' hid := ((h.journal d).mp hd).unique ((h.journal d').mp hd') hid

/-- An unexpected death before the cursor or right after it. -/
def Reached (journal : List WorkerDeathRecord) (cursor : Nat) (death : WorkerDeathRecord) : Prop :=
  ∃ i, i ≤ cursor ∧ journal[i]? = some death ∧ death.ConfirmedExit

theorem Reached.mem {cursor : Nat} (h : Reached journal cursor death) : death ∈ journal := by
  obtain ⟨i, _, hget, _⟩ := h
  exact List.mem_of_getElem? hget

/-- The death is installed everywhere, as the journal recorded it. -/
structure Installed (c : DeathSync ε) (death : WorkerDeathRecord) : Prop where
  fenced : ∃ known, c.ownerTable.deadWorkerCleanups.get? death.workerId = some known ∧
    known.record.workerId = death.workerId ∧ known.record.deathId = death.referenceId ∧
      c.foreign.deadOwners.get? death.workerId = some known.record
  recorded : c.deathRecords.get? death.workerId = some death
  released : c.Released death.workerId

/-- What is installed, and where it comes from. -/
structure Known (journal : List WorkerDeathRecord) (c : DeathSync ε) : Prop where
  cursor_le : c.cursor ≤ journal.length
  cleanups : ∀ w known, c.ownerTable.deadWorkerCleanups.get? w = some known → ∃ d,
    Reached journal c.cursor d ∧ d.workerId = w ∧ known.record.workerId = w ∧
      known.record.deathId = d.referenceId
  records : ∀ w d, c.deathRecords.get? w = some d → d.workerId = w ∧ Reached journal c.cursor d
  owners : ∀ w r, c.foreign.deadOwners.get? w = some r → ∃ known,
    c.ownerTable.deadWorkerCleanups.get? w = some known ∧ known.record = r
  installed : ∀ i d, i < c.cursor → journal[i]? = some d → d.ConfirmedExit → Installed c d

/-- A step that leaves the cursor where it is adds at most the record right after it. -/
structure Grows (journal : List WorkerDeathRecord) (c c' : DeathSync ε) : Prop where
  cursor : c'.cursor = c.cursor
  cleanups : ∀ w known, c.ownerTable.deadWorkerCleanups.get? w = some known →
    c'.ownerTable.deadWorkerCleanups.get? w = some known
  newCleanups : ∀ w known, c'.ownerTable.deadWorkerCleanups.get? w = some known →
    c.ownerTable.deadWorkerCleanups.get? w = some known ∨ ∃ d, Reached journal c.cursor d ∧
      d.workerId = w ∧ known.record.workerId = w ∧ known.record.deathId = d.referenceId
  records : ∀ w d, c.deathRecords.get? w = some d → c'.deathRecords.get? w = some d
  newRecords : ∀ w d, c'.deathRecords.get? w = some d →
    c.deathRecords.get? w = some d ∨ d.workerId = w ∧ Reached journal c.cursor d
  owners : ∀ w r, c.foreign.deadOwners.get? w = some r → c'.foreign.deadOwners.get? w = some r
  newOwners : ∀ w r, c'.foreign.deadOwners.get? w = some r →
    c.foreign.deadOwners.get? w = some r ∨ ∃ known,
      c.ownerTable.deadWorkerCleanups.get? w = some known ∧ known.record = r
  fenced : c.Fenced c'

theorem Grows.of_same (hcursor : c'.cursor = c.cursor)
    (hcleanups : c'.ownerTable.deadWorkerCleanups = c.ownerTable.deadWorkerCleanups)
    (hrecords : c'.deathRecords = c.deathRecords)
    (howners : c'.foreign.deadOwners = c.foreign.deadOwners) (hf : c.Fenced c') :
    Grows journal c c' where
  cursor := hcursor
  cleanups _ _ h := hcleanups ▸ h
  newCleanups _ _ h := .inl (hcleanups ▸ h)
  records _ _ h := hrecords ▸ h
  newRecords _ _ h := .inl (hrecords ▸ h)
  owners _ _ h := howners ▸ h
  newOwners _ _ h := .inl (howners ▸ h)
  fenced := hf

theorem Grows.refl (c : DeathSync ε) : Grows journal c c := .of_same rfl rfl rfl rfl (.refl c)

theorem Reached.mono {cursor cursor' : Nat} (h : Reached journal cursor death)
    (hj : journal <+: journal') (hc : cursor ≤ cursor') : Reached journal' cursor' death := by
  obtain ⟨i, hi, hget, hexit⟩ := h
  refine ⟨i, hi.trans hc, ?_, hexit⟩
  obtain ⟨hlt, _⟩ := List.getElem?_eq_some_iff.mp hget
  rw [List.prefix_iff_getElem?.mp hj i hlt]
  exact (List.getElem?_eq_getElem hlt).symm.trans hget

variable {w : WorkerID}

variable {known : DeadWorkerReferenceCleanup}

theorem dead_of_known (h : c.ownerTable.deadWorkerCleanups.get? w = some known) :
    c.ownerIsDead w = true := by
  simp [ownerIsDead, h]

theorem Installed.grow (h : Installed c death) (hg : Grows journal c c') : Installed c' death := by
  obtain ⟨known, hknown, hid, hdeath, howner⟩ := h.fenced
  exact ⟨⟨known, hg.cleanups _ _ hknown, hid, hdeath, hg.owners _ _ howner⟩,
    hg.records _ _ h.recorded, h.released.fenced (dead_of_known hknown) hg.fenced⟩

theorem Known.grow (h : Known journal c) (hg : Grows journal c c') : Known journal c' where
  cursor_le := hg.cursor ▸ h.cursor_le
  cleanups w known hk := by
    rw [hg.cursor]
    rcases hg.newCleanups w known hk with hold | hnew
    · exact h.cleanups w known hold
    · exact hnew
  records w d hd := by
    rw [hg.cursor]
    rcases hg.newRecords w d hd with hold | hnew
    · exact h.records w d hold
    · exact hnew
  owners w r hr := by
    rcases hg.newOwners w r hr with hold | ⟨known, hk, hrecord⟩
    · obtain ⟨known, hk, hrecord⟩ := h.owners w r hold
      exact ⟨known, hg.cleanups _ _ hk, hrecord⟩
    · exact ⟨known, hg.cleanups _ _ hk, hrecord⟩
  installed i d hi hget hexit := (h.installed i d (hg.cursor ▸ hi) hget hexit).grow hg

theorem Known.append (h : Known journal c) (hj : journal <+: journal') : Known journal' c where
  cursor_le := h.cursor_le.trans hj.length_le
  cleanups w known hk := by
    obtain ⟨d, hd, hrest⟩ := h.cleanups w known hk
    exact ⟨d, hd.mono hj le_rfl, hrest⟩
  records w d hd := ⟨(h.records w d hd).1, (h.records w d hd).2.mono hj le_rfl⟩
  owners := h.owners
  installed i d hi hget hexit := by
    have hlt : i < journal.length := hi.trans_le h.cursor_le
    refine h.installed i d hi ?_ hexit
    rw [← hget, List.prefix_iff_getElem?.mp hj i hlt, List.getElem?_eq_getElem hlt]

/-! ## The point of the synchronisation -/

/-- The records that the synchronisation still has before it. -/
def ahead : SyncPoint → List WorkerDeathRecord
  | .idle | .called => []
  | .between _ rest | .handing _ rest _ => rest
  | .installing _ death rest _ _ => death :: rest

/-- The objects that the synchronisation is about to hand over. -/
def awaiting : SyncPoint → List ObjectID
  | .handing _ _ objectIds => objectIds
  | _ => []

/-- The synchronisation works on what follows the cursor. -/
structure Placed (journal : List WorkerDeathRecord) (c : DeathSync ε) : Prop where
  suffix : ahead c.point <+: journal.drop c.cursor
  installing : ∀ watermark d rest cleanup script,
    c.point = .installing watermark d rest cleanup script →
      d.ConfirmedExit ∧ Progress c d cleanup script

variable {script : List InstallStep}

theorem swept_grow (h : Swept c w script) (hg : Grows journal c c') : Swept c' w script := by
  obtain ⟨known, hknown⟩ := Option.isSome_iff_exists.mp h.dead
  refine ⟨dead_of_known (hg.cleanups _ _ hknown), ?_, ?_, ?_⟩
  · intro key hkey hne
    exact h.borrowed key hkey fun hnone => hne (hg.fenced.borrowed key (hkey ▸ h.dead) hnone)
  · intro key hkey hne
    exact h.attempts key hkey fun hnone => hne (hg.fenced.attempts key (hkey ▸ h.dead) hnone)
  · intro key hkey hne
    exact h.guards key hkey fun hnone => hne (hg.fenced.guards key (hkey ▸ h.dead) hnone)

variable {cleanup : Option DeadWorkerReferenceCleanup}

theorem progress_grow (h : Progress c death cleanup script) (hg : Grows journal c c') :
    Progress c' death cleanup script where
  receipt known hk := hg.cleanups _ _ (h.receipt known hk)
  installed := h.installed
  recorded hs := hg.records _ _ (h.recorded hs)
  marked hs := by
    obtain ⟨known, hk, howner⟩ := h.marked hs
    exact ⟨known, hg.cleanups _ _ hk, hg.owners _ _ howner⟩
  swept hs := swept_grow (h.swept hs) hg

theorem Placed.grow (h : Placed journal c) (hg : Grows journal c c') (hpoint : c'.point = c.point) :
    Placed journal c' where
  suffix := by
    rw [hpoint, hg.cursor]
    exact h.suffix
  installing watermark d rest cleanup script hat := by
    rw [hpoint] at hat
    obtain ⟨hexit, hprogress⟩ := h.installing _ _ _ _ _ hat
    exact ⟨hexit, progress_grow hprogress hg⟩

theorem Placed.append (h : Placed journal c) (hj : journal <+: journal') :
    Placed journal' c where
  suffix := h.suffix.trans (hj.drop _)
  installing := h.installing

theorem Placed.resting (hahead : ahead c.point <+: journal.drop c.cursor)
    (hrest : ∀ watermark d rest cleanup script,
      c.point ≠ .installing watermark d rest cleanup script) : Placed journal c :=
  ⟨hahead, fun _ _ _ _ _ hat => absurd hat (hrest _ _ _ _ _)⟩

/-- What a step of the consumer does. It loses no hand-over when it is lossless. -/
inductive Steps (journal : List WorkerDeathRecord) (c : DeathSync ε) (lossless : Prop) :
    DeathSync ε → Prop
  | grows (c' : DeathSync ε) (grows : Grows journal c c') (placed : Placed journal c')
      (handed : ∀ o, o ∈ c.handedOver → o ∈ c'.handedOver)
      (kept : lossless → ∀ o, o ∈ awaiting c.point → o ∈ c'.handedOver ∨ o ∈ awaiting c'.point) :
      Steps journal c lossless c'
  | commits (watermark : Nat) (d : WorkerDeathRecord) (rest : List WorkerDeathRecord)
      (collectable : List ObjectID) (next : journal[c.cursor]? = some d)
      (suffix : rest <+: journal.drop (c.cursor + 1)) (quiet : awaiting c.point = [])
      (installed : d.ConfirmedExit → Installed c d ∧ ∀ known,
        c.ownerTable.deadWorkerCleanups.get? d.workerId = some known →
          known.collectableObjectIds = collectable) :
      Steps journal c lossless { c with
        cursor := c.cursor + 1, point := .handing watermark rest collectable }

variable {lossless : Prop}

theorem Steps.mono {lossless' : Prop} (h : Steps journal c lossless c')
    (himp : lossless' → lossless) : Steps journal c lossless' c' := by
  cases h with
  | grows _ hg hp hhanded hkept => exact .grows _ hg hp hhanded fun hl => hkept (himp hl)
  | commits w d rest os next suffix quiet installed =>
    exact .commits w d rest os next suffix quiet installed

theorem Grows.leave (c : DeathSync ε) (returned : Option Bool) :
    Grows journal c (c.leave returned) := .of_same rfl rfl rfl rfl ⟨fun _ _ h => h, fun _ _ h => h,
  fun _ _ h => h⟩

theorem Placed.leave (c : DeathSync ε) (returned : Option Bool) :
    Placed journal (c.leave returned) := .resting (List.nil_prefix) nofun

theorem Steps.leave (returned : Option Bool) (hquiet : lossless → awaiting c.point = []) :
    Steps journal c lossless (c.leave returned) := by
  refine .grows _ (.leave c returned) (.leave c returned) (fun _ ho => ho) fun hl o ho => ?_
  rw [hquiet hl] at ho
  cases ho

theorem Steps.same (h : Placed journal c) : Steps journal c lossless c :=
  .grows c (.refl c) h (fun _ ho => ho) fun _ _ ho => .inr ho

variable {rest : List WorkerDeathRecord}

theorem commitCursor_steps {watermark : Nat} {collectable : List ObjectID}
    (hsuffix : death :: rest <+: journal.drop c.cursor) (hj : Genuine journal)
    (hquiet : awaiting c.point = [])
    (hinstalled : death.ConfirmedExit → Installed c death ∧
      ∀ known, c.ownerTable.deadWorkerCleanups.get? death.workerId = some known →
      known.collectableObjectIds = collectable) :
    Steps journal c lossless (c.commitCursor watermark death rest collectable) := by
  have hnext : journal[c.cursor]? = some death := by
    have hhead := List.prefix_iff_getElem?.mp hsuffix 0 (by simp)
    simpa using hhead
  have hrest : rest <+: journal.drop (c.cursor + 1) := by
    obtain ⟨tail, htail⟩ := hsuffix
    refine ⟨tail, ?_⟩
    rw [← List.tail_drop, ← htail]
    rfl
  unfold commitCursor
  rw [if_neg (by simp [hj.epoch _ _ hnext]), hj.epoch _ _ hnext]
  exact .commits watermark death rest collectable hnext hrest hquiet hinstalled

theorem swept_tail {head : InstallStep} (h : Swept c w (head :: script))
    (hhead : ∀ write, head ≠ .write write) :
    Swept c w script where
  dead := h.dead
  borrowed key hkey hne :=
    (List.mem_cons.mp (h.borrowed key hkey hne)).resolve_left fun heq => hhead _ heq.symm
  attempts key hkey hne :=
    (List.mem_cons.mp (h.attempts key hkey hne)).resolve_left fun heq => hhead _ heq.symm
  guards key hkey hne :=
    (List.mem_cons.mp (h.guards key hkey hne)).resolve_left fun heq => hhead _ heq.symm

variable {f : ForeignLineage}

theorem markOwnerDead_cases {f' : ForeignLineage} {record : DeadWorkerReferenceRecord}
    (h : f.markOwnerDead record = .ok f') :
    f'.deadOwners = f.deadOwners.set record.workerId record ∧
      ∀ previous, f.deadOwners.get? record.workerId = some previous → previous = record := by
  unfold ForeignLineage.markOwnerDead at h
  split at h
  · cases h
  · rename_i hsame
    push Not at hsame
    cases h
    exact ⟨rfl, fun previous hp => hsame previous hp⟩

theorem marks_grows (hget : c.ownerTable.deadWorkerCleanups.get? w = some known)
    (hown : known.record.workerId = w) (h : c.foreign.markOwnerDead known.record = .ok f)
    (point : SyncPoint) : Grows journal c { c with foreign := f, point := point } := by
  obtain ⟨hset, hsame⟩ := markOwnerDead_cases h
  refine ⟨rfl, fun _ _ h => h, fun _ _ h => .inl h, fun _ _ h => h, fun _ _ h => .inl h,
    fun v r hr => ?_, fun v r hr => ?_, ⟨fun _ _ h => h, fun _ _ h => h, fun _ _ h => h⟩⟩
  · change f.deadOwners.get? v = some r
    rw [hset, Dict.get?_set]
    split
    · rename_i hv
      rw [← hv] at hr
      rw [hsame r hr]
    · exact hr
  · change f.deadOwners.get? v = some r at hr
    rw [hset, Dict.get?_set] at hr
    split at hr
    · rename_i hv
      rw [Option.some.injEq] at hr
      exact .inr ⟨known, by rw [← hv, hown, hget], hr⟩
    · exact .inl hr

theorem applyWrite_frame (c : DeathSync ε) (death : WorkerDeathRecord) (write : SweepWrite) :
    (c.applyWrite death write).ownerTable = c.ownerTable ∧
      (c.applyWrite death write).deathRecords = c.deathRecords ∧
      (c.applyWrite death write).foreign = c.foreign ∧
      (c.applyWrite death write).cursor = c.cursor ∧
      (c.applyWrite death write).handedOver = c.handedOver ∧
        c.Fenced (c.applyWrite death write) := by
  have herase : ∀ {κ ν : Type} [DecidableEq κ] (d : Dict κ ν) (k x : κ), d.get? x = none →
      (d.erase k).get? x = none := by
    intro κ ν _ d k x hx
    rw [Dict.get?_erase, hx, ite_self]
  cases write with
  | popBorrowed key => exact ⟨rfl, rfl, rfl, rfl, rfl, fun _ _ => herase _ _ _, fun _ _ h => h,
      fun _ _ h => h⟩
  | popAttempt key => exact ⟨rfl, rfl, rfl, rfl, rfl, fun _ _ h => h, fun _ _ => herase _ _ _,
      fun _ _ h => h⟩
  | popOrphan key => exact ⟨rfl, rfl, rfl, rfl, rfl, fun _ _ h => h, fun _ _ h => h,
      fun _ _ => herase _ _ _⟩
  | buryEdges objectId =>
    simp only [applyWrite]
    split
    · exact ⟨rfl, rfl, rfl, rfl, rfl, .refl c⟩
    · exact ⟨rfl, rfl, rfl, rfl, rfl, fun _ _ h => h, fun _ _ h => h, fun _ _ h => h⟩
  | buryGuards taskId =>
    simp only [applyWrite]
    split
    · exact ⟨rfl, rfl, rfl, rfl, rfl, .refl c⟩
    · exact ⟨rfl, rfl, rfl, rfl, rfl, fun _ _ h => h, fun _ _ h => h, fun _ _ h => h⟩
  | wake taskId => exact ⟨rfl, rfl, rfl, rfl, rfl, fun _ _ h => h, fun _ _ h => h, fun _ _ h => h⟩

theorem applyWrite_grows (c : DeathSync ε) (death : WorkerDeathRecord) (write : SweepWrite)
    (point : SyncPoint) :
    Grows journal c { c.applyWrite death write with point := point } := by
  obtain ⟨htable, hrecords, hforeign, hcursor, _, hfenced⟩ := applyWrite_frame c death write
  refine .of_same hcursor ?_ hrecords ?_ ⟨hfenced.borrowed, hfenced.attempts, hfenced.guards⟩
  · change (c.applyWrite death write).ownerTable.deadWorkerCleanups = _
    rw [htable]
  · change (c.applyWrite death write).foreign.deadOwners = _
    rw [hforeign]

theorem swept_write {write : SweepWrite} {point : SyncPoint}
    (h : Swept { c.applyWrite death write with point := point } w (.write write :: script)) :
    Swept { c.applyWrite death write with point := point } w script where
  dead := h.dead
  borrowed key hkey hne := by
    refine (List.mem_cons.mp (h.borrowed key hkey hne)).resolve_left fun heq => hne ?_
    cases heq
    exact Dict.get?_erase_self _ _
  attempts key hkey hne := by
    refine (List.mem_cons.mp (h.attempts key hkey hne)).resolve_left fun heq => hne ?_
    cases heq
    exact Dict.get?_erase_self _ _
  guards key hkey hne := by
    refine (List.mem_cons.mp (h.guards key hkey hne)).resolve_left fun heq => hne ?_
    cases heq
    exact Dict.get?_erase_self _ _

theorem swept_of_writes {drives : List InstallStep} {point : SyncPoint}
    (hdead : c.ownerIsDead w = true) :
    Swept { c with point := point } w ((c.sweepWrites w).map .write ++ drives ++ script) := by
  have hmem : ∀ write ∈ c.sweepWrites w,
      InstallStep.write write ∈ (c.sweepWrites w).map .write ++ drives ++ script := by
    intro write hwrite
    exact List.mem_append_left _ (List.mem_append_left _ (List.mem_map_of_mem hwrite))
  have hkeys : ∀ {κ ν : Type} [DecidableEq κ] (d : Dict κ ν) (k : κ), d.get? k ≠ none →
      k ∈ d.keys := by
    intro κ ν _ d k hk
    by_contra hnot
    exact hk (Dict.get?_eq_none_iff.mpr hnot)
  refine ⟨hdead, fun key hkey hne => hmem _ ?_, fun key hkey hne => hmem _ ?_,
    fun key hkey hne => hmem _ ?_⟩
  · simp [sweepWrites, hkeys _ _ hne, hkey]
  · simp [sweepWrites, hkeys _ _ hne, hkey]
  · simp [sweepWrites, hkeys _ _ hne, hkey]

theorem install_steps (hknown : Known journal c) (hplaced : Placed journal c) (hj : Genuine journal)
    {watermark : Nat} (hat : c.point = .installing watermark death rest cleanup script) :
    Steps journal c lossless (c.install watermark death rest cleanup script) := by
  have hsuffix : death :: rest <+: journal.drop c.cursor := by
    have h := hplaced.suffix
    rwa [hat] at h
  have hquiet : awaiting c.point = [] := by rw [hat]; rfl
  obtain ⟨hexit, hprogress⟩ := hplaced.installing _ _ _ _ _ hat
  have hreached : Reached journal c.cursor death := by
    have hhead := List.prefix_iff_getElem?.mp hsuffix 0 (by simp)
    exact ⟨c.cursor, le_rfl, by simpa using hhead, hexit⟩
  -- A step of the script that only grows what is installed.
  have hstep : ∀ (c' : DeathSync ε) (cleanup' : Option DeadWorkerReferenceCleanup)
      (script' : List InstallStep), Grows journal c c' →
      c'.point = .installing watermark death rest cleanup' script' →
      Progress c' death cleanup' script' → (∀ o, o ∈ c.handedOver → o ∈ c'.handedOver) →
      Steps journal c lossless c' := by
    intro c' cleanup' script' hg hpoint hprogress' hhanded
    refine .grows c' hg ⟨by rw [hpoint, hg.cursor]; exact hsuffix, ?_⟩ hhanded fun _ o ho => ?_
    · intro w d r cl sc hat'
      rw [hpoint] at hat'
      cases hat'
      exact ⟨hexit, hprogress'⟩
    · rw [hquiet] at ho
      cases ho
  cases script with
  | nil =>
    refine commitCursor_steps hsuffix hj hquiet fun _ => ?_
    obtain ⟨known, hcleanup⟩ := Option.isSome_iff_exists.mp (hprogress.installed (by simp))
    have hget := hprogress.receipt known hcleanup
    obtain ⟨known', hget', howner⟩ := hprogress.marked (by simp)
    rw [hget, Option.some.injEq] at hget'
    subst hget'
    obtain ⟨d, hd, hworker, hown, hid⟩ := hknown.cleanups _ _ hget
    obtain rfl := hj.unique d hd.mem death hreached.mem hworker
    refine ⟨⟨⟨known, hget, hown, hid, howner⟩, hprogress.recorded (by simp),
      (hprogress.swept (by simp)).released⟩, fun known' hknown' => ?_⟩
    rw [hget, Option.some.injEq] at hknown'
    rw [hcleanup, ← hknown']
    rfl
  | cons head script =>
    cases head with
    | installDeadWorker =>
      unfold DeathSync.install
      cases hinstall : c.ownerTable.installDeadWorker death.workerId death.referenceId with
      | error _ => exact .leave _ fun _ => hquiet
      | ok result =>
        obtain ⟨installed, table⟩ := result
        have hreceipt := ObjectOwnerTable.installDeadWorker_receipt hinstall
        have hgrows : Grows journal c { c with
            ownerTable := table
            point := .installing watermark death rest (some installed) script } := by
          refine ⟨rfl, fun w known hk => hreceipt.kept hk, fun w known hk => ?_,
            fun _ _ h => h, fun _ _ h => .inl h, fun _ _ h => h, fun _ _ h => .inl h,
            ⟨fun _ _ h => h, fun _ _ h => h, fun _ _ h => h⟩⟩
          by_cases hw : w = death.workerId
          · subst hw
            cases hold : c.ownerTable.deadWorkerCleanups.get? death.workerId with
            | some old =>
              have hsame := (hreceipt.repeated old hold).1
              rw [hreceipt.receipt, hsame] at hk
              exact .inl hk
            | none =>
              have hfirst := hreceipt.own hold
              rw [hreceipt.receipt, Option.some.injEq] at hk
              subst hk
              exact .inr ⟨death, hreached, rfl, hfirst, hreceipt.exact_id⟩
          · rw [hreceipt.others w hw] at hk
            exact .inl hk
        have hafter := progress_grow hprogress hgrows
        refine hstep _ _ _ hgrows rfl ⟨?_, fun _ => rfl, ?_, ?_, ?_⟩ fun _ ho => ho
        · intro known hk
          cases hk
          exact hreceipt.receipt
        · exact fun hs => hafter.recorded (by simpa using hs)
        · exact fun hs => hafter.marked (by simpa using hs)
        · exact fun hs => swept_tail (hafter.swept (by simpa using hs)) nofun
    | recordDeath =>
      have hgrows : ∀ point returned, Grows journal c { c with
          deathRecords := c.deathRecords.setDefault death.workerId death
          point := point
          returned := returned } := by
        intro point returned
        refine ⟨rfl, fun _ _ h => h, fun _ _ h => .inl h, fun w d hd => ?_, fun w d hd => ?_,
          fun _ _ h => h, fun _ _ h => .inl h, ⟨fun _ _ h => h, fun _ _ h => h, fun _ _ h => h⟩⟩
        · exact Dict.get?_setDefault_kept hd
        · rcases Dict.get?_setDefault_new hd with hold | ⟨rfl, rfl⟩
          · exact .inl hold
          · exact .inr ⟨rfl, hreached⟩
      simp only [DeathSync.install]
      split
      · refine .grows _ (hgrows .idle (some false)) (.resting List.nil_prefix nofun)
          (fun _ ho => ho) fun _ o ho => ?_
        rw [hquiet] at ho
        cases ho
      · rename_i hrecorded
        rw [not_not] at hrecorded
        have hafter := progress_grow hprogress
          (hgrows (.installing watermark death rest cleanup script) c.returned)
        refine hstep _ _ _ (hgrows _ c.returned) rfl
          ⟨hafter.receipt, ?_, ?_, ?_, ?_⟩ fun _ h => h
        · exact fun hs => hafter.installed (by simpa using hs)
        · exact fun _ => hrecorded
        · exact fun hs => hafter.marked (by simpa using hs)
        · exact fun hs => swept_tail (hafter.swept (by simpa using hs)) nofun
    | markOwnerDead =>
      unfold DeathSync.install
      cases hcleanup : cleanup with
      | none => exact .leave _ fun _ => hquiet
      | some installed =>
        subst hcleanup
        dsimp only
        cases hmark : c.foreign.markOwnerDead installed.record with
        | error _ => exact .leave _ fun _ => hquiet
        | ok foreign =>
          have hget := hprogress.receipt installed rfl
          obtain ⟨_, _, _, hown, _⟩ := hknown.cleanups _ _ hget
          have hgrows : Grows journal c _ := marks_grows hget hown hmark
            (.installing watermark death rest (some installed) script)
          have hafter := progress_grow hprogress hgrows
          refine hstep _ _ _ hgrows rfl ⟨hafter.receipt, ?_, ?_, ?_, ?_⟩ fun _ h => h
          · exact fun hs => hafter.installed (by simpa using hs)
          · exact fun hs => hafter.recorded (by simpa using hs)
          · exact fun _ => ⟨installed, hget, by
              change foreign.deadOwners.get? _ = _
              rw [(markOwnerDead_cases hmark).1, ← hown, Dict.get?_set_self]⟩
          · exact fun hs => swept_tail (hafter.swept (by simpa using hs)) nofun
    | discharge =>
      simp only [DeathSync.install]
      split
      · exact .leave _ fun _ => hquiet
      · rename_i hproof
        rw [not_not] at hproof
        refine hstep _ cleanup _ (.of_same rfl rfl rfl rfl
          ⟨fun _ _ h => h, fun _ _ h => h, fun _ _ h => h⟩) rfl ?_ fun _ h => h
        refine ⟨hprogress.receipt, ?_, ?_, ?_, fun _ => ?_⟩
        · exact fun hs => hprogress.installed (by simpa using hs)
        · exact fun hs => hprogress.recorded (by simpa using hs)
        · exact fun hs => hprogress.marked (by simpa using hs)
        · exact swept_of_writes (by
            rw [ownerIsDead]
            cases hget : c.ownerTable.deadWorkerCleanups.get? death.workerId with
            | none => simp [hget] at hproof
            | some _ => rfl)
    | write write =>
      have hgrows : Grows journal c _ := applyWrite_grows c death write
        (.installing watermark death rest cleanup script)
      have hafter := progress_grow hprogress hgrows
      refine hstep _ cleanup script hgrows rfl ⟨hafter.receipt, ?_, ?_, ?_, ?_⟩ ?_
      · exact fun hs => hafter.installed (by simpa using hs)
      · exact fun hs => hafter.recorded (by simpa using hs)
      · exact fun hs => hafter.marked (by simpa using hs)
      · exact fun hs => swept_write (hafter.swept (by simpa using hs))
      · intro o ho
        change o ∈ (c.applyWrite death write).handedOver
        rwa [(applyWrite_frame c death write).2.2.2.2.1]
    | drive objectId =>
      have hgrows : Grows journal c { c with
          handedOver := c.handedOver ++ [objectId]
          point := .installing watermark death rest cleanup script } :=
        .of_same rfl rfl rfl rfl ⟨fun _ _ h => h, fun _ _ h => h, fun _ _ h => h⟩
      have hafter := progress_grow hprogress hgrows
      refine hstep _ cleanup script hgrows rfl ⟨hafter.receipt, ?_, ?_, ?_, ?_⟩ ?_
      · exact fun hs => hafter.installed (by simpa using hs)
      · exact fun hs => hafter.recorded (by simpa using hs)
      · exact fun hs => hafter.marked (by simpa using hs)
      · exact fun hs => swept_tail (hafter.swept (by simpa using hs)) nofun
      · exact fun o ho => List.mem_append_left _ ho

theorem advance_steps (hknown : Known journal c) (hplaced : Placed journal c)
    (hj : Genuine journal) : Steps journal c True c.advance := by
  have hsuffix := hplaced.suffix
  have hresting : ∀ (c' : DeathSync ε), Grows journal c c' →
      (∀ watermark d rest cleanup script, c'.point ≠ .installing watermark d rest cleanup script) →
      ahead c'.point <+: journal.drop c'.cursor →
      (∀ o, o ∈ c.handedOver → o ∈ c'.handedOver) →
      (∀ o, o ∈ awaiting c.point → o ∈ c'.handedOver ∨ o ∈ awaiting c'.point) →
      Steps journal c True c' := by
    intro c' hg hrest hahead hhanded hkept
    exact .grows c' hg (.resting hahead hrest) hhanded fun _ => hkept
  have hsame : ∀ point, Grows journal c { c with point := point } := fun point =>
    .of_same rfl rfl rfl rfl ⟨fun _ _ h => h, fun _ _ h => h, fun _ _ h => h⟩
  unfold DeathSync.advance
  cases hpoint : c.point with
  | idle => exact .same hplaced
  | called => exact .same hplaced
  | between watermark deaths =>
    rw [hpoint] at hsuffix
    have hquiet : awaiting c.point = [] := by rw [hpoint]; rfl
    cases deaths with
    | nil => exact .leave _ fun _ => hquiet
    | cons death rest =>
      have hinstall : death.ConfirmedExit → Steps journal c True { c with
          point := .installing watermark death rest none installScript } := by
        intro hexit
        refine .grows _ (hsame _) ⟨hsuffix, ?_⟩ (fun _ ho => ho) fun _ o ho => ?_
        · intro w d r cl sc hat
          cases hat
          refine ⟨hexit, nofun, ?_, ?_, ?_, ?_⟩ <;>
            exact fun hs => absurd (by simp [installScript]) hs
        · rw [hquiet] at ho
          cases ho
      dsimp only
      cases hreason : death.reason with
      | processExit => exact hinstall (.inl hreason)
      | nodeExit => exact hinstall (.inr hreason)
      | expected =>
        refine commitCursor_steps hsuffix hj hquiet fun hexit => ?_
        rcases hexit with hexit | hexit
        · rw [hreason] at hexit
          cases hexit
        · rw [hreason] at hexit
          cases hexit
  | installing watermark death rest cleanup script => exact install_steps hknown hplaced hj hpoint
  | handing watermark rest objectIds =>
    rw [hpoint] at hsuffix
    cases objectIds with
    | nil =>
      refine hresting _ (hsame _) nofun hsuffix (fun _ ho => ho) fun o ho => ?_
      rw [hpoint] at ho
      cases ho
    | cons objectId objectIds =>
      refine hresting _ (.of_same rfl rfl rfl rfl ⟨fun _ _ h => h, fun _ _ h => h,
        fun _ _ h => h⟩) nofun hsuffix (fun o ho => List.mem_append_left _ ho) fun o ho => ?_
      rw [hpoint] at ho
      rcases List.mem_cons.mp ho with rfl | ho
      · exact .inl (List.mem_append_right _ List.mem_cons_self)
      · exact .inr ho

/-- The interrupt comes when objects are still to be handed over. -/
def Loses (c : DeathSync ε) (interrupt : Bool) : Prop :=
  interrupt = true ∧ awaiting c.point ≠ []

theorem raise_steps (hknown : Known journal c) (hplaced : Placed journal c)
    (hj : Genuine journal) (interrupt : Bool) :
    Steps journal c (¬ Loses c interrupt) (c.raise interrupt) := by
  have hquiet : interrupt = true → ¬ Loses c interrupt → awaiting c.point = [] := by
    intro hi hl
    by_contra hne
    exact hl ⟨hi, hne⟩
  unfold DeathSync.raise
  cases hpoint : c.point with
  | idle => exact .same hplaced
  | handing watermark rest objectIds =>
    dsimp only
    split
    · rename_i hi
      exact .leave _ fun hl => hquiet hi hl
    · exact (advance_steps hknown hplaced hj).mono fun _ => trivial
  | called => exact .leave _ fun _ => by rw [hpoint]; rfl
  | between watermark rest => exact .leave _ fun _ => by rw [hpoint]; rfl
  | installing watermark death rest cleanup script => exact .leave _ fun _ => by rw [hpoint]; rfl

theorem begin_steps (hplaced : Placed journal c) : Steps journal c True c.begin := by
  unfold DeathSync.begin
  cases hpoint : c.point with
  | idle =>
    refine .grows _ (.of_same rfl rfl rfl rfl ⟨fun _ _ h => h, fun _ _ h => h, fun _ _ h => h⟩)
      (.resting List.nil_prefix nofun) (fun _ ho => ho) fun _ o ho => ?_
    rw [hpoint] at ho
    cases ho
  | called => exact .same hplaced
  | between _ _ => exact .same hplaced
  | installing _ _ _ _ _ => exact .same hplaced
  | handing _ _ _ => exact .same hplaced

/-- What passes the validation is the journal after the cursor, as far as it goes. -/
theorem valid_suffix (hj : Genuine journal) {reply : WireReply}
    (hvalid : (reply.read journal).Valid) :
    (reply.read journal).deaths <+: journal.drop reply.afterEpoch := by
  obtain ⟨_, hepochs⟩ := hvalid
  rw [List.prefix_iff_getElem?]
  intro i hi
  have hmem : (reply.read journal).deaths[i] ∈ journal := by
    have h := List.getElem_mem hi
    simp only [WireReply.read, List.mem_filterMap] at h
    obtain ⟨place, _, hplace⟩ := h
    exact List.mem_of_getElem? hplace
  obtain ⟨j, hj', hget⟩ := List.getElem_of_mem hmem
  have hepoch : (reply.read journal).deaths[i].deathEpoch = reply.afterEpoch + 1 + i := by
    have hmap := congrArg (·[i]?) hepochs
    simp only [List.getElem?_map, List.getElem?_eq_getElem hi, Option.map_some] at hmap
    obtain ⟨_, hrange⟩ := List.getElem?_eq_some_iff.mp hmap.symm
    rw [← hrange, List.getElem_range', one_mul]
    rfl
  have hplace := hj.epoch j _ ((List.getElem?_eq_getElem hj').trans (congrArg some hget))
  have hindex : reply.afterEpoch + i = j := by omega
  rw [List.getElem?_drop, hindex, List.getElem?_eq_getElem hj', hget]

theorem receive_steps (hplaced : Placed journal c) (hj : Genuine journal)
    (reply : Option WireReply) :
    Steps journal c True (c.receive (reply.map (·.read journal))) := by
  unfold DeathSync.receive
  cases hpoint : c.point with
  | called =>
    have hquiet : awaiting c.point = [] := by rw [hpoint]; rfl
    cases reply with
    | none => exact .leave _ fun _ => hquiet
    | some reply =>
      simp only [Option.map_some]
      split
      · exact .leave _ fun _ => hquiet
      · rename_i hok
        push Not at hok
        have hsuffix := valid_suffix hj hok.1
        have hafter : reply.afterEpoch = c.cursor := hok.2
        rw [hafter] at hsuffix
        refine .grows _ (.of_same rfl rfl rfl rfl ⟨fun _ _ h => h, fun _ _ h => h,
          fun _ _ h => h⟩) (.resting hsuffix nofun) (fun _ ho => ho) fun _ o ho => ?_
        rw [hquiet] at ho
        cases ho
  | idle => exact .same hplaced
  | between _ _ => exact .same hplaced
  | installing _ _ _ _ _ => exact .same hplaced
  | handing _ _ _ => exact .same hplaced

end DeathJournal

end MiniRay
