import MiniRay.EnhancedPublication.Authority

/-! `Change` says once what each mutation demands of its record and writes to it. From it follows
the record invariant, and from that the outcome of every call. -/

namespace MiniRay

open Checked

namespace PublicationSnapshot

variable {s s' : PublicationSnapshot} {r : PublicationReceipt}

/-! ## Appending a receipt -/

theorem receipt_append (hr : s'.receipts = s.receipts ++ [r]) (stage : PublicationStage) :
    s'.receipt stage = (s.receipt stage).or (if r.stage = stage then some r else none) := by
  simp only [receipt, hr, List.find?_append, List.find?_singleton]
  by_cases h : r.stage = stage <;> simp [h]

theorem has_append (hr : s'.receipts = s.receipts ++ [r]) (stage : PublicationStage) :
    s'.has stage = (s.has stage || decide (r.stage = stage)) := by
  simp only [has, receipt_append hr]
  by_cases h : r.stage = stage <;> cases s.receipt stage <;> simp [h]

variable {stage : PublicationStage}

theorem mem_of_receipt (h : s.receipt stage = some r) : r ∈ s.receipts ∧ r.stage = stage :=
  ⟨List.mem_of_find?_eq_some h, by simpa using List.find?_some h⟩

theorem receipt_eq_none_iff : s.receipt stage = none ↔ ∀ x ∈ s.receipts, x.stage ≠ stage := by
  simp [receipt]

theorem has_eq_false_iff : s.has stage = false ↔ s.receipt stage = none := by
  simp [has]

theorem has_eq_true_iff : s.has stage = true ↔ s.receipt stage ≠ none := by
  simp [has, Option.isSome_iff_ne_none]

theorem Precedes.append {before after : PublicationStage} (h : s.Precedes before after)
    (hr : s'.receipts = s.receipts ++ [r])
    (hlast : ∀ x ∈ s.receipts, x.sequence < r.sequence)
    (hbefore : r.stage = after → s.has before = true) : s'.Precedes before after := by
  intro a ha
  rw [receipt_append hr] at ha ⊢
  cases hsa : s.receipt after with
  | some a' =>
    obtain ⟨b, hb, hlt⟩ := h a' hsa
    simp only [hsa, Option.some_or, Option.some.injEq] at ha
    subst ha
    exact ⟨b, by simp [hb], hlt⟩
  | none =>
    by_cases hstage : r.stage = after
    · simp only [hsa, hstage, if_true, Option.none_or, Option.some.injEq] at ha
      subst ha
      obtain ⟨b, hb⟩ := Option.isSome_iff_exists.mp (hbefore hstage)
      exact ⟨b, by simp [hb], hlast b (mem_of_receipt hb).1⟩
    · simp [hsa, hstage] at ha

theorem Valid.has_fenced (h : Valid s) (hf : s.fence ≠ none) : s.has .fenced = true := by
  rw [← h.fence_receipt]
  exact Option.isSome_iff_ne_none.mpr hf

theorem Valid.fenced_eq_none (h : Valid s) (hopen : s.forwardOpen = true) :
    s.receipt .fenced = none := by
  have hfence : s.fence.isSome = false := by simp_all [forwardOpen]
  rw [← has_eq_false_iff, ← h.fence_receipt, hfence]

theorem Valid.closedHolds_eq_none (h : Valid s) (hopen : s.forwardOpen = true) :
    s.closedHolds = none := by
  have hretired : s.has .retired = false := by simp_all [forwardOpen]
  rw [← Option.not_isSome_iff_eq_none, h.closed_receipt, hretired]
  exact Bool.false_ne_true

end PublicationSnapshot

namespace PublicationAuthority

open PublicationSnapshot

/-! ## What a mutation demands and writes -/

/-- One acceptable mutation of a record, before its receipt is appended. -/
inductive Change (self : PublicationAuthority) (previous : PublicationSnapshot) :
    PublicationRequest → PublicationSnapshot → Prop where
  | beginPublication {p} (hopen : previous.forwardOpen = true) :
      Change self previous (.beginPublication p) previous
  | prepareGraph {ref} (hopen : previous.forwardOpen = true)
      (hintent : previous.has .intent = true)
      (hacyclic :
        previous.receipt .prepared = none → self.wouldCycle previous.publication = false) :
      Change self previous (.prepareGraph ref) previous
  | armTask {prepared} (hvalid : validatePrepared previous.publication (.task prepared) = .ok ())
      (hopen : previous.forwardOpen = true) (hprepared : previous.has .prepared = true) :
      Change self previous (.armTask prepared) { previous with prepared := some (.task prepared) }
  | recordTerminal {complete} (htask : previous.publication.isTask = true)
      (harmed : previous.has .armed = true)
      (hscope : ∀ closed, previous.closedHolds = some closed → closed.rollbackScope = none) :
      Change self previous (.recordTerminal complete) { previous with complete := some complete }
  | commitPut {request prepared} (hput : previous.publication.isTask = false)
      (hvalid : validatePrepared previous.publication (.put prepared) = .ok ())
      (hprepared : previous.has .prepared = true)
      (hopen : previous.receipt .committed = none → previous.forwardOpen = true) :
      Change self previous (.commitGraph request)
        { previous with prepared := some (.put prepared) }
  | commitTask {request} (htask : previous.publication.isTask = true)
      (hterminal : previous.has .terminal = true) (hprepared : previous.has .prepared = true)
      (hopen : previous.receipt .committed = none → previous.forwardOpen = true) :
      Change self previous (.commitGraph request) previous
  | recordAdoption {proof} (hcommitted : previous.has .committed = true)
      (hcomplete : previous.complete = some proof.complete)
      (howner : proof.ownerWorkerId = previous.publication.ownerWorkerId)
      (habort : previous.receipt .adopted = none → previous.fence.any FenceProof.isAbort = false) :
      Change self previous (.recordAdoption proof) { previous with adoption := some proof }
  | fencePublication {request} (habort : request.proof.isAbort = true → previous.adoption = none) :
      Change self previous (.fencePublication request)
        { previous with fence := some request.proof }
  | retireGraph {closed} (hfence : previous.fence ≠ none)
      (hclosed : previous.validateClosed closed = .ok ()) :
      Change self previous (.retireGraph closed) { previous with closedHolds := some closed }

variable {self : PublicationAuthority} {previous changed : PublicationSnapshot}
  {request : PublicationRequest} {stage : PublicationStage}

theorem changes_cases (hs : request.stage = some stage)
    (h : self.changes previous request = .ok changed) : Change self previous request changed := by
  have hhas (st : PublicationStage) : previous.receipt st ≠ none → previous.has st = true :=
    has_eq_true_iff.mpr
  cases request with
  | beginPublication p =>
    simp only [changes, requireForward, bind_eq_ok, raiseIf_eq_ok, pure_eq_ok, exists_const,
      Bool.not_eq_false] at h
    obtain ⟨hopen, rfl⟩ := h
    exact .beginPublication hopen
  | prepareGraph ref =>
    simp only [changes, requireForward, requireStage, bind_eq_ok, raiseIf_eq_ok, pure_eq_ok,
      exists_const, Bool.not_eq_false, not_and, Bool.not_eq_true] at h
    obtain ⟨hopen, hintent, hacyclic, rfl⟩ := h
    exact .prepareGraph hopen (hhas _ hintent) hacyclic
  | armTask prepared =>
    simp only [changes, requireForward, requireStage, bind_eq_ok, raiseIf_eq_ok, pure_eq_ok,
      exists_const, Bool.not_eq_false] at h
    obtain ⟨_, hvalid, _, hopen, hprepared, rfl⟩ := h
    exact .armTask hvalid hopen (hhas _ hprepared)
  | recordTerminal complete =>
    simp only [changes, requireStage, bind_eq_ok, raiseIf_eq_ok, pure_eq_ok, exists_const,
      Bool.not_eq_false, not_not, Option.bind_eq_none_iff] at h
    obtain ⟨htask, harmed, _, hscope, rfl⟩ := h
    exact .recordTerminal htask (hhas _ harmed) hscope
  | commitGraph request =>
    simp only [changes, requireForward, requireStage] at h
    by_cases hput : previous.publication.isTask = false
    · cases hp : request.putPrepared with
      | none => simp [hput, hp] at h
      | some prepared =>
        simp only [hput, hp, if_true, bind_eq_ok, raiseIf_eq_ok, ite_eq_ok, pure_eq_ok,
          exists_const, Bool.not_eq_false] at h
        obtain ⟨_, hvalid, _, hprepared, hopen, rfl⟩ := h
        exact .commitPut hput hvalid (hhas _ hprepared) (by tauto)
    · rw [if_neg hput] at h
      simp only [bind_eq_ok, raiseIf_eq_ok, ite_eq_ok, pure_eq_ok, exists_const,
        Bool.not_eq_false] at h
      obtain ⟨_, hterminal, hprepared, hopen, rfl⟩ := h
      exact .commitTask (by simpa using hput) (hhas _ hterminal) (hhas _ hprepared) (by tauto)
  | recordAdoption proof =>
    simp only [changes, requireStage, bind_eq_ok, raiseIf_eq_ok, pure_eq_ok, exists_const,
      not_or, not_not, not_and, Bool.not_eq_true] at h
    obtain ⟨hcommitted, ⟨hcomplete, howner⟩, _, habort, rfl⟩ := h
    exact .recordAdoption (hhas _ hcommitted) hcomplete.symm howner habort
  | fencePublication request =>
    simp only [changes, bind_eq_ok, raiseIf_eq_ok, pure_eq_ok, exists_const, not_and,
      not_not] at h
    obtain ⟨_, habort, rfl⟩ := h
    exact .fencePublication habort
  | retireGraph closed =>
    simp only [changes, bind_eq_ok, raiseIf_eq_ok, pure_eq_ok, exists_const] at h
    obtain ⟨hfence, _, hclosed, _, rfl⟩ := h
    exact .retireGraph hfence hclosed
  | getPublication ref => simp [PublicationRequest.stage] at hs

section

variable (h : Change self previous request changed)
include h

theorem Change.publication_eq :
    changed.publication = previous.publication := by
  cases h <;> rfl

theorem Change.receipts_eq :
    changed.receipts = previous.receipts := by
  cases h <;> rfl

/-! Each fact is either kept, at another stage, or installed by its own mutation. -/

theorem Change.fence_cases (hs : request.stage = some stage) :
    changed.fence = previous.fence ∧ stage ≠ .fenced ∨
      stage = .fenced ∧ ∃ r, request = .fencePublication r ∧ changed.fence = some r.proof ∧
        (r.proof.isAbort = true → previous.adoption = none) := by
  cases h <;> cases hs
  case fencePublication habort => exact Or.inr ⟨rfl, _, rfl, rfl, habort⟩
  all_goals exact Or.inl ⟨rfl, by decide⟩

theorem Change.prepared_cases (hs : request.stage = some stage) :
    changed.prepared = previous.prepared ∧ stage ≠ .armed ∧
        (stage = .committed → previous.publication.isTask = true) ∨
      stage = (if previous.publication.isTask then .armed else .committed) ∧
        (previous.receipt stage = none → previous.forwardOpen = true) ∧
        ∃ p, changed.prepared = some p ∧ validatePrepared previous.publication p = .ok () := by
  cases h <;> cases hs
  case armTask hvalid hopen _ =>
    have hkind : true = previous.publication.isTask := validatePrepared_kind hvalid
    exact Or.inr ⟨by simp [← hkind], fun _ => hopen, _, rfl, hvalid⟩
  case commitPut hput hvalid _ hopen => exact Or.inr ⟨by simp [hput], hopen, _, rfl, hvalid⟩
  case commitTask htask _ _ _ => exact Or.inl ⟨rfl, by decide, fun _ => htask⟩
  all_goals exact Or.inl ⟨rfl, by decide, nofun⟩

theorem Change.complete_cases (hs : request.stage = some stage) :
    changed.complete = previous.complete ∧ stage ≠ .terminal ∨
      stage = .terminal ∧ ∃ c, request = .recordTerminal c ∧ changed.complete = some c ∧
        previous.publication.isTask = true ∧
        ∀ closed, previous.closedHolds = some closed → closed.rollbackScope = none := by
  cases h <;> cases hs
  case recordTerminal htask _ hscope => exact Or.inr ⟨rfl, _, rfl, rfl, htask, hscope⟩
  all_goals exact Or.inl ⟨rfl, by decide⟩

theorem Change.adoption_cases (hs : request.stage = some stage) :
    changed.adoption = previous.adoption ∧ stage ≠ .adopted ∨
      stage = .adopted ∧ ∃ p, changed.adoption = some p ∧ previous.complete = some p.complete ∧
        p.ownerWorkerId = previous.publication.ownerWorkerId ∧
        (previous.receipt .adopted = none → previous.fence.any FenceProof.isAbort = false) := by
  cases h <;> cases hs
  case recordAdoption _ hcomplete howner habort =>
    exact Or.inr ⟨rfl, _, rfl, hcomplete, howner, habort⟩
  all_goals exact Or.inl ⟨rfl, by decide⟩

theorem Change.closed_cases (hs : request.stage = some stage) :
    changed.closedHolds = previous.closedHolds ∧ stage ≠ .retired ∨
      stage = .retired ∧ ∃ c, changed.closedHolds = some c ∧
        previous.validateClosed c = .ok () := by
  cases h <;> cases hs
  case retireGraph _ hclosed => exact Or.inr ⟨rfl, _, rfl, hclosed⟩
  all_goals exact Or.inl ⟨rfl, by decide⟩

end

/-! ## The record invariant -/

def forwardStages : List PublicationStage := [.intent, .prepared, .armed, .committed]

structure RecordInv (counter : Nat) (s : PublicationSnapshot) : Prop extends Valid s where
  bounded : ∀ receipt ∈ s.receipts, receipt.sequence ≤ counter
  open_before_fence : ∀ stage ∈ forwardStages, ∀ a f, s.receipt stage = some a →
    s.receipt .fenced = some f → a.sequence < f.sequence
  abort_not_adopted : s.fence.any FenceProof.isAbort = true → s.adoption = none

theorem RecordInv.prerequisite {counter : Nat} (h : RecordInv counter previous)
    (hc : Change self previous request changed) (hs : request.stage = some stage) :
    ∀ pair ∈ causalOrder, stage = pair.1 → previous.has pair.2 = true := by
  have hfence := h.has_fenced
  cases hc <;> cases hs <;> simp_all [causalOrder]

section Append

variable {counter : Nat} {updated : PublicationSnapshot} {r : PublicationReceipt}

/-- The facts of a fresh mutation agree with the history that its receipt extends. -/
structure FactsSpec (previous changed : PublicationSnapshot) (stage : PublicationStage) : Prop where
  fence_valid : ∀ fence, changed.fence = some fence → ValidFence previous.publication fence
  fence_receipt : changed.fence.isSome = (previous.has .fenced || decide (stage = .fenced))
  complete_receipt :
    changed.complete.isSome = (previous.has .terminal || decide (stage = .terminal))
  adoption_receipt : changed.adoption.isSome = (previous.has .adopted || decide (stage = .adopted))
  closed_receipt : changed.closedHolds.isSome = (previous.has .retired || decide (stage = .retired))
  terminal_commit : previous.publication.isTask = true → stage = .committed →
    previous.has .terminal = true
  armed_fact : previous.has .armed = true ∨ stage = .armed →
    previous.publication.isTask = true ∧ changed.prepared ≠ none
  prepared_fact : ∀ prepared, changed.prepared = some prepared →
    validatePrepared previous.publication prepared = .ok () ∧
      (previous.has (if previous.publication.isTask then .armed else .committed) = true ∨
        stage = if previous.publication.isTask then .armed else .committed)
  complete_fact : ∀ complete, changed.complete = some complete →
    previous.publication.isTask = true ∧
      previous.reference.key = .output complete.publicationId ∧
      previous.reference.digest = complete.manifestDigest
  commit_fact : previous.has .committed = true ∨ stage = .committed →
    previous.publication.isTask = false → changed.prepared ≠ none
  adoption_fact : ∀ adoption, changed.adoption = some adoption →
    changed.complete = some adoption.complete ∧
      adoption.ownerWorkerId = previous.publication.ownerWorkerId
  closed_fact : ∀ closed, changed.closedHolds = some closed → changed.validateClosed closed = .ok ()
  abort_not_adopted : changed.fence.any FenceProof.isAbort = true → changed.adoption = none

theorem Change.facts (h : RecordInv counter previous) (hc : Change self previous request changed)
    (hs : request.stage = some stage) (hnew : previous.receipt stage = none)
    (href : request.reference = previous.reference)
    (hpub : ∀ p, request.publication = some p → previous.publication = p) :
    FactsSpec previous changed stage := by
  have hnew' := has_eq_false_iff.mpr hnew
  refine ⟨?_, ?_, ?_, ?_, ?_, ?_, ?_, ?_, ?_, ?_, ?_, ?_, ?_⟩
  · intro fence hf
    rcases hc.fence_cases hs with ⟨hkeep, _⟩ | ⟨_, r, rfl, hset, _⟩
    · exact h.fence_valid fence (hkeep ▸ hf)
    · obtain rfl : r.proof = fence := by simpa [hset] using hf
      rw [hpub _ rfl]
      exact r.valid
  · rcases hc.fence_cases hs with ⟨hkeep, hne⟩ | ⟨rfl, r, _, hset, _⟩
    · simp [hkeep, hne, h.fence_receipt]
    · simp [hset]
  · rcases hc.complete_cases hs with ⟨hkeep, hne⟩ | ⟨rfl, c, _, hset, _⟩
    · simp [hkeep, hne, h.complete_receipt]
    · simp [hset]
  · rcases hc.adoption_cases hs with ⟨hkeep, hne⟩ | ⟨rfl, p, hset, _⟩
    · simp [hkeep, hne, h.adoption_receipt]
    · simp [hset]
  · rcases hc.closed_cases hs with ⟨hkeep, hne⟩ | ⟨rfl, c, hset, _⟩
    · simp [hkeep, hne, h.closed_receipt]
    · simp [hset]
  · rintro htask rfl
    cases hc <;> cases hs
    · rename_i hput _ _ _
      simp [hput] at htask
    · assumption
  · intro ha
    rcases hc.prepared_cases hs with ⟨hkeep, hne, _⟩ | ⟨hstage, _, p, hset, _⟩
    · rw [hkeep]
      exact h.armed_fact (ha.resolve_right hne)
    · refine ⟨?_, by simp [hset]⟩
      rcases ha with ha | ha
      · exact (h.armed_fact ha).1
      · by_contra ht
        rw [if_neg ht, ha] at hstage
        cases hstage
  · intro prepared hp
    rcases hc.prepared_cases hs with ⟨hkeep, _⟩ | ⟨hstage, _, p, hset, hvalid⟩
    · obtain ⟨hvalid, hhas⟩ := h.prepared_fact prepared (hkeep ▸ hp)
      exact ⟨hvalid, Or.inl hhas⟩
    · obtain rfl : p = prepared := by simpa [hset] using hp
      exact ⟨hvalid, Or.inr hstage⟩
  · intro complete hcomplete
    rcases hc.complete_cases hs with ⟨hkeep, _⟩ | ⟨_, c, rfl, hset, htask, _⟩
    · exact h.complete_fact complete (hkeep ▸ hcomplete)
    · obtain rfl : c = complete := by simpa [hset] using hcomplete
      rw [← href]
      exact ⟨htask, rfl, rfl⟩
  · intro hcommitted hput
    rcases hc.prepared_cases hs with ⟨hkeep, _, htask⟩ | ⟨_, _, p, hset, _⟩
    · rw [hkeep]
      refine h.commit_fact (hcommitted.resolve_right fun hstage => ?_) hput
      simp [htask hstage] at hput
    · simp [hset]
  · intro adoption hadoption
    rcases hc.adoption_cases hs with ⟨hkeep, _⟩ | ⟨rfl, p, hset, hcomplete, howner, _⟩
    · obtain ⟨hcomplete, howner⟩ := h.adoption_fact adoption (hkeep ▸ hadoption)
      refine ⟨?_, howner⟩
      rcases hc.complete_cases hs with ⟨hkept, _⟩ | ⟨rfl, _⟩
      · rw [hkept, hcomplete]
      · have hterminal := h.complete_receipt
        simp [hcomplete, hnew'] at hterminal
    · obtain rfl : p = adoption := by simpa [hset] using hadoption
      rcases hc.complete_cases hs with ⟨hkept, _⟩ | ⟨hstage, _⟩
      · exact ⟨hkept.trans hcomplete, howner⟩
      · cases hstage
  · intro closed hclosed
    rcases hc.closed_cases hs with ⟨hkeep, hne⟩ | ⟨rfl, c, hset, hvalid⟩
    · rw [hkeep] at hclosed
      have hvalid := h.closed_fact closed hclosed
      refine validateClosed_congr hc.publication_eq ?_ ?_ hvalid
      · rcases hc.prepared_cases hs with ⟨hkept, _⟩ | ⟨_, hopen, _⟩
        · exact hkept
        · simp [h.closedHolds_eq_none (hopen hnew)] at hclosed
      · rcases hc.complete_cases hs with ⟨hkept, _⟩ | ⟨_, _, _, _, _, hscope⟩
        · rcases hc.adoption_cases hs with ⟨hkept', _⟩ | ⟨_, p, _, hcomplete, _⟩
          · exact Or.inr ⟨hkept, hkept'⟩
          · exact Or.inl (validateClosed_scope hvalid (by simp [hcomplete]))
        · exact Or.inl (hscope closed hclosed)
    · obtain rfl : c = closed := by simpa [hset] using hclosed
      cases hc <;> cases hs
      exact validateClosed_congr rfl rfl (Or.inr ⟨rfl, rfl⟩) hvalid
  · intro habort
    rcases hc.fence_cases hs with ⟨hkeep, _⟩ | ⟨rfl, r, _, hset, hfresh⟩
    · rw [hkeep] at habort
      rcases hc.adoption_cases hs with ⟨hkept, _⟩ | ⟨rfl, _, _, _, _, hnone⟩
      · exact hkept.trans (h.abort_not_adopted habort)
      · simp [hnone hnew] at habort
    · rcases hc.adoption_cases hs with ⟨hkept, _⟩ | ⟨hstage, _⟩
      · exact hkept.trans (hfresh (by simpa [hset] using habort))
      · cases hstage

theorem Change.forwardOpen (hc : Change self previous request changed)
    (hs : request.stage = some stage) (hforward : stage ∈ forwardStages)
    (hnew : previous.receipt stage = none) : previous.forwardOpen = true := by
  cases hc <;> cases hs
  case commitPut.refl hopen => exact hopen hnew
  case commitTask.refl hopen => exact hopen hnew
  all_goals first | assumption | simp [forwardStages] at hforward

theorem RecordInv.append (h : RecordInv counter previous)
    (hc : Change self previous request changed) (hs : request.stage = some stage)
    (hnew : previous.receipt stage = none) (href : request.reference = previous.reference)
    (hpub : ∀ p, request.publication = some p → previous.publication = p)
    (hr : r = ⟨request.reference, stage, counter + 1, Nat.succ_pos counter⟩)
    (hu : updated = { changed with receipts := changed.receipts ++ [r] }) :
    RecordInv (counter + 1) updated := by
  have hfacts := hc.facts h hs hnew href hpub
  have hstage : r.stage = stage := by rw [hr]
  have hseq : r.sequence = counter + 1 := by rw [hr]
  have hreceipts : updated.receipts = previous.receipts ++ [r] := by rw [hu, hc.receipts_eq]
  have hpublication : updated.publication = previous.publication := by rw [hu, ← hc.publication_eq]
  have hlast : ∀ x ∈ previous.receipts, x.sequence < r.sequence := by
    rw [hseq]
    exact fun x hx => Nat.lt_succ_of_le (h.bounded x hx)
  have hhas (st : PublicationStage) :
      updated.has st = (previous.has st || decide (stage = st)) := by
    rw [has_append hreceipts, hstage]
  have hprec {before after : PublicationStage} (hb : previous.Precedes before after)
      (hm : (after, before) ∈ causalOrder) : updated.Precedes before after :=
    hb.append hreceipts hlast fun hst =>
      h.prerequisite hc hs (after, before) hm (hstage.symm.trans hst)
  refine ⟨⟨?_, ?_, ?_, ?_, ?_, ?_, ?_, ?_, hprec h.intent_prepared (by simp [causalOrder]),
    hprec h.prepared_armed (by simp [causalOrder]), hprec h.armed_terminal (by simp [causalOrder]),
    hprec h.prepared_committed (by simp [causalOrder]),
    hprec h.committed_adopted (by simp [causalOrder]),
    hprec h.fenced_retired (by simp [causalOrder]), ?_, ?_, ?_, ?_, ?_, ?_, ?_⟩, ?_, ?_, ?_⟩
  · have hfresh := receipt_eq_none_iff.mp hnew
    simpa [hreceipts, List.nodup_append, h.stages, hstage] using hfresh
  · intro receipt hm
    rw [hreceipts] at hm
    rcases List.mem_append.mp hm with hm | hm
    · rw [h.references receipt hm, reference, reference, hpublication]
    · obtain rfl := List.mem_singleton.mp hm
      rw [hr, href, reference, reference, hpublication]
  · rw [hreceipts, List.pairwise_append]
    exact ⟨h.ordered, by simp, by simpa using hlast⟩
  · rw [hpublication, hu]
    exact hfacts.fence_valid
  · rw [hhas, hu]
    exact hfacts.fence_receipt
  · rw [hhas, hu]
    exact hfacts.complete_receipt
  · rw [hhas, hu]
    exact hfacts.adoption_receipt
  · rw [hhas, hu]
    exact hfacts.closed_receipt
  · intro htask
    rw [hpublication] at htask
    exact (h.terminal_committed htask).append hreceipts hlast fun hst =>
      hfacts.terminal_commit htask (hstage.symm.trans hst)
  · intro harmed
    rw [hhas, Bool.or_eq_true, decide_eq_true_eq] at harmed
    rw [hpublication, hu]
    exact hfacts.armed_fact harmed
  · intro prepared hp
    rw [hu] at hp
    obtain ⟨hvalid, hat⟩ := hfacts.prepared_fact prepared hp
    rw [hhas, hpublication, Bool.or_eq_true, decide_eq_true_eq]
    exact ⟨hvalid, hat⟩
  · intro complete hcomplete
    rw [hu] at hcomplete
    rw [reference, hpublication]
    exact hfacts.complete_fact complete hcomplete
  · intro hcommitted hput
    rw [hhas, Bool.or_eq_true, decide_eq_true_eq] at hcommitted
    rw [hpublication] at hput
    rw [hu]
    exact hfacts.commit_fact hcommitted hput
  · intro adoption hadoption
    rw [hu] at hadoption
    rw [hpublication, hu]
    exact hfacts.adoption_fact adoption hadoption
  · intro closed hclosed
    rw [hu] at hclosed ⊢
    exact hfacts.closed_fact closed hclosed
  · intro receipt hm
    rw [hreceipts] at hm
    rcases List.mem_append.mp hm with hm | hm
    · exact Nat.le_succ_of_le (h.bounded receipt hm)
    · obtain rfl := List.mem_singleton.mp hm
      exact hseq.le
  · intro st hforward a f ha hf
    rw [receipt_append hreceipts, hstage] at ha hf
    cases hfenced : previous.receipt .fenced with
    | some f' =>
      obtain rfl : f' = f := by simpa [hfenced] using hf
      cases hold : previous.receipt st with
      | some a' =>
        obtain rfl : a' = a := by simpa [hold] using ha
        exact h.open_before_fence st hforward _ _ hold hfenced
      | none =>
        obtain ⟨rfl, _⟩ : stage = st ∧ r = a := by simpa [hold] using ha
        simp [h.fenced_eq_none (hc.forwardOpen hs hforward hnew)] at hfenced
    | none =>
      obtain ⟨rfl, rfl⟩ : stage = .fenced ∧ r = f := by simpa [hfenced] using hf
      cases hold : previous.receipt st with
      | some a' =>
        obtain rfl : a' = a := by simpa [hold] using ha
        exact hlast a' (mem_of_receipt hold).1
      | none =>
        obtain ⟨rfl, _⟩ : .fenced = st ∧ r = a := by simpa [hold] using ha
        simp [forwardStages] at hforward
  · rw [hu]
    exact hfacts.abort_not_adopted

end Append

/-! ## Rejections -/

/-- A publication error with a text, which a reply can carry. -/
def Rejection (failure : Failure) : Prop :=
  ∃ kind message, failure = .publicationError kind message ∧ message ≠ ""

variable {message : String}

@[simp] theorem rejection_publicationError {kind : PublicationErrorKind} :
    Rejection (.publicationError kind message) ↔ message ≠ "" := by
  simp [Rejection]

@[simp] theorem rejection_conflict :
    Rejection (conflict message) ↔ message ≠ "" := rejection_publicationError

@[simp] theorem rejection_state :
    Rejection (state message) ↔ message ≠ "" := rejection_publicationError

theorem raises_validatePrepared (publication : Publication) (prepared : PreparedReceipt) :
    RaisesOnly Rejection (validatePrepared publication prepared) := by
  simp only [validatePrepared, raisesOnly_bind, raisesOnly_raiseIf]
  refine ⟨by simp, fun _ _ => ⟨by simp, fun _ _ => ⟨raisesOnly_checkAll (by simp), fun _ _ => ?_⟩⟩⟩
  split <;> simp

theorem raises_validateClosed (s : PublicationSnapshot) (closed : ClosedContainedHolds) :
    RaisesOnly Rejection (s.validateClosed closed) := by
  simp [validateClosed, checkScope, validateScope, checkSettlement]

theorem raises_requireStage (s : PublicationSnapshot) (stage : PublicationStage) :
    RaisesOnly Rejection (requireStage s stage) := by
  have hmessage : "publication requires " ++ stage.value ++ " history" ≠ "" := by
    cases stage <;> decide
  simp [requireStage, hmessage]

theorem raises_changes (self : PublicationAuthority) (previous : PublicationSnapshot)
    (request : PublicationRequest) : RaisesOnly Rejection (self.changes previous request) := by
  have hprepared := raises_validatePrepared previous.publication
  have hstage := raises_requireStage previous
  have hclosed := raises_validateClosed previous
  cases request with
  | commitGraph request =>
    simp only [changes]
    split
    · split <;> simp [hprepared, hstage, requireForward]
    · simp [hstage, requireForward]
  | _ => simp [changes, hprepared, hstage, hclosed, requireForward]

end PublicationAuthority

end MiniRay
