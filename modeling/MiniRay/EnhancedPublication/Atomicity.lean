import MiniRay.EnhancedPublication.Transition

/-! Every call on a reachable authority returns a reply, and the reply tells exactly what the call
did to the records. -/

namespace MiniRay

open Checked PublicationSnapshot

namespace PublicationAuthority

variable {self : PublicationAuthority} {request : PublicationRequest}

/-! ## Reachable states -/

structure Inv (authority : PublicationAuthority) : Prop where
  keys : ∀ key s, authority.records.get? key = some s → s.reference.key = key
  records : ∀ key s, authority.records.get? key = some s → RecordInv authority.sequence s

variable {s : PublicationSnapshot}

theorem RecordInv.mono {n m : Nat} (h : RecordInv n s) (hnm : n ≤ m) : RecordInv m s :=
  { h with bounded := fun r hr => (h.bounded r hr).trans hnm }

theorem recordInv_registered (n : Nat) (publication : Publication) :
    RecordInv n (.registered publication) := by
  refine ⟨⟨?_, ?_, ?_, ?_, rfl, rfl, rfl, rfl, ?_, ?_, ?_, ?_, ?_, ?_, ?_, ?_, ?_, ?_, ?_, ?_, ?_⟩,
    ?_, ?_, ?_⟩
  all_goals simp [registered, Precedes, PublicationSnapshot.receipt, PublicationSnapshot.has]

theorem create_registered (publication : Publication) :
    PublicationSnapshot.create (.registered publication) = .ok (.registered publication) := by
  simp [PublicationSnapshot.create, (recordInv_registered 0 publication).validate]

theorem raises_addressed (self : PublicationAuthority) (request : PublicationRequest) :
    RaisesOnly Rejection (self.addressed request) := by
  have hbinding (p : Publication) (admitting : Bool) :
      RaisesOnly Rejection (self.validateBinding p admitting) := by
    simp only [validateBinding, create_registered, raisesOnly_bind]
    refine ⟨raisesOnly_checkAll ?_, by simp⟩
    intro s _
    simp [checkBinding]
  unfold addressed
  split <;> simp [hbinding, create_registered]

/-- The record a request addresses, already known or newly registered. -/
structure Addressed (authority : PublicationAuthority) (request : PublicationRequest)
    (previous : PublicationSnapshot) : Prop where
  reference : request.reference = previous.reference
  inv : RecordInv authority.sequence previous
  publication : ∀ p, request.publication = some p → previous.publication = p
  known : authority.records.get? request.reference.key = some previous ∨
    authority.records.get? request.reference.key = none ∧
      previous = .registered previous.publication ∧
      request.publication = some previous.publication ∧
      authority.validateBinding previous.publication request.admitting = .ok ()

variable {previous : PublicationSnapshot}

theorem addressed_cases (h : Inv self)
    (hkey : ∀ s, self.records.get? request.reference.key = some s → s.reference = request.reference)
    (ha : self.addressed request = .ok previous) : Addressed self request previous := by
  unfold addressed at ha
  split at ha
  · rename_i known publication hget hpub
    simp only [bind_eq_ok, raiseIf_eq_ok, pure_eq_ok, exists_const, not_not] at ha
    obtain ⟨rfl, rfl⟩ := ha
    exact ⟨(hkey _ hget).symm, h.records _ _ hget, by simp [hpub], Or.inl hget⟩
  · rename_i known hget hpub
    obtain rfl := pure_eq_ok.mp ha
    exact ⟨(hkey _ hget).symm, h.records _ _ hget, by simp [hpub], Or.inl hget⟩
  · rename_i publication hget hpub
    simp only [bind_eq_ok, create_registered, Except.ok.injEq] at ha
    obtain ⟨_, hbinding, rfl⟩ := ha
    exact ⟨PublicationRequest.reference_of_publication hpub, recordInv_registered _ _,
      by simp [hpub, registered], Or.inr ⟨hget, rfl, hpub, hbinding⟩⟩
  · simp at ha

/-! ## Replies are always constructible -/

theorem create_accept {receipt : PublicationReceipt} (hs : s.Valid)
    (href : s.reference = request.reference) (hr : receipt ∈ s.receipts) :
    PublicationReply.create (.accept request (some s) (some receipt)) =
      .ok (.accept request (some s) (some receipt)) := by
  simp [PublicationReply.create, PublicationReply.validate, PublicationReply.accept, hs.validate,
    href, hr]

variable {known : Option PublicationSnapshot}

theorem create_query (hq : request.stage = none)
    (hs : ∀ s, known = some s → s.Valid ∧ s.reference = request.reference) :
    PublicationReply.create (.accept request known none) = .ok (.accept request known none) := by
  cases known with
  | none => simp [PublicationReply.create, PublicationReply.validate, PublicationReply.accept, hq]
  | some s =>
    obtain ⟨hv, href⟩ := hs s rfl
    simp [PublicationReply.create, PublicationReply.validate, PublicationReply.accept, hq,
      hv.validate, href]

theorem create_reject {kind : PublicationErrorKind} {message : String} (hmessage : message ≠ "")
    (hs : ∀ s, known = some s → s.Valid ∧ s.reference = request.reference) :
    PublicationReply.create (.reject request known kind message) =
      .ok (.reject request known kind message) := by
  cases known with
  | none =>
    simp [PublicationReply.create, PublicationReply.validate, PublicationReply.reject, hmessage]
  | some s =>
    obtain ⟨hv, href⟩ := hs s rfl
    simp [PublicationReply.create, PublicationReply.validate, PublicationReply.reject, hmessage,
      hv.validate, href]

/-! ## Outcomes -/

/-- What one call returns and what it does to the authority. -/
inductive Outcome (self : PublicationAuthority) (request : PublicationRequest) :
    PublicationReply → PublicationAuthority → Prop where
  | rejected {known kind message} :
      Outcome self request (.reject request known kind message) self
  | queried (hquery : request.stage = none) :
      Outcome self request
        (.accept request (self.records.get? request.reference.key) none) self
  | replayed {stage previous receipt} (hs : request.stage = some stage)
      (hknown : self.records.get? request.reference.key = some previous)
      (hreceipt : previous.receipt stage = some receipt) :
      Outcome self request (.accept request (some previous) (some receipt)) self
  | recorded {stage previous changed receipt updated} (hs : request.stage = some stage)
      (ha : Addressed self request previous) (hc : Change self previous request changed)
      (hnew : previous.receipt stage = none)
      (hr : receipt = ⟨request.reference, stage, self.sequence + 1, Nat.succ_pos self.sequence⟩)
      (hu : updated = { changed with receipts := changed.receipts ++ [receipt] })
      (hinv : RecordInv (self.sequence + 1) updated) :
      Outcome self request (.accept request (some updated) (some receipt))
        ⟨self.records.set request.reference.key updated, self.sequence + 1⟩

variable {stage : PublicationStage}

variable {changed : PublicationSnapshot}

theorem record_outcome (hs : request.stage = some stage) (ha : Addressed self request previous)
    (hc : Change self previous request changed) (hnew : previous.receipt stage = none) :
    ∃ reply next, self.record request stage changed = .ok (reply, next) ∧
      Outcome self request reply next ∧ reply.accepted = true := by
  have hinv := ha.inv.append hc hs hnew ha.reference ha.publication rfl rfl
  refine ⟨_, _, ?_, .recorded hs ha hc hnew rfl rfl hinv, rfl⟩
  have href : changed.publication.reference = request.reference := by
    rw [hc.publication_eq, ha.reference, reference]
  simp only [record, PublicationSnapshot.create, hinv.validate, bind_eq_ok, pure_eq_ok]
  exact ⟨_, ⟨(), trivial, rfl⟩, _, create_accept hinv.toValid href (by simp), rfl⟩

theorem known_reference {u : Unit} {failure : Failure}
    (h : raiseIf ((self.records.get? request.reference.key).any
      (fun previous => previous.reference ≠ request.reference) = true) failure = .ok u) :
    ∀ s, self.records.get? request.reference.key = some s → s.reference = request.reference := by
  intro s hs
  simpa [hs] using h

theorem raises_applyLocked (h : Inv self) : RaisesOnly Rejection (self.applyLocked request) := by
  simp only [applyLocked, raisesOnly_bind, raisesOnly_raiseIf]
  refine ⟨by simp, fun _ hkey => ?_⟩
  have hknown := known_reference hkey
  split
  · rename_i hquery
    have hreply := create_query hquery fun s hs =>
      ⟨(h.records _ s hs).toValid, hknown s hs⟩
    simp [hreply]
  · rename_i stage hs
    rw [raisesOnly_bind]
    refine ⟨raises_addressed self request, fun previous ha => ?_⟩
    have haddr := addressed_cases h hknown ha
    rw [raisesOnly_bind]
    refine ⟨raises_changes self previous request, fun changed hc => ?_⟩
    split
    · rename_i receipt hreceipt
      have hreply := create_accept haddr.inv.toValid haddr.reference.symm
        (mem_of_receipt hreceipt).1
      simp [hreply]
    · rename_i hnew
      obtain ⟨reply, next, hrecord, _⟩ := record_outcome hs haddr (changes_cases hs hc) hnew
      simp [hrecord]

variable {reply : PublicationReply} {next : PublicationAuthority}

theorem applyLocked_outcome (h : Inv self) (hok : self.applyLocked request = .ok (reply, next)) :
    Outcome self request reply next ∧ reply.accepted = true := by
  simp only [applyLocked, bind_eq_ok] at hok
  obtain ⟨_, hkey, hok⟩ := hok
  have hknown := known_reference hkey
  split at hok
  · rename_i hquery
    have hreply := create_query hquery fun s hs =>
      ⟨(h.records _ s hs).toValid, hknown s hs⟩
    simp only [hreply, bind_eq_ok, Except.ok.injEq, pure_eq_ok, Prod.mk.injEq] at hok
    obtain ⟨_, rfl, rfl, rfl⟩ := hok
    exact ⟨.queried hquery, rfl⟩
  · rename_i stage hs
    simp only [bind_eq_ok] at hok
    obtain ⟨previous, ha, changed, hc, hok⟩ := hok
    have haddr := addressed_cases h hknown ha
    split at hok
    · rename_i receipt hreceipt
      have hreply := create_accept haddr.inv.toValid haddr.reference.symm
        (mem_of_receipt hreceipt).1
      simp only [hreply, bind_eq_ok, Except.ok.injEq, pure_eq_ok, Prod.mk.injEq] at hok
      obtain ⟨_, rfl, rfl, rfl⟩ := hok
      rcases haddr.known with hget | ⟨_, hfresh, _⟩
      · exact ⟨.replayed hs hget hreceipt, rfl⟩
      · rw [hfresh] at hreceipt
        simp [PublicationSnapshot.receipt, registered] at hreceipt
    · rename_i hnew
      obtain ⟨reply', next', hrecord, hout⟩ := record_outcome hs haddr (changes_cases hs hc) hnew
      rw [hrecord] at hok
      cases hok
      exact hout

theorem apply_outcome (h : Inv self) (request : PublicationRequest) :
    ∃ reply, (self.apply request).1 = .ok reply ∧
      Outcome self request reply (self.apply request).2 := by
  cases happly : self.applyLocked request with
  | ok result =>
    obtain ⟨reply, next⟩ := result
    exact ⟨reply, by simp [apply, happly], by
      simpa [apply, happly] using (applyLocked_outcome h happly).1⟩
  | error failure =>
    obtain ⟨kind, message, rfl, hmessage⟩ := raises_applyLocked h failure happly
    have hknown : ∀ s, (self.records.get? request.reference.key).filter
        (fun snapshot => snapshot.reference = request.reference) = some s →
        s.Valid ∧ s.reference = request.reference := by
      intro s hs
      obtain ⟨hget, href⟩ := Option.filter_eq_some_iff.mp hs
      exact ⟨(h.records _ s hget).toValid, by simpa using href⟩
    refine ⟨_, by simp only [apply, happly]; exact create_reject hmessage hknown, ?_⟩
    simp only [apply, happly]
    exact .rejected

theorem Outcome.inv (h : Inv self) (hout : Outcome self request reply next) : Inv next := by
  cases hout with
  | rejected | queried | replayed => exact h
  | @recorded stage previous changed receipt updated hs ha hc hnew hr hu hinv =>
    have href : updated.reference.key = request.reference.key := by
      rw [hu, reference, hc.publication_eq, ha.reference, reference]
    refine ⟨fun key s hs => ?_, fun key s hs => ?_⟩
    all_goals
      rw [Dict.get?_set] at hs
      split at hs
    · rename_i hkey
      obtain rfl := Option.some.inj hs
      exact href.trans hkey
    · exact h.keys key s hs
    · obtain rfl := Option.some.inj hs
      exact hinv
    · exact (h.records key s hs).mono (Nat.le_succ _)

theorem Inv.step (h : Inv self) (request : PublicationRequest) : Inv (self.step request) := by
  obtain ⟨reply, _, hout⟩ := apply_outcome h request
  exact hout.inv h

theorem inv_empty : Inv empty := by
  constructor <;> simp [empty]

theorem inv_after (requests : List PublicationRequest) : Inv (after requests) :=
  Run.run_invariant (fun _ request h => h.step request) inv_empty requests

/-! ## Atomicity -/

/-- Everything recorded in `s` is still recorded in `s'`. -/
structure Preserves (s s' : PublicationSnapshot) : Prop where
  publication : s'.publication = s.publication
  receipts : s.receipts <+: s'.receipts
  fence : ∀ f, s.fence = some f → s'.fence = some f
  prepared : ∀ p, s.prepared = some p → s'.prepared = some p
  complete : ∀ c, s.complete = some c → s'.complete = some c
  adoption : ∀ a, s.adoption = some a → s'.adoption = some a
  closedHolds : ∀ c, s.closedHolds = some c → s'.closedHolds = some c

theorem Preserves.refl (s : PublicationSnapshot) : Preserves s s :=
  ⟨rfl, List.prefix_refl _, fun _ => id, fun _ => id, fun _ => id, fun _ => id, fun _ => id⟩

variable {s' : PublicationSnapshot}

theorem Preserves.trans {s'' : PublicationSnapshot} (h : Preserves s s') (h' : Preserves s' s'') :
    Preserves s s'' :=
  ⟨h'.publication.trans h.publication, h.receipts.trans h'.receipts,
    fun f hf => h'.fence f (h.fence f hf), fun p hp => h'.prepared p (h.prepared p hp),
    fun c hc => h'.complete c (h.complete c hc), fun a ha => h'.adoption a (h.adoption a ha),
    fun c hc => h'.closedHolds c (h.closedHolds c hc)⟩

theorem Preserves.receipt (h : Preserves s s') {r : PublicationReceipt}
    (hr : s.receipt stage = some r) : s'.receipt stage = some r := by
  obtain ⟨rest, hrest⟩ := h.receipts
  rw [PublicationSnapshot.receipt, ← hrest, List.find?_append, Option.or_eq_some_iff]
  exact Or.inl hr

theorem Change.preserves {counter : Nat} {updated : PublicationSnapshot}
    {receipt : PublicationReceipt} (h : RecordInv counter previous)
    (hc : Change self previous request changed) (hs : request.stage = some stage)
    (hnew : previous.receipt stage = none)
    (hu : updated = { changed with receipts := changed.receipts ++ [receipt] }) :
    Preserves previous updated := by
  have hnew' := has_eq_false_iff.mpr hnew
  subst hu
  refine ⟨hc.publication_eq, ?_, ?_, ?_, ?_, ?_, ?_⟩
  · simp [hc.receipts_eq]
  · intro f hf
    rcases hc.fence_cases hs with ⟨hkeep, _⟩ | ⟨rfl, _⟩
    · exact hkeep.trans hf
    · have hfence := h.fence_receipt
      simp [hf, hnew'] at hfence
  · intro p hp
    rcases hc.prepared_cases hs with ⟨hkeep, _⟩ | ⟨hstage, _⟩
    · exact hkeep.trans hp
    · have hat := (h.prepared_fact p hp).2
      simp [← hstage, hnew'] at hat
  · intro c hcomplete
    rcases hc.complete_cases hs with ⟨hkeep, _⟩ | ⟨rfl, _⟩
    · exact hkeep.trans hcomplete
    · have hterminal := h.complete_receipt
      simp [hcomplete, hnew'] at hterminal
  · intro a ha
    rcases hc.adoption_cases hs with ⟨hkeep, _⟩ | ⟨rfl, _⟩
    · exact hkeep.trans ha
    · have hadopted := h.adoption_receipt
      simp [ha, hnew'] at hadopted
  · intro c hclosed
    rcases hc.closed_cases hs with ⟨hkeep, _⟩ | ⟨rfl, _⟩
    · exact hkeep.trans hclosed
    · have hretired := h.closed_receipt
      simp [hclosed, hnew'] at hretired

variable {key : PublicationKey}

/-- A record of the authority, and everything in it, survives every call. -/
theorem Outcome.history (hout : Outcome self request reply next)
    (hs : self.records.get? key = some s) :
    ∃ s', next.records.get? key = some s' ∧ Preserves s s' := by
  cases hout with
  | rejected | queried | replayed => exact ⟨s, hs, .refl s⟩
  | @recorded stage previous changed receipt updated hstage ha hc hnew hr hu hinv =>
    by_cases hkey : request.reference.key = key
    · subst hkey
      rcases ha.known with hknown | ⟨hfresh, _⟩
      · obtain rfl : previous = s := Option.some.inj (hknown.symm.trans hs)
        exact ⟨updated, by simp, hc.preserves ha.inv hstage hnew hu⟩
      · simp [hfresh] at hs
    · exact ⟨s, by simpa [Dict.get?_set_of_ne _ _ hkey] using hs, .refl s⟩

theorem after_append (earlier later : List PublicationRequest) :
    after (earlier ++ later) = Run.run step (after earlier) later :=
  Run.run_append _ _ _ _

theorem history_run (h : Inv self) (later : List PublicationRequest)
    (hs : self.records.get? key = some s) :
    ∃ s', (Run.run step self later).records.get? key = some s' ∧ Preserves s s' := by
  induction later generalizing self s with
  | nil => exact ⟨s, hs, .refl s⟩
  | cons request later ih =>
    obtain ⟨_, _, hout⟩ := apply_outcome h request
    obtain ⟨s', hs', hpres⟩ := hout.history hs
    obtain ⟨s'', hs'', hpres'⟩ := ih (h.step request) hs'
    exact ⟨s'', hs'', hpres.trans hpres'⟩

theorem Outcome.accepted (hout : Outcome self request reply next) (hs : request.stage = some stage)
    (haccepted : reply.accepted = true) :
    ∃ s receipt, next.records.get? request.reference.key = some s ∧
      s.receipt stage = some receipt ∧ reply.receipt = some receipt := by
  cases hout with
  | rejected => simp [PublicationReply.reject] at haccepted
  | queried hquery => simp [hquery] at hs
  | @replayed stage' previous receipt hs' hknown hreceipt =>
    obtain rfl : stage' = stage := Option.some.inj (hs'.symm.trans hs)
    exact ⟨previous, receipt, hknown, hreceipt, rfl⟩
  | @recorded stage' previous changed receipt updated hs' ha hc hnew hr hu hinv =>
    obtain rfl : stage' = stage := Option.some.inj (hs'.symm.trans hs)
    refine ⟨updated, receipt, by simp, ?_, rfl⟩
    have hreceipts : updated.receipts = previous.receipts ++ [receipt] := by
      rw [hu, hc.receipts_eq]
    rw [receipt_append hreceipts, hnew, hr]
    simp

/-- A call whose stage is already recorded changes nothing, accepted or not. -/
theorem Outcome.replay (hout : Outcome self request reply next) {receipt : PublicationReceipt}
    (hs : request.stage = some stage) (hknown : self.records.get? request.reference.key = some s)
    (hreceipt : s.receipt stage = some receipt) :
    next = self ∧ (reply.accepted = true → reply.receipt = some receipt) := by
  cases hout with
  | rejected => simp [PublicationReply.reject]
  | queried hquery => simp [hquery] at hs
  | @replayed stage' previous receipt' hs' hknown' hreceipt' =>
    obtain rfl : stage' = stage := Option.some.inj (hs'.symm.trans hs)
    obtain rfl : previous = s := Option.some.inj (hknown'.symm.trans hknown)
    exact ⟨rfl, fun _ => hreceipt'.symm.trans hreceipt ▸ rfl⟩
  | @recorded stage' previous changed receipt' updated hs' ha hc hnew hr hu hinv =>
    obtain rfl : stage' = stage := Option.some.inj (hs'.symm.trans hs)
    rcases ha.known with hknown' | ⟨hfresh, _⟩
    · obtain rfl : previous = s := Option.some.inj (hknown'.symm.trans hknown)
      simp [hnew] at hreceipt
    · simp [hfresh] at hknown

/-- An accepted query: the record as it stands, without a receipt. -/
structure QuerySpec (authority : PublicationAuthority) (request : PublicationRequest)
    (reply : PublicationReply) (next : PublicationAuthority) : Prop where
  query : request.stage = none
  reply_eq : reply = .accept request (authority.records.get? request.reference.key) none
  unchanged : next = authority

/-- An accepted replay: the receipt already on record, and no change. -/
structure ReplaySpec (authority : PublicationAuthority) (request : PublicationRequest)
    (reply : PublicationReply) (next : PublicationAuthority) : Prop where
  recorded : ∃ stage previous receipt, request.stage = some stage ∧
    authority.records.get? request.reference.key = some previous ∧
    previous.receipt stage = some receipt ∧
    reply = .accept request (some previous) (some receipt)
  unchanged : next = authority

/-- An accepted mutation that is no replay: one record, one receipt, one tick. -/
structure RecordedSpec (authority : PublicationAuthority) (request : PublicationRequest)
    (reply : PublicationReply) (next : PublicationAuthority) : Prop where
  sequence : next.sequence = authority.sequence + 1
  others : ∀ key, key ≠ request.reference.key → next.records.get? key = authority.records.get? key
  record : ∃ updated receipt, next.records.get? request.reference.key = some updated ∧
    reply = .accept request (some updated) (some receipt) ∧
    receipt.reference = request.reference ∧ request.stage = some receipt.stage ∧
    receipt.sequence = authority.sequence + 1 ∧
    updated.receipts =
      ((authority.records.get? request.reference.key).map (·.receipts)).getD [] ++ [receipt] ∧
    ∀ previous, authority.records.get? request.reference.key = some previous →
      Preserves previous updated

/-- The gates of `_apply_locked`, without the two constructors that follow them. -/
def Gated (self : PublicationAuthority) (request : PublicationRequest) : Prop :=
  (∀ s, self.records.get? request.reference.key = some s → s.reference = request.reference) ∧
    (request.stage = none ∨ ∃ previous changed, self.addressed request = .ok previous ∧
      self.changes previous request = .ok changed)

/-- One call on `self` is atomic. -/
structure AtomicSpec (authority : PublicationAuthority) (request : PublicationRequest) : Prop where
  replies : ∃ reply, (authority.apply request).1 = .ok reply
  validators_agree : ∀ reply, (authority.apply request).1 = .ok reply →
    (reply.accepted = true ↔ Gated authority request)
  rejected : ∀ reply, (authority.apply request).1 = .ok reply → reply.accepted = false →
    (authority.apply request).2 = authority
  accepted : ∀ reply, (authority.apply request).1 = .ok reply → reply.accepted = true →
    QuerySpec authority request reply (authority.apply request).2 ∨
      ReplaySpec authority request reply (authority.apply request).2 ∨
      RecordedSpec authority request reply (authority.apply request).2

theorem Outcome.spec (hout : Outcome self request reply next) (haccepted : reply.accepted = true) :
    QuerySpec self request reply next ∨ ReplaySpec self request reply next ∨
      RecordedSpec self request reply next := by
  cases hout with
  | rejected => simp [PublicationReply.reject] at haccepted
  | queried hquery => exact Or.inl ⟨hquery, rfl, rfl⟩
  | replayed hs hknown hreceipt =>
    exact Or.inr (Or.inl ⟨⟨_, _, _, hs, hknown, hreceipt, rfl⟩, rfl⟩)
  | @recorded stage previous changed receipt updated hs ha hc hnew hr hu hinv =>
    refine Or.inr (Or.inr ⟨rfl, fun key hkey => Dict.get?_set_of_ne _ _ (Ne.symm hkey),
      updated, receipt, by simp, rfl, by rw [hr], by rw [hr, hs], by rw [hr], ?_, ?_⟩)
    · rw [hu, hc.receipts_eq]
      rcases ha.known with hknown | ⟨hfresh, hregistered, _⟩
      · simp [hknown]
      · rw [hfresh, hregistered]
        simp [registered]
    · intro s hs'
      rcases ha.known with hknown | ⟨hfresh, _⟩
      · obtain rfl : previous = s := Option.some.inj (hknown.symm.trans hs')
        exact hc.preserves ha.inv hs hnew hu
      · simp [hfresh] at hs'

theorem gated_of_applyLocked (hok : self.applyLocked request = .ok (reply, next)) :
    Gated self request := by
  simp only [applyLocked, bind_eq_ok] at hok
  obtain ⟨_, hkey, hok⟩ := hok
  refine ⟨known_reference hkey, ?_⟩
  split at hok
  · exact Or.inl ‹_›
  · simp only [bind_eq_ok] at hok
    obtain ⟨previous, ha, changed, hc, _⟩ := hok
    exact Or.inr ⟨previous, changed, ha, hc⟩

theorem not_gated_of_applyLocked (h : Inv self) {failure : Failure}
    (herror : self.applyLocked request = .error failure) : ¬ Gated self request := by
  rintro ⟨hknown, hgates⟩
  have hkey : (self.records.get? request.reference.key).any
      (fun previous => previous.reference ≠ request.reference) = false := by
    cases hget : self.records.get? request.reference.key with
    | none => rfl
    | some s => simp [hknown s hget]
  simp only [applyLocked, bind_eq_error, raiseIf_eq_error, hkey, Bool.false_eq_true, false_and,
    false_or] at herror
  obtain ⟨_, _, herror⟩ := herror
  split at herror
  · rename_i hquery
    have hreply := create_query hquery fun s hs =>
      ⟨(h.records _ s hs).toValid, hknown s hs⟩
    simp [hreply] at herror
  · rename_i stage hs
    obtain ⟨previous, changed, ha, hc⟩ := hgates.resolve_left (by simp [hs])
    have haddr := addressed_cases h hknown ha
    simp only [ha, hc, bind_eq_error, Except.ok.injEq, reduceCtorEq, false_or,
      exists_eq_left'] at herror
    split at herror
    · rename_i receipt hreceipt
      have hreply := create_accept haddr.inv.toValid haddr.reference.symm
        (mem_of_receipt hreceipt).1
      simp [hreply] at herror
    · rename_i hnew
      obtain ⟨reply, next, hrecord, _⟩ := record_outcome hs haddr (changes_cases hs hc) hnew
      simp [hrecord] at herror

theorem accepted_iff_gated (h : Inv self) (hreply : (self.apply request).1 = .ok reply) :
    reply.accepted = true ↔ Gated self request := by
  cases happly : self.applyLocked request with
  | ok result =>
    obtain ⟨reply', next⟩ := result
    obtain rfl : reply' = reply := by simpa [apply, happly] using hreply
    exact iff_of_true (applyLocked_outcome h happly).2 (gated_of_applyLocked happly)
  | error failure =>
    obtain ⟨kind, message, rfl, _⟩ := raises_applyLocked h failure happly
    simp only [apply, happly, PublicationReply.create, bind_eq_ok, pure_eq_ok] at hreply
    obtain ⟨_, _, rfl⟩ := hreply
    exact iff_of_false (by simp [PublicationReply.reject]) (not_gated_of_applyLocked h happly)

theorem Outcome.rejected_eq (hout : Outcome self request reply next)
    (hrejected : reply.accepted = false) : next = self := by
  cases hout with
  | rejected | queried | replayed => rfl
  | recorded => simp [PublicationReply.accept] at hrejected

theorem outcome_of_reply (h : Inv self) (hreply : (self.apply request).1 = .ok reply) :
    Outcome self request reply (self.apply request).2 := by
  obtain ⟨reply', hreply', hout⟩ := apply_outcome h request
  obtain rfl : reply' = reply := Except.ok.inj (hreply'.symm.trans hreply)
  exact hout

/-- The receipt of an accepted mutation stays on record whatever follows. -/
theorem receipt_kept (h : Inv self) (hreply : (self.apply request).1 = .ok reply)
    (haccepted : reply.accepted = true) (hs : request.stage = some stage)
    (later : List PublicationRequest) :
    ∃ s receipt,
      (Run.run step self (request :: later)).records.get? request.reference.key = some s ∧
      s.receipt stage = some receipt ∧ reply.receipt = some receipt := by
  obtain ⟨s, receipt, hget, hstage, hreceipt⟩ := (outcome_of_reply h hreply).accepted hs haccepted
  obtain ⟨s', hget', hpres⟩ := history_run (h.step request) later hget
  exact ⟨s', receipt, hget', hpres.receipt hstage, hreceipt⟩

end PublicationAuthority

end MiniRay
