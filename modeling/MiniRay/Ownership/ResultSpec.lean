import MiniRay.Ownership.Guards

/-! How one call may move the result of an object, register it, freeze it for collection or forget
it. Some calls trust their caller; `CallerConditions` names what each of them trusts, and a move
that needs such trust says so. -/

namespace MiniRay

/-- What a call's caller has made sure of, and what it means to register or retire. -/
structure CallerConditions where
  /-- A `commit_validated` call carries the plan its validator just returned. -/
  validated : Prop
  /-- A validated advance starts over from a result without replicas. -/
  vacant : Prop
  /-- A validated advance does not repeat the attempt whose descriptor is known. -/
  renewed : Prop
  /-- A validated advance moves on to a later attempt, or repeats one without an outcome. -/
  ordered : Prop
  /-- A republished stored result has the integrity of the known one. -/
  identical : Prop
  /-- A Node-loss resolution hands back the inline bytes it finds. -/
  bytes : Prop
  /-- The lineage of a collecting object is not aborted or taken over. -/
  lineage : Prop
  /-- A collection is begun with the integrity the entry knows. -/
  integrity : Prop
  /-- The call retires, or discards after a Node loss, the output of this attempt. -/
  retires : ObjectID → AttemptID → Prop
  /-- The call registers this object. -/
  registers : ObjectID → Prop
  /-- The call advances this object to this attempt. -/
  advances : ObjectID → AttemptID → Prop
  /-- The call assigns an error again that it found equal to the known one. -/
  restates : Prop

/-- Two stored results that agree on size, checksum and owner. -/
def SameIntegrity (d d' : ResultDescriptor) : Prop :=
  d.sizeBytes = d'.sizeBytes ∧ d.checksum = d'.checksum ∧ d.ownerWorkerId = d'.ownerWorkerId

def KeepsIntegrity (canonical canonical' : Option ResultDescriptor) : Prop :=
  ∀ d, canonical = some d → ∃ d', canonical' = some d' ∧ SameIntegrity d d'

def DescribesStored (o : ObjectID) (d : ResultDescriptor) : Prop :=
  d.objectId = o ∧ d.storage = .objectStore

namespace ResultFields

variable {ε : Type}

/-- The attempt is not one whose output was retired. -/
def Unretired (h : PublicationHistory) (o : ObjectID) (r : ResultFields ε) : Prop :=
  ∀ a, r.currentAttempt = some a → (o, a) ∉ h.retiredOutputAttempts

/-- Nothing has been published for the current attempt. -/
structure Pristine (r : ResultFields ε) : Prop where
  pending : r.state = .pending
  inline : r.inlineData = none
  error : r.error = none
  canonical : r.canonicalStoredResult = none
  locations : r.locationAttempts.items = []
  edges : r.outgoingContainedEdges = ∅

/-- The producing task is the one the manifest was made for. -/
def ProducedBy (r : ResultFields ε) (manifest : OutputPublicationManifest) : Prop :=
  ∃ spec, r.producerTaskSpec = some spec ∧ spec.returnIds = manifest.publicationId.outputIds ∧
    spec.ownerWorkerId = manifest.header.ownerWorkerId ∧ spec.jobId = manifest.header.jobId

/-- A result without an outcome may start over for a later attempt, or pending for its own. -/
structure StartsOver (r : ResultFields ε) (next : AttemptID) : Prop where
  unsettled : r.state = .pending ∨ r.state = .lost
  vacant : r.locationAttempts.items = []
  later : ∀ a, r.currentAttempt = some a →
    a.attemptNumber < next.attemptNumber ∨ a = next ∧ r.state = .pending

end ResultFields

open ResultFields

inductive ResultMove {ε : Type} (c : CallerConditions) (h h' : PublicationHistory)
    (o : ObjectID) (r : ResultFields ε) : ResultFields ε → Prop
  /-- Nothing changes. -/
  | same : ResultMove c h h' o r r
  /-- The next attempt starts from a pending result. -/
  | advanced (next : AttemptID) (free : r.outputPublication = none)
      (vacant : c.vacant → r.locationAttempts.items = [])
      (renewed : c.renewed → r.canonicalStoredResult ≠ none → r.currentAttempt ≠ some next)
      (ordered : c.ordered → r.StartsOver next) (named : c.advances o next) :
      ResultMove c h h' o r { r with
        currentAttempt := some next, state := .pending, inlineData := none, error := none,
        canonicalStoredResult := none }
  /-- A pending result becomes an inline value. -/
  | publishedInline (data : List UInt8) (put : Option PutIdentity)
      (edges : Finset ContainedReferenceEdge)
      (state : r.state = .pending) (locations : r.locationAttempts.items = [])
      (unretired : r.Unretired h o)
      (own : edges = r.outgoingContainedEdges ∨ r.outputPublication = none) :
      ResultMove c h h' o r { r with
        state := .readyInline, inlineData := some data, error := none,
        canonicalStoredResult := none, putIdentity := put, outgoingContainedEdges := edges }
  /-- The same inline value is assigned again. -/
  | republishedInline (state : r.state = .readyInline) :
      ResultMove c h h' o r { r with error := none, canonicalStoredResult := none }
  /-- A pending or lost result becomes a stored one with its first replica. -/
  | publishedStored (node : NodeID) (canonical : Option ResultDescriptor)
      (put : Option PutIdentity) (edges : Finset ContainedReferenceEdge)
      (state : r.state = .pending ∨ r.state = .lost) (locations : r.locationAttempts.items = [])
      (unretired : r.Unretired h o)
      (integrity : c.identical → r.state = .lost →
        KeepsIntegrity r.canonicalStoredResult canonical)
      (own : edges = r.outgoingContainedEdges ∨ r.outputPublication = none)
      (described : ∀ d, canonical = some d →
        r.canonicalStoredResult = some d ∨ DescribesStored o d) :
      ResultMove c h h' o r { r with
        state := .readyStored, inlineData := none, error := none,
        canonicalStoredResult := canonical,
        locationAttempts := r.locationAttempts.set node r.currentAttempt,
        putIdentity := put, outgoingContainedEdges := edges }
  /-- A stored result gains a replica, or its descriptor. -/
  | replicated (node : NodeID) (canonical : Option ResultDescriptor)
      (state : r.state = .readyStored)
      (epochs : ∀ n a, r.locationAttempts.get? n = some a → a = r.currentAttempt)
      (integrity : ∀ d, r.canonicalStoredResult = some d → canonical = some d)
      (described : ∀ d, canonical = some d →
        r.canonicalStoredResult = some d ∨ DescribesStored o d) :
      ResultMove c h h' o r { r with
        canonicalStoredResult := canonical,
        locationAttempts := r.locationAttempts.set node r.currentAttempt }
  /-- The same stored result is assigned again. -/
  | republishedStored (node : NodeID) (state : r.state = .readyStored)
      (known : r.locationAttempts.get? node = some r.currentAttempt) :
      ResultMove c h h' o r { r with
        inlineData := none, error := none,
        locationAttempts := r.locationAttempts.set node r.currentAttempt }
  /-- A replica is forgotten; a stored result without replicas is lost. -/
  | forgotReplica (node : NodeID) :
      ResultMove c h h' o r { r with
        locationAttempts := r.locationAttempts.erase node,
        state := if r.state = .readyStored ∧ (r.locationAttempts.erase node).items = [] then .lost
          else r.state }
  /-- Every replica of a stored result is lost. -/
  | lost (state : r.state = .readyStored) :
      ResultMove c h h' o r { r with locationAttempts := .empty, state := .lost }
  /-- A pending result becomes an error, or the same error is assigned again. -/
  | failed (error : Option ε) (canonical : Option ResultDescriptor)
      (state : r.state = .pending ∧ r.locationAttempts.items = [] ∧ r.Unretired h o ∨
        r.state = .error ∧ c.restates)
      (canonical_le : canonical = r.canonicalStoredResult ∨ canonical = none) :
      ResultMove c h h' o r { r with
        state := .error, error := error, inlineData := none, canonicalStoredResult := canonical }
  /-- A caller-held plan assigns a result without its validation being repeated. -/
  | assigned (r' : ResultFields ε) (trust : ¬ c.validated) (settled : r'.state ≠ .pending)
      (attempt : r'.currentAttempt = r.currentAttempt)
      (spec : r'.producerTaskSpec = r.producerTaskSpec)
      (publication : r'.outputPublication = r.outputPublication)
      (retirement : r'.outputRetirementId = r.outputRetirementId)
      (edges : r'.outgoingContainedEdges = r.outgoingContainedEdges) :
      ResultMove c h h' o r r'
  /-- An output publication is adopted. -/
  | adopted (envelope : OutputPublicationEnvelope) (output : envelope.publicationId.output = o)
      (attempt : r.currentAttempt = some envelope.publicationId.attemptId)
      (pristine : r.Pristine) (free : r.outputPublication = none)
      (unretired : r.Unretired h o) (produced : r.ProducedBy envelope.manifest) :
      ResultMove c h h' o r { r with
        state := if envelope.result.storage = .inline then .readyInline else .readyStored,
        inlineData :=
          if envelope.result.storage = .inline then envelope.result.inlineData else none,
        canonicalStoredResult :=
          if envelope.result.storage = .inline then none else some envelope.result,
        error := none,
        locationAttempts := if envelope.result.storage = .inline then .empty
          else Dict.empty.set envelope.result.nodeId r.currentAttempt,
        outgoingContainedEdges := envelope.manifest.slot.edges.toFinset,
        outputPublication := some (.ofManifest envelope.manifest) }
  /-- An inline output outlives its publishing Node. -/
  | keptInline (manifest : OutputPublicationManifest) (data : List UInt8)
      (output : manifest.publicationId.output = o)
      (attempt : r.currentAttempt = some manifest.publicationId.attemptId)
      (member : r.outputPublication = none ∨ r.outputPublication = some (.ofManifest manifest))
      (tier : manifest.slot.tier = .inline) (canonical : r.canonicalStoredResult = none)
      (produced : r.ProducedBy manifest) (unretired : r.Unretired h o)
      (state : r.state = .pending ∨ r.state = .readyInline)
      (bytes : c.bytes → ∀ known, r.inlineData = some known → data = known) :
      ResultMove c h h' o r { r with
        error := none, inlineData := some data, state := .readyInline, locationAttempts := .empty,
        canonicalStoredResult := none, outputPublication := some (.ofManifest manifest),
        outgoingContainedEdges := manifest.slot.edges.toFinset }
  /-- A stored output outlives its publishing Node in its remaining replicas. -/
  | keptStored (manifest : OutputPublicationManifest) (unavailable : NodeID → Bool)
      (member : r.outputPublication = some (.ofManifest manifest))
      (epochs : ∀ n a, r.locationAttempts.get? n = some a → a = r.currentAttempt)
      (state : r.state = .readyStored ∨ r.state = .lost)
      (edges : r.outgoingContainedEdges = manifest.slot.edges.toFinset) :
      ResultMove c h h' o r { r with
        error := none, inlineData := none,
        locationAttempts := r.locationAttempts.filter fun node _ => !unavailable node,
        state := if (r.locationAttempts.filter fun node _ => !unavailable node).items = [] then
          .lost else .readyStored }
  /-- An output is discarded with its publishing Node. -/
  | discarded (a : AttemptID) (completed : Bool) (attempt : r.currentAttempt = some a)
      (named : c.retires o a) (retired : completed = true → (o, a) ∈ h'.retiredOutputAttempts)
      (pristine : completed = false → r.Pristine ∧ r.outputPublication = none) :
      ResultMove c h h' o r { r with
        error := none, inlineData := none, locationAttempts := .empty,
        canonicalStoredResult := none, state := if completed then .lost else .pending,
        outputPublication := none, outgoingContainedEdges := ∅ }
  /-- A lost output starts being retired under a recorded plan. -/
  | retiring (retirementId : String) (fresh : h.outputRetirementPlans.get? retirementId = none)
      (recorded : h'.outputRetirementPlans.get? retirementId ≠ none) :
      ResultMove c h h' o r { r with outputRetirementId := some retirementId }
  /-- Every effect of a lost output is retired. -/
  | retired (a : AttemptID) (state : r.state = .lost) (attempt : r.currentAttempt = some a)
      (named : c.retires o a) (retired : (o, a) ∈ h'.retiredOutputAttempts) :
      ResultMove c h h' o r { r with
        inlineData := none, error := none, canonicalStoredResult := none,
        locationAttempts := .empty, outgoingContainedEdges := ∅, outputPublication := none,
        outputRetirementId := none }
  /-- A container outside any output publication records release work. -/
  | edged (edges : Finset ContainedReferenceEdge) (free : r.outputPublication = none) :
      ResultMove c h h' o r { r with outgoingContainedEdges := edges }

/-- The fields an entry's integrity has to fit for its collection to leave evidence. -/
def WireRange (o : ObjectID) (attempt : AttemptID) (d : ResultDescriptor) : Prop :=
  Uint64 o.returnIndex ∧ Uint64 attempt.attemptNumber ∧ Uint64 d.sizeBytes ∧
    Sha256.IsLowerHexDigest d.checksum

/-- The integrity metadata a caller hands to a collection is what the entry knows. -/
structure KnownIntegrity {ε : Type} (e : ObjectOwnerEntry ε) (size : Option Nat)
    (checksum : Option String) : Prop where
  published : ∀ m, e.outputPublication = some m → m.slot.tier = .objectStore →
    size = some m.slot.sizeBytes ∧ checksum = some m.slot.checksum
  generic : ∀ d, e.outputPublication = none → e.canonicalStoredResult = some d →
    size = some d.sizeBytes ∧ checksum = some d.checksum ∧
      ∀ a, e.currentAttempt = some a → WireRange e.objectId a d

/-- A collection freezes the entry's metadata and the integrity its caller supplies. -/
structure Freezes {ε : Type} (e : ObjectOwnerEntry ε) (plan : ObjectMetadataCollectionPlan) :
    Prop where
  objectId : plan.objectId = e.objectId
  attempt : plan.producerAttemptId = e.currentAttempt
  locations : plan.locations = Sorted.sortList e.locationAttempts.keys
  spec : plan.producerTaskSpec = e.producerTaskSpec
  contained : plan.containedReleases = Sorted.sorted e.outgoingContainedEdges
  unstored : e.state = .readyInline →
    plan.canonicalSizeBytes = none ∧ plan.canonicalChecksum = none
  attempted : e.canonicalStoredResult ≠ none → e.state = .readyStored ∨ e.state = .lost →
    e.currentAttempt ≠ none

inductive SlotMove {ε : Type} (c : CallerConditions) (s s' : ObjectOwnerTable ε) (o : ObjectID) :
    Option (ObjectOwnerEntry ε) → Option (ObjectOwnerEntry ε) → Prop
  | absent : SlotMove c s s' o none none
  /-- A new object starts pending. -/
  | registered (e' : ObjectOwnerEntry ε)
      (fresh : ∃ attempt spec, e'.toResultFields = .fresh attempt spec)
      (idle : e'.collectionPending = false) (uncollected : ¬ s.IsCollected o)
      (named : c.registers o) :
      SlotMove c s s' o none (some e')
  /-- The result moves; a collecting object is left alone. -/
  | moved (e e' : ObjectOwnerEntry ε)
      (collection : e'.toCollectionFields = e.toCollectionFields)
      (frozen : c.validated → e.collectionPending = true → e'.toResultFields = e.toResultFields)
      (move : ResultMove c s.toPublicationHistory s'.toPublicationHistory o e.toResultFields
        e'.toResultFields) :
      SlotMove c s s' o (some e) (some e')
  /-- A collection freezes the object's metadata. -/
  | frozen (e e' : ObjectOwnerEntry ε) (plan : ObjectMetadataCollectionPlan)
      (idle : e.collectionPending = false) (result : e'.toResultFields = e.toResultFields)
      (collection : e'.toCollectionFields = ⟨true, some plan⟩)
      (unused : e'.Unused) (settled : e.state ≠ .pending) (freezes : Freezes e plan)
      (lineage : s.finalTaskLineage o = .ok plan.lineageReleases)
      (lineage_kept : s'.taskLineage = s.taskLineage)
      (integrity : c.integrity →
        KnownIntegrity e plan.canonicalSizeBytes plan.canonicalChecksum) :
      SlotMove c s s' o (some e) (some e')
  /-- Unused metadata without a publication is forgotten. -/
  | forgotten (e : ObjectOwnerEntry ε) (idle : e.collectionPending = false)
      (free : e.outputPublication = none ∨ e.state = .pending) :
      SlotMove c s s' o (some e) none
  /-- A frozen collection is completed. -/
  | completed (e : ObjectOwnerEntry ε) (collected : s'.IsCollected o) :
      SlotMove c s s' o (some e) none

theorem SlotMove.refl {ε : Type} (c : CallerConditions) (s s' : ObjectOwnerTable ε) (o : ObjectID)
    (x : Option (ObjectOwnerEntry ε)) : SlotMove c s s' o x x := by
  cases x with
  | none => exact .absent
  | some e => exact .moved e e rfl (fun _ _ => rfl) .same

/-- What a call does to results, registrations and collection claims. -/
structure ResultSpec {ε : Type} (c : CallerConditions) (s s' : ObjectOwnerTable ε) : Prop where
  slots : ∀ o, SlotMove c s s' o (s.entries.get? o) (s'.entries.get? o)
  retired_mono : s.retiredOutputAttempts ⊆ s'.retiredOutputAttempts
  collected_mono : ∀ o, s.IsCollected o → s'.IsCollected o
  collected_new : ∀ o, s'.IsCollected o → s.IsCollected o ∨ s'.entries.get? o = none
  receipts : ∀ o, (s'.outputCollectionReceipts.get? o).isSome →
    (s.outputCollectionReceipts.get? o).isSome ∨ s'.IsCollected o
  lineage : c.lineage → ∀ o e e' l, s.entries.get? o = some e → e.collectionPending = true →
    s'.entries.get? o = some e' → s.finalTaskLineage o = .ok l → s'.finalTaskLineage o = .ok l

namespace ResultSpec

open ObjectOwnerTable

variable {ε : Type} {c : CallerConditions} {s s' : ObjectOwnerTable ε}

theorem refl (s : ObjectOwnerTable ε) : ResultSpec c s s :=
  ⟨fun _ => .refl .., Finset.Subset.refl _, fun _ h => h, fun _ h => .inl h, fun _ h => .inl h,
    fun _ _ _ _ _ _ _ _ h => h⟩

variable {e e' : ObjectOwnerEntry ε}

theorem of_entry (he : s.entries.get? e.objectId = some e)
    (hentries : s'.entries = (s.setEntry e').entries) (hid : e'.objectId = e.objectId)
    (hslot : SlotMove c s s' e.objectId (some e) (some e'))
    (hretired : s.retiredOutputAttempts ⊆ s'.retiredOutputAttempts)
    (hcollections : s'.toCollectionHistory = s.toCollectionHistory) : ResultSpec c s s' := by
  refine ⟨?_, hretired, ?_, ?_, ?_, ?_⟩
  · intro o
    rw [hentries, get?_setEntry, hid]
    by_cases ho : e.objectId = o
    · subst ho
      simpa [he] using hslot
    · simpa [ho] using SlotMove.refl c s s' o _
  · intro o
    simp [IsCollected, hcollections]
  · intro o h
    exact .inl (by simpa [IsCollected, hcollections] using h)
  · intro o h
    exact .inl (hcollections ▸ h)
  · intro _ o e₁ e₂ l _ _ _ hl
    rw [← hl]
    exact finalTaskLineage_congr (by rw [hcollections])

theorem of_move (he : s.entries.get? e.objectId = some e)
    (hentries : s'.entries = (s.setEntry e').entries) (hid : e'.objectId = e.objectId)
    (hkept : e'.toCollectionFields = e.toCollectionFields)
    (hidle : c.validated → e.collectionPending = false)
    (hmove : ResultMove c s.toPublicationHistory s'.toPublicationHistory e.objectId
      e.toResultFields e'.toResultFields)
    (hretired : s.retiredOutputAttempts ⊆ s'.retiredOutputAttempts)
    (hcollections : s'.toCollectionHistory = s.toCollectionHistory) : ResultSpec c s s' :=
  of_entry he hentries hid
    (.moved e e' hkept (fun hv hp => by simp [hidle hv] at hp) hmove) hretired hcollections

theorem of_forget {o : ObjectID} (ho : s.entries.get? o = some e)
    (hentries : s'.entries = (s.eraseEntry o).entries) (hslot : SlotMove c s s' o (some e) none)
    (hretired : s.retiredOutputAttempts ⊆ s'.retiredOutputAttempts)
    (hcollected : ∀ x, s.IsCollected x → s'.IsCollected x)
    (hnew : ∀ x, s'.IsCollected x → s.IsCollected x ∨ x = o)
    (hreceipts : ∀ x, (s'.outputCollectionReceipts.get? x).isSome →
      (s.outputCollectionReceipts.get? x).isSome ∨ s'.IsCollected x)
    (hlineage : ∀ x l, x ≠ o → s.finalTaskLineage x = .ok l → s'.finalTaskLineage x = .ok l) :
    ResultSpec c s s' := by
  refine ⟨?_, hretired, hcollected, ?_, hreceipts, ?_⟩
  · intro x
    rw [hentries, get?_eraseEntry]
    by_cases hx : o = x
    · subst hx
      simpa [ho] using hslot
    · simpa [hx] using SlotMove.refl c s s' x _
  · intro x h
    refine (hnew x h).imp_right ?_
    rintro rfl
    simp [hentries, get?_eraseEntry]
  · intro _ x e₁ e₂ l _ _ he₂ hl
    refine hlineage x l ?_ hl
    rintro rfl
    simp [hentries, get?_eraseEntry] at he₂

theorem of_kept
    (hentries : ∀ o, (s'.entries.get? o).map (fun e => (e.toResultFields, e.toCollectionFields)) =
      (s.entries.get? o).map fun e => (e.toResultFields, e.toCollectionFields))
    (hretired : s.retiredOutputAttempts ⊆ s'.retiredOutputAttempts)
    (hcollections : s'.toCollectionHistory = s.toCollectionHistory) : ResultSpec c s s' := by
  refine ⟨?_, hretired, ?_, ?_, ?_, ?_⟩
  · intro o
    have h := hentries o
    cases ho : s.entries.get? o with
    | none =>
      rw [ho, Option.map_none, Option.map_eq_none_iff] at h
      simpa [h] using SlotMove.absent
    | some e =>
      rw [ho, Option.map_some, Option.map_eq_some_iff] at h
      obtain ⟨e', he', hf⟩ := h
      rw [Prod.mk.injEq] at hf
      rw [he']
      exact .moved e e' hf.2 (fun _ _ => hf.1) (hf.1 ▸ .same)
  · intro o
    simp [IsCollected, hcollections]
  · intro o h
    exact .inl (by simpa [IsCollected, hcollections] using h)
  · intro o h
    exact .inl (hcollections ▸ h)
  · intro _ o e₁ e₂ l _ _ _ hl
    rw [← hl]
    exact finalTaskLineage_congr (by rw [hcollections])

theorem of_references (he : s.entries.get? e.objectId = some e)
    (hentries : s'.entries = (s.setEntry e').entries) (hid : e'.objectId = e.objectId)
    (hresult : e'.toResultFields = e.toResultFields)
    (hkept : e'.toCollectionFields = e.toCollectionFields)
    (hpublications : s'.toPublicationHistory = s.toPublicationHistory)
    (hcollections : s'.toCollectionHistory = s.toCollectionHistory) : ResultSpec c s s' :=
  of_entry he hentries hid (.moved e e' hkept (fun _ _ => hresult) (hresult ▸ .same))
    (by rw [hpublications]) hcollections

end ResultSpec

end MiniRay
