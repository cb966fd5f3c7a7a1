import MiniRay.Library.Checked
import MiniRay.Library.Dict
import MiniRay.Library.Run
import MiniRay.OutputPublication

/-! The owner's local record of one output's handoff: its manifest, its Complete, and how it ended.
Records are never removed. -/

namespace MiniRay

open Checked

inductive OutputHandoffError
  | conflict (message : String)
  | state (message : String)
  | typeError (message : String)

inductive OutputHandoffPhase
  | pending
  | aborted
  | adopted
  deriving DecidableEq

/-! ## Snapshots -/

/-- Exact local facts, never a forward permission or a cleanup receipt. -/
structure OutputHandoffSnapshot where
  publicationId : OutputPublicationID
  manifest : Option OutputPublicationManifest
  phase : OutputHandoffPhase
  complete : Option OutputPublicationCompleteWitness
  adoption : Option OutputPublicationAdoptionProof
  abortReason : Option String
  exact_manifest : ∀ m, manifest = some m → m.publicationId = publicationId ∧ m.slots.length = 1
  unregistered : manifest = none → phase = .aborted
  complete_manifest : ∀ c, complete = some c → ∃ m ∈ manifest,
    c.publicationId = publicationId ∧ c.manifestDigest = m.manifestDigest
  adoption_complete : ∀ a, adoption = some a → ∃ m ∈ manifest,
    complete = some a.complete ∧ a.ownerWorkerId = m.header.ownerWorkerId
  adopted : phase = .adopted ↔ adoption ≠ none
  reason : phase = .aborted → ∃ r ∈ abortReason, r ≠ ""
  live : phase ≠ .aborted → abortReason = none

namespace OutputHandoffSnapshot

/-- The constructor checks every field again. -/
def make (publicationId : OutputPublicationID) (manifest : Option OutputPublicationManifest)
    (phase : OutputHandoffPhase) (complete : Option OutputPublicationCompleteWitness)
    (adoption : Option OutputPublicationAdoptionProof) (abortReason : Option String) :
    Except OutputHandoffError OutputHandoffSnapshot := do
  let ⟨exact_manifest⟩ ← certify
    (∀ m, manifest = some m → m.publicationId = publicationId ∧ m.slots.length = 1)
    (.conflict "handoff requires the exact single-output manifest")
  let ⟨unregistered⟩ ← certify (manifest = none → phase = .aborted)
    (.state "only a pre-registration abort may lack a manifest")
  let ⟨complete_manifest⟩ ← certify (∀ c, complete = some c → ∃ m ∈ manifest,
      c.publicationId = publicationId ∧ c.manifestDigest = m.manifestDigest)
    (.conflict "Complete changed its registered manifest")
  let ⟨adoption_complete⟩ ← certify (∀ a, adoption = some a → ∃ m ∈ manifest,
      complete = some a.complete ∧ a.ownerWorkerId = m.header.ownerWorkerId)
    (.conflict "adoption changed its owner or Complete")
  let ⟨adopted⟩ ← certify (phase = .adopted ↔ adoption ≠ none)
    (.state "ADOPTED requires exactly one adoption receipt")
  let ⟨reason⟩ ← certify (phase = .aborted → ∃ r ∈ abortReason, r ≠ "")
    (.typeError "abort reason must be a non-empty string")
  let ⟨live⟩ ← certify (phase ≠ .aborted → abortReason = none)
    (.state "a live handoff cannot carry an abort reason")
  return { publicationId, manifest, phase, complete, adoption, abortReason, exact_manifest,
           unregistered, complete_manifest, adoption_complete, adopted, reason, live }

end OutputHandoffSnapshot

/-! ## The table -/

/-- A manifest and terminal-receipt table owned by one Core incarnation. -/
structure OutputHandoffTable where
  records : Dict OutputPublicationID OutputHandoffSnapshot

namespace OutputHandoffTable

def empty : OutputHandoffTable := ⟨.empty⟩

def set (self : OutputHandoffTable) (identity : OutputPublicationID)
    (snapshot : OutputHandoffSnapshot) : OutputHandoffTable := ⟨self.records.set identity snapshot⟩

def query (self : OutputHandoffTable) (identity : OutputPublicationID) :
    Option OutputHandoffSnapshot := self.records.get? identity

def record (self : OutputHandoffTable) (identity : OutputPublicationID) :
    Except OutputHandoffError OutputHandoffSnapshot :=
  match self.records.get? identity with
  | none => .error (.state "handoff has not been registered")
  | some previous => .ok previous

def checkReason (reason : String) : Except OutputHandoffError Unit :=
  raiseIf (reason = "") (.typeError "abort reason must be a non-empty string")

def register (self : OutputHandoffTable) (manifest : OutputPublicationManifest)
    (currentAttempt : AttemptID) :
    Except OutputHandoffError (OutputHandoffSnapshot × OutputHandoffTable) := do
  let identity := manifest.publicationId
  raiseIf (manifest.slots.length ≠ 1 ∨ identity.attemptId ≠ currentAttempt)
    (.state "registration requires the current single-output attempt")
  match self.records.get? identity with
  | some previous =>
    raiseIf (previous.manifest ≠ none ∧ previous.manifest ≠ some manifest)
      (.conflict "handoff identity names a different manifest")
    raiseIf (previous.phase = .aborted) (.state "aborted handoff cannot register again")
    return (previous, self)
  | none =>
    let snapshot ← OutputHandoffSnapshot.make identity (some manifest) .pending none none none
    return (snapshot, self.set identity snapshot)

def recordComplete (self : OutputHandoffTable) (witness : OutputPublicationCompleteWitness) :
    Except OutputHandoffError (OutputHandoffSnapshot × OutputHandoffTable) := do
  let previous ← self.record witness.publicationId
  raiseIf (previous.manifest.map OutputPublicationManifest.manifestDigest ≠
      some witness.manifestDigest)
    (.conflict "Complete changed its registered manifest")
  if previous.complete ≠ none then
    raiseIf (previous.complete ≠ some witness)
      (.conflict "Complete conflicts with the historical receipt")
    return (previous, self)
  raiseIf (previous.phase = .aborted) (.state "aborted handoff cannot accept a new Complete")
  let snapshot ← OutputHandoffSnapshot.make previous.publicationId previous.manifest previous.phase
    (some witness) previous.adoption previous.abortReason
  return (snapshot, self.set witness.publicationId snapshot)

/-- Remember an actual owner receipt; this call does not do the owner's own commit. -/
def adopt (self : OutputHandoffTable) (proof : OutputPublicationAdoptionProof) :
    Except OutputHandoffError (OutputHandoffSnapshot × OutputHandoffTable) := do
  let identity := proof.complete.publicationId
  let previous ← self.record identity
  raiseIf (previous.complete ≠ some proof.complete ∨
      previous.manifest.map (fun m => m.header.ownerWorkerId) ≠ some proof.ownerWorkerId)
    (.conflict "adoption requires the registered owner and Complete")
  if previous.adoption ≠ none then
    raiseIf (previous.adoption ≠ some proof)
      (.conflict "adoption conflicts with the historical receipt")
    return (previous, self)
  raiseIf (previous.phase = .aborted) (.state "aborted handoff cannot be adopted")
  let snapshot ← OutputHandoffSnapshot.make previous.publicationId previous.manifest .adopted
    previous.complete (some proof) previous.abortReason
  return (snapshot, self.set identity snapshot)

/-- Bind cleanup metadata; an earlier abort keeps its reason. -/
def abortManifest (self : OutputHandoffTable) (manifest : OutputPublicationManifest)
    (reason : String) : Except OutputHandoffError (OutputHandoffSnapshot × OutputHandoffTable) := do
  checkReason reason
  let identity := manifest.publicationId
  let snapshot ← match self.records.get? identity with
    | some previous => do
        raiseIf (previous.manifest ≠ none ∧ previous.manifest ≠ some manifest)
          (.conflict "abort manifest conflicts with registered history")
        raiseIf (previous.phase = .adopted) (.state "adopted handoff cannot be aborted")
        if previous.phase = .aborted then
          OutputHandoffSnapshot.make previous.publicationId (some manifest) previous.phase
            previous.complete previous.adoption previous.abortReason
        else
          OutputHandoffSnapshot.make previous.publicationId previous.manifest .aborted
            previous.complete previous.adoption (some reason)
    | none => OutputHandoffSnapshot.make identity (some manifest) .aborted none none (some reason)
  return (snapshot, self.set identity snapshot)

/-- Fence forward publication, also before the registration arrives. -/
def abort (self : OutputHandoffTable) (identity : OutputPublicationID) (reason : String) :
    Except OutputHandoffError (Bool × OutputHandoffTable) := do
  checkReason reason
  match self.records.get? identity with
  | none =>
    let snapshot ← OutputHandoffSnapshot.make identity none .aborted none none (some reason)
    return (true, self.set identity snapshot)
  | some previous =>
    if previous.phase = .adopted then return (false, self)
    if previous.phase = .aborted then
      raiseIf (previous.abortReason ≠ some reason) (.conflict "abort replay changed its reason")
      return (false, self)
    let snapshot ← OutputHandoffSnapshot.make previous.publicationId previous.manifest .aborted
      previous.complete previous.adoption (some reason)
    return (true, self.set identity snapshot)

/-! ## Calls -/

inductive Call
  | register (manifest : OutputPublicationManifest) (currentAttempt : AttemptID)
  | recordComplete (witness : OutputPublicationCompleteWitness)
  | adopt (proof : OutputPublicationAdoptionProof)
  | abortManifest (manifest : OutputPublicationManifest) (reason : String)
  | abort (identity : OutputPublicationID) (reason : String)

inductive Reply
  | snapshot (snapshot : OutputHandoffSnapshot)
  | fenced (fenced : Bool)

def call (self : OutputHandoffTable) : Call → Except OutputHandoffError (Reply × OutputHandoffTable)
  | .register manifest currentAttempt =>
    (fun r => (.snapshot r.1, r.2)) <$> self.register manifest currentAttempt
  | .recordComplete witness => (fun r => (.snapshot r.1, r.2)) <$> self.recordComplete witness
  | .adopt proof => (fun r => (.snapshot r.1, r.2)) <$> self.adopt proof
  | .abortManifest manifest reason =>
    (fun r => (.snapshot r.1, r.2)) <$> self.abortManifest manifest reason
  | .abort identity reason => (fun r => (.fenced r.1, r.2)) <$> self.abort identity reason

def step (self : OutputHandoffTable) (c : Call) : OutputHandoffTable := commit self (self.call c)

end OutputHandoffTable

end MiniRay
