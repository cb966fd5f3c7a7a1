import MiniRay.Ownership.Canonical

/-! `_fetch_stored_object` without a deadline, one turn of its loop after another. Between the looks
at the Core that a turn takes, anything can happen to it. -/

namespace MiniRay

open Checked

variable {ε : Type}

/-! ## One turn -/

structure GetObjectReply where
  objectId : ObjectID
  nodeId : NodeID
  found : Bool
  sealed : Bool
  data : Option (List UInt8)
  checksum : Option String
  error : Option String
  producerAttemptId : Option AttemptID
  ownerWorkerId : Option WorkerID
  sizeBytes : Option Nat

/-- What came of resolving the Node's address and asking it. -/
inductive NodeAnswer
  | failed
  /-- `KeyboardInterrupt` or `SystemExit`. -/
  | interrupted
  | invalid
  | malformed
  | reply (reply : GetObjectReply)

inductive FetchError
  /-- `_StoredFetchStateChanged`. -/
  | stateChanged
  | systemTask (message : String)
  | nodeDied (message : String)
  | unreachable
  | interrupted
  | unknownObject
  deriving DecidableEq

structure CoreView (ε : Type) where
  ownerTable : ObjectOwnerTable ε
  storedDescriptors : Dict ObjectID ResultDescriptor
  deadNodes : List NodeID

structure FetchTurn (ε : Type) where
  before : CoreView ε
  deadNodes : List NodeID
  homeRoute : Option NodeID
  answer : NodeAnswer
  final : CoreView ε
  latest : CoreView ε

namespace StoredFetch

variable (objectId : ObjectID) (currentAttempt : Option AttemptID)

def entryOf (view : CoreView ε) : Option (ObjectOwnerEntry ε) :=
  view.ownerTable.entries.get? objectId

def Current (e : ObjectOwnerEntry ε) : Prop :=
  e.state = .readyStored ∧ e.currentAttempt = currentAttempt

instance (e : ObjectOwnerEntry ε) : Decidable (Current currentAttempt e) :=
  inferInstanceAs (Decidable (_ ∧ _))

/-- The route belongs to the canonical result. -/
def RouteOf (expected canonical : ResultDescriptor) : Prop :=
  canonical.objectId = objectId ∧ canonical.storage = .objectStore ∧
    expected.objectId = objectId ∧ expected.storage = .objectStore ∧
    expected.ownerWorkerId = canonical.ownerWorkerId ∧ expected.sizeBytes = canonical.sizeBytes ∧
    expected.checksum = canonical.checksum ∧ expected.inlineData = canonical.inlineData

instance (expected canonical : ResultDescriptor) :
    Decidable (RouteOf objectId expected canonical) :=
  inferInstanceAs (Decidable (_ ∧ _))

def readRoute (view : CoreView ε) : Except FetchError (ResultDescriptor × ObjectOwnerEntry ε) :=
  match entryOf objectId view with
  | none => .error .unknownObject
  | some e =>
    if ¬ Current currentAttempt e then .error .stateChanged
    else match view.storedDescriptors.get? objectId with
      | none => .error (.systemTask "stored object has no result descriptor")
      | some expected =>
        if ∃ canonical ∈ e.canonicalStoredResult, RouteOf objectId expected canonical then
          .ok (expected, e)
        else .error (.systemTask "stored fetch route conflicts with canonical result identity")

def replyData (expected : ResultDescriptor) (reply : GetObjectReply) :
    Except FetchError (List UInt8) :=
  let unavailable := FetchError.systemTask
    ((reply.error.filter (· ≠ "")).getD "stored object is unavailable")
  match reply.data, reply.checksum with
  | some data, some checksum =>
    if reply.objectId ≠ objectId ∨ reply.nodeId ≠ expected.nodeId ∨ ¬ reply.found ∨
        ¬ reply.sealed ∨ reply.producerAttemptId ≠ currentAttempt ∨
        reply.ownerWorkerId ≠ some expected.ownerWorkerId ∨
        reply.sizeBytes ≠ some expected.sizeBytes then .error unavailable
    else if checksum ≠ expected.checksum ∨ data.length ≠ expected.sizeBytes ∨
        Sha256.hexdigest data ≠ expected.checksum then
      .error (.systemTask "stored object checksum does not match")
    else .ok data
  | _, _ => .error unavailable

/-- Who may still answer for the object. -/
def Authoritative (view : CoreView ε) (e : ObjectOwnerEntry ε) (nodeId : NodeID) : Prop :=
  Current currentAttempt e ∧ nodeId ∈ e.locationAttempts.keys ∧ nodeId ∉ view.deadNodes ∧
    (view.storedDescriptors.get? objectId).map (·.nodeId) = some nodeId

instance (view : CoreView ε) (e : ObjectOwnerEntry ε) (nodeId : NodeID) :
    Decidable (Authoritative objectId currentAttempt view e nodeId) :=
  inferInstanceAs (Decidable (_ ∧ _))

def answered (expected : ResultDescriptor) : NodeAnswer → Except FetchError (List UInt8)
  | .failed => .error .unreachable
  | .interrupted => .error .interrupted
  | .invalid => .error (.systemTask "Node returned an invalid object reply")
  | .malformed => .error (.systemTask "Node returned a malformed object reply")
  | .reply reply => replyData objectId currentAttempt expected reply

def receive (expected : ResultDescriptor) (turn : FetchTurn ε) : Except FetchError (List UInt8) :=
  match answered objectId currentAttempt expected turn.answer, entryOf objectId turn.final with
  | .error error, _ => .error error
  | .ok _, none => .error .unknownObject
  | .ok data, some e =>
    if Authoritative objectId currentAttempt turn.final e expected.nodeId then .ok data
    else .error .stateChanged

/-- What is raised before the Node counts as attempted. -/
def refusal (expected : ResultDescriptor) (e : ObjectOwnerEntry ε) (turn : FetchTurn ε) :
    Option FetchError :=
  if expected.nodeId ∈ turn.deadNodes then
    some (.nodeDied ("stored object fetch rejected location on DEAD node " ++
      expected.nodeId.value.hex))
  else if expected.nodeId ∉ e.locationAttempts.keys then
    some (.systemTask "stored object descriptor is absent from owner locations")
  else if turn.homeRoute = none then
    some (.nodeDied
      "stored object fetch requires a live Node, but the installed cluster view is empty")
  else none

/-- The same attempt has moved to a replica that was not tried. -/
def Offers (view : CoreView ε) (attempted : List NodeID) (e : ObjectOwnerEntry ε) : Prop :=
  Current currentAttempt e ∧ ∃ route ∈ view.storedDescriptors.get? objectId,
    route.nodeId ∈ e.locationAttempts.keys ∧ route.nodeId ∉ attempted

instance (view : CoreView ε) (attempted : List NodeID) (e : ObjectOwnerEntry ε) :
    Decidable (Offers objectId currentAttempt view attempted e) :=
  inferInstanceAs (Decidable (_ ∧ _))

/-- The exception that leaves the handler, unless the loop goes on. -/
def recover (attempted : List NodeID) (turn : FetchTurn ε) (error : FetchError) :
    Option FetchError :=
  if error = .interrupted then some error
  else match entryOf objectId turn.latest with
    | none => some .unknownObject
    | some e =>
      if Offers objectId currentAttempt turn.latest attempted e then none
      else if ¬ Current currentAttempt e then some .stateChanged
      else some error

/-- The Nodes attempted so far, and the result with its turn. -/
structure Progress (ε : Type) where
  attempted : List NodeID
  ended : Option (Except FetchError (List UInt8) × FetchTurn ε) := none

/-- The handler. -/
def leave (attempted : List NodeID) (turn : FetchTurn ε) (error : FetchError) : Progress ε :=
  ⟨attempted, (recover objectId currentAttempt attempted turn error).map (.error ·, turn)⟩

def fetchTurn (attempted : List NodeID) (turn : FetchTurn ε) : Progress ε :=
  match readRoute objectId currentAttempt turn.before with
  | .error error => ⟨attempted, some (.error error, turn)⟩
  | .ok (expected, e) =>
    match refusal expected e turn with
    | some error => leave objectId currentAttempt attempted turn error
    | none => match receive objectId currentAttempt expected turn with
      | .error error => leave objectId currentAttempt (expected.nodeId :: attempted) turn error
      | .ok data => ⟨expected.nodeId :: attempted, some (.ok data, turn)⟩

def fetch (attempted : List NodeID) : List (FetchTurn ε) → Progress ε
  | [] => ⟨attempted, none⟩
  | turn :: turns =>
    let progress := fetchTurn objectId currentAttempt attempted turn
    if progress.ended.isSome then progress else fetch progress.attempted turns

/-! ## What a fetch relies on -/

/-- What a turn meets if nothing goes wrong but the access: the object stays known and its
descriptor frozen, the route read is untried, a route that is refused is not offered again, and a
route that lost its authority has moved on. -/
structure Calm (attempted : List NodeID) (turn : FetchTurn ε) : Prop where
  known : (entryOf objectId turn.before).isSome ∧ (entryOf objectId turn.final).isSome ∧
    (entryOf objectId turn.latest).isSome
  frozen : ∀ e e', entryOf objectId turn.before = some e → entryOf objectId turn.final = some e' →
    Current currentAttempt e → Current currentAttempt e' →
    e'.canonicalStoredResult = e.canonicalStoredResult
  untried : ∀ expected e, readRoute objectId currentAttempt turn.before = .ok (expected, e) →
    expected.nodeId ∉ attempted
  refused : ∀ expected e e', readRoute objectId currentAttempt turn.before = .ok (expected, e) →
    refusal expected e turn ≠ none → entryOf objectId turn.latest = some e' →
    ¬ Offers objectId currentAttempt turn.latest attempted e'
  fenced : ∀ expected e e' e'' data,
    readRoute objectId currentAttempt turn.before = .ok (expected, e) →
    answered objectId currentAttempt expected turn.answer = .ok data →
    entryOf objectId turn.final = some e' → entryOf objectId turn.latest = some e'' →
    Authoritative objectId currentAttempt turn.final e' expected.nodeId ∨
      Offers objectId currentAttempt turn.latest (expected.nodeId :: attempted) e'' ∨
      ¬ Current currentAttempt e''

/-- Every turn of the fetch meets that. -/
def CalmRun : List NodeID → List (FetchTurn ε) → Prop
  | _, [] => True
  | attempted, turn :: turns => Calm objectId currentAttempt attempted turn ∧
      ((fetchTurn objectId currentAttempt attempted turn).ended = none →
        CalmRun (fetchTurn objectId currentAttempt attempted turn).attempted turns)

/-- The look at the Core that decides which exception is raised. -/
def decisive (turn : FetchTurn ε) : CoreView ε :=
  match readRoute objectId currentAttempt turn.before with
  | .error _ => turn.before
  | .ok _ => turn.latest

/-- The bytes are those of the descriptor, on a Node that holds them and is the route. -/
def Proven (view : CoreView ε) (data : List UInt8) : Prop :=
  ∃ e canonical nodeId, entryOf objectId view = some e ∧
    e.canonicalStoredResult = some canonical ∧ data.length = canonical.sizeBytes ∧
    Sha256.hexdigest data = canonical.checksum ∧
    Authoritative objectId currentAttempt view e nodeId

def Held (turns : List (FetchTurn ε)) (nodeId : NodeID) : Prop :=
  ∃ turn ∈ turns, ∃ e, entryOf objectId turn.before = some e ∧ nodeId ∈ e.locationAttempts.keys

/-- Bytes and exceptions say what they are for. -/
structure Told (progress : Progress ε) : Prop where
  bytes : ∀ data turn, progress.ended = some (.ok data, turn) →
    Proven objectId currentAttempt turn.final data
  changed : ∀ error turn, progress.ended = some (.error error, turn) → error ≠ .interrupted →
    ∃ e, entryOf objectId (decisive objectId currentAttempt turn) = some e ∧
      (error = .stateChanged ↔ ¬ Current currentAttempt e)

/-- The fetch of these turns does what it is for. -/
structure Fetched (turns : List (FetchTurn ε)) (progress : Progress ε) : Prop
    extends Told objectId currentAttempt progress where
  once : progress.attempted.Nodup
  held : ∀ nodeId ∈ progress.attempted, Held objectId turns nodeId
  ends : ∀ nodes : Finset NodeID, (∀ nodeId, Held objectId turns nodeId → nodeId ∈ nodes) →
    nodes.card < turns.length → progress.ended ≠ none

variable {objectId : ObjectID} {currentAttempt : Option AttemptID} {expected : ResultDescriptor}
variable {e : ObjectOwnerEntry ε} {turn : FetchTurn ε} {attempted : List NodeID} {data : List UInt8}
variable {error : FetchError}

/-! ## One turn -/

theorem readRoute_ok {view : CoreView ε}
    (h : readRoute objectId currentAttempt view = .ok (expected, e)) :
    entryOf objectId view = some e ∧ Current currentAttempt e ∧
      ∃ canonical, e.canonicalStoredResult = some canonical ∧
        RouteOf objectId expected canonical := by
  unfold readRoute at h
  cases hentry : entryOf objectId view with
  | none =>
    rw [hentry] at h
    cases h
  | some e' =>
    simp only [hentry] at h
    by_cases hcurrent : Current currentAttempt e'
    · rw [if_neg (not_not_intro hcurrent)] at h
      cases hroute : view.storedDescriptors.get? objectId with
      | none =>
        rw [hroute] at h
        cases h
      | some route =>
        simp only [hroute] at h
        by_cases hcanonical : ∃ canonical ∈ e'.canonicalStoredResult,
            RouteOf objectId route canonical
        · rw [if_pos hcanonical] at h
          cases h
          exact ⟨rfl, hcurrent, hcanonical⟩
        · rw [if_neg hcanonical] at h
          cases h
    · rw [if_pos hcurrent] at h
      cases h

theorem readRoute_error {view : CoreView ε} (hentry : entryOf objectId view = some e)
    (h : readRoute objectId currentAttempt view = .error error) :
    error = .stateChanged ↔ ¬ Current currentAttempt e := by
  simp only [readRoute, hentry] at h
  by_cases hcurrent : Current currentAttempt e
  · rw [if_neg (not_not_intro hcurrent)] at h
    refine iff_of_false (fun heq => ?_) (not_not_intro hcurrent)
    rw [heq] at h
    cases hroute : view.storedDescriptors.get? objectId with
    | none =>
      rw [hroute] at h
      cases h
    | some route =>
      simp only [hroute] at h
      split at h
      · cases h
      · cases h
  · rw [if_pos hcurrent] at h
    cases h
    exact iff_of_true rfl hcurrent

theorem replyData_ok {reply : GetObjectReply}
    (h : replyData objectId currentAttempt expected reply = .ok data) :
    data.length = expected.sizeBytes ∧ Sha256.hexdigest data = expected.checksum := by
  unfold replyData at h
  split at h
  · split at h
    · cases h
    · split at h
      · cases h
      · rename_i hgood
        cases h
        simp only [not_or, not_not] at hgood
        exact hgood.2
  · cases h

theorem answered_ne {answer : NodeAnswer} :
    answered objectId currentAttempt expected answer ≠ .error .stateChanged := by
  intro h
  cases answer with
  | reply reply =>
    simp only [answered, replyData] at h
    split at h
    · split at h
      · cases h
      · split at h
        · cases h
        · cases h
    · cases h
  | _ => cases h

theorem refusal_ne : refusal expected e turn ≠ some .stateChanged := by
  unfold refusal
  intro h
  split_ifs at h <;> cases h

theorem receive_ok (h : receive objectId currentAttempt expected turn = .ok data) :
    data.length = expected.sizeBytes ∧ Sha256.hexdigest data = expected.checksum ∧
      ∃ e', entryOf objectId turn.final = some e' ∧
        Authoritative objectId currentAttempt turn.final e' expected.nodeId := by
  unfold receive at h
  split at h
  · cases h
  · cases h
  · rename_i bytes e' hanswered hfinal
    by_cases hauthority : Authoritative objectId currentAttempt turn.final e' expected.nodeId
    · rw [if_pos hauthority] at h
      obtain rfl := Except.ok.inj h
      have hdata : ∃ reply, replyData objectId currentAttempt expected reply = .ok bytes := by
        cases hanswer : turn.answer with
        | reply reply => exact ⟨reply, by rwa [hanswer] at hanswered⟩
        | _ =>
          rw [hanswer] at hanswered
          cases hanswered
      obtain ⟨reply, hreply⟩ := hdata
      have hmatch := replyData_ok hreply
      exact ⟨hmatch.1, hmatch.2, e', hfinal, hauthority⟩
    · rw [if_neg hauthority] at h
      cases h

theorem receive_changed (h : receive objectId currentAttempt expected turn = .error .stateChanged) :
    ∃ data e', answered objectId currentAttempt expected turn.answer = .ok data ∧
      entryOf objectId turn.final = some e' ∧
        ¬ Authoritative objectId currentAttempt turn.final e' expected.nodeId := by
  unfold receive at h
  split at h
  · rename_i hanswered
    rw [Except.error.inj h] at hanswered
    exact absurd hanswered answered_ne
  · cases h
  · rename_i data e' hanswered hfinal
    by_cases hauthority : Authoritative objectId currentAttempt turn.final e' expected.nodeId
    · rw [if_pos hauthority] at h
      cases h
    · exact ⟨data, e', hanswered, hfinal, hauthority⟩

variable {last : FetchTurn ε}

theorem leave_changed {error' : FetchError} (hlatest : entryOf objectId turn.latest = some e)
    (h : (leave objectId currentAttempt attempted turn error).ended = some (.error error', last))
    (hne : error' ≠ .interrupted)
    (hfenced : error = .stateChanged → Offers objectId currentAttempt turn.latest attempted e ∨
      ¬ Current currentAttempt e) :
    last = turn ∧ (error' = .stateChanged ↔ ¬ Current currentAttempt e) := by
  obtain ⟨left, hleft, hpair⟩ := Option.map_eq_some_iff.mp h
  obtain ⟨hsame, rfl⟩ := Prod.mk.inj hpair
  obtain rfl := Except.error.inj hsame
  refine ⟨rfl, ?_⟩
  simp only [recover, hlatest] at hleft
  by_cases hinterrupted : error = .interrupted
  · rw [if_pos hinterrupted] at hleft
    exact absurd ((Option.some.inj hleft).symm.trans hinterrupted) hne
  rw [if_neg hinterrupted] at hleft
  by_cases hoffers : Offers objectId currentAttempt turn.latest attempted e
  · rw [if_pos hoffers] at hleft
    cases hleft
  rw [if_neg hoffers] at hleft
  by_cases hcurrent : Current currentAttempt e
  · rw [if_neg (not_not_intro hcurrent)] at hleft
    refine iff_of_false (fun heq => ?_) (not_not_intro hcurrent)
    rcases hfenced ((Option.some.inj hleft).trans heq) with hoffered | hgone
    · exact hoffers hoffered
    · exact hgone hcurrent
  · rw [if_pos hcurrent] at hleft
    exact iff_of_true (Option.some.inj hleft).symm hcurrent

theorem leave_goes_on (hlatest : entryOf objectId turn.latest = some e)
    (h : (leave objectId currentAttempt attempted turn error).ended = none) :
    Offers objectId currentAttempt turn.latest attempted e := by
  have hnone := Option.map_eq_none_iff.mp h
  simp only [recover, hlatest] at hnone
  by_contra hoffers
  rw [if_neg hoffers] at hnone
  split at hnone
  · cases hnone
  · split at hnone
    · cases hnone
    · cases hnone

theorem leave_ne_ok :
    (leave objectId currentAttempt attempted turn error).ended ≠ some (.ok data, last) := by
  intro h
  obtain ⟨left, -, hpair⟩ := Option.map_eq_some_iff.mp h
  cases (Prod.mk.inj hpair).1

theorem fetchTurn_spec (h : Calm objectId currentAttempt attempted turn) :
    let progress := fetchTurn objectId currentAttempt attempted turn
    (progress.attempted = attempted ∧ progress.ended ≠ none ∨
      ∃ nodeId, nodeId ∉ attempted ∧ Held objectId [turn] nodeId ∧
        progress.attempted = nodeId :: attempted) ∧
    Told objectId currentAttempt progress := by
  obtain ⟨before, hbefore⟩ := Option.isSome_iff_exists.mp h.known.1
  obtain ⟨latest, hlatest⟩ := Option.isSome_iff_exists.mp h.known.2.2
  dsimp only [fetchTurn]
  cases hread : readRoute objectId currentAttempt turn.before with
  | error error =>
    refine ⟨.inl ⟨rfl, by simp⟩, fun data last hended => by simp at hended, ?_⟩
    intro error' last hended _
    obtain ⟨hsame, rfl⟩ := Prod.mk.inj (Option.some.inj hended)
    obtain rfl := Except.error.inj hsame
    exact ⟨before, by rwa [decisive, hread], readRoute_error hbefore hread⟩
  | ok route =>
    obtain ⟨expected, e⟩ := route
    obtain ⟨he, hcurrent, canonical, hcanonical, hroute⟩ := readRoute_ok hread
    have hdecisive : entryOf objectId (decisive objectId currentAttempt turn) = some latest := by
      rwa [decisive, hread]
    dsimp only
    cases hrefusal : refusal expected e turn with
    | some error =>
      have hrefused := h.refused expected e latest hread (by simp [hrefusal]) hlatest
      refine ⟨.inl ⟨rfl, fun hnone => hrefused (leave_goes_on hlatest hnone)⟩,
        fun data last hended => absurd hended leave_ne_ok, fun error' last hended hne => ?_⟩
      obtain ⟨rfl, hiff⟩ := leave_changed hlatest hended hne fun heq =>
        absurd (hrefusal.trans (congrArg some heq)) refusal_ne
      exact ⟨latest, hdecisive, hiff⟩
    | none =>
      have hlocation : expected.nodeId ∈ e.locationAttempts.keys := by
        unfold refusal at hrefusal
        by_contra hmissing
        rw [if_pos hmissing] at hrefusal
        split at hrefusal
        · cases hrefusal
        · cases hrefusal
      have hattempts : expected.nodeId ∉ attempted ∧ Held objectId [turn] expected.nodeId :=
        ⟨h.untried expected e hread, turn, List.mem_singleton_self _, e, he, hlocation⟩
      cases hreceive : receive objectId currentAttempt expected turn with
      | error error =>
        refine ⟨.inr ⟨_, hattempts.1, hattempts.2, rfl⟩,
          fun data last hended => absurd hended leave_ne_ok, fun error' last hended hne => ?_⟩
        obtain ⟨rfl, hiff⟩ := leave_changed hlatest hended hne fun heq => by
          rw [heq] at hreceive
          obtain ⟨data, e', hdata, hfinal, hauthority⟩ := receive_changed hreceive
          exact (h.fenced expected e e' latest data hread hdata hfinal hlatest).resolve_left
            hauthority
        exact ⟨latest, hdecisive, hiff⟩
      | ok data =>
        refine ⟨.inr ⟨_, hattempts.1, hattempts.2, rfl⟩, fun data' last hended => ?_,
          fun error' last hended => by simp at hended⟩
        obtain ⟨hsame, rfl⟩ := Prod.mk.inj (Option.some.inj hended)
        obtain rfl := Except.ok.inj hsame
        obtain ⟨hlength, hhash, e', hfinal, hauthority⟩ := receive_ok hreceive
        obtain ⟨-, -, -, -, -, hsize, hchecksum, -⟩ := hroute
        refine ⟨e', canonical, expected.nodeId, hfinal, ?_, hlength.trans hsize,
          hhash.trans hchecksum, hauthority⟩
        rw [h.frozen e e' he hfinal hcurrent hauthority.1, hcanonical]

/-! ## A fetch -/

variable {turns : List (FetchTurn ε)}

theorem Held.mono {turns' : List (FetchTurn ε)} (hsub : turns ⊆ turns') {nodeId : NodeID}
    (h : Held objectId turns nodeId) : Held objectId turns' nodeId := by
  obtain ⟨turn, hturn, hheld⟩ := h
  exact ⟨turn, hsub hturn, hheld⟩

theorem fetch_calm (h : CalmRun objectId currentAttempt attempted turns)
    (hnodup : attempted.Nodup) :
    let progress := fetch objectId currentAttempt attempted turns
    (∃ more, progress.attempted = more ++ attempted ∧ (more ++ attempted).Nodup ∧
      (∀ nodeId ∈ more, Held objectId turns nodeId) ∧
      (progress.ended = none → more.length = turns.length)) ∧
    Told objectId currentAttempt progress := by
  induction turns generalizing attempted with
  | nil =>
    exact ⟨⟨[], rfl, hnodup, fun _ h => absurd h List.not_mem_nil, fun _ => rfl⟩,
      fun _ _ h => by simp [fetch] at h, fun _ _ h => by simp [fetch] at h⟩
  | cons turn turns ih =>
    obtain ⟨hcalm, hrest⟩ := h
    obtain ⟨hattempts, htold⟩ := fetchTurn_spec hcalm
    have hheld : ∀ {nodeId}, Held objectId [turn] nodeId → Held objectId (turn :: turns) nodeId :=
      Held.mono (by simp)
    dsimp only [fetch]
    by_cases hended : (fetchTurn objectId currentAttempt attempted turn).ended = none
    · rw [if_neg (by simp [hended])]
      obtain ⟨-, hends⟩ | ⟨nodeId, hfresh, hnode, hattempted⟩ := hattempts
      · exact absurd hended hends
      have hnext := hrest hended
      rw [hattempted] at hnext ⊢
      obtain ⟨⟨more, hmore, hdistinct, hall, hlength⟩, htold⟩ :=
        ih hnext (List.nodup_cons.mpr ⟨hfresh, hnodup⟩)
      refine ⟨⟨more ++ [nodeId], by simpa using hmore, by simpa using hdistinct, ?_, ?_⟩, htold⟩
      · intro other hother
        rcases List.mem_append.mp hother with hlater | hnow
        · exact (hall other hlater).mono (List.subset_cons_self _ _)
        · exact List.mem_singleton.mp hnow ▸ hheld hnode
      · intro hnone
        rw [List.length_append, hlength hnone]
        rfl
    · rw [if_pos (by simpa [Option.isSome_iff_ne_none] using hended)]
      refine ⟨?_, htold⟩
      obtain ⟨hattempted, -⟩ | ⟨nodeId, hfresh, hnode, hattempted⟩ := hattempts
      · exact ⟨[], hattempted, hnodup, fun _ h => absurd h List.not_mem_nil,
          fun hnone => absurd hnone hended⟩
      · refine ⟨[nodeId], hattempted, List.nodup_cons.mpr ⟨hfresh, hnodup⟩, ?_,
          fun hnone => absurd hnone hended⟩
        exact fun other hother => List.mem_singleton.mp hother ▸ hheld hnode

namespace Sample

open ObjectOwnerTable ObjectOwnerTable.Sample Run

def storedCore : CoreView Unit where
  ownerTable := run step .empty
    [.register object (some ⟨task, 0⟩) none none, .commitPublishTaskOutputs (publication 1)]
  storedDescriptors := Dict.empty.set object (stored 1)
  deadNodes := []

def fetchingTurn (homeRoute : Option NodeID) : FetchTurn Unit :=
  ⟨storedCore, [], homeRoute, .failed, storedCore, storedCore⟩

end Sample

open Sample ObjectOwnerTable.Sample

theorem held_stored {turns : List (FetchTurn Unit)} {nodeId : NodeID}
    (hall : ∀ turn ∈ turns, turn.before = storedCore) (h : Held object turns nodeId) :
    nodeId = node := by
  obtain ⟨turn, hturn, e, he, hkey⟩ := h
  have hkeys : (entryOf object storedCore).map (·.locationAttempts.keys) = some [node] := rfl
  rw [hall turn hturn] at he
  rw [he] at hkeys
  exact List.mem_singleton.mp (Option.some.inj hkeys ▸ hkey)

end StoredFetch

end MiniRay
