import MiniRay.EnhancedPublication.Atomicity

/-! A record reserves its edges from PREPARED until RETIRED. The reservations of all records
together never close a cycle. -/

namespace MiniRay

open Checked PublicationSnapshot Relation

namespace PublicationAuthority

variable {self : PublicationAuthority} {request : PublicationRequest}

def ReservesEdge (s : PublicationSnapshot) (v w : ObjectID) : Prop :=
  s.receipt .prepared ≠ none ∧ s.receipt .retired = none ∧ s.publication.objectId = v ∧
    w ∈ s.publication.children

def GraphEdge (authority : PublicationAuthority) (v w : ObjectID) : Prop :=
  ∃ key s, authority.records.get? key = some s ∧ ReservesEdge s v w

def Acyclic (authority : PublicationAuthority) : Prop :=
  ∀ v, ¬ TransGen (GraphEdge authority) v v

/-! ## The merged adjacency -/

variable {adjacency : Dict ObjectID (List ObjectID)} {v w : ObjectID}

theorem mem_children_addChildren {item : Publication} :
    Digraph.Edge (addChildren adjacency item) v w ↔
      Digraph.Edge adjacency v w ∨ item.objectId = v ∧ w ∈ item.children := by
  unfold Digraph.Edge Digraph.children addChildren
  rw [Dict.get?_set]
  by_cases h : item.objectId = v
  · subst h
    simp
  · simp [h]

theorem edge_foldl_addChildren {items : List Publication} :
    Digraph.Edge (items.foldl addChildren adjacency) v w ↔
      Digraph.Edge adjacency v w ∨ ∃ item ∈ items, item.objectId = v ∧ w ∈ item.children := by
  induction items generalizing adjacency with
  | nil => simp
  | cons item items ih =>
    rw [List.foldl_cons, ih, mem_children_addChildren]
    simp [or_assoc]

variable {publication : Publication}

/-- The search runs on the reserved edges and the candidate's own. -/
theorem edge_adjacency :
    Digraph.Edge (self.adjacency publication) v w ↔
      GraphEdge self v w ∨ publication.objectId = v ∧ w ∈ publication.children := by
  have hempty : ¬ Digraph.Edge (Dict.empty : Dict ObjectID (List ObjectID)) v w := by
    simp [Digraph.Edge, Digraph.children]
  rw [adjacency, edge_foldl_addChildren]
  simp only [hempty, false_or, List.mem_append, List.mem_map, List.mem_filter,
    List.mem_singleton, or_and_right, exists_or, exists_eq_left, GraphEdge, ReservesEdge]
  refine or_congr ?_ Iff.rfl
  constructor
  · rintro ⟨_, ⟨s, ⟨hs, hactive⟩, rfl⟩, hv, hw⟩
    obtain ⟨key, hkey⟩ := Dict.mem_values_iff.mp hs
    simp only [graphActive, Bool.and_eq_true, Bool.not_eq_true'] at hactive
    exact ⟨key, s, hkey, has_eq_true_iff.mp hactive.1, has_eq_false_iff.mp hactive.2, hv, hw⟩
  · rintro ⟨key, s, hkey, hprepared, hretired, hv, hw⟩
    refine ⟨_, ⟨s, ⟨Dict.mem_values_iff.mpr ⟨key, hkey⟩, ?_⟩, rfl⟩, hv, hw⟩
    simp [graphActive, has_eq_true_iff.mpr hprepared, has_eq_false_iff.mpr hretired]

/-- The reserved edges together with those of a candidate. -/
def CandidateEdge (authority : PublicationAuthority) (publication : Publication)
    (v w : ObjectID) : Prop :=
  GraphEdge authority v w ∨ publication.objectId = v ∧ w ∈ publication.children

/-- The answer depends on the edges alone, not on the order in which they are listed. -/
theorem hasCycle_of_edges
    (h : ∀ v w, Digraph.Edge adjacency v w ↔ CandidateEdge self publication v w) :
    Digraph.hasCycle adjacency = true ↔
      ∃ v, TransGen (CandidateEdge self publication) v v := by
  have hedges : Digraph.Edge adjacency = CandidateEdge self publication :=
    funext fun v => funext fun w => propext (h v w)
  rw [Digraph.hasCycle_iff, hedges]

/-- A candidate is rejected exactly when it would close a cycle, however it is listed. -/
theorem would_cycle_exact (self : PublicationAuthority) (publication : Publication) :
    (self.wouldCycle publication = true ↔ ∃ v, TransGen (CandidateEdge self publication) v v) ∧
      ∀ adjacency : Dict ObjectID (List ObjectID),
        (∀ v w, Digraph.Edge adjacency v w ↔ CandidateEdge self publication v w) →
        Digraph.hasCycle adjacency = self.wouldCycle publication := by
  have hmerged : ∀ v w, Digraph.Edge (self.adjacency publication) v w ↔
      CandidateEdge self publication v w := fun _ _ => edge_adjacency
  have hsearch : self.wouldCycle publication = true ↔ _ := hasCycle_of_edges hmerged
  refine ⟨hsearch, fun adjacency hedges => ?_⟩
  rw [Bool.eq_iff_iff]
  exact (hasCycle_of_edges hedges).trans hsearch.symm

/-! ## One call keeps the graph acyclic -/

variable {next : PublicationAuthority}

theorem acyclic_of_imp (h : Acyclic self) (himp : ∀ v w, GraphEdge next v w → GraphEdge self v w) :
    Acyclic next :=
  fun v hv => h v (TransGen.mono himp v v hv)

theorem acyclic_of_wouldCycle (h : self.wouldCycle publication = false) :
    ∀ v, ¬ TransGen (Digraph.Edge (self.adjacency publication)) v v := by
  intro v hv
  have hcycle : self.wouldCycle publication = true :=
    (Digraph.hasCycle_iff _).mpr ⟨v, hv⟩
  simp [h] at hcycle

theorem reserves_of_recorded {stage : PublicationStage}
    {previous changed updated : PublicationSnapshot} {receipt : PublicationReceipt}
    (hc : Change self previous request changed) (hstage : receipt.stage = stage)
    (hne : stage ≠ .prepared)
    (hu : updated = { changed with receipts := changed.receipts ++ [receipt] })
    (h : ReservesEdge updated v w) : ReservesEdge previous v w := by
  have hreceipts : updated.receipts = previous.receipts ++ [receipt] := by rw [hu, hc.receipts_eq]
  have hpublication : updated.publication = previous.publication := by rw [hu, ← hc.publication_eq]
  obtain ⟨hprepared, hretired, hv, hw⟩ := h
  rw [receipt_append hreceipts, hstage] at hprepared hretired
  rw [hpublication] at hv hw
  exact ⟨by simpa [hne] using hprepared, (Option.or_eq_none_iff.mp hretired).1, hv, hw⟩

theorem Outcome.acyclic {reply : PublicationReply} (h : Acyclic self)
    (hout : Outcome self request reply next) : Acyclic next := by
  cases hout with
  | rejected | queried | replayed => exact h
  | @recorded stage previous changed receipt updated hs ha hc hnew hr hu hinv =>
    have hstage : receipt.stage = stage := by rw [hr]
    by_cases hprepared : stage = .prepared
    · -- PREPARED: the next graph is inside the one that was searched.
      subst hprepared
      have hsearch : self.wouldCycle previous.publication = false := by
        cases hc <;> cases hs
        rename_i hacyclic
        exact hacyclic hnew
      have hpublication : updated.publication = previous.publication := by
        rw [hu, ← hc.publication_eq]
      intro v hv
      refine acyclic_of_wouldCycle hsearch v (TransGen.mono ?_ v v hv)
      rintro a b ⟨key, s, hget, hedge⟩
      rw [edge_adjacency]
      rcases Dict.of_get?_set hget with ⟨_, rfl⟩ | hget
      · obtain ⟨_, _, ha, hb⟩ := hedge
        rw [hpublication] at ha hb
        exact Or.inr ⟨ha, hb⟩
      · exact Or.inl ⟨key, s, hget, hedge⟩
    · refine acyclic_of_imp h ?_
      rintro v w ⟨key, s, hget, hedge⟩
      rcases Dict.of_get?_set hget with ⟨_, rfl⟩ | hget
      · have hedge := reserves_of_recorded hc hstage hprepared hu hedge
        rcases ha.known with hknown | ⟨_, hfresh, _⟩
        · exact ⟨_, previous, hknown, hedge⟩
        · rw [hfresh] at hedge
          exact absurd rfl hedge.1
      · exact ⟨key, s, hget, hedge⟩

theorem acyclic_after (requests : List PublicationRequest) : Acyclic (after requests) := by
  have hboth : Inv (after requests) ∧ Acyclic (after requests) := by
    refine Run.run_invariant (p := fun authority => Inv authority ∧ Acyclic authority) ?_ ?_ _
    · rintro authority request ⟨hinv, hacyclic⟩
      obtain ⟨_, _, hout⟩ := apply_outcome hinv request
      exact ⟨hout.inv hinv, hout.acyclic hacyclic⟩
    · refine ⟨inv_empty, fun v hv => ?_⟩
      obtain ⟨w, ⟨key, s, hget, _⟩, _⟩ := TransGen.head'_iff.mp hv
      simp [empty] at hget
  exact hboth.2

/-! ## The reservations of every run -/

/-- A request was accepted at some earlier point of the run. -/
def AcceptedIn (requests : List PublicationRequest) (request : PublicationRequest) : Prop :=
  ∃ earlier later, requests = earlier ++ request :: later ∧
    ∃ reply, ((after earlier).apply request).1 = .ok reply ∧ reply.accepted = true

theorem replay_unchanged {requests : List PublicationRequest} (h : AcceptedIn requests request) :
    (after requests).step request = after requests := by
  obtain ⟨earlier, later, rfl, reply, hreply, haccepted⟩ := h
  obtain ⟨reply', hreply', hout⟩ := apply_outcome (inv_after (earlier ++ request :: later)) request
  cases hs : request.stage with
  | none =>
    change ((after (earlier ++ request :: later)).apply request).2 = _
    cases hpair : (after (earlier ++ request :: later)).apply request with
    | mk result next =>
      rw [hpair] at hout
      cases hout with
      | rejected | queried | replayed => rfl
      | recorded hs' => simp [hs] at hs'
  | some stage =>
    obtain ⟨s, receipt, hget, hstage, _⟩ :=
      receipt_kept (inv_after earlier) hreply haccepted hs later
    rw [← after_append] at hget
    exact (hout.replay hs hget hstage).1

/-- The graph stays acyclic, replays change nothing, and a retired record holds no edge again. -/
structure GraphSpec (requests : List PublicationRequest) : Prop where
  acyclic : Acyclic (after requests)
  replay : ∀ request, AcceptedIn requests request →
    (after requests).step request = after requests
  retired : ∀ key s, (after requests).records.get? key = some s → s.receipt .retired ≠ none →
    ∀ later, ∃ s', (after (requests ++ later)).records.get? key = some s' ∧
      s'.publication = s.publication ∧ ∀ v w, ¬ ReservesEdge s' v w

theorem contained_graph_safe (requests : List PublicationRequest) : GraphSpec requests := by
  refine ⟨acyclic_after requests, fun request h => replay_unchanged h, ?_⟩
  intro key s hget hretired later
  obtain ⟨s', hget', hpres⟩ := history_run (inv_after requests) later hget
  rw [← after_append] at hget'
  refine ⟨s', hget', hpres.publication, ?_⟩
  rintro v w ⟨_, hnone, _⟩
  obtain ⟨receipt, hreceipt⟩ := Option.ne_none_iff_exists'.mp hretired
  simp [hpres.receipt hreceipt] at hnone

end PublicationAuthority

end MiniRay
