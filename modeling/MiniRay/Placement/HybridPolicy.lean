import MiniRay.Resources.Quantities

/-! Live feasible Nodes first, available ones before busy ones, ranked by their critical
utilization, and a random choice among the best. -/

namespace MiniRay

def gpuName : String := "GPU"

namespace CapacitySnapshot

variable (c : CapacitySnapshot)

def hasGpu : Bool := 0 < c.total.units gpuName

def isFeasible (request : ResourceVector) : Bool := c.alive ∧ request.fitsIn c.total

def isAvailable (request : ResourceVector) : Bool :=
  c.isFeasible request ∧ request.fitsIn c.available

/-- The largest used part of a resource. A quotient of at most one cannot overflow. -/
def criticalResourceUtilization : ℚ :=
  (c.total.items.map fun item =>
    decimalContext.rounded ((item.2 - c.available.units item.1 : Nat) / item.2)).max?.getD 0

end CapacitySnapshot

inductive SchedulingStatus
  | selected
  | pendingCapacity
  | infeasible
  deriving DecidableEq

structure SchedulingDecision where
  status : SchedulingStatus
  nodeId : Option NodeID := none
  selectedIsAvailable : Bool := false
  candidates : List NodeID := []

structure HybridPolicy where
  spreadThreshold : ℚ
  topK : Nat
  topKFraction : ℚ
  avoidGpuNodes : Bool
  threshold : 0 ≤ spreadThreshold ∧ spreadThreshold ≤ 1
  positive : 1 ≤ topK
  fraction : 0 ≤ topKFraction ∧ topKFraction ≤ 1

namespace HybridPolicy

variable (c : HybridPolicy)

def score (node : CapacitySnapshot) : ℚ :=
  if node.criticalResourceUtilization < c.spreadThreshold then 0
  else node.criticalResourceUtilization

def preferNonGpu (request : ResourceVector) (nodes : List CapacitySnapshot) :
    List CapacitySnapshot :=
  if c.avoidGpuNodes ∧ request.units gpuName = 0 ∧ nodes.any fun node => ¬ node.hasGpu then
    nodes.filter fun node => ¬ node.hasGpu
  else nodes

theorem preferNonGpu_ne {request : ResourceVector} {nodes : List CapacitySnapshot}
    (h : nodes ≠ []) : c.preferNonGpu request nodes ≠ [] := by
  unfold preferNonGpu
  split
  · rename_i hany
    obtain ⟨node, hnode, hgpu⟩ := List.any_eq_true.mp hany.2.2
    exact List.ne_nil_of_mem (List.mem_filter.mpr ⟨hnode, hgpu⟩)
  · exact h

/-- The order of the ranking: by score, then by the text of the id. -/
def ahead (a b : CapacitySnapshot) : Prop :=
  c.score a < c.score b ∨ c.score a = c.score b ∧ a.nodeId ≤ b.nodeId

instance : DecidableRel c.ahead := fun _ _ => inferInstanceAs (Decidable (_ ∨ _))

def rank (nodes : List CapacitySnapshot) : List CapacitySnapshot := nodes.insertionSort c.ahead

theorem rank_perm (nodes : List CapacitySnapshot) : (c.rank nodes).Perm nodes :=
  List.perm_insertionSort _ _

theorem rank_ne {nodes : List CapacitySnapshot} (h : nodes ≠ []) : c.rank nodes ≠ [] :=
  fun hnil => h (List.nil_perm.mp (hnil ▸ c.rank_perm nodes))

/-- How many of the best the choice is made among. -/
def count (length clusterSize : Nat) : Nat :=
  min length (max (max 1 c.topK)
    ⌊decimalContext.rounded (clusterSize * c.topKFraction)⌋.toNat)

theorem count_pos {length clusterSize : Nat} (h : 0 < length) : 0 < c.count length clusterSize :=
  lt_min h (by omega)

/-- The preferred Node if none is ranked better, or one of the first by `random`. -/
def pick (ranked : List CapacitySnapshot) (hne : ranked ≠ []) (preferred : Option NodeID)
    (clusterSize random : Nat) : CapacitySnapshot :=
  let minimum := c.score (ranked.head hne)
  match ranked.find? fun node => preferred = some node.nodeId ∧ c.score node = minimum with
  | some node => node
  | none =>
    have hpos : 0 < c.count ranked.length clusterSize :=
      c.count_pos (List.length_pos_iff.mpr hne)
    ranked.get ⟨random % c.count ranked.length clusterSize,
      (Nat.mod_lt _ hpos).trans_le (min_le_left _ _)⟩

def choose (nodes : List CapacitySnapshot) (hne : nodes ≠ []) (preferred : Option NodeID)
    (clusterSize random : Nat) : CapacitySnapshot × List NodeID :=
  (c.pick (c.rank nodes) (c.rank_ne hne) preferred clusterSize random,
    (c.rank nodes).map CapacitySnapshot.nodeId)

def feasible (request : ResourceVector) (nodes : List CapacitySnapshot) : List CapacitySnapshot :=
  nodes.filter fun node => node.isFeasible request

def available (request : ResourceVector) (nodes : List CapacitySnapshot) : List CapacitySnapshot :=
  (feasible request nodes).filter fun node => node.isAvailable request

/-- A decision. `random` stands for what the policy's generator draws. -/
def schedule (request : ResourceVector) (nodes : List CapacitySnapshot)
    (preferred : Option NodeID) (requireAvailable : Bool) (random : Nat) : SchedulingDecision :=
  if hfeasible : feasible request nodes = [] then { status := .infeasible }
  else if havailable : available request nodes ≠ [] then
    let (selected, ranked) := c.choose (c.preferNonGpu request (available request nodes))
      (c.preferNonGpu_ne havailable) preferred nodes.length random
    { status := .selected, nodeId := some selected.nodeId, selectedIsAvailable := true,
      candidates := ranked }
  else if requireAvailable then
    { status := .pendingCapacity,
      candidates := (feasible request nodes).map CapacitySnapshot.nodeId }
  else
    let (selected, ranked) := c.choose (c.preferNonGpu request (feasible request nodes))
      (c.preferNonGpu_ne hfeasible) preferred nodes.length random
    { status := .selected, nodeId := some selected.nodeId, candidates := ranked }

/-! ## The ranking -/

theorem ahead_trans {x y z : CapacitySnapshot} (h : c.ahead x y) (h' : c.ahead y z) :
    c.ahead x z := by
  unfold ahead at *
  rcases h with hlt | ⟨heq, hle⟩ <;> rcases h' with hlt' | ⟨heq', hle'⟩
  · exact .inl (hlt.trans hlt')
  · exact .inl (heq' ▸ hlt)
  · exact .inl (heq ▸ hlt')
  · exact .inr ⟨heq.trans heq', hle.trans hle'⟩

theorem ahead_total (x y : CapacitySnapshot) : c.ahead x y ∨ c.ahead y x := by
  unfold ahead
  rcases lt_trichotomy (c.score x) (c.score y) with hlt | heq | hgt
  · exact .inl (.inl hlt)
  · rcases le_total x.nodeId y.nodeId with hle | hle
    · exact .inl (.inr ⟨heq, hle⟩)
    · exact .inr (.inr ⟨heq.symm, hle⟩)
  · exact .inr (.inl hgt)

theorem ahead_score {x y : CapacitySnapshot} (h : c.ahead x y) : c.score x ≤ c.score y := by
  rcases h with hlt | ⟨heq, -⟩
  · exact hlt.le
  · exact heq.le

theorem rank_pairwise (nodes : List CapacitySnapshot) : (c.rank nodes).Pairwise c.ahead := by
  have : Std.Total c.ahead := ⟨c.ahead_total⟩
  have : IsTrans CapacitySnapshot c.ahead := ⟨fun _ _ _ => c.ahead_trans⟩
  exact List.pairwise_insertionSort c.ahead nodes

variable {nodes' : List CapacitySnapshot}

/-- With unique ids the ranking is one, however the Nodes are listed. -/
theorem rank_eq {nodes : List CapacitySnapshot} (h : nodes.Perm nodes')
    (hunique : (nodes.map CapacitySnapshot.nodeId).Nodup) : c.rank nodes = c.rank nodes' := by
  have hperm : (c.rank nodes).Perm (c.rank nodes') :=
    ((c.rank_perm nodes).trans h).trans (c.rank_perm nodes').symm
  refine hperm.eq_of_pairwise ?_ (c.rank_pairwise nodes) (c.rank_pairwise nodes')
  intro x y hx hy hxy hyx
  have hscore := le_antisymm (c.ahead_score hxy) (c.ahead_score hyx)
  have hids : x.nodeId = y.nodeId := by
    rcases hxy with hlt | ⟨-, hle⟩
    · exact absurd hscore hlt.ne
    · rcases hyx with hlt | ⟨-, hge⟩
      · exact absurd hscore.symm hlt.ne
      · exact le_antisymm hle hge
  have hx' := (c.rank_perm nodes).mem_iff.mp hx
  have hy' := h.mem_iff.mpr ((c.rank_perm nodes').mem_iff.mp hy)
  exact List.inj_on_of_nodup_map hunique hx' hy' hids

/-! ## The choice -/

/-- Fewer than `k` elements of a ranking are better than one of its first `k`. -/
theorem countP_lt {ranked : List CapacitySnapshot} (h : ranked.Pairwise c.ahead)
    (i : Fin ranked.length) :
    (ranked.countP fun node => c.score node < c.score (ranked.get i)) ≤ i := by
  have hdrop : (ranked.drop i).countP (fun node => c.score node < c.score (ranked.get i)) = 0 := by
    rw [List.countP_eq_zero]
    intro node hnode
    rw [List.drop_eq_getElem_cons i.isLt] at hnode
    have hle : c.score (ranked.get i) ≤ c.score node := by
      rcases List.mem_cons.mp hnode with rfl | hlater
      · exact le_rfl
      · have hsplit := h.sublist (List.drop_sublist i ranked)
        rw [List.drop_eq_getElem_cons i.isLt] at hsplit
        exact c.ahead_score (List.rel_of_pairwise_cons hsplit hlater)
    simpa using hle
  calc (ranked.countP fun node => c.score node < c.score (ranked.get i))
      = (ranked.take i ++ ranked.drop i).countP
          fun node => c.score node < c.score (ranked.get i) := by rw [List.take_append_drop]
    _ = (ranked.take i).countP fun node => c.score node < c.score (ranked.get i) := by
        rw [List.countP_append, hdrop, Nat.add_zero]
    _ ≤ (ranked.take i).length := List.countP_le_length
    _ ≤ i := List.length_take_le _ _

structure Chosen (pool : List CapacitySnapshot) (preferred : Option NodeID) (clusterSize : Nat)
    (node : CapacitySnapshot) : Prop where
  mem : node ∈ pool
  best : (pool.countP fun other => c.score other < c.score node) < c.count pool.length clusterSize
  preferred : ∀ wanted ∈ pool, preferred = some wanted.nodeId →
    (∀ other ∈ pool, c.score wanted ≤ c.score other) → node.nodeId = wanted.nodeId

theorem choose_spec {pool : List CapacitySnapshot} (hne : pool ≠ []) (preferred : Option NodeID)
    (clusterSize random : Nat) :
    c.Chosen pool preferred clusterSize (c.choose pool hne preferred clusterSize random).1 := by
  have hperm := c.rank_perm pool
  have hrank := c.rank_ne hne
  have hhead : (c.rank pool).head hrank ∈ pool := hperm.mem_iff.mp (List.head_mem hrank)
  have hsorted := c.rank_pairwise pool
  have hminimum : ∀ other ∈ pool, c.score ((c.rank pool).head hrank) ≤ c.score other := by
    intro other hother
    have hmem := hperm.mem_iff.mpr hother
    rw [← List.cons_head_tail hrank] at hsorted hmem
    rcases List.mem_cons.mp hmem with rfl | htail
    · exact le_rfl
    · exact c.ahead_score (List.rel_of_pairwise_cons hsorted htail)
  have hlength := hperm.length_eq
  have hpos : 0 < c.count pool.length clusterSize :=
    c.count_pos (List.length_pos_iff.mpr hne)
  unfold choose pick
  dsimp only
  cases hfind : (c.rank pool).find? fun node =>
      preferred = some node.nodeId ∧ c.score node = c.score ((c.rank pool).head hrank) with
  | some node =>
    have hmem := hperm.mem_iff.mp (List.mem_of_find?_eq_some hfind)
    have hfound : preferred = some node.nodeId ∧
        c.score node = c.score ((c.rank pool).head hrank) := by
      simpa using List.find?_some hfind
    refine ⟨hmem, ?_, fun wanted _ hwanted _ => ?_⟩
    · have hnone : (pool.countP fun other => c.score other < c.score node) = 0 := by
        rw [List.countP_eq_zero]
        intro other hother
        rw [hfound.2]
        simpa using hminimum other hother
      dsimp only
      rwa [hnone]
    · exact Option.some.inj (hfound.1.symm.trans hwanted)
  | none =>
    refine ⟨hperm.mem_iff.mp (List.get_mem _ _), ?_, fun wanted hmem hwanted hbest => ?_⟩
    · have hle := c.countP_lt hsorted ⟨random % c.count (c.rank pool).length clusterSize,
        (Nat.mod_lt _ (hlength ▸ hpos)).trans_le (min_le_left _ _)⟩
      have hindex : random % c.count (c.rank pool).length clusterSize <
          c.count pool.length clusterSize := by
        rw [hlength]
        exact Nat.mod_lt _ hpos
      rw [hperm.countP_eq] at hle
      exact hle.trans_lt hindex
    · have hscore := le_antisymm (hbest _ hhead) (hminimum wanted hmem)
      have habsent := List.find?_eq_none.mp hfind wanted (hperm.mem_iff.mpr hmem)
      exact absurd (decide_eq_true ⟨hwanted, hscore⟩) habsent

theorem choose_eq {pool pool' : List CapacitySnapshot} (hne : pool ≠ []) (hne' : pool' ≠ [])
    (h : pool.Perm pool') (hunique : (pool.map CapacitySnapshot.nodeId).Nodup)
    (preferred : Option NodeID) (clusterSize random : Nat) :
    c.choose pool hne preferred clusterSize random =
      c.choose pool' hne' preferred clusterSize random := by
  have hpick : ∀ (ranked ranked' : List CapacitySnapshot) (h : ranked ≠ []) (h' : ranked' ≠ []),
      ranked = ranked' → c.pick ranked h preferred clusterSize random =
        c.pick ranked' h' preferred clusterSize random := by
    rintro ranked _ _ _ rfl
    rfl
  have hrank := c.rank_eq h hunique
  unfold choose
  rw [hpick _ _ _ (c.rank_ne hne') hrank, hrank]

/-! ## Decisions -/

theorem preferNonGpu_sublist (request : ResourceVector) (nodes : List CapacitySnapshot) :
    (c.preferNonGpu request nodes).Sublist nodes := by
  unfold preferNonGpu
  split
  · exact List.filter_sublist
  · exact List.Sublist.refl _

variable {node : CapacitySnapshot}

theorem preferNonGpu_gpu {request : ResourceVector} {nodes : List CapacitySnapshot}
    {other : CapacitySnapshot} (h : node ∈ c.preferNonGpu request nodes)
    (havoid : c.avoidGpuNodes = true) (hrequest : request.units gpuName = 0)
    (hother : other ∈ nodes) (hgpu : other.hasGpu = false) : node.hasGpu = false := by
  have hany : nodes.any fun node => ¬ node.hasGpu :=
    List.any_eq_true.mpr ⟨other, hother, by simpa using hgpu⟩
  rw [preferNonGpu, if_pos ⟨havoid, hrequest, hany⟩] at h
  simpa using List.of_mem_filter h

theorem preferNonGpu_perm {request : ResourceVector} {nodes : List CapacitySnapshot}
    (h : nodes.Perm nodes') :
    (c.preferNonGpu request nodes).Perm (c.preferNonGpu request nodes') := by
  unfold preferNonGpu
  rw [h.any_eq]
  split
  · exact h.filter _
  · exact h

/-- The Nodes that a selection is made from. -/
def pool (request : ResourceVector) (nodes : List CapacitySnapshot) : List CapacitySnapshot :=
  c.preferNonGpu request
    (if available request nodes ≠ [] then available request nodes else feasible request nodes)

inductive Decides (request : ResourceVector) (nodes : List CapacitySnapshot)
    (preferred : Option NodeID) (requireAvailable : Bool) (random : Nat) :
    SchedulingDecision → Prop
  | infeasible : feasible request nodes = [] →
      Decides request nodes preferred requireAvailable random { status := .infeasible }
  | pending : feasible request nodes ≠ [] → available request nodes = [] →
      requireAvailable = true → Decides request nodes preferred requireAvailable random
        { status := .pendingCapacity,
          candidates := (feasible request nodes).map CapacitySnapshot.nodeId }
  | selected : feasible request nodes ≠ [] →
      (available request nodes = [] → requireAvailable = false) →
      (hne : c.pool request nodes ≠ []) → Decides request nodes preferred requireAvailable random
        { status := .selected,
          nodeId := some
            (c.choose (c.pool request nodes) hne preferred nodes.length random).1.nodeId,
          selectedIsAvailable := decide (available request nodes ≠ []),
          candidates := (c.rank (c.pool request nodes)).map CapacitySnapshot.nodeId }

variable {request : ResourceVector} {nodes : List CapacitySnapshot}

theorem schedule_decides (request : ResourceVector) (nodes : List CapacitySnapshot)
    (preferred : Option NodeID) (requireAvailable : Bool) (random : Nat) :
    c.Decides request nodes preferred requireAvailable random
      (c.schedule request nodes preferred requireAvailable random) := by
  by_cases hfeasible : feasible request nodes = []
  · rw [schedule, dif_pos hfeasible]
    exact .infeasible hfeasible
  by_cases havailable : available request nodes ≠ []
  · have hpool : c.pool request nodes = c.preferNonGpu request (available request nodes) := by
      rw [pool, if_pos havailable]
    have hselected : c.Decides request nodes preferred requireAvailable random _ :=
      .selected hfeasible (fun hnone => absurd hnone havailable)
        (hpool ▸ c.preferNonGpu_ne havailable)
    rw [decide_eq_true havailable] at hselected
    simp only [hpool] at hselected
    rw [schedule, dif_neg hfeasible, dif_pos havailable]
    exact hselected
  · have hpool : c.pool request nodes = c.preferNonGpu request (feasible request nodes) := by
      rw [pool, if_neg havailable]
    rw [schedule, dif_neg hfeasible, dif_neg havailable]
    by_cases hrequire : requireAvailable = true
    · rw [if_pos hrequire]
      exact .pending hfeasible (not_not.mp havailable) hrequire
    · have hselected : c.Decides request nodes preferred requireAvailable random _ :=
        .selected hfeasible (fun _ => by simpa using hrequire)
          (hpool ▸ c.preferNonGpu_ne hfeasible)
      rw [decide_eq_false havailable] at hselected
      simp only [hpool] at hselected
      rw [if_neg hrequire]
      exact hselected

theorem mem_available : node ∈ available request nodes ↔
    node ∈ nodes ∧ node.alive = true ∧ request.fitsIn node.available = true := by
  have hfits : request.fitsIn node.available = true → request.fitsIn node.total = true := by
    intro h
    rw [ResourceVector.fitsIn_iff] at *
    exact fun name => (h name).trans (ResourceVector.fitsIn_iff.mp node.fits name)
  simp only [available, feasible, List.mem_filter, CapacitySnapshot.isAvailable,
    CapacitySnapshot.isFeasible, decide_eq_true_eq]
  constructor
  · rintro ⟨⟨hmem, halive, -⟩, -, hfit⟩
    exact ⟨hmem, halive, hfit⟩
  · rintro ⟨hmem, halive, hfit⟩
    exact ⟨⟨hmem, halive, hfits hfit⟩, ⟨halive, hfits hfit⟩, hfit⟩

theorem mem_feasible : node ∈ feasible request nodes ↔
    node ∈ nodes ∧ node.alive = true ∧ request.fitsIn node.total = true := by
  simp only [feasible, List.mem_filter, CapacitySnapshot.isFeasible, decide_eq_true_eq]

theorem feasible_eq_nil : feasible request nodes = [] ↔
    ¬ ∃ node ∈ nodes, node.alive = true ∧ request.fitsIn node.total = true := by
  simp only [List.eq_nil_iff_forall_not_mem, mem_feasible, not_exists]

theorem available_ne_nil : available request nodes ≠ [] ↔
    ∃ node ∈ nodes, node.alive = true ∧ request.fitsIn node.available = true := by
  simp only [ne_eq, List.eq_nil_iff_forall_not_mem, mem_available, not_forall, not_not]

theorem pool_sublist (request : ResourceVector) (nodes : List CapacitySnapshot) :
    (c.pool request nodes).Sublist nodes := by
  refine (c.preferNonGpu_sublist request _).trans ?_
  by_cases hsome : available request nodes ≠ []
  · rw [if_pos hsome]
    exact List.filter_sublist.trans List.filter_sublist
  · rw [if_neg hsome]
    exact List.filter_sublist

theorem pool_perm (h : nodes.Perm nodes') :
    (c.pool request nodes).Perm (c.pool request nodes') := by
  have hfeasible : (feasible request nodes).Perm (feasible request nodes') := h.filter _
  have havailable : (available request nodes).Perm (available request nodes') :=
    hfeasible.filter _
  refine c.preferNonGpu_perm ?_
  by_cases hnone : available request nodes = []
  · have hnone' : available request nodes' = [] := List.nil_perm.mp (hnone ▸ havailable)
    rw [if_neg (not_not_intro hnone), if_neg (not_not_intro hnone')]
    exact hfeasible
  · have hsome : available request nodes' ≠ [] :=
      fun hnil => hnone (List.perm_nil.mp (hnil ▸ havailable))
    rw [if_pos hnone, if_pos hsome]
    exact havailable

theorem Decides.perm {c : HybridPolicy} {preferred : Option NodeID} {requireAvailable : Bool}
    {random : Nat} {d d' : SchedulingDecision} (h : nodes.Perm nodes')
    (hunique : (nodes.map CapacitySnapshot.nodeId).Nodup)
    (hd : c.Decides request nodes preferred requireAvailable random d)
    (hd' : c.Decides request nodes' preferred requireAvailable random d') :
    d'.status = d.status ∧ d'.candidates.Perm d.candidates ∧
      (d.status ≠ .pendingCapacity → d' = d) := by
  have hfeasible : (feasible request nodes).Perm (feasible request nodes') := h.filter _
  have hempty : feasible request nodes = [] ↔ feasible request nodes' = [] :=
    ⟨fun hnil => List.nil_perm.mp (hnil ▸ hfeasible),
      fun hnil => List.perm_nil.mp (hnil ▸ hfeasible)⟩
  have havailable : (available request nodes).Perm (available request nodes') :=
    hfeasible.filter _
  have hnone : available request nodes = [] ↔ available request nodes' = [] :=
    ⟨fun hnil => List.nil_perm.mp (hnil ▸ havailable),
      fun hnil => List.perm_nil.mp (hnil ▸ havailable)⟩
  cases hd with
  | infeasible hnil =>
    cases hd' with
    | infeasible => exact ⟨rfl, .nil, fun _ => rfl⟩
    | pending hsome => exact absurd (hempty.mp hnil) hsome
    | selected hsome => exact absurd (hempty.mp hnil) hsome
  | pending hsome hbusy hrequire =>
    cases hd' with
    | infeasible hnil => exact absurd (hempty.mpr hnil) hsome
    | pending => exact ⟨rfl, (hfeasible.map _).symm, fun hother => absurd rfl hother⟩
    | selected _ hany =>
      rw [hany (hnone.mp hbusy)] at hrequire
      cases hrequire
  | selected hsome hany hne =>
    cases hd' with
    | infeasible hnil => exact absurd (hempty.mpr hnil) hsome
    | pending _ hbusy hrequire =>
      rw [hany (hnone.mpr hbusy)] at hrequire
      cases hrequire
    | selected _ _ hne' =>
      have hpool : (c.pool request nodes).Perm (c.pool request nodes') := c.pool_perm h
      have hids : ((c.pool request nodes).map CapacitySnapshot.nodeId).Nodup :=
        hunique.sublist ((c.pool_sublist request nodes).map _)
      have hchoice := c.choose_eq hne hne' hpool hids preferred nodes.length random
      have hmarked : decide (available request nodes ≠ []) =
          decide (available request nodes' ≠ []) := decide_eq_decide.mpr hnone.not
      rw [← h.length_eq, ← hchoice, ← hmarked, ← c.rank_eq hpool hids]
      exact ⟨rfl, List.Perm.refl _, fun _ => rfl⟩

end HybridPolicy

open HybridPolicy

/-- What a decision is for every list of Nodes. -/
structure SchedulingSpec (c : HybridPolicy) (request : ResourceVector)
    (nodes : List CapacitySnapshot) (preferred : Option NodeID) (requireAvailable : Bool)
    (random : Nat) (d : SchedulingDecision) : Prop where
  infeasible : d.status = .infeasible ↔
    ¬ ∃ node ∈ nodes, node.alive = true ∧ request.fitsIn node.total = true
  available : (d.status = .selected ∧ d.selectedIsAvailable = true) ↔
    ∃ node ∈ nodes, node.alive = true ∧ request.fitsIn node.available = true
  /-- Without available Nodes the feasible ones wait, or are selected from. -/
  busy : (∃ node ∈ nodes, node.alive = true ∧ request.fitsIn node.total = true) →
    (¬ ∃ node ∈ nodes, node.alive = true ∧ request.fitsIn node.available = true) →
    if requireAvailable then d.status = .pendingCapacity ∧
      d.candidates = (feasible request nodes).map CapacitySnapshot.nodeId
    else d.status = .selected ∧ d.selectedIsAvailable = false
  selected : d.status = .selected → ∃ node, d.nodeId = some node.nodeId ∧
    c.Chosen (c.pool request nodes) preferred nodes.length node ∧ node ∈ nodes ∧
    node.alive = true ∧ request.fitsIn node.total = true ∧
    (d.selectedIsAvailable = true → request.fitsIn node.available = true)
  /-- A Node with a GPU is left alone while another one would do. -/
  gpu : c.avoidGpuNodes = true → request.units gpuName = 0 → ∀ node ∈ c.pool request nodes,
    ∀ other ∈ (if HybridPolicy.available request nodes ≠ [] then
      HybridPolicy.available request nodes else feasible request nodes),
      other.hasGpu = false → node.hasGpu = false
  /-- The listing matters only for the order of the Nodes that wait. -/
  listed : (nodes.map CapacitySnapshot.nodeId).Nodup → ∀ nodes', nodes.Perm nodes' →
    (c.pool request nodes).Perm (c.pool request nodes') ∧
    (d.status ≠ .pendingCapacity →
      c.schedule request nodes' preferred requireAvailable random = d) ∧
    (d.status = .pendingCapacity →
      (c.schedule request nodes' preferred requireAvailable random).status = .pendingCapacity ∧
      (c.schedule request nodes' preferred requireAvailable random).candidates.Perm d.candidates)

theorem schedulingSpec (c : HybridPolicy) (request : ResourceVector)
    (nodes : List CapacitySnapshot) (preferred : Option NodeID) (requireAvailable : Bool)
    (random : Nat) : SchedulingSpec c request nodes preferred requireAvailable random
      (c.schedule request nodes preferred requireAvailable random) := by
  have hdecides := c.schedule_decides request nodes preferred requireAvailable random
  generalize c.schedule request nodes preferred requireAvailable random = d at hdecides ⊢
  constructor
  case listed =>
    intro hunique nodes' hperm
    have hdecides' := c.schedule_decides request nodes' preferred requireAvailable random
    obtain ⟨hstatus, hcandidates, hsame⟩ := hdecides.perm hperm hunique hdecides'
    exact ⟨c.pool_perm hperm, hsame, fun hpending => ⟨hstatus.trans hpending, hcandidates⟩⟩
  case gpu =>
    intro havoid hrequest node hnode other hother hgpu
    exact c.preferNonGpu_gpu hnode havoid hrequest hother hgpu
  case infeasible =>
    rw [← feasible_eq_nil]
    cases hdecides with
    | infeasible hnil => exact ⟨fun _ => hnil, fun _ => rfl⟩
    | pending hsome => exact ⟨nofun, fun hnil => absurd hnil hsome⟩
    | selected hsome => exact ⟨nofun, fun hnil => absurd hnil hsome⟩
  case available =>
    rw [← available_ne_nil]
    cases hdecides with
    | infeasible hnil =>
      refine ⟨(nomatch ·.1), fun hsome => absurd ?_ hsome⟩
      rw [HybridPolicy.available, hnil, List.filter_nil]
    | pending _ hbusy => exact ⟨(nomatch ·.1), fun hsome => absurd hbusy hsome⟩
    | selected => exact ⟨fun h => of_decide_eq_true h.2, fun hsome => ⟨rfl, decide_eq_true hsome⟩⟩
  case busy =>
    intro hlive hnone
    rw [← available_ne_nil, not_not] at hnone
    have hsome : feasible request nodes ≠ [] := fun hnil => feasible_eq_nil.mp hnil hlive
    cases hdecides with
    | infeasible hnil => exact absurd hnil hsome
    | pending _ _ hrequire =>
      rw [if_pos hrequire]
      exact ⟨rfl, rfl⟩
    | selected _ hany =>
      rw [if_neg (by simp [hany hnone])]
      exact ⟨rfl, decide_eq_false (not_not_intro hnone)⟩
  case selected =>
    intro hstatus
    cases hdecides with
    | infeasible => cases hstatus
    | pending => cases hstatus
    | selected _ _ hne =>
      have hchosen := c.choose_spec hne preferred nodes.length random
      refine ⟨_, rfl, hchosen, (c.pool_sublist request nodes).subset hchosen.mem, ?_⟩
      have hmem := (c.preferNonGpu_sublist request _).subset hchosen.mem
      by_cases hsome : HybridPolicy.available request nodes ≠ []
      · rw [if_pos hsome] at hmem
        have hfeasible := mem_feasible.mp (List.mem_of_mem_filter hmem)
        exact ⟨hfeasible.2.1, hfeasible.2.2, fun _ => (mem_available.mp hmem).2.2⟩
      · rw [if_neg hsome] at hmem
        have hfeasible := mem_feasible.mp hmem
        exact ⟨hfeasible.2.1, hfeasible.2.2, fun hmarked => absurd
          (of_decide_eq_true hmarked) hsome⟩

namespace HybridPolicy.Sample

def policy : HybridPolicy := ⟨1 / 2, 1, 0, true, by norm_num, le_rfl, by norm_num⟩

def request : ResourceVector := .oneCpu

def busy (id : OpaqueValue) : CapacitySnapshot := ⟨⟨id⟩, request, .empty, true, rfl⟩

end HybridPolicy.Sample

/-- The Nodes that wait for capacity are listed as they came. -/
theorem pending_candidates_ordered : ∃ (c : HybridPolicy) (request : ResourceVector)
    (nodes nodes' : List CapacitySnapshot), nodes.Perm nodes' ∧
    (nodes.map CapacitySnapshot.nodeId).Nodup ∧
    (c.schedule request nodes none true 0).candidates ≠
      (c.schedule request nodes' none true 0).candidates := by
  refine ⟨Sample.policy, Sample.request, [Sample.busy 1, Sample.busy 2],
    [Sample.busy 2, Sample.busy 1], .swap _ _ _, by decide, by decide +kernel⟩

end MiniRay
