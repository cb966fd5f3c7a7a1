import MiniRay.Placement.Charging
import MiniRay.Placement.Planner

/-! The planner reads its bundles and Nodes in the order of their ids. Its search is exact: it finds
an assignment whenever there is one. -/

namespace MiniRay

/-- An immutable, possibly stale scheduling view of one Node. -/
structure CapacitySnapshot where
  nodeId : NodeID
  total : ResourceVector
  available : ResourceVector
  alive : Bool := true
  fits : available.fitsIn total = true

/-! ## Vectors that fit -/

theorem ResourceVector.fitsIn_iff {request capacity : ResourceVector} :
    request.fitsIn capacity = true ↔ ∀ name, request.units name ≤ capacity.units name := by
  simp only [fitsIn, List.all_eq_true, decide_eq_true_eq]
  constructor
  · intro h name
    by_cases hname : name ∈ request.items.map Prod.fst
    · obtain ⟨item, hitem, rfl⟩ := List.mem_map.mp hname
      rw [units_of_mem hitem]
      exact h item hitem
    · rw [units_eq_zero hname]
      exact Nat.zero_le _
  · intro h item hitem
    have := h item.1
    rwa [units_of_mem hitem] at this

/-! ## Arrangements -/

section

variable {α : Type*}

theorem nodup_of_mem_arrangements {count : Nat} {xs assignment : List α} (hxs : xs.Nodup)
    (h : assignment ∈ arrangements count xs) : assignment.Nodup := by
  induction count generalizing xs assignment with
  | zero =>
    rw [List.mem_singleton.mp h]
    exact List.nodup_nil
  | succ count ih =>
    obtain ⟨i, _, hmem⟩ := List.mem_flatMap.mp h
    obtain ⟨rest, hrest, rfl⟩ := List.mem_map.mp hmem
    have hothers : (xs.eraseIdx i.val).Nodup := hxs.sublist (List.eraseIdx_sublist ..)
    refine List.nodup_cons.mpr ⟨fun hin => ?_, ih hothers hrest⟩
    have hagain : xs.get i ∈ xs.eraseIdx i.val :=
      (PlacementPlanner.arrangements_spec hrest).2 _ hin
    obtain ⟨j, hj, hne, hget⟩ := List.mem_eraseIdx_iff_getElem.mp hagain
    exact hne ((List.Nodup.getElem_inj_iff hxs).mp hget)

theorem mem_arrangements {xs assignment : List α} (hnodup : assignment.Nodup)
    (hsub : ∀ x ∈ assignment, x ∈ xs) : assignment ∈ arrangements assignment.length xs := by
  induction assignment generalizing xs with
  | nil => exact List.mem_singleton_self _
  | cons x rest ih =>
    obtain ⟨hx, hrest⟩ := List.nodup_cons.mp hnodup
    obtain ⟨i, hi, hget⟩ := List.mem_iff_getElem.mp (hsub x (List.mem_cons_self ..))
    refine List.mem_flatMap.mpr ⟨⟨i, hi⟩, List.mem_finRange _, ?_⟩
    refine List.mem_map.mpr ⟨rest, ?_, by simp [hget]⟩
    refine ih hrest fun y hy => ?_
    obtain ⟨j, hj, hgetj⟩ := List.mem_iff_getElem.mp (hsub y (List.mem_cons_of_mem _ hy))
    refine List.mem_eraseIdx_iff_getElem.mpr ⟨j, hj, fun hij => ?_, hgetj⟩
    subst hij
    exact hx ((hget.symm.trans hgetj) ▸ hy)

end

namespace PlacementPlanner

variable {bundles : List Bundle} {nodes hosts : List (NodeID × NodeCapacity)}
  {capacity : NodeCapacity → ResourceVector} {strategy : PlacementStrategy}

/-! ## What an assignment must satisfy -/

/-- One host for each bundle, under the hard constraint of the strategy. -/
def Satisfies (strategy : PlacementStrategy) (bundles : List Bundle)
    (nodes : List (NodeID × NodeCapacity)) (capacity : NodeCapacity → ResourceVector)
    (hosts : List (NodeID × NodeCapacity)) : Prop :=
  hosts.length = bundles.length ∧ (∀ host ∈ hosts, host ∈ nodes) ∧
    match strategy with
    | .strictPack => ∃ node ∈ nodes, (∀ host ∈ hosts, host = node) ∧
        ∀ name, (bundles.map fun bundle => bundle.resources.units name).sum ≤
          (capacity node.2).units name
    | .strictSpread => (hosts.map Prod.fst).Nodup ∧ ∀ pair ∈ bundles.zip hosts, ∀ name,
        pair.1.resources.units name ≤ (capacity pair.2.2).units name

def placementsOf (bundles : List Bundle) (hosts : List (NodeID × NodeCapacity)) :
    List BundlePlacement :=
  (bundles.zip hosts).map fun pair => ⟨pair.1.index, pair.2.1⟩

theorem placementsOf_replicate (bundles : List Bundle) (node : NodeID × NodeCapacity) :
    placementsOf bundles (List.replicate bundles.length node) =
      bundles.map fun bundle => ⟨bundle.index, node.1⟩ := by
  induction bundles with
  | nil => rfl
  | cons bundle rest ih => simpa [placementsOf, List.replicate_succ] using ih

/-- What is placed satisfies the constraint. -/
theorem place_sound (hnodes : (nodes.map Prod.fst).Nodup) {placements : List BundlePlacement}
    (h : place bundles nodes capacity strategy = some placements) :
    ∃ hosts, Satisfies strategy bundles nodes capacity hosts ∧
      placements = placementsOf bundles hosts := by
  cases strategy with
  | strictPack =>
    obtain ⟨node, hfind, rfl⟩ := Option.map_eq_some_iff.mp h
    have hmem := List.mem_of_find?_eq_some hfind
    have hfound : (sumResources bundles).fitsIn (capacity node.2) = true := by
      simpa using List.find?_some hfind
    have hfits := ResourceVector.fitsIn_iff.mp hfound
    refine ⟨List.replicate bundles.length node, ⟨by simp, ?_, node, hmem, ?_, ?_⟩,
      (placementsOf_replicate bundles node).symm⟩
    · intro host hhost
      rw [List.eq_of_mem_replicate hhost]
      exact hmem
    · exact fun host hhost => List.eq_of_mem_replicate hhost
    · intro name
      rw [← units_sumResources]
      exact hfits name
  | strictSpread =>
    obtain ⟨hosts, hfind, rfl⟩ := Option.map_eq_some_iff.mp h
    have hmem := List.mem_of_find?_eq_some hfind
    obtain ⟨hlength, hall⟩ := arrangements_spec hmem
    have hdistinct : (hosts.map Prod.fst).Nodup := by
      have hhosts := nodup_of_mem_arrangements (List.Nodup.of_map _ hnodes) hmem
      refine List.Nodup.map_on (fun x hx y hy hxy => ?_) hhosts
      exact List.inj_on_of_nodup_map hnodes (hall x hx) (hall y hy) hxy
    refine ⟨hosts, ⟨hlength, hall, hdistinct, ?_⟩, rfl⟩
    have hfits := List.find?_some hfind
    rw [List.all_eq_true] at hfits
    exact fun pair hpair => ResourceVector.fitsIn_iff.mp (hfits pair hpair)

/-- The search misses no assignment. -/
theorem place_complete (hsat : Satisfies strategy bundles nodes capacity hosts) :
    (place bundles nodes capacity strategy).isSome := by
  obtain ⟨hlength, hall, hfits⟩ := hsat
  cases strategy with
  | strictPack =>
    obtain ⟨node, hmem, _, hsum⟩ := hfits
    simp only [place, Option.isSome_map, List.find?_isSome]
    refine ⟨node, hmem, ResourceVector.fitsIn_iff.mpr fun name => ?_⟩
    rw [units_sumResources]
    exact hsum name
  | strictSpread =>
    obtain ⟨hdistinct, hpairs⟩ := hfits
    simp only [place, Option.isSome_map, List.find?_isSome, List.all_eq_true]
    refine ⟨hosts, ?_, fun pair hpair => ResourceVector.fitsIn_iff.mpr (hpairs pair hpair)⟩
    rw [← hlength]
    exact mem_arrangements (List.Nodup.of_map _ hdistinct) hall

theorem place_isSome_iff (hnodes : (nodes.map Prod.fst).Nodup) :
    (place bundles nodes capacity strategy).isSome = true ↔
      ∃ hosts, Satisfies strategy bundles nodes capacity hosts := by
  constructor
  · intro h
    obtain ⟨placements, hplace⟩ := Option.isSome_iff_exists.mp h
    obtain ⟨hosts, hsat, _⟩ := place_sound hnodes hplace
    exact ⟨hosts, hsat⟩
  · intro h
    obtain ⟨hosts, hsat⟩ := h
    exact place_complete hsat

/-! ## The whole request -/

variable {items : List BundleItem}

theorem normalizeBundles_sorted (h : normalizeBundles items = .ok bundles) :
    (1 ≤ bundles.length ∧ bundles.length ≤ 2) ∧ (bundles.map Bundle.index).Pairwise (· < ·) := by
  simp only [normalizeBundles] at h
  by_cases hlength : 1 ≤ items.length ∧ items.length ≤ 2
  · rw [if_neg (not_not.mpr hlength)] at h
    by_cases hnodup : ((items.mapIdx BundleItem.normalize).map Bundle.index).Nodup
    · rw [if_neg (not_not.mpr hnodup), Except.ok.injEq] at h
      subst h
      refine ⟨by simpa using hlength, ?_⟩
      have hperm := List.perm_insertionSort (fun a b : Bundle => a.index ≤ b.index)
        (items.mapIdx BundleItem.normalize)
      have hindexes := (hperm.map Bundle.index).nodup_iff.mpr hnodup
      have hle : (((items.mapIdx BundleItem.normalize).insertionSort
          fun a b => a.index ≤ b.index).map Bundle.index).Pairwise (· ≤ ·) := by
        have : Std.Total fun a b : Bundle => a.index ≤ b.index := ⟨fun a b => le_total ..⟩
        have : IsTrans Bundle fun a b => a.index ≤ b.index := ⟨fun _ _ _ h h' => le_trans h h'⟩
        exact List.pairwise_map.mpr (List.pairwise_insertionSort _ _)
      exact (hle.and hindexes).imp fun hab => lt_of_le_of_ne hab.1 hab.2
    · rw [if_pos hnodup] at h
      cases h
  · rw [if_pos hlength] at h
    cases h

def live (nodes : List CapacitySnapshot) : List (NodeID × NodeCapacity) :=
  (nodes.filter (·.alive)).map fun node => (node.nodeId, ⟨node.total, node.available⟩)

theorem nodup_live {nodes : List CapacitySnapshot} (h : (nodes.map (·.nodeId)).Nodup) :
    ((live nodes).map Prod.fst).Nodup := by
  have hsub : ((nodes.filter (·.alive)).map (·.nodeId)).Sublist (nodes.map (·.nodeId)) :=
    List.filter_sublist.map _
  have hids : (live nodes).map Prod.fst = (nodes.filter (·.alive)).map (·.nodeId) := by
    simp [live, Function.comp_def]
  rw [hids]
  exact h.sublist hsub

/-- `PlacementPlanner.plan` for whatever a caller may pass. -/
def planRequest (items : List BundleItem) (nodes : List CapacitySnapshot)
    (strategy : PlacementStrategy) : Except ReservationError PlacementPlan :=
  match h : normalizeBundles items with
  | .error e => .error e
  | .ok bundles =>
    if hids : (nodes.map (·.nodeId)).Nodup then
      .ok (plan ⟨bundles, (normalizeBundles_sorted h).1, (normalizeBundles_sorted h).2⟩
        ⟨live nodes, nodup_live hids⟩ strategy)
    else .error (.valueError "placement node IDs must be unique")

/-! ## Outcomes -/

/-- What a plan says about the request and the live Nodes. -/
structure Exact (bundles : List Bundle) (nodes : List (NodeID × NodeCapacity))
    (strategy : PlacementStrategy) (plan : PlacementPlan) : Prop where
  success : plan.status = .success ↔
    ∃ hosts, Satisfies strategy bundles nodes NodeCapacity.available hosts
  placed : plan.status = .success → ∃ hosts,
    Satisfies strategy bundles nodes NodeCapacity.available hosts ∧
      plan.placements = placementsOf bundles hosts
  covered : plan.status = .success →
    plan.placements.map BundlePlacement.bundleIndex = bundles.map Bundle.index ∧
      (bundles.map Bundle.index).Nodup
  pending : plan.status = .pending ↔
    (¬ ∃ hosts, Satisfies strategy bundles nodes NodeCapacity.available hosts) ∧
      ∃ hosts, Satisfies strategy bundles nodes NodeCapacity.total hosts
  infeasible : plan.status = .infeasible ↔
    (¬ ∃ hosts, Satisfies strategy bundles nodes NodeCapacity.available hosts) ∧
      ¬ ∃ hosts, Satisfies strategy bundles nodes NodeCapacity.total hosts

theorem not_satisfies_nil (h : 1 ≤ bundles.length) :
    ¬ ∃ hosts, Satisfies strategy bundles [] capacity hosts := by
  intro hsome
  obtain ⟨hosts, hlength, hall, _⟩ := hsome
  cases hosts with
  | nil =>
    rw [← hlength] at h
    simp at h
  | cons host rest => exact absurd (hall host (List.mem_cons_self ..)) List.not_mem_nil

theorem satisfies_congr {nodes' : List (NodeID × NodeCapacity)}
    (h : ∀ node, node ∈ nodes ↔ node ∈ nodes') :
    Satisfies strategy bundles nodes capacity hosts ↔
      Satisfies strategy bundles nodes' capacity hosts := by
  cases strategy with
  | strictPack => simp only [Satisfies, h]
  | strictSpread => simp only [Satisfies, h]

theorem plan_exact (group : GroupBundles) (nodes : SchedulingSnapshot)
    (strategy : PlacementStrategy) :
    Exact group.bundles nodes.items strategy (plan group nodes strategy) := by
  have hnodes : ((alive nodes).map Prod.fst).Nodup := by
    have hperm : (alive nodes).Perm nodes.items := List.perm_insertionSort _ _
    exact (hperm.map Prod.fst).nodup_iff.mpr nodes.nodup
  have hsearch : ∀ capacity, (place group.bundles (alive nodes) capacity strategy).isSome = true ↔
      ∃ hosts, Satisfies strategy group.bundles nodes.items capacity hosts := by
    intro capacity
    rw [place_isSome_iff hnodes]
    exact exists_congr fun hosts => satisfies_congr fun node => mem_alive
  have hindexes : (group.bundles.map Bundle.index).Nodup := group.sorted.imp ne_of_lt
  have hcovered : (plan group nodes strategy).status = .success → _ := plan_spec
  by_cases hempty : nodes.items.isEmpty = true
  · have hplan : plan group nodes strategy =
        { status := .infeasible, reason := "there are no live nodes" } := by
      simp [plan, hempty]
    have hnil : nodes.items = [] := List.isEmpty_iff.mp hempty
    have hnone : ∀ capacity, ¬ ∃ hosts, Satisfies strategy group.bundles [] capacity hosts :=
      fun _ => not_satisfies_nil group.bounded.1
    rw [hplan, hnil]
    exact {
      success := by simp [hnone]
      placed := nofun
      covered := nofun
      pending := by simp [hnone]
      infeasible := by simp [hnone] }
  · have havailable := hsearch NodeCapacity.available
    have htotal := hsearch NodeCapacity.total
    cases hplace : place group.bundles (alive nodes) NodeCapacity.available strategy with
    | some placements =>
      have hplan : plan group nodes strategy =
          { status := .success, placements := placements } := by
        simp [plan, hempty, hplace]
      rw [hplace] at havailable
      have hsome := havailable.mp rfl
      obtain ⟨hosts, hsat, hplaced⟩ := place_sound hnodes hplace
      have hsat' : Satisfies strategy group.bundles nodes.items NodeCapacity.available hosts :=
        (satisfies_congr fun node => mem_alive).mp hsat
      rw [hplan] at hcovered ⊢
      exact {
        success := by simp [hsome]
        placed := fun _ => ⟨hosts, hsat', hplaced⟩
        covered := fun h => ⟨(hcovered h).1, hindexes⟩
        pending := by simp [hsome]
        infeasible := by simp [hsome] }
    | none =>
      rw [hplace] at havailable
      have hnone : ¬ ∃ hosts, Satisfies strategy group.bundles nodes.items
          NodeCapacity.available hosts := fun h => by simpa using havailable.mpr h
      by_cases hfits : (place group.bundles (alive nodes) NodeCapacity.total strategy).isSome
      · have hplan : (plan group nodes strategy).status = .pending := by
          simp [plan, hempty, hplace, hfits]
        have hsome := htotal.mp hfits
        exact {
          success := by simp [hplan, hnone]
          placed := fun h => by simp [hplan] at h
          covered := fun h => by simp [hplan] at h
          pending := by simp [hplan, hnone, hsome]
          infeasible := by simp [hplan, hsome] }
      · have hplan : (plan group nodes strategy).status = .infeasible := by
          simp [plan, hempty, hplace, hfits]
        have hnever : ¬ ∃ hosts, Satisfies strategy group.bundles nodes.items
            NodeCapacity.total hosts := fun h => hfits (htotal.mpr h)
        exact {
          success := by simp [hplan, hnone]
          placed := fun h => by simp [hplan] at h
          covered := fun h => by simp [hplan] at h
          pending := by simp [hplan, hnever]
          infeasible := by simp [hplan, hnone, hnever] }

/-! ## Orders -/

theorem planRequest_error {nodes : List CapacitySnapshot} {e : ReservationError}
    (h : normalizeBundles items = .error e) : planRequest items nodes strategy = .error e := by
  unfold planRequest
  split
  · rename_i e' he
    rw [h, Except.error.injEq] at he
    rw [he]
  · rename_i bundles hok
    rw [h] at hok
    cases hok

theorem planRequest_ok {nodes : List CapacitySnapshot} (h : normalizeBundles items = .ok bundles) :
    planRequest items nodes strategy =
      if hids : (nodes.map (·.nodeId)).Nodup then
        .ok (plan ⟨bundles, (normalizeBundles_sorted h).1, (normalizeBundles_sorted h).2⟩
          ⟨live nodes, nodup_live hids⟩ strategy)
      else .error (.valueError "placement node IDs must be unique") := by
  unfold planRequest
  split
  · rename_i e' he
    rw [h] at he
    cases he
  · rename_i bundles' hok
    have hsame : bundles = bundles' := Except.ok.inj (h.symm.trans hok)
    subst hsame
    rfl

theorem alive_congr {nodes nodes' : SchedulingSnapshot} (h : nodes.items.Perm nodes'.items) :
    alive nodes = alive nodes' := by
  have hperm : ∀ snapshot : SchedulingSnapshot, (alive snapshot).Perm snapshot.items :=
    fun snapshot => List.perm_insertionSort _ _
  have hsorted : ∀ snapshot : SchedulingSnapshot,
      (alive snapshot).Pairwise fun a b => a.1 ≤ b.1 := by
    intro snapshot
    have : Std.Total fun a b : NodeID × NodeCapacity => a.1 ≤ b.1 := ⟨fun a b => le_total ..⟩
    have : IsTrans (NodeID × NodeCapacity) fun a b => a.1 ≤ b.1 :=
      ⟨fun _ _ _ h h' => le_trans h h'⟩
    exact List.pairwise_insertionSort _ _
  refine List.Perm.eq_of_pairwise (fun a b ha hb hab hba => ?_) (hsorted nodes) (hsorted nodes')
    ((hperm nodes).trans (h.trans (hperm nodes').symm))
  have hid : a.1 = b.1 := le_antisymm hab hba
  have ha' : a ∈ nodes.items := (hperm nodes).mem_iff.mp ha
  have hb' : b ∈ nodes.items := h.mem_iff.mpr ((hperm nodes').mem_iff.mp hb)
  exact List.inj_on_of_nodup_map nodes.nodup ha' hb' hid

theorem plan_congr (group : GroupBundles) {nodes nodes' : SchedulingSnapshot}
    (h : nodes.items.Perm nodes'.items) :
    plan group nodes strategy = plan group nodes' strategy := by
  have hempty : nodes.items.isEmpty = nodes'.items.isEmpty := by
    rw [Bool.eq_iff_iff, List.isEmpty_iff, List.isEmpty_iff]
    exact ⟨fun hn => (hn ▸ h).nil_eq.symm, fun hn => (hn ▸ h).eq_nil⟩
  simp only [plan, hempty, alive_congr h]

theorem planRequest_nodes (items : List BundleItem) {nodes nodes' : List CapacitySnapshot}
    (h : nodes.Perm nodes') :
    planRequest items nodes strategy = planRequest items nodes' strategy := by
  cases hnormal : normalizeBundles items with
  | error e => rw [planRequest_error hnormal, planRequest_error hnormal]
  | ok bundles =>
    rw [planRequest_ok hnormal, planRequest_ok hnormal]
    by_cases hids : (nodes.map (·.nodeId)).Nodup
    · have hids' : (nodes'.map (·.nodeId)).Nodup := (h.map _).nodup_iff.mp hids
      rw [dif_pos hids, dif_pos hids']
      have hlive : (live nodes).Perm (live nodes') := (h.filter _).map _
      exact congrArg Except.ok (plan_congr _ hlive)
    · have hids' : ¬ (nodes'.map (·.nodeId)).Nodup := fun h' => hids ((h.map _).nodup_iff.mpr h')
      rw [dif_neg hids, dif_neg hids']

theorem normalizeBundles_congr {bundles' : List Bundle} (h : bundles.Perm bundles') :
    normalizeBundles (bundles.map .bundle) = normalizeBundles (bundles'.map .bundle) := by
  have hplain : ∀ list : List Bundle,
      (list.map BundleItem.bundle).mapIdx BundleItem.normalize = list := by
    intro list
    refine List.ext_getElem (by simp) fun i hi hi' => ?_
    simp [BundleItem.normalize]
  have hunique : (bundles.map Bundle.index).Nodup ↔ (bundles'.map Bundle.index).Nodup :=
    (h.map _).nodup_iff
  simp only [normalizeBundles, hplain, List.length_map, h.length_eq, hunique]
  by_cases hlength : 1 ≤ bundles'.length ∧ bundles'.length ≤ 2
  · rw [if_neg (not_not.mpr hlength), if_neg (not_not.mpr hlength)]
    by_cases hnodup : (bundles'.map Bundle.index).Nodup
    · rw [if_neg (not_not.mpr hnodup), if_neg (not_not.mpr hnodup)]
      have : Std.Total fun a b : Bundle => a.index ≤ b.index := ⟨fun a b => le_total ..⟩
      have : IsTrans Bundle fun a b => a.index ≤ b.index := ⟨fun _ _ _ h h' => le_trans h h'⟩
      have hperm : ∀ list : List Bundle,
          (list.insertionSort fun a b => a.index ≤ b.index).Perm list :=
        fun list => List.perm_insertionSort _ _
      refine congrArg Except.ok (List.Perm.eq_of_pairwise (fun a b ha hb hab hba => ?_)
        (List.pairwise_insertionSort _ _) (List.pairwise_insertionSort _ _)
        ((hperm bundles).trans (h.trans (hperm bundles').symm)))
      have ha' : a ∈ bundles' := h.mem_iff.mp ((hperm bundles).mem_iff.mp ha)
      have hb' : b ∈ bundles' := (hperm bundles').mem_iff.mp hb
      exact List.inj_on_of_nodup_map hnodup ha' hb' (le_antisymm hab hba)
    · rw [if_pos hnodup, if_pos hnodup]
  · rw [if_pos hlength, if_pos hlength]

theorem planRequest_bundles {bundles' : List Bundle} (nodes : List CapacitySnapshot)
    (h : bundles.Perm bundles') : planRequest (bundles.map .bundle) nodes strategy =
      planRequest (bundles'.map .bundle) nodes strategy := by
  have hsame := normalizeBundles_congr h
  cases hnormal : normalizeBundles (bundles'.map .bundle) with
  | error e => rw [planRequest_error (hsame.trans hnormal), planRequest_error hnormal]
  | ok group => rw [planRequest_ok (hsame.trans hnormal), planRequest_ok hnormal]

/-- What the planner promises for every request. -/
structure PlannerSpec : Prop where
  /-- A plan is exact for the bundles in the order of their indexes. -/
  exact : ∀ items nodes strategy result, planRequest items nodes strategy = .ok result →
    ∃ bundles, normalizeBundles items = .ok bundles ∧ Exact bundles (live nodes) strategy result
  /-- One or two bundles with unique indexes, on Nodes with unique ids, are planned. -/
  accepted : ∀ items nodes strategy, 1 ≤ items.length → items.length ≤ 2 →
    ((items.mapIdx BundleItem.normalize).map Bundle.index).Nodup →
    (nodes.map CapacitySnapshot.nodeId).Nodup →
    ∃ result, planRequest items nodes strategy = .ok result
  nodeOrder : ∀ items nodes nodes' strategy, nodes.Perm nodes' →
    planRequest items nodes strategy = planRequest items nodes' strategy
  /-- A bare vector takes its index from its position, a bundle brings its own. -/
  bundleOrder : ∀ (bundles bundles' : List Bundle) nodes strategy, bundles.Perm bundles' →
    planRequest (bundles.map .bundle) nodes strategy =
      planRequest (bundles'.map .bundle) nodes strategy

theorem planner_exact : PlannerSpec where
  exact := by
    intro items nodes strategy result h
    cases hnormal : normalizeBundles items with
    | error e =>
      rw [planRequest_error hnormal] at h
      cases h
    | ok bundles =>
      rw [planRequest_ok hnormal] at h
      by_cases hids : (nodes.map (·.nodeId)).Nodup
      · rw [dif_pos hids, Except.ok.injEq] at h
        subst h
        have hexact := plan_exact ⟨bundles, (normalizeBundles_sorted hnormal).1,
          (normalizeBundles_sorted hnormal).2⟩ ⟨live nodes, nodup_live hids⟩ strategy
        exact ⟨bundles, rfl, hexact⟩
      · rw [dif_neg hids] at h
        cases h
  accepted := by
    intro items nodes strategy hlow hhigh hindexes hids
    have hnormal : ∃ bundles, normalizeBundles items = .ok bundles := by
      simp only [normalizeBundles]
      rw [if_neg (not_not.mpr ⟨hlow, hhigh⟩), if_neg (not_not.mpr hindexes)]
      exact ⟨_, rfl⟩
    obtain ⟨bundles, hnormal⟩ := hnormal
    rw [planRequest_ok hnormal, dif_pos hids]
    exact ⟨_, rfl⟩
  nodeOrder := fun items _ _ _ h => planRequest_nodes items h
  bundleOrder := fun _ _ nodes _ h => planRequest_bundles nodes h

/-! ## Bare vectors -/

/-- Two bare vectors in the other order are two other bundles. -/
theorem bare_vectors_keep_order : ¬ ∀ items items' nodes strategy, items.Perm items' →
    planRequest items nodes strategy = planRequest items' nodes strategy := by
  intro h
  let one : ResourceVector := ⟨[("CPU", 1000)], by simp, by decide⟩
  let four : ResourceVector := ⟨[("CPU", 4000)], by simp, by decide⟩
  let nodes : List CapacitySnapshot :=
    [⟨⟨1⟩, one, one, true, by decide⟩, ⟨⟨2⟩, four, four, true, by decide⟩]
  have hsame := h [.resources one, .resources four] [.resources four, .resources one] nodes
    .strictSpread (List.Perm.swap ..)
  revert hsame
  decide +kernel

end PlacementPlanner

end MiniRay
