import MiniRay.Placement.Reservation

/-! Exact shadow planning for one or two bundles over a snapshot of the live Nodes. -/

namespace MiniRay

inductive PlacementStrategy
  | strictPack
  | strictSpread

inductive PlacementStatus
  | success
  | pending
  | infeasible
  deriving DecidableEq

structure BundlePlacement where
  bundleIndex : Nat
  nodeId : NodeID
  deriving DecidableEq

structure PlacementPlan where
  status : PlacementStatus
  placements : List BundlePlacement := []
  reason : String := ""
  deriving DecidableEq

/-- The capacity of a live Node, as the registry last heard of it. -/
structure NodeCapacity where
  total : ResourceVector
  available : ResourceVector

/-- The live Nodes that the scheduler sees. -/
abbrev SchedulingSnapshot := Dict NodeID NodeCapacity

/-- The bundles of a group: one or two, under increasing indexes. -/
structure GroupBundles where
  bundles : List Bundle
  bounded : 1 ≤ bundles.length ∧ bundles.length ≤ 2
  sorted : (bundles.map Bundle.index).Pairwise (· < ·)

def PlacementStrategy.value : PlacementStrategy → String
  | .strictPack => "STRICT_PACK"
  | .strictSpread => "STRICT_SPREAD"

/-- The arrangements of `count` different entries, in the order of their positions. -/
def arrangements {α : Type*} : Nat → List α → List (List α)
  | 0, _ => [[]]
  | count + 1, xs => (List.finRange xs.length).flatMap fun (i : Fin xs.length) =>
    (arrangements count (xs.eraseIdx i.val)).map (xs.get i :: ·)

namespace PlacementPlanner

/-- The Nodes in the order of their ids, which is the order of their texts. -/
def alive (nodes : SchedulingSnapshot) : List (NodeID × NodeCapacity) :=
  nodes.items.insertionSort fun a b => a.1 ≤ b.1

/-- The first assignment that fits, one Node for each bundle. -/
def place (bundles : List Bundle) (nodes : List (NodeID × NodeCapacity))
    (capacity : NodeCapacity → ResourceVector) (strategy : PlacementStrategy) :
    Option (List BundlePlacement) :=
  match strategy with
  | .strictPack =>
    let requested := sumResources bundles
    (nodes.find? fun node => requested.fitsIn (capacity node.2)).map fun node =>
      bundles.map fun bundle => ⟨bundle.index, node.1⟩
  | .strictSpread =>
    ((arrangements bundles.length nodes).find? fun assignment =>
      (bundles.zip assignment).all fun pair =>
        pair.1.resources.fitsIn (capacity pair.2.2)).map fun assignment =>
      (bundles.zip assignment).map fun pair => ⟨pair.1.index, pair.2.1⟩

def plan (group : GroupBundles) (nodes : SchedulingSnapshot) (strategy : PlacementStrategy) :
    PlacementPlan :=
  if nodes.items.isEmpty then { status := .infeasible, reason := "there are no live nodes" }
  else match place group.bundles (alive nodes) NodeCapacity.available strategy with
    | some placements => { status := .success, placements := placements }
    | none =>
      if (place group.bundles (alive nodes) NodeCapacity.total strategy).isSome then
        { status := .pending, reason :=
            "the group is feasible in total capacity but not currently available" }
      else { status := .infeasible, reason :=
        "no " ++ strategy.value ++ " placement exists in total capacity" }

/-! ## What a plan places -/

variable {nodes : SchedulingSnapshot}

theorem mem_alive {node : NodeID × NodeCapacity} : node ∈ alive nodes ↔ node ∈ nodes.items :=
  (List.perm_insertionSort _ _).mem_iff

theorem arrangements_spec {α : Type*} {count : Nat} {xs assignment : List α}
    (h : assignment ∈ arrangements count xs) :
    assignment.length = count ∧ ∀ x ∈ assignment, x ∈ xs := by
  induction count generalizing xs assignment with
  | zero =>
    cases List.mem_singleton.mp h
    exact ⟨rfl, nofun⟩
  | succ count ih =>
    obtain ⟨i, _, hmem⟩ := List.mem_flatMap.mp h
    obtain ⟨rest, hrest, rfl⟩ := List.mem_map.mp hmem
    obtain ⟨hlength, hall⟩ := ih hrest
    refine ⟨by simp [hlength], ?_⟩
    intro x hx
    rcases List.mem_cons.mp hx with rfl | hx
    · exact List.get_mem xs i
    · exact List.mem_of_mem_eraseIdx (hall x hx)

variable {strategy : PlacementStrategy}

theorem place_spec {bundles : List Bundle} {nodes : List (NodeID × NodeCapacity)}
    {capacity : NodeCapacity → ResourceVector} {placements : List BundlePlacement}
    (h : place bundles nodes capacity strategy = some placements) :
    placements.map BundlePlacement.bundleIndex = bundles.map Bundle.index ∧
      ∀ p ∈ placements, ∃ node ∈ nodes, p.nodeId = node.1 := by
  cases strategy with
  | strictPack =>
    obtain ⟨node, hfind, rfl⟩ := Option.map_eq_some_iff.mp h
    have hmem := List.mem_of_find?_eq_some hfind
    refine ⟨by simp [Function.comp_def], ?_⟩
    intro p hp
    obtain ⟨bundle, _, rfl⟩ := List.mem_map.mp hp
    exact ⟨node, hmem, rfl⟩
  | strictSpread =>
    obtain ⟨assignment, hfind, rfl⟩ := Option.map_eq_some_iff.mp h
    obtain ⟨hlength, hall⟩ := arrangements_spec (List.mem_of_find?_eq_some hfind)
    refine ⟨?_, ?_⟩
    · rw [List.map_map]
      have hfirst : (bundles.zip assignment).map Prod.fst = bundles :=
        List.map_fst_zip (by omega)
      calc (bundles.zip assignment).map (BundlePlacement.bundleIndex ∘ fun pair =>
            ⟨pair.1.index, pair.2.1⟩)
          = ((bundles.zip assignment).map Prod.fst).map Bundle.index := by
            rw [List.map_map]
            rfl
        _ = bundles.map Bundle.index := by rw [hfirst]
    · intro p hp
      obtain ⟨pair, hpair, rfl⟩ := List.mem_map.mp hp
      exact ⟨pair.2, hall _ (List.of_mem_zip hpair).2, rfl⟩

theorem plan_spec {group : GroupBundles} (h : (plan group nodes strategy).status = .success) :
    (plan group nodes strategy).placements.map BundlePlacement.bundleIndex =
        group.bundles.map Bundle.index ∧
      ∀ p ∈ (plan group nodes strategy).placements, (nodes.get? p.nodeId).isSome := by
  unfold plan at h ⊢
  split at h
  · cases h
  · split at h
    · rename_i placements hplace
      rw [if_neg (by assumption)]
      obtain ⟨hindexes, hnodes⟩ := place_spec hplace
      refine ⟨hindexes, ?_⟩
      intro p hp
      obtain ⟨node, hmem, hid⟩ := hnodes p hp
      have hitem : nodes.get? p.nodeId = some node.2 := by
        rw [hid]
        exact Dict.get?_eq_some_iff.mpr (mem_alive.mp hmem)
      rw [hitem]
      rfl
    · split at h <;> cases h

end PlacementPlanner

end MiniRay
