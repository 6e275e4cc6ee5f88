import ScopeWalk.Crates.Graph

/-!
# Adding to a graph of crates

A graph of crates only grows. A crate that is added gets the next number, and a dependency is taken
in only if both of its crates are there. So each crate stands at the place of its number, all
dependencies are on crates of the graph, and all names are in the form used in code.
-/
namespace ScopeWalk

/-- Names in the form used in code have no hyphens. -/
theorem Name.hyphen_not_mem_hyphensReplaced (name : Name) :
    '-' ∉ name.hyphensReplaced.chars := by
  rw [hyphensReplaced, chars_ofChars]
  intro hmem
  obtain ⟨c, -, hc⟩ := List.mem_map.mp hmem
  by_cases hhyphen : c = '-'
  · rw [if_pos hhyphen] at hc
    cases hc
  · rw [if_neg hhyphen] at hc
    exact hhyphen hc

theorem CrateId.index_inj {id other : CrateId} : id.index = other.index ↔ id = other := by
  cases id
  cases other
  simp

namespace CrateGraph

variable {graph : CrateGraph} {id other : CrateId} {node : CrateNode}

theorem node?_eq_none_iff : graph.node? id = none ↔ graph.size ≤ id.index :=
  List.getElem?_eq_none_iff

theorem index_lt_of_node? (h : graph.node? id = some node) : id.index < graph.size :=
  (List.getElem?_eq_some_iff.mp h).1

theorem isSome_crate?_iff : (graph.crate? id).isSome ↔ id.index < graph.size := by
  have hnode := @node?_eq_none_iff graph id
  cases h : graph.node? id with
  | none =>
    rw [h] at hnode
    simp only [crate?, h, Option.map_none, Option.isSome_none, Bool.false_eq_true, false_iff]
    have := hnode.mp rfl
    omega
  | some node =>
    simp only [crate?, h, Option.map_some, Option.isSome_some, true_iff]
    exact index_lt_of_node? h

theorem dependencies_of_node? (h : graph.node? id = some node) :
    graph.dependencies id = node.dependencies := by
  rw [dependencies, h, Option.map_some, Option.getD_some]

theorem node?_of_mem_dependencies {dependency : Dependency}
    (h : dependency ∈ graph.dependencies id) :
    ∃ node, graph.node? id = some node ∧ dependency ∈ node.dependencies := by
  cases hnode : graph.node? id with
  | none => simp [dependencies, hnode] at h
  | some node =>
    rw [dependencies_of_node? hnode] at h
    exact ⟨node, rfl, h⟩

/-! ### A crate -/

section AddCrate

variable (graph : CrateGraph) (name : Name) (origin : Origin) (settings : Cfg.Settings)

/-- The crate that is added, with its root not read. -/
def newNode : CrateNode :=
  let crate : Crate := ⟨graph.nextId, name.hyphensReplaced, origin, settings⟩
  ⟨crate, [], .pending crate⟩

theorem size_addCrate : (graph.addCrate name origin settings).size = graph.size + 1 := by
  simp [size, addCrate]

theorem node?_addCrate_new :
    (graph.addCrate name origin settings).node? graph.nextId =
      some (graph.newNode name origin settings) := by
  simp [node?, addCrate, nextId, size, newNode]

theorem node?_addCrate_of_ne (h : other ≠ graph.nextId) :
    (graph.addCrate name origin settings).node? other = graph.node? other := by
  have hindex : other.index ≠ graph.nodes.length := by
    intro heq
    apply h
    exact CrateId.index_inj.mp heq
  rw [node?, node?, addCrate, List.getElem?_append]
  by_cases hlt : other.index < graph.nodes.length
  · rw [if_pos hlt]
  · rw [if_neg hlt, List.getElem?_eq_none (by simp only [List.length_singleton]; omega),
      List.getElem?_eq_none (by omega)]

/-- A crate that was there before is where it was. -/
theorem node?_addCrate_of_some (h : graph.node? id = some node) :
    (graph.addCrate name origin settings).node? id = some node := by
  have hlt := index_lt_of_node? h
  have hne : id ≠ graph.nextId := by
    rintro rfl
    exact Nat.lt_irrefl _ hlt
  rw [node?_addCrate_of_ne graph name origin settings hne, h]

end AddCrate

/-! ### A dependency -/

section AddDependency

variable (graph : CrateGraph) (dependent : CrateId) (name : Name) (target : CrateId)

/-- A dependency of or on a crate that is not there is not taken in. -/
theorem addDependency_unknown (h : graph.node? dependent = none ∨ graph.node? target = none) :
    graph.addDependency dependent name target = graph := by
  unfold addDependency
  by_cases htarget : target.index < graph.size
  · have hdependent : graph.node? dependent = none := by
      rcases h with h | h
      · exact h
      · have := node?_eq_none_iff.mp h
        omega
    rw [if_pos htarget, List.modify_eq_self (node?_eq_none_iff.mp hdependent)]
  · rw [if_neg htarget]

theorem size_addDependency : (graph.addDependency dependent name target).size = graph.size := by
  unfold addDependency
  split
  · exact List.length_modify ..
  · rfl

theorem node?_addDependency (h : target.index < graph.size) :
    (graph.addDependency dependent name target).node? other =
      (graph.node? other).map fun node =>
        if other = dependent then
          { node with dependencies := node.dependencies ++ [⟨name.hyphensReplaced, target⟩] }
        else node := by
  rw [addDependency, if_pos h, node?, node?, List.getElem?_modify, Option.map_eq_map]
  refine congrArg (Option.map · _) (funext fun node => ?_)
  by_cases hother : other = dependent
  · rw [if_pos hother, if_pos (congrArg CrateId.index hother.symm)]
  · rw [if_neg hother, if_neg fun heq => hother (CrateId.index_inj.mp heq.symm)]

theorem node?_addDependency_of_ne (h : other ≠ dependent) :
    (graph.addDependency dependent name target).node? other = graph.node? other := by
  by_cases htarget : target.index < graph.size
  · simp [node?_addDependency graph dependent name target htarget, h]
  · rw [addDependency_unknown _ _ _ _ (.inr (node?_eq_none_iff.mpr (by omega)))]

/-- What is said of a crate without regard to its dependencies stays as it is. -/
theorem map_node?_addDependency {f : CrateNode → α}
    (hf : ∀ node dependencies, f { node with dependencies := dependencies } = f node) :
    ((graph.addDependency dependent name target).node? other).map f =
      (graph.node? other).map f := by
  by_cases htarget : target.index < graph.size
  · rw [node?_addDependency graph dependent name target htarget, Option.map_map]
    refine congrArg (Option.map · _) (funext fun node => ?_)
    rw [Function.comp_apply]
    split
    · exact hf node _
    · rfl
  · rw [addDependency_unknown _ _ _ _ (.inr (node?_eq_none_iff.mpr (by omega)))]

theorem crate?_addDependency :
    (graph.addDependency dependent name target).crate? other = graph.crate? other :=
  graph.map_node?_addDependency dependent name target fun _ _ => rfl

theorem loader_addDependency :
    (graph.addDependency dependent name target).loader = graph.loader := by
  unfold addDependency
  split <;> rfl

/-- The dependencies that were there before stay in front. -/
theorem dependencies_addDependency_prefix :
    graph.dependencies other <+: (graph.addDependency dependent name target).dependencies other := by
  by_cases htarget : target.index < graph.size
  · rw [dependencies, dependencies, node?_addDependency graph dependent name target htarget]
    cases graph.node? other with
    | none => exact List.prefix_refl []
    | some node =>
      rw [Option.map_some, Option.map_some, Option.map_some, Option.getD_some, Option.getD_some]
      split
      · exact List.prefix_append ..
      · exact List.prefix_refl _
  · have hunknown : graph.node? target = none := node?_eq_none_iff.mpr (by omega)
    simp only [addDependency_unknown _ _ _ _ (.inr hunknown), List.prefix_refl]

end AddDependency

end CrateGraph

/-! ### What all graphs have in common -/

/-- The node is as it should be at the place `id` of a graph with `size` crates. -/
structure CrateNode.InPlace (node : CrateNode) (id : CrateId) (size : Nat) : Prop where
  number : node.crate.id = id
  hyphenless : '-' ∉ node.crate.name.chars
  /-- A dependency is on a crate of the graph. -/
  target_lt : ∀ dependency ∈ node.dependencies, dependency.crate.index < size
  dependencies_hyphenless : ∀ dependency ∈ node.dependencies, '-' ∉ dependency.name.chars

theorem CrateNode.InPlace.mono {node : CrateNode} {id : CrateId} {size larger : Nat}
    (h : node.InPlace id size) (hle : size ≤ larger) : node.InPlace id larger where
  number := h.number
  hyphenless := h.hyphenless
  target_lt dependency hdependency := Nat.lt_of_lt_of_le (h.target_lt dependency hdependency) hle
  dependencies_hyphenless := h.dependencies_hyphenless

namespace CrateGraph

/-- All nodes are as they should be. -/
structure Regular (graph : CrateGraph) : Prop where
  inPlace : ∀ {id : CrateId} {node : CrateNode}, graph.node? id = some node →
    node.InPlace id graph.size

theorem regular_empty (loader : Loader) : (empty loader).Regular where
  inPlace h := by simp [empty, node?] at h

section Regular

variable {graph : CrateGraph} (regular : graph.Regular)
include regular

theorem Regular.addCrate (name : Name) (origin : Origin) (settings : Cfg.Settings) :
    (graph.addCrate name origin settings).Regular := by
  refine ⟨fun {id node} h => ?_⟩
  rw [size_addCrate]
  by_cases hid : id = graph.nextId
  · subst hid
    rw [node?_addCrate_new] at h
    cases h
    exact ⟨rfl, name.hyphen_not_mem_hyphensReplaced, by simp [newNode], by simp [newNode]⟩
  · rw [node?_addCrate_of_ne graph name origin settings hid] at h
    exact (regular.inPlace h).mono (Nat.le_succ _)

theorem Regular.addDependency (dependent : CrateId) (name : Name) (target : CrateId) :
    (graph.addDependency dependent name target).Regular := by
  refine ⟨fun {id node} h => ?_⟩
  rw [size_addDependency]
  by_cases htarget : target.index < graph.size
  · rw [node?_addDependency graph dependent name target htarget] at h
    obtain ⟨old, hold, rfl⟩ := Option.map_eq_some_iff.mp h
    have hplace := regular.inPlace hold
    by_cases hid : id = dependent
    · rw [if_pos hid]
      refine ⟨hplace.number, hplace.hyphenless, ?_, ?_⟩
      · exact List.forall_mem_append.mpr
          ⟨hplace.target_lt, List.forall_mem_singleton.mpr htarget⟩
      · exact List.forall_mem_append.mpr ⟨hplace.dependencies_hyphenless,
          List.forall_mem_singleton.mpr name.hyphen_not_mem_hyphensReplaced⟩
    · rwa [if_neg hid]
  · have hunknown : graph.node? target = none := node?_eq_none_iff.mpr (by omega)
    rw [addDependency_unknown graph dependent name target (.inr hunknown)] at h
    exact regular.inPlace h

/-- The numbers of the crates are the places at which they stand. -/
theorem Regular.numbers_eq :
    graph.nodes.map (·.crate.id.index) = List.range graph.size := by
  apply List.ext_getElem?
  intro place
  have hplace {node : CrateNode} (h : graph.node? ⟨place⟩ = some node) :
      node.crate.id = ⟨place⟩ := (regular.inPlace h).number
  rw [List.getElem?_map]
  cases hnode : graph.nodes[place]? with
  | none =>
    have hsize : graph.size ≤ place := List.getElem?_eq_none_iff.mp hnode
    rw [Option.map_none, List.getElem?_eq_none (by rw [List.length_range]; exact hsize)]
  | some node =>
    have hlt : place < graph.size := (List.getElem?_eq_some_iff.mp hnode).1
    rw [Option.map_some, hplace hnode, List.getElem?_range hlt]

/-- A dependency of the graph is on a crate that is there. -/
theorem Regular.isSome_crate?_of_mem {id : CrateId} {dependency : Dependency}
    (h : dependency ∈ graph.dependencies id) : (graph.crate? dependency.crate).isSome := by
  obtain ⟨node, hnode, hmem⟩ := node?_of_mem_dependencies h
  exact isSome_crate?_iff.mpr ((regular.inPlace hnode).target_lt dependency hmem)

end Regular

end CrateGraph

end ScopeWalk
