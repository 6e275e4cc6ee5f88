import ScopeWalk.Proofs.Candidate.Asking
import ScopeWalk.Proofs.Crates.Reading

/-!
# Loaders that break down

A loader may break down on some crates. Whatever was read of a graph since it was newly built, and
whatever broke down meanwhile, each root cell is in one of three states: it was not read, it holds
the root, or the loader broke down on the crate and was used up by that. So a walk that does not
break down answers what it would have answered with a loader that finds no root in such crates.
-/
namespace ScopeWalk

/-- Finds no root where the other loader breaks down. -/
def Loader.forgiving (loader : Loader) : Loader := fun crate =>
  match loader crate with
  | .ok found => .ok found
  | .error _ => .ok none

namespace CrateGraph

/-- The same graph with a loader that never breaks down. -/
def forgiving (graph : CrateGraph) : CrateGraph := { graph with loader := graph.loader.forgiving }

/-- The loader breaks down on the crate. -/
def breaksDown (graph : CrateGraph) (crate : Crate) : Bool :=
  match graph.loader crate with
  | .ok _ => false
  | .error _ => true

/-- The crates that the loader breaks down on. -/
def faulty (graph : CrateGraph) : List CrateId :=
  (graph.nodes.filter fun node => graph.breaksDown node.crate).map (·.crate.id)

/-- What may have become of the root cell of a crate. -/
inductive RootCell (graph : CrateGraph) (id : CrateId) : Memo Crate (Option Element) → Prop where
  | unread {crate : Crate} : graph.crate? id = some crate → RootCell graph id (.pending crate)
  | broken {crate : Crate} {failure : Failure} :
      graph.crate? id = some crate → graph.loader crate = .error failure →
      RootCell graph id .spent
  | loaded : RootCell graph id (.ready (graph.root? id))

section Built

variable {graph : CrateGraph} {id : CrateId} {crate : Crate}

theorem Built.forgiving (built : graph.Built) : graph.forgiving.Built := by
  induction built with
  | empty loader => exact .empty _
  | addCrate name origin settings _ ih => exact ih.addCrate name origin settings
  | @addDependency graph dependent name target _ ih =>
    have hadd : (graph.addDependency dependent name target).forgiving =
        graph.forgiving.addDependency dependent name target := by
      unfold CrateGraph.addDependency
      by_cases h : target.index < graph.size
      · rw [if_pos h, if_pos (show target.index < graph.forgiving.size from h)]
        rfl
      · rw [if_neg h, if_neg (show ¬ target.index < graph.forgiving.size from h)]
    rw [hadd]
    exact ih.addDependency dependent name target

theorem loads_forgiving : graph.forgiving.Loads := by
  intro id crate _
  cases hload : graph.loader crate with
  | ok found => exact ⟨found, by simp only [forgiving, Loader.forgiving, hload]⟩
  | error failure => exact ⟨none, by simp only [forgiving, Loader.forgiving, hload]⟩

theorem root?_forgiving (id : CrateId) : graph.forgiving.root? id = graph.root? id := by
  have hcrate : graph.forgiving.crate? id = graph.crate? id := rfl
  rw [root?, root?, hcrate]
  cases graph.crate? id with
  | none => rfl
  | some crate =>
    cases hload : graph.loader crate <;>
      simp only [Option.map_some, forgiving, Loader.forgiving, hload]
    rfl

theorem Built.mem_faulty (built : graph.Built) (h : graph.crate? id = some crate)
    {failure : Failure} (hload : graph.loader crate = .error failure) : id ∈ graph.faulty := by
  have hid := built.numbered h
  obtain ⟨node, hnode, rfl⟩ := Option.map_eq_some_iff.mp h
  refine List.mem_map.mpr ⟨node, List.mem_filter.mpr ⟨List.mem_of_getElem? hnode, ?_⟩, hid⟩
  rw [breaksDown, hload]

/-- Where the loader breaks down there is no root. -/
theorem root?_of_error (h : graph.crate? id = some crate) {failure : Failure}
    (hload : graph.loader crate = .error failure) : graph.root? id = none := by
  rw [root?, h, Option.map_some, hload]

theorem Numbered.load_eq (numbered : graph.Numbered) (h : graph.crate? id = some crate)
    (journal : List Event) :
    (Walk.load graph.loader crate journal).1 = .ok (graph.root? id) ∨
      ∃ failure, graph.loader crate = .error failure ∧
        (Walk.load graph.loader crate journal).1 = .error failure := by
  rw [Walk.load, numbered h, root?, h, Option.map_some]
  cases hload : graph.loader crate with
  | ok found => exact .inl rfl
  | error failure => exact .inr ⟨failure, rfl, rfl⟩

theorem setRoot_unknown (h : graph.node? id = none) (root : Memo Crate (Option Element)) :
    graph.setRoot id root = graph := by
  have hlength : graph.nodes.length ≤ id.index := List.getElem?_eq_none_iff.mp h
  rw [setRoot, List.modify_eq_self hlength]

/-- All that is to be said about a new root cell. -/
theorem node?_setRoot (graph : CrateGraph) (id other : CrateId)
    (root : Memo Crate (Option Element)) :
    (graph.setRoot id root).node? other =
      (graph.node? other).map fun node => if other = id then { node with root := root } else node := by
  by_cases h : other = id
  · subst h
    simp only [if_true]
    cases hnode : graph.node? other with
    | none => rw [setRoot_unknown hnode, hnode, Option.map_none]
    | some node => rw [node?_setRoot_self hnode, Option.map_some]
  · rw [node?_setRoot_ne graph (Ne.symm h)]
    simp [h]

end Built

end CrateGraph

/-! ### Stores that a graph is left in -/

/-- Nothing happened to a newly built graph but that roots were read. -/
structure Store.Follows (graph : CrateGraph) (store : Store) : Prop where
  loader : store.graph.loader = graph.loader
  crates : ∀ id, store.graph.crate? id = graph.crate? id
  dependencies : ∀ id, store.graph.dependencies id = graph.dependencies id
  cell : ∀ {id : CrateId} {node : CrateNode}, store.graph.node? id = some node →
    graph.RootCell id node.root

namespace Store.Follows

variable {graph : CrateGraph} {store : Store}

theorem of_built (built : graph.Built) (journal : List Event) : Follows graph ⟨graph, journal⟩ where
  loader := rfl
  crates _ := rfl
  dependencies _ := rfl
  cell {id node} h := by
    rw [(built.node h).2]
    exact .unread (by rw [CrateGraph.crate?, h, Option.map_some])

theorem setRoot (h : store.Follows graph) {id : CrateId} {root : Memo Crate (Option Element)}
    (hroot : graph.RootCell id root) (journal : List Event) :
    Follows graph ⟨store.graph.setRoot id root, journal⟩ where
  loader := h.loader
  crates other := (store.graph.crate?_setRoot id other root).trans (h.crates other)
  dependencies other := (store.graph.dependencies_setRoot id other root).trans (h.dependencies other)
  cell {other node} hnode := by
    rw [CrateGraph.node?_setRoot] at hnode
    obtain ⟨old, hold, rfl⟩ := Option.map_eq_some_iff.mp hnode
    by_cases hother : other = id
    · subst hother
      rw [if_pos rfl]
      exact hroot
    · rw [if_neg hother]
      exact h.cell hold

variable (numbered : graph.Numbered) (h : store.Follows graph) {id : CrateId}
include numbered h

/-- A root is read, or the loader breaks down on a crate that was not read before. -/
theorem crateRoot_cases (id : CrateId) :
    ((Walk.crateRoot id).answer store = .ok (graph.root? id) ∧
        ((Walk.crateRoot id).after store).graph =
          store.graph.setRoot id (.ready (graph.root? id))) ∨
      ∃ crate failure, graph.crate? id = some crate ∧ graph.loader crate = .error failure ∧
        (store.graph.node? id).map (·.root) = some (.pending crate) ∧
        (Walk.crateRoot id).answer store = .error failure ∧
        ((Walk.crateRoot id).after store).graph = store.graph.setRoot id .spent := by
  cases hnode : store.graph.node? id with
  | none =>
    have hcrate : graph.crate? id = none := by rw [← h.crates, CrateGraph.crate?, hnode]; rfl
    have hroot : graph.root? id = none := by rw [CrateGraph.root?, hcrate]; rfl
    rw [Walk.answer, Walk.after, Walk.crateRoot_unknown hnode, hroot,
      CrateGraph.setRoot_unknown hnode]
    exact .inl ⟨rfl, rfl⟩
  | some node =>
    rw [Walk.answer, Walk.after, Walk.crateRoot_known hnode]
    have hcell := h.cell hnode
    rw [Option.map_some]
    generalize node.root = root at hcell
    cases hcell with
    | loaded => exact .inl ⟨rfl, rfl⟩
    | broken hcrate hload =>
      rw [CrateGraph.root?_of_error hcrate hload]
      exact .inl ⟨rfl, rfl⟩
    | @unread crate hcrate =>
      rw [h.loader]
      obtain hfound | ⟨failure, hload, hfailed⟩ := numbered.load_eq hcrate store.journal
      · have hforce := Memo.force_pending_ok (Prod.ext hfound rfl)
        rw [hforce]
        exact .inl ⟨rfl, rfl⟩
      · have hforce := Memo.force_pending_error (Prod.ext hfailed rfl)
        rw [hforce]
        exact .inr ⟨crate, failure, hcrate, hload, rfl, rfl, rfl⟩

theorem crateRoot (id : CrateId) : Follows graph ((Walk.crateRoot id).after store) := by
  obtain ⟨-, hgraph⟩ | ⟨crate, failure, hcrate, hload, -, -, hgraph⟩ := h.crateRoot_cases numbered id
  · have hroot : graph.RootCell id (.ready (graph.root? id)) := .loaded
    have hafter := h.setRoot hroot ((Walk.crateRoot id).after store).journal
    rwa [← hgraph] at hafter
  · have hafter := h.setRoot (.broken hcrate hload) ((Walk.crateRoot id).after store).journal
    rwa [← hgraph] at hafter

theorem answer_crateRoot {root : Option Element}
    (hok : (Walk.crateRoot id).answer store = .ok root) : root = graph.root? id := by
  obtain ⟨hanswer, -⟩ | ⟨_, _, -, -, -, hanswer, -⟩ := h.crateRoot_cases numbered id
  · exact Except.ok.inj (hok.symm.trans hanswer)
  · cases hok.symm.trans hanswer

/-- Roots that are read one after another without a breakdown are loaded then, and nothing else
happens. -/
theorem node?_runAll (ids : List CrateId)
    (hok : (Thunk.runAll (ids.map .crateRoot)).answer store = .ok ()) :
    Follows graph ((Thunk.runAll (ids.map .crateRoot)).after store) ∧
      ∀ id, ((Thunk.runAll (ids.map .crateRoot)).after store).graph.node? id =
        (store.graph.node? id).map fun node =>
          if id ∈ ids then { node with root := .ready (graph.root? id) } else node := by
  induction ids generalizing store with
  | nil =>
    refine ⟨h, fun id => ?_⟩
    show store.graph.node? id = _
    simp
  | cons first rest ih =>
    obtain ⟨⟨root, hfirst⟩, hrest⟩ := Thunk.of_runAll_cons hok
    obtain ⟨hfollows, hnodes⟩ := ih (h.crateRoot numbered first) hrest
    rw [List.map_cons, Thunk.after_runAll_cons hfirst]
    refine ⟨hfollows, fun id => ?_⟩
    obtain ⟨-, hgraph⟩ | ⟨_, _, -, -, -, hanswer, -⟩ := h.crateRoot_cases numbered first
    · rw [Thunk.run, hnodes, hgraph, CrateGraph.node?_setRoot, Option.map_map]
      refine congrArg (Option.map · _) (funext fun node => ?_)
      by_cases hid : id = first
      · subst hid
        simp
      · simp [hid]
    · cases hanswer.symm.trans hfirst

/-- If the last of the crates is the one that the loader breaks down on, then it was not read before.
Its cell is used up, the others are loaded, and nothing else happens. -/
theorem node?_runAll_of_error {ids : List CrateId} {id : CrateId} {failure : Failure}
    (hok : (Thunk.runAll (ids.map .crateRoot)).answer store = .ok ())
    (herror : (Thunk.runAll ((ids ++ [id]).map .crateRoot)).answer store = .error failure) :
    ∃ crate, graph.crate? id = some crate ∧ graph.loader crate = .error failure ∧ id ∉ ids ∧
      (store.graph.node? id).map (·.root) = some (.pending crate) ∧
      ((Thunk.runAll ((ids ++ [id]).map .crateRoot)).after store).graph.loader =
        store.graph.loader ∧
      ∀ other, ((Thunk.runAll ((ids ++ [id]).map .crateRoot)).after store).graph.node? other =
        (store.graph.node? other).map fun node =>
          if other = id then { node with root := .spent }
          else if other ∈ ids then { node with root := .ready (graph.root? other) } else node := by
  obtain ⟨hfollows, hnodes⟩ := h.node?_runAll numbered ids hok
  have hrun := Thunk.runAll_concat_run hok (.crateRoot id)
  rw [List.map_append, List.map_singleton] at herror ⊢
  have hanswer := (congrArg Prod.fst hrun).trans (Walk.answer_effect _ _)
  have hafter := (congrArg Prod.snd hrun).trans (Walk.after_effect _ _)
  have hlast := herror.symm.trans hanswer
  obtain ⟨hfound, -⟩ | ⟨crate, found, hcrate, hload, hpending, hfound, hgraph⟩ :=
    hfollows.crateRoot_cases numbered id
  · rw [Thunk.run, hfound] at hlast
    cases hlast
  · rw [Thunk.run, hfound] at hlast
    cases hlast
    rw [hnodes] at hpending
    have hnew : id ∉ ids := by
      intro hid
      obtain ⟨node, hnode, hroot⟩ := Option.map_eq_some_iff.mp hpending
      obtain ⟨old, -, rfl⟩ := Option.map_eq_some_iff.mp hnode
      rw [if_pos hid] at hroot
      cases hroot
    simp only [if_neg hnew, Option.map_id'] at hpending
    have hgraph' := (congrArg Store.graph hafter).trans hgraph
    refine ⟨crate, hcrate, hload, hnew, hpending, ?_, fun other => ?_⟩
    · exact (congrArg CrateGraph.loader hgraph').trans (hfollows.loader.trans h.loader.symm)
    · refine (congrArg (CrateGraph.node? · other) hgraph').trans ?_
      rw [CrateGraph.node?_setRoot, hnodes, Option.map_map]
      refine congrArg (Option.map · _) (funext fun node => ?_)
      by_cases hother : other = id
      · subst hother
        simp [hnew]
      · simp [hother]

end Store.Follows

namespace Walk.ReadsRoots

variable {graph : CrateGraph} {store : Store} {α : Type} {walk : Walk α}

/-- Whatever a walk that only reads roots comes to, it leaves nothing else behind. -/
theorem follows (hwalk : walk.ReadsRoots) (numbered : graph.Numbered) (h : store.Follows graph) :
    (walk.after store).Follows graph := by
  induction hwalk generalizing store with
  | pure value => exact h
  | note text => exact ⟨h.loader, h.crates, h.dependencies, h.cell⟩
  | crateRoot id => exact h.crateRoot numbered id
  | @bind _ _ walk next _ _ ihwalk ihnext =>
    cases hfirst : walk.answer store with
    | ok value =>
      rw [after_bind_of_ok next hfirst]
      exact ihnext value (ihwalk h)
    | error failure =>
      rw [after, run_bind_error next hfirst]
      exact ihwalk h

/-- A walk that does not break down answers as it does where no root breaks down. The induction is
on the walk. -/
theorem answer_eq (hwalk : walk.ReadsRoots) (numbered : graph.Numbered) (h : store.Follows graph)
    {other : Store} (hother : ∀ id, (Walk.crateRoot id).answer other = .ok (graph.root? id))
    {value : α} (hok : walk.answer store = .ok value) : walk.answer other = .ok value := by
  induction hwalk generalizing store other with
  | pure => exact hok
  | note text => exact hok
  | crateRoot id =>
    rw [h.answer_crateRoot numbered hok]
    exact hother id
  | @bind _ _ walk next hwalk _ ihwalk ihnext =>
    obtain ⟨first, hfirst, hsecond⟩ := answer_bind_ok hok
    have hfirst' := ihwalk h hother hfirst
    -- whatever the first part read, all roots of `other` are still what they were
    have hroots := hwalk.steady.sameRoots hfirst'
    rw [answer, run_bind_ok next hfirst']
    exact ihnext first (hwalk.follows numbered h) (fun id => (hroots id).symm.trans (hother id)) hsecond

end Walk.ReadsRoots

end ScopeWalk
