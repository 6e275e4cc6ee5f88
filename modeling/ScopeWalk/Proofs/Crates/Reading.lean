import ScopeWalk.Proofs.Crates.Additions
import ScopeWalk.Proofs.Crates.Steady

/-!
# Walks that only read roots

Apart from its journal, all that a walk can do to a store is to read crate roots. If the loader
does not break down, such a walk does not break down either, and it leaves a store that answers
like the one it started from. A graph that was newly built answers as its loader does.
-/
namespace ScopeWalk

/-! ### Newly built graphs -/

namespace CrateGraph

/-- Graphs as they are built, with no root read yet. -/
inductive Built : CrateGraph → Prop where
  | empty (loader : Loader) : Built (.empty loader)
  | addCrate {graph : CrateGraph} (name : Name) (origin : Origin) (settings : Cfg.Settings) :
      Built graph → Built (graph.addCrate name origin settings)
  | addDependency {graph : CrateGraph} (dependent : CrateId) (name : Name) (target : CrateId) :
      Built graph → Built (graph.addDependency dependent name target)

/-- The loader does not break down on any of the crates. -/
def Loads (graph : CrateGraph) : Prop :=
  ∀ {id : CrateId} {crate : Crate}, graph.crate? id = some crate →
    ∃ found, graph.loader crate = .ok found

/-- The root of a crate, if there is one, as the loader finds it. -/
def root? (graph : CrateGraph) (id : CrateId) : Option Element :=
  match (graph.crate? id).map graph.loader with
  | some (.ok found) => found.map fun decl => { decl with id := .crateRoot id }
  | _ => none

/-- Crates bear the numbers of the places at which they stand. -/
def Numbered (graph : CrateGraph) : Prop :=
  ∀ {id : CrateId} {crate : Crate}, graph.crate? id = some crate → crate.id = id

/-- No root was read yet, and the crates are numbered in the order they were added. -/
theorem Built.node {graph : CrateGraph} (built : graph.Built) {id : CrateId} {node : CrateNode}
    (h : graph.node? id = some node) : node.crate.id = id ∧ node.root = .pending node.crate := by
  induction built generalizing id node with
  | empty loader => simp [CrateGraph.empty, node?] at h
  | @addCrate graph name origin settings _ ih =>
    by_cases hid : id = graph.nextId
    · subst hid
      rw [node?_addCrate_new] at h
      cases h
      exact ⟨rfl, rfl⟩
    · rw [node?_addCrate_of_ne graph name origin settings hid] at h
      exact ih h
  | @addDependency graph dependent name target _ ih =>
    have hsame : (graph.node? id).map (fun node => (node.crate, node.root)) =
        some (node.crate, node.root) := by
      rw [← graph.map_node?_addDependency dependent name target fun _ _ => rfl, h, Option.map_some]
    obtain ⟨old, hold, heq⟩ := Option.map_eq_some_iff.mp hsame
    obtain ⟨hcrate, hroot⟩ := Prod.mk.inj heq
    rw [← hcrate, ← hroot]
    exact ih hold

theorem Built.numbered {graph : CrateGraph} (built : graph.Built) : graph.Numbered := by
  intro id crate h
  obtain ⟨node, hnode, rfl⟩ := Option.map_eq_some_iff.mp h
  exact (built.node hnode).1

end CrateGraph

theorem Walk.answer_crateRoot_built {graph : CrateGraph} (built : graph.Built) (loads : graph.Loads)
    (id : CrateId) (journal : List Event) :
    (crateRoot id).answer ⟨graph, journal⟩ = .ok (graph.root? id) := by
  cases hnode : graph.node? id with
  | none =>
    rw [answer, crateRoot_unknown hnode, CrateGraph.root?, CrateGraph.crate?, hnode]
    rfl
  | some node =>
    obtain ⟨hid, hroot⟩ := built.node hnode
    have hcrate : graph.crate? id = some node.crate := by rw [CrateGraph.crate?, hnode]; rfl
    obtain ⟨found, hfound⟩ := loads hcrate
    have hload : load graph.loader node.crate journal =
        (.ok (graph.root? id), journal ++ [.load id]) := by
      simp only [load, CrateGraph.root?, hcrate, hfound, hid, Option.map_some]
      rfl
    rw [answer, crateRoot_known hnode, hroot, Memo.force_pending_ok hload]
    rfl

/-! ### Stores that answer alike -/

namespace Store

/-- The same can be found out about crates from both stores. -/
structure Alike (store other : Store) : Prop where
  roots : store.SameRoots other
  crates : ∀ id, store.graph.crate? id = other.graph.crate? id
  dependencies : ∀ id, store.graph.dependencies id = other.graph.dependencies id

namespace Alike

variable {first second third : Store}

theorem refl (store : Store) : store.Alike store := ⟨.refl store, fun _ => rfl, fun _ => rfl⟩

theorem symm (h : first.Alike second) : second.Alike first :=
  ⟨h.roots.symm, fun id => (h.crates id).symm, fun id => (h.dependencies id).symm⟩

theorem trans (h : first.Alike second) (h' : second.Alike third) : first.Alike third where
  roots := h.roots.trans h'.roots
  crates id := (h.crates id).trans (h'.crates id)
  dependencies id := (h.dependencies id).trans (h'.dependencies id)

end Alike

/-- Reading a root does not break down. -/
def Unbroken (store : Store) : Prop := ∀ id, ∃ root, (Walk.crateRoot id).answer store = .ok root

theorem Unbroken.of_sameRoots {store other : Store} (h : store.Unbroken)
    (hroots : store.SameRoots other) : other.Unbroken := by
  intro id
  obtain ⟨root, hroot⟩ := h id
  exact ⟨root, (hroots id).symm.trans hroot⟩

end Store

namespace CrateGraph

variable (graph : CrateGraph) (id other : CrateId) (root : Memo Crate (Option Element))

theorem crate?_setRoot : (graph.setRoot id root).crate? other = graph.crate? other := by
  simp only [crate?, node?, setRoot, List.getElem?_modify]
  cases graph.nodes[other.index]? with
  | none => rfl
  | some node => by_cases h : id.index = other.index <;> simp [h]

theorem dependencies_setRoot :
    (graph.setRoot id root).dependencies other = graph.dependencies other := by
  simp only [dependencies, node?, setRoot, List.getElem?_modify]
  cases graph.nodes[other.index]? with
  | none => rfl
  | some node => by_cases h : id.index = other.index <;> simp [h]

end CrateGraph

namespace Walk

/-- Reading a root leaves all crates and their dependencies as they are. -/
theorem alike_crateRoot {id : CrateId} {store : Store} {root : Option Element}
    (h : (crateRoot id).answer store = .ok root) : store.Alike ((crateRoot id).after store) := by
  have hroots := (steady_crateRoot id).sameRoots h
  cases hnode : store.graph.node? id with
  | none =>
    rw [after, crateRoot_unknown hnode]
    exact .refl store
  | some node =>
    rw [after, crateRoot_known hnode] at hroots ⊢
    exact ⟨hroots, fun other => (store.graph.crate?_setRoot id other _).symm,
      fun other => (store.graph.dependencies_setRoot id other _).symm⟩

/-- All that the walk does to a store is to read roots and to write in the journal, and it does
not break down by itself. -/
inductive ReadsRoots : {α : Type} → Walk α → Prop where
  | pure {α : Type} (value : α) : ReadsRoots (pure value)
  | note (text : String) : ReadsRoots (note text)
  | crateRoot (id : CrateId) : ReadsRoots (crateRoot id)
  | bind {α β : Type} {walk : Walk α} {next : α → Walk β} :
      ReadsRoots walk → (∀ value, ReadsRoots (next value)) → ReadsRoots (walk >>= next)

namespace ReadsRoots

variable {α β : Type} {walk : Walk α}

theorem map (h : walk.ReadsRoots) (f : α → β) : (f <$> walk).ReadsRoots := by
  rw [map_eq_pure_bind]
  exact h.bind fun value => .pure (f value)

theorem steady (h : walk.ReadsRoots) : walk.Steady := by
  induction h with
  | pure value => exact steady_pure value
  | note text => exact steady_note text
  | crateRoot id => exact steady_crateRoot id
  | bind _ _ ihwalk ihnext => exact ihwalk.bind ihnext

/-- Where reading a root does not break down, no such walk does. -/
theorem answer_ok (h : walk.ReadsRoots) {store : Store} (unbroken : store.Unbroken) :
    ∃ value, walk.answer store = .ok value ∧ store.Alike (walk.after store) := by
  induction h generalizing store with
  | pure value => exact ⟨value, rfl, .refl store⟩
  | note text =>
    exact ⟨(), rfl, (steady_note text).sameRoots rfl, fun _ => rfl, fun _ => rfl⟩
  | crateRoot id =>
    obtain ⟨root, hroot⟩ := unbroken id
    exact ⟨root, hroot, alike_crateRoot hroot⟩
  | @bind _ _ walk next _ _ ihwalk ihnext =>
    obtain ⟨first, hfirst, halike⟩ := ihwalk unbroken
    obtain ⟨value, hvalue, halike'⟩ := ihnext first (unbroken.of_sameRoots halike.roots)
    refine ⟨value, ?_, ?_⟩
    · rw [answer, run_bind_ok next hfirst]
      exact hvalue
    · rw [after, run_bind_ok next hfirst]
      exact halike.trans halike'

end ReadsRoots

end Walk

end ScopeWalk
