import ScopeWalk.Proofs.Crates.Changes
import ScopeWalk.Proofs.Crates.ExternOffers
import ScopeWalk.Proofs.Resolve.Forcing
import ScopeWalk.Proofs.Resolve.Within

/-!
# All that can happen to a graph of crates

A graph is made by adding crates and dependencies to an empty one. Meanwhile, and afterwards, roots
are read, names are resolved and scopes are walked, and some of this breaks down. Whatever was done
so far, crates are known by their places, dependencies are on crates that are there, no crate is
loaded twice, and nothing that was added or read changes any more.
-/
namespace ScopeWalk

/-! ### Drivers add nothing -/

theorem Thunk.run_addsNothing (thunk : Thunk) : thunk.run.AddsNothing := by
  induction thunk with
  | known found => exact .pure found
  | crateRoot crate => exact .crateRoot crate
  | failing message => exact .fail message
  | noting text next ih => exact .bind (.note text) fun _ => ih

theorem Entry.force_addsNothing (entry : Entry) : entry.force.AddsNothing := by
  cases entry with
  | direct entry => exact .pure _
  | member entry => exact .pure _
  | deferred entry =>
    have hlookup : entry.lookup.AddsNothing := by
      unfold LazyEntry.lookup
      cases entry.cell with
      | ready found => exact .pure found
      | spent => exact .pure none
      | pending thunk => exact thunk.run_addsNothing
    rw [Entry.force, LazyEntry.force_eq]
    exact .bind (.bind hlookup fun _ => .pure _) fun _ => .pure _

theorem judge_addsNothing (name : Name) (entry : Entry) : (judge name entry).AddsNothing := by
  unfold judge
  cases Candidate.name entry != name with
  | true => exact .pure none
  | false => exact .bind entry.force_addsNothing fun _ => .pure _

namespace Step

variable {σ : Type} {step : Step σ} (h : ∀ offer kept, (step offer kept).AddsNothing)
include h

theorem within_addsNothing (importer? : Option Module) (offer : Offer Entry) (kept : σ) :
    (within importer? step offer kept).AddsNothing := by
  cases importer? with
  | none => exact h offer kept
  | some importer =>
    cases offer with
    | globBoundary => exact h .globBoundary kept
    | candidate entry =>
      refine .bind entry.force_addsNothing fun (found, settled) => ?_
      dsimp only
      split
      · exact h _ kept
      · exact .pure _

theorem visit_addsNothing (offers : List (Offer Entry)) (kept : σ) :
    (visit step offers kept).AddsNothing := by
  induction offers generalizing kept with
  | nil => exact .pure _
  | cons offer rest ih =>
    rw [visit_cons]
    refine .bind (h offer kept) fun (stop, kept) => ?_
    cases stop with
    | true => exact .pure _
    | false => exact ih kept

end Step

namespace Query

variable {σ : Type} (query : Query σ) (h : query.isCustom = false)
include h

theorem step_addsNothing (offer : Offer Entry) (kept : σ) :
    (query.step offer kept).AddsNothing := by
  cases offer with
  | globBoundary =>
    obtain ⟨result, hresult⟩ := query.exists_step_boundary h kept
    rw [hresult]
    exact .pure result
  | candidate entry =>
    cases hname : query.name? with
    | some name =>
      obtain ⟨respond, hrespond⟩ := query.exists_step_candidate hname
      rw [hrespond]
      exact (judge_addsNothing name entry).map _
    | none =>
      cases query with
      | suggest add start site => exact entry.force_addsNothing.map _
      | custom => cases h
      | _ => cases hname

theorem run_within_addsNothing (importer? : Option Module) (offers : List (Offer Entry)) :
    (query.run Walk ((Feed.ofList offers).within importer?)).AddsNothing := by
  rw [run_within]
  exact (Step.visit_addsNothing (Step.within_addsNothing (query.step_addsNothing h) importer?)
    offers query.start).map _

end Query

/-- The driver on what a graph gives to offer, within a module if one is given. -/
def Query.ask {σ : Type} (query : Query σ) (importer? : Option Module)
    (offers : CrateGraph → List (Offer Entry)) : Walk σ := do
  let graph := (← get).graph
  query.run Walk ((Feed.ofList (offers graph)).within importer?)

theorem Query.ask_addsNothing {σ : Type} {query : Query σ} (h : query.isCustom = false)
    (importer? : Option Module) (offers : CrateGraph → List (Offer Entry)) :
    (query.ask importer? offers).AddsNothing :=
  .bind .look fun store => query.run_within_addsNothing h importer? (offers store.graph)

theorem resolveExternCrate_addsNothing (id : CrateId) (name : Name) :
    (resolveExternCrate id name).AddsNothing := by
  refine .bind .look fun store => ?_
  show Walk.AddsNothing (collect (n := Walk) name (store.graph.externFeed id true false))
  have hfeed : store.graph.externFeed (m := StateT (List Element) Walk) id true false =
      (Feed.ofList ((store.graph.externEntries false id true).map .candidate)).within none :=
    funext (store.graph.externFeed_eq_entries false id true)
  rw [hfeed]
  exact (Query.collect name).run_within_addsNothing rfl none _

/-! ### Histories -/

/-- Something that is done with a graph of crates. -/
inductive Action : Type 1 where
  | addCrate (name : Name) (origin : Origin) (settings : Cfg.Settings)
  | addDependency (dependent : CrateId) (name : Name) (target : CrateId)
  | read (id : CrateId)
  /-- An `extern crate` declaration is resolved. -/
  | resolve (id : CrateId) (name : Name)
  /-- Something is walked over by any visitor, and possibly breaks down. -/
  | run {α : Type} (walk : Walk α) (addsNothing : walk.AddsNothing)

/-- The store as it is when the action was taken. -/
def Action.perform : Action → Store → Store
  | .addCrate name origin settings, store =>
    { store with graph := store.graph.addCrate name origin settings }
  | .addDependency dependent name target, store =>
    { store with graph := store.graph.addDependency dependent name target }
  | .read id, store => (Walk.crateRoot id).after store
  | .resolve id name, store => (resolveExternCrate id name).after store
  | .run walk _, store => walk.after store

/-- The store as it is when some actions were taken one after another. -/
def Store.following (store : Store) (actions : List Action) : Store :=
  actions.foldl (fun store action => action.perform store) store

theorem Action.changes (action : Action) (store : Store) :
    store.Changes (action.perform store) := by
  cases action with
  | addCrate name origin settings => exact .single (.addCrate name origin settings)
  | addDependency dependent name target => exact .single (.addDependency dependent name target)
  | read id => exact .single (.read id)
  | resolve id name => exact (resolveExternCrate_addsNothing id name).changes store
  | run walk addsNothing => exact addsNothing.changes store

namespace Store

variable (store : Store)

theorem changes_following (actions : List Action) : store.Changes (store.following actions) := by
  induction actions generalizing store with
  | nil => exact .refl
  | cons action rest ih => exact (action.changes store).trans (ih (action.perform store))

theorem sound_following (loader : Loader) (actions : List Action) :
    ((Store.new loader).following actions).Sound :=
  Store.Changes.sound ((Store.new loader).changes_following actions) (Store.sound_new loader)

end Store

/-! ### Roots that were read -/

namespace Store.Sound

variable {store : Store} (sound : store.Sound) {id : CrateId}
include sound

theorem mem_journal_iff :
    .load id ∈ store.journal ↔ (store.graph.settledRoot? id).isSome := by
  rw [← List.count_pos_iff, sound.count_load id]
  split <;> simp [*]

theorem mem_journal_after_crateRoot (hknown : (store.graph.crate? id).isSome) :
    .load id ∈ ((Walk.crateRoot id).after store).journal := by
  have hread : ((Walk.crateRoot id).after store).Sound := (Store.Change.read id).sound sound
  obtain ⟨cell, hsettled, -, -, hgraph⟩ := Walk.exists_graph_after_crateRoot sound id
  rw [hread.mem_journal_iff, hgraph, CrateGraph.settledRoot?_setRoot_self hknown, hsettled]
  rfl

/-- From when the loader was called for a crate, all reads of its root give what is settled. -/
theorem answer_crateRoot_following (hload : .load id ∈ store.journal) (further : List Action) :
    (Walk.crateRoot id).answer (store.following further) = .ok (store.graph.root? id) := by
  obtain ⟨found, hfound⟩ := Option.isSome_iff_exists.mp (sound.mem_journal_iff.mp hload)
  have hgrows := Store.Changes.grows (store.changes_following further) sound
  rw [Walk.answer_crateRoot_of_settled (hgrows.settled hfound), sound.settledRoot?_eq hfound]

/-- So do all reads after the first, be it that this one broke down. -/
theorem answer_crateRoot_after_read (hknown : (store.graph.crate? id).isSome)
    (further : List Action) :
    (Walk.crateRoot id).answer (((Walk.crateRoot id).after store).following further) =
      .ok (store.graph.root? id) := by
  have hchange : store.Change ((Walk.crateRoot id).after store) := .read id
  rw [← (hchange.grows sound).root?_eq hknown]
  exact (hchange.sound sound).answer_crateRoot_following
    (sound.mem_journal_after_crateRoot hknown) further

end Store.Sound

/-- The root of a crate is settled when it is read, if not before: which one it is, or that there is
none. -/
structure Store.RootLasts (store : Store) (id : CrateId) (root : Option Element) : Prop where
  loaded : .load id ∈ ((Walk.crateRoot id).after store).journal
  /-- A first read may break down. If it does not, it answers the root. -/
  answer : ∀ found, (Walk.crateRoot id).answer store = .ok found → found = root
  answer_after : ∀ further : List Action,
    (Walk.crateRoot id).answer (((Walk.crateRoot id).after store).following further) = .ok root
  answer_once_loaded : .load id ∈ store.journal → ∀ further : List Action,
    (Walk.crateRoot id).answer (store.following further) = .ok root

/-- What can be relied on in a store, whatever was done with it so far. -/
structure Store.Reliable (store : Store) : Prop where
  numbers : store.graph.nodes.map (·.crate.id.index) = List.range store.graph.size
  target_known : ∀ id, ∀ dependency ∈ store.graph.dependencies id,
    (store.graph.crate? dependency.crate).isSome
  /-- So whoever goes through the dependencies of a crate, those of the standard library last, comes
  to no crate that is not there. -/
  origin_known : ∀ id, ∀ dependency ∈ store.graph.stdlibLast (store.graph.dependencies id),
    (store.graph.originOf dependency).isSome
  hyphenless : ∀ id node, store.graph.node? id = some node → '-' ∉ node.crate.name.chars ∧
    ∀ dependency ∈ node.dependencies, '-' ∉ dependency.name.chars
  loaded_once : ∀ id, store.journal.count (.load id) ≤ 1
  root_lasts : ∀ id, (store.graph.crate? id).isSome → ∃ root, store.RootLasts id root
  node?_addCrate : ∀ name origin settings,
    (store.graph.addCrate name origin settings).node? store.graph.nextId =
      some (store.graph.newNode name origin settings)
  node?_addCrate_of_ne : ∀ name origin settings, ∀ id, id ≠ store.graph.nextId →
    (store.graph.addCrate name origin settings).node? id = store.graph.node? id
  node?_addDependency_of_ne : ∀ dependent name target, ∀ id, id ≠ dependent →
    (store.graph.addDependency dependent name target).node? id = store.graph.node? id
  /-- Of the depending crate nothing but its dependencies changes. -/
  map_node?_addDependency : ∀ dependent name target,
    ((store.graph.addDependency dependent name target).node? dependent).map
        (fun node => (node.crate, node.root)) =
      (store.graph.node? dependent).map fun node => (node.crate, node.root)
  addDependency_unknown : ∀ dependent name target,
    store.graph.crate? dependent = none ∨ store.graph.crate? target = none →
      store.graph.addDependency dependent name target = store.graph

namespace Store.Sound

variable {store : Store} (sound : store.Sound)
include sound

theorem rootLasts {id : CrateId} (hknown : (store.graph.crate? id).isSome) :
    store.RootLasts id (store.graph.root? id) where
  loaded := sound.mem_journal_after_crateRoot hknown
  answer _ hfound := sound.follows.answer_crateRoot sound.numbered hfound
  answer_after := sound.answer_crateRoot_after_read hknown
  answer_once_loaded := sound.answer_crateRoot_following

theorem reliable : store.Reliable where
  numbers := sound.regular.numbers_eq
  target_known _ _ := sound.regular.isSome_crate?_of_mem
  origin_known id dependency hdependency := by
    have hmem : dependency ∈ store.graph.dependencies id := by
      simp only [CrateGraph.stdlibLast, List.mem_append, List.mem_filter] at hdependency
      exact hdependency.elim And.left And.left
    rw [CrateGraph.originOf, Option.isSome_map]
    exact sound.regular.isSome_crate?_of_mem hmem
  hyphenless id node hid := by
    have hplace := sound.regular.inPlace hid
    exact ⟨hplace.hyphenless, hplace.dependencies_hyphenless⟩
  loaded_once id := by
    rw [sound.count_load id]
    split
    · exact Nat.le_refl 1
    · exact Nat.zero_le 1
  root_lasts id hknown := ⟨store.graph.root? id, sound.rootLasts hknown⟩
  node?_addCrate := store.graph.node?_addCrate_new
  node?_addCrate_of_ne name origin settings _ :=
    store.graph.node?_addCrate_of_ne name origin settings
  node?_addDependency_of_ne dependent name target _ :=
    store.graph.node?_addDependency_of_ne dependent name target
  map_node?_addDependency dependent name target :=
    store.graph.map_node?_addDependency dependent name target fun _ _ => rfl
  addDependency_unknown dependent name target hunknown := by
    have hnode (id : CrateId) : store.graph.node? id = none ↔ store.graph.crate? id = none :=
      Option.map_eq_none_iff.symm
    rw [← hnode, ← hnode] at hunknown
    exact store.graph.addDependency_unknown dependent name target hunknown

end Store.Sound

/-- Let a graph of crates be made from an empty one by any number of additions, with roots read,
names resolved and scopes walked in between, and whatever broke down meanwhile. Then crates bear the
numbers of their places, a dependency is on a crate that is there, and no name has a hyphen. The
loader was called at most once for a crate. After a read it was called, and from then on all reads
give one and the same answer, whatever else is done: what the read answered, if that did not break
down. Adding a crate leaves all others as they are, and so does adding a dependency, which leaves
everything as it is if one of its crates is not there. All drivers, on whatever a graph gives to
offer and within a module or not, are among what may be done. -/
theorem graphs_stay_sound (loader : Loader) (actions : List Action) :
    ((Store.new loader).following actions).Reliable ∧
    ∀ {σ : Type} (query : Query σ), query.isCustom = false →
      ∀ importer? offers, (query.ask importer? offers).AddsNothing :=
  ⟨(Store.sound_following loader actions).reliable, fun _ => Query.ask_addsNothing⟩

/-- A graph to which something is added when a root was read already, and a dependency on a crate
that is not there. -/
def sampleActions : List Action :=
  [.addCrate ⟨"app"⟩ .workspace .empty, .read ⟨0⟩, .addCrate ⟨"my-lib"⟩ .dependency .empty,
    .addDependency ⟨0⟩ ⟨"my-lib"⟩ ⟨1⟩, .addDependency ⟨0⟩ ⟨"lost"⟩ ⟨2⟩,
    .resolve ⟨0⟩ ⟨"my_lib"⟩]

/-- Both crates are loaded, and each keeps its root whatever is done from then on. -/
theorem graphs_stay_sound_sample :
    let store := (Store.new .plain).following sampleActions
    store.graph.nodes.map (·.crate.id.index) = [0, 1] ∧
      store.graph.dependencies ⟨0⟩ = [⟨⟨"my_lib"⟩, ⟨1⟩⟩] ∧
      store.journal = [.load ⟨0⟩, .load ⟨1⟩] ∧
      ∀ id ∈ [(⟨0⟩ : CrateId), ⟨1⟩], ∃ root, ∀ further : List Action,
        (Walk.crateRoot id).answer (store.following further) = .ok root := by
  intro store
  obtain ⟨hreliable, -⟩ := graphs_stay_sound .plain sampleActions
  refine ⟨hreliable.numbers, by rfl, by rfl, fun id hid => ?_⟩
  have hknown : (store.graph.crate? id).isSome ∧ .load id ∈ store.journal := by
    rcases List.mem_pair.mp hid with rfl | rfl
    · exact ⟨rfl, .head _⟩
    · exact ⟨rfl, .tail _ (.head _)⟩
  obtain ⟨root, hlasts⟩ := hreliable.root_lasts id hknown.1
  exact ⟨root, hlasts.answer_once_loaded hknown.2⟩

end ScopeWalk
