import Mathlib.Logic.Relation
import ScopeWalk.Proofs.Crates.Additions
import ScopeWalk.Proofs.Crates.Breakdowns

/-!
# The life of a graph of crates

Crates and dependencies may be added at any time, also when roots of the graph were read already.
Whatever is done comes down to four changes: a crate or a dependency is added, a note is written, or
a root is read. Each of them keeps the graph sound, and none takes anything back that was known of a
crate, so the same holds of all that is done with a graph.
-/
namespace ScopeWalk

/-- What all reads of the cell will answer, once that is settled. -/
def Memo.settled? [Inhabited α] : Memo τ α → Option α
  | .pending _ => none
  | .spent => some default
  | .ready value => some value

namespace CrateGraph

/-- What is settled about the root of a crate: which one it is, or that there is none. -/
def settledRoot? (graph : CrateGraph) (id : CrateId) : Option (Option Element) :=
  (graph.node? id).bind (·.root.settled?)

variable {graph other : CrateGraph} {id : CrateId} {cell : Memo Crate (Option Element)}

theorem settledRoot?_eq_bind (graph : CrateGraph) (id : CrateId) :
    graph.settledRoot? id = ((graph.node? id).map (·.root)).bind Memo.settled? := by
  rw [settledRoot?, Option.bind_map]
  rfl

/-! ### What may be in a cell -/

theorem root?_congr (hloader : graph.loader = other.loader)
    (hcrate : graph.crate? id = other.crate? id) : graph.root? id = other.root? id := by
  rw [root?, root?, hloader, hcrate]

theorem RootCell.congr (h : graph.RootCell id cell) (hloader : graph.loader = other.loader)
    (hcrate : graph.crate? id = other.crate? id) : other.RootCell id cell := by
  cases h with
  | unread h => exact .unread (hcrate ▸ h)
  | broken h hload => exact .broken (hcrate ▸ h) (hloader ▸ hload)
  | loaded =>
    rw [root?_congr hloader hcrate]
    exact .loaded

/-- What is settled is the root as the loader finds it. -/
theorem RootCell.eq_root? (h : graph.RootCell id cell) {found : Option Element}
    (hsettled : cell.settled? = some found) : found = graph.root? id := by
  cases h with
  | unread => cases hsettled
  | broken hcrate hload =>
    rw [root?_of_error hcrate hload]
    exact (Option.some.inj hsettled).symm
  | loaded => exact (Option.some.inj hsettled).symm

end CrateGraph

/-! ### Sound stores -/

/-- What holds of a store whatever was done with it. -/
structure Store.Sound (store : Store) : Prop where
  regular : store.graph.Regular
  cell : ∀ {id : CrateId} {node : CrateNode}, store.graph.node? id = some node →
    store.graph.RootCell id node.root
  /-- The loader was called once for the crates whose root is settled, and not for the others. -/
  count_load : ∀ id, store.journal.count (.load id) =
    if (store.graph.settledRoot? id).isSome then 1 else 0

namespace Store.Sound

variable {store : Store} (sound : store.Sound)
include sound

theorem numbered : store.graph.Numbered := by
  intro id crate h
  obtain ⟨node, hnode, rfl⟩ := Option.map_eq_some_iff.mp h
  exact (sound.regular.inPlace hnode).number

/-- As far as its roots are concerned, the store could be one in which nothing was added since they
were first read. -/
theorem follows : store.Follows store.graph where
  loader := rfl
  crates _ := rfl
  dependencies _ := rfl
  cell := sound.cell

theorem settledRoot?_eq {id : CrateId} {found : Option Element}
    (h : store.graph.settledRoot? id = some found) : found = store.graph.root? id := by
  obtain ⟨node, hnode, hsettled⟩ := Option.bind_eq_some_iff.mp h
  exact (sound.cell hnode).eq_root? hsettled

end Store.Sound

/-! ### Reading a root -/

namespace Walk

variable {store : Store} {id : CrateId}

/-- Where the root is settled, reads answer what is settled. -/
theorem answer_crateRoot_of_settled {found : Option Element}
    (h : store.graph.settledRoot? id = some found) : (crateRoot id).answer store = .ok found := by
  obtain ⟨node, hnode, hsettled⟩ := Option.bind_eq_some_iff.mp h
  rw [answer, crateRoot_known hnode]
  cases hroot : node.root with
  | pending crate =>
    rw [hroot] at hsettled
    cases hsettled
  | spent =>
    rw [hroot] at hsettled
    exact congrArg Except.ok (Option.some.inj hsettled)
  | ready value =>
    rw [hroot] at hsettled
    exact congrArg Except.ok (Option.some.inj hsettled)

variable (sound : store.Sound)
include sound

/-- A read settles the root of a crate. If it was loaded, it stays so. -/
theorem exists_graph_after_crateRoot (id : CrateId) :
    ∃ cell : Memo Crate (Option Element), cell.settled? = some (store.graph.root? id) ∧
      store.graph.RootCell id cell ∧
      (store.graph.isRootLoaded id = true → cell.isComputed = true) ∧
      ((crateRoot id).after store).graph = store.graph.setRoot id cell := by
  obtain ⟨-, hgraph⟩ | ⟨crate, failure, hcrate, hload, hpending, -, hgraph⟩ :=
    sound.follows.crateRoot_cases sound.numbered id
  · exact ⟨.ready (store.graph.root? id), rfl, .loaded, fun _ => rfl, hgraph⟩
  · refine ⟨.spent, ?_, .broken hcrate hload, fun hloaded => ?_, hgraph⟩
    · rw [CrateGraph.root?_of_error hcrate hload]
      rfl
    · obtain ⟨node, hnode, hroot⟩ := Option.map_eq_some_iff.mp hpending
      rw [CrateGraph.isRootLoaded, hnode, Option.any_some, hroot] at hloaded
      cases hloaded

/-- The loader is called if the root of a known crate is not settled yet. -/
theorem journal_crateRoot (id : CrateId) :
    ((crateRoot id).after store).journal = store.journal ++
      if (store.graph.crate? id).isSome && (store.graph.settledRoot? id).isNone then [.load id]
      else [] := by
  cases hnode : store.graph.node? id with
  | none =>
    rw [after, crateRoot_unknown hnode, CrateGraph.crate?, hnode]
    exact (List.append_nil _).symm
  | some node =>
    rw [after, crateRoot_known hnode, CrateGraph.crate?, CrateGraph.settledRoot?, hnode,
      Option.bind_some]
    cases hroot : node.root with
    | ready found => exact (List.append_nil _).symm
    | spent => exact (List.append_nil _).symm
    | pending crate =>
      have hcell := sound.cell hnode
      rw [hroot] at hcell
      cases hcell with
      | unread hcrate =>
        have hid := sound.numbered hcrate
        have hevent : Event.load crate.id = .load id := congrArg Event.load hid
        rw [← hevent]
        exact Memo.force_pending_state crate

end Walk

/-! ### Changes -/

/-- One thing that can happen to a store. -/
inductive Store.Change : Store → Store → Prop where
  | addCrate {store : Store} (name : Name) (origin : Origin) (settings : Cfg.Settings) :
      Change store { store with graph := store.graph.addCrate name origin settings }
  | addDependency {store : Store} (dependent : CrateId) (name : Name) (target : CrateId) :
      Change store { store with graph := store.graph.addDependency dependent name target }
  | note {store : Store} (text : String) : Change store ((Walk.note text).after store)
  | read {store : Store} (id : CrateId) : Change store ((Walk.crateRoot id).after store)

/-- Nothing that was known of any crate is taken back. -/
structure Store.Grows (store later : Store) : Prop where
  loader : later.graph.loader = store.graph.loader
  crate : ∀ {id : CrateId} {crate : Crate}, store.graph.crate? id = some crate →
    later.graph.crate? id = some crate
  dependencies : ∀ id, store.graph.dependencies id <+: later.graph.dependencies id
  settled : ∀ {id : CrateId} {found : Option Element}, store.graph.settledRoot? id = some found →
    later.graph.settledRoot? id = some found
  loaded : ∀ {id : CrateId}, store.graph.isRootLoaded id = true →
    later.graph.isRootLoaded id = true

namespace Store.Grows

variable {first second third : Store}

theorem refl (store : Store) : store.Grows store :=
  ⟨rfl, fun h => h, fun _ => List.prefix_refl _, fun h => h, fun h => h⟩

theorem trans (h : first.Grows second) (h' : second.Grows third) : first.Grows third where
  loader := h'.loader.trans h.loader
  crate hcrate := h'.crate (h.crate hcrate)
  dependencies id := (h.dependencies id).trans (h'.dependencies id)
  settled hsettled := h'.settled (h.settled hsettled)
  loaded hloaded := h'.loaded (h.loaded hloaded)

/-- The root of a crate stays what the loader finds. -/
theorem root?_eq (h : first.Grows second) {id : CrateId}
    (hknown : (first.graph.crate? id).isSome) : second.graph.root? id = first.graph.root? id := by
  obtain ⟨crate, hcrate⟩ := Option.isSome_iff_exists.mp hknown
  exact CrateGraph.root?_congr h.loader ((h.crate hcrate).trans hcrate.symm)

end Store.Grows

namespace CrateGraph

variable (graph : CrateGraph)

/-! #### A crate is added -/

section AddCrate

variable (name : Name) (origin : Origin) (settings : Cfg.Settings)

theorem crate?_addCrate_of_some {id : CrateId} {crate : Crate} (h : graph.crate? id = some crate) :
    (graph.addCrate name origin settings).crate? id = some crate := by
  obtain ⟨node, hnode, rfl⟩ := Option.map_eq_some_iff.mp h
  rw [crate?, graph.node?_addCrate_of_some name origin settings hnode, Option.map_some]

/-- Of a new crate nothing is settled. -/
theorem settledRoot?_addCrate (id : CrateId) :
    (graph.addCrate name origin settings).settledRoot? id = graph.settledRoot? id := by
  by_cases hid : id = graph.nextId
  · subst hid
    have hold : graph.node? graph.nextId = none := node?_eq_none_iff.mpr (Nat.le_refl _)
    rw [settledRoot?, settledRoot?, node?_addCrate_new, hold]
    rfl
  · rw [settledRoot?, settledRoot?, node?_addCrate_of_ne graph name origin settings hid]

theorem isRootLoaded_addCrate (id : CrateId) :
    (graph.addCrate name origin settings).isRootLoaded id = graph.isRootLoaded id := by
  by_cases hid : id = graph.nextId
  · subst hid
    have hold : graph.node? graph.nextId = none := node?_eq_none_iff.mpr (Nat.le_refl _)
    rw [isRootLoaded, isRootLoaded, node?_addCrate_new, hold]
    rfl
  · rw [isRootLoaded, isRootLoaded, node?_addCrate_of_ne graph name origin settings hid]

end AddCrate

/-! #### A dependency is added -/

section AddDependency

variable (dependent : CrateId) (name : Name) (target : CrateId)

theorem settledRoot?_addDependency (id : CrateId) :
    (graph.addDependency dependent name target).settledRoot? id = graph.settledRoot? id := by
  rw [settledRoot?_eq_bind, settledRoot?_eq_bind, map_node?_addDependency]
  exact fun _ _ => rfl

theorem isRootLoaded_addDependency (id : CrateId) :
    (graph.addDependency dependent name target).isRootLoaded id = graph.isRootLoaded id := by
  have hany (graph : CrateGraph) : graph.isRootLoaded id =
      ((graph.node? id).map (·.root)).any (·.isComputed) := (Option.any_map ..).symm
  rw [hany, hany, map_node?_addDependency]
  exact fun _ _ => rfl

end AddDependency

/-! #### A root is read -/

section SetRoot

variable {graph} {id : CrateId} {cell : Memo Crate (Option Element)}

theorem settledRoot?_setRoot_self (h : (graph.crate? id).isSome) :
    (graph.setRoot id cell).settledRoot? id = cell.settled? := by
  obtain ⟨crate, hcrate⟩ := Option.isSome_iff_exists.mp h
  obtain ⟨node, hnode, -⟩ := Option.map_eq_some_iff.mp hcrate
  rw [settledRoot?, node?_setRoot_self hnode, Option.bind_some]

theorem settledRoot?_setRoot_ne {other : CrateId} (h : other ≠ id) :
    (graph.setRoot id cell).settledRoot? other = graph.settledRoot? other := by
  rw [settledRoot?, settledRoot?, node?_setRoot_ne graph (Ne.symm h)]

theorem isSome_crate?_of_settledRoot? {found : Option Element}
    (h : graph.settledRoot? id = some found) : (graph.crate? id).isSome := by
  obtain ⟨node, hnode, -⟩ := Option.bind_eq_some_iff.mp h
  rw [crate?, hnode]
  rfl

theorem Regular.setRoot (regular : graph.Regular) : (graph.setRoot id cell).Regular := by
  refine ⟨fun {other node} h => ?_⟩
  have hsize : (graph.setRoot id cell).size = graph.size := List.length_modify ..
  rw [hsize]
  rw [node?_setRoot] at h
  obtain ⟨old, hold, rfl⟩ := Option.map_eq_some_iff.mp h
  have hplace := regular.inPlace hold
  by_cases hother : other = id
  · rw [if_pos hother]
    exact ⟨hplace.number, hplace.hyphenless, hplace.target_lt, hplace.dependencies_hyphenless⟩
  · rwa [if_neg hother]

end SetRoot

end CrateGraph

/-! ### Each change -/

namespace Store

variable (store : Store)

section Additions

variable (dependent : CrateId) (name : Name) (target : CrateId) (origin : Origin)
  (settings : Cfg.Settings)

theorem grows_addCrate :
    store.Grows { store with graph := store.graph.addCrate name origin settings } := by
  refine ⟨rfl, ?_, fun id => ?_, fun h => ?_, fun h => ?_⟩
  · exact store.graph.crate?_addCrate_of_some name origin settings
  · cases hnode : store.graph.node? id with
    | none =>
      rw [CrateGraph.dependencies, hnode]
      exact List.nil_prefix
    | some node =>
      have hnext := store.graph.node?_addCrate_of_some name origin settings hnode
      simp only [CrateGraph.dependencies_of_node? hnode, CrateGraph.dependencies_of_node? hnext,
        List.prefix_refl]
  · rwa [CrateGraph.settledRoot?_addCrate]
  · rwa [CrateGraph.isRootLoaded_addCrate]

theorem grows_addDependency :
    store.Grows { store with graph := store.graph.addDependency dependent name target } := by
  refine ⟨store.graph.loader_addDependency dependent name target, fun h => ?_, fun id => ?_,
    fun h => ?_, fun h => ?_⟩
  · rwa [CrateGraph.crate?_addDependency]
  · exact store.graph.dependencies_addDependency_prefix dependent name target
  · rwa [CrateGraph.settledRoot?_addDependency]
  · rwa [CrateGraph.isRootLoaded_addDependency]

variable {store} (sound : store.Sound)
include sound

theorem Sound.addCrate :
    Sound { store with graph := store.graph.addCrate name origin settings } := by
  refine ⟨sound.regular.addCrate name origin settings, fun {id node} hnode => ?_, fun id => ?_⟩
  · by_cases hid : id = store.graph.nextId
    · subst hid
      have hnew := store.graph.node?_addCrate_new name origin settings
      cases hnode.symm.trans hnew
      exact .unread (by rw [CrateGraph.crate?, hnew]; rfl)
    · have hold := hnode
      rw [CrateGraph.node?_addCrate_of_ne _ _ _ _ hid] at hold
      refine (sound.cell hold).congr rfl ?_
      rw [CrateGraph.crate?, CrateGraph.crate?, hold, hnode]
  · rw [CrateGraph.settledRoot?_addCrate]
    exact sound.count_load id

theorem Sound.addDependency :
    Sound { store with graph := store.graph.addDependency dependent name target } := by
  refine ⟨sound.regular.addDependency dependent name target, fun {id node} hnode => ?_,
    fun id => ?_⟩
  · have hroot : (store.graph.node? id).map (·.root) = some node.root := by
      rw [← store.graph.map_node?_addDependency dependent name target fun _ _ => rfl, hnode,
        Option.map_some]
    obtain ⟨old, hold, heq⟩ := Option.map_eq_some_iff.mp hroot
    rw [← heq]
    exact (sound.cell hold).congr (store.graph.loader_addDependency dependent name target).symm
      (store.graph.crate?_addDependency dependent name target).symm
  · rw [CrateGraph.settledRoot?_addDependency]
    exact sound.count_load id

end Additions

section Reads

variable {store} (sound : store.Sound)
include sound

theorem Sound.note (text : String) : Sound ((Walk.note text).after store) := by
  refine ⟨sound.regular, sound.cell, fun id => ?_⟩
  have hcount : (store.journal ++ [Event.note text]).count (.load id) =
      store.journal.count (.load id) := by simp
  exact hcount.trans (sound.count_load id)

theorem Sound.grows_crateRoot (id : CrateId) : store.Grows ((Walk.crateRoot id).after store) := by
  obtain ⟨cell, hsettled, -, hloaded, hgraph⟩ := Walk.exists_graph_after_crateRoot sound id
  refine ⟨?_, fun h => ?_, fun other => ?_, fun {other found} h => ?_, fun {other} h => ?_⟩
  · rw [hgraph]
    rfl
  · rwa [hgraph, CrateGraph.crate?_setRoot]
  · simp only [hgraph, CrateGraph.dependencies_setRoot, List.prefix_refl]
  · rw [hgraph]
    by_cases hother : other = id
    · subst hother
      have hknown := CrateGraph.isSome_crate?_of_settledRoot? h
      rw [CrateGraph.settledRoot?_setRoot_self hknown, hsettled, sound.settledRoot?_eq h]
    · rwa [CrateGraph.settledRoot?_setRoot_ne hother]
  · rw [hgraph]
    by_cases hother : other = id
    · subst hother
      have hcomputed := hloaded h
      cases hnode : store.graph.node? other with
      | none =>
        rw [CrateGraph.isRootLoaded, hnode] at h
        cases h
      | some node =>
        rwa [CrateGraph.isRootLoaded, CrateGraph.node?_setRoot_self hnode, Option.any_some]
    · rw [CrateGraph.isRootLoaded, CrateGraph.node?_setRoot_ne _ (Ne.symm hother)]
      exact h

/-- A read calls the loader if and only if it settles the root. -/
theorem Sound.count_load_crateRoot (id other : CrateId) :
    let later := (Walk.crateRoot id).after store
    later.journal.count (.load other) = if (later.graph.settledRoot? other).isSome then 1 else 0 := by
  obtain ⟨cell, hsettled, -, -, hgraph⟩ := Walk.exists_graph_after_crateRoot sound id
  dsimp only
  rw [Walk.journal_crateRoot sound id, List.count_append, sound.count_load, hgraph]
  by_cases hother : other = id
  · subst hother
    cases hknown : store.graph.crate? other with
    | none =>
      have hnode : store.graph.node? other = none := Option.map_eq_none_iff.mp hknown
      rw [CrateGraph.setRoot_unknown hnode]
      rfl
    | some crate =>
      have hself : (store.graph.setRoot other cell).settledRoot? other = cell.settled? :=
        CrateGraph.settledRoot?_setRoot_self (by rw [hknown]; rfl)
      rw [hself, hsettled]
      cases store.graph.settledRoot? other <;> simp
  · have hdiffers : Event.load id ≠ Event.load other := fun heq => hother (by cases heq; rfl)
    have hnone (condition : Bool) :
        (if condition then [Event.load id] else []).count (.load other) = 0 := by
      cases condition with
      | false => rfl
      | true => exact List.count_eq_zero.mpr fun h => hdiffers (List.mem_singleton.mp h).symm
    rw [CrateGraph.settledRoot?_setRoot_ne hother, hnone, Nat.add_zero]

theorem Sound.crateRoot (id : CrateId) : Sound ((Walk.crateRoot id).after store) := by
  obtain ⟨cell, -, -, -, hgraph⟩ := Walk.exists_graph_after_crateRoot sound id
  refine ⟨?_, fun {other node} hnode => ?_, sound.count_load_crateRoot id⟩
  · rw [hgraph]
    exact sound.regular.setRoot
  · have hfollows := sound.follows.crateRoot sound.numbered id
    exact (hfollows.cell hnode).congr hfollows.loader.symm (hfollows.crates other).symm

end Reads

variable {store} {next : Store}

theorem Change.grows (h : store.Change next) (sound : store.Sound) : store.Grows next := by
  cases h with
  | addCrate name origin settings => exact store.grows_addCrate name origin settings
  | addDependency dependent name target => exact store.grows_addDependency dependent name target
  | note text => exact ⟨rfl, fun h => h, fun _ => List.prefix_refl _, fun h => h, fun h => h⟩
  | read id => exact sound.grows_crateRoot id

theorem Change.sound (h : store.Change next) (sound : store.Sound) : next.Sound := by
  cases h with
  | addCrate name origin settings => exact sound.addCrate name origin settings
  | addDependency dependent name target => exact sound.addDependency dependent name target
  | note text => exact sound.note text
  | read id => exact sound.crateRoot id

end Store

/-! ### Any number of changes -/

/-- Changes made one after another. -/
abbrev Store.Changes : Store → Store → Prop := Relation.ReflTransGen Store.Change

namespace Store.Changes

variable {store later : Store} (h : store.Changes later) (start : store.Sound)
include h start

theorem sound : later.Sound := by
  induction h with
  | refl => exact start
  | tail _ hchange ih => exact hchange.sound ih

theorem grows : store.Grows later := by
  induction h with
  | refl => exact .refl store
  | tail hchanges hchange ih => exact ih.trans (hchange.grows (sound hchanges start))

end Store.Changes

/-- A store for a graph to which nothing was added yet. -/
def Store.new (loader : Loader) : Store := ⟨.empty loader, []⟩

theorem Store.sound_new (loader : Loader) : (Store.new loader).Sound where
  regular := CrateGraph.regular_empty loader
  cell h := by simp [new, CrateGraph.empty, CrateGraph.node?] at h
  count_load id := rfl

/-! ### Computations that add nothing -/

namespace Walk

/-- The computation may look at the store, write notes, read roots and break down. It adds neither
crates nor dependencies to the graph. -/
inductive AddsNothing : {α : Type} → Walk α → Prop where
  | pure {α : Type} (value : α) : AddsNothing (pure value)
  | fail {α : Type} (message : String) : AddsNothing (fail (α := α) message)
  | look : AddsNothing (get : Walk Store)
  | note (text : String) : AddsNothing (note text)
  | crateRoot (id : CrateId) : AddsNothing (crateRoot id)
  | bind {α β : Type} {walk : Walk α} {next : α → Walk β} :
      AddsNothing walk → (∀ value, AddsNothing (next value)) → AddsNothing (walk >>= next)

namespace AddsNothing

variable {walk : Walk α}

theorem map (h : walk.AddsNothing) (f : α → β) : (f <$> walk).AddsNothing := by
  rw [map_eq_pure_bind]
  exact h.bind fun value => .pure (f value)

/-- All that happens to the store is that notes are written and roots are read. The induction is on
the computation. -/
theorem changes (h : walk.AddsNothing) (store : Store) : store.Changes (walk.after store) := by
  induction h generalizing store with
  | pure value => exact .refl
  | fail message => exact .refl
  | look => exact .refl
  | note text => exact .single (.note text)
  | crateRoot id => exact .single (.read id)
  | @bind _ _ walk next _ _ ihwalk ihnext =>
    cases hanswer : walk.answer store with
    | ok value =>
      rw [after_bind_of_ok next hanswer]
      exact (ihwalk store).trans (ihnext value (walk.after store))
    | error failure =>
      rw [after, run_bind_error next hanswer]
      exact ihwalk store

end AddsNothing

end Walk

end ScopeWalk
