import ScopeWalk.Proofs.Crates.Designation
import ScopeWalk.Proofs.Resolve.Lifetime

/-!
# What the name of a crate stands for

An `extern crate` declaration stands for the roots of all crates that its name is given to, as they
are offered. To resolve it reads just these roots. With the plain loader every crate has a root, so
that none of them is left out.
-/
namespace ScopeWalk

open Candidate

/-! ### What resolving reads -/

theorem Walk.effect_bind_of {walk : Walk α} {next : α → Walk β} {rest : Walk Unit}
    (h : ∀ value, (next value).effect = rest) :
    (walk >>= next).effect = walk.effect >>= fun _ => rest := by
  rw [effect, map_bind, effect, bind_map_left]
  exact bind_congr h

/-- Candidates that do not bear the name are not asked. -/
theorem search_effect (name : Name) (entries : List Entry) :
    (search name entries).effect =
      Thunk.runAll ((entries.filter (·.name = name)).filterMap Entry.thunk?) := by
  induction entries with
  | nil => rfl
  | cons entry rest ih =>
    have hrest (accepted : Option (Entry × Element)) :
        (search name rest >>= fun others => pure (accepted.toList ++ others)).effect =
          Thunk.runAll ((rest.filter (·.name = name)).filterMap Entry.thunk?) := by
      rw [Walk.effect_bind_pure, ih]
    have hstep : (search name (entry :: rest)).effect = (judge name entry).effect >>= fun _ =>
        Thunk.runAll ((rest.filter (·.name = name)).filterMap Entry.thunk?) :=
      Walk.effect_bind_of hrest
    rw [hstep, judge_effect, List.filter_cons]
    by_cases hname : entry.name = name
    · rw [if_pos hname, if_pos (decide_eq_true hname), Entry.force_effect, ← Thunk.runAll_append]
      cases hthunk : entry.thunk? with
      | none => rw [List.filterMap_cons_none hthunk, Option.toList_none, List.nil_append]
      | some thunk =>
        rw [List.filterMap_cons_some hthunk, Option.toList_some, List.singleton_append]
    · rw [if_neg hname, if_neg (by simpa using hname), pure_bind]

section Collect

variable (name : Name) (entries : List Entry) (store : Store)

theorem answer_collect_entries :
    (collect (n := Walk) name (Feed.entries entries)).answer store =
      outcome name store entries ((acceptedOf name store entries).map Prod.snd) := by
  have hfinds := collectWith_finds name (fun _ element => element) (entries.map .candidate) store
    (fun _ _ => Feed.entries entries) fun _ _ _ _ => rfl
  rw [candidatesOf_heard_map_candidate] at hfinds
  exact hfinds.answer

theorem after_collect_entries : (collect (n := Walk) name (Feed.entries entries)).after store =
    (Thunk.runAll ((entries.filter (·.name = name)).filterMap Entry.thunk?)).after store := by
  have hrun := collectWith_run name (fun _ element => element) (entries.map .candidate) store
  rw [candidatesOf_heard_map_candidate] at hrun
  rw [← search_effect, Walk.after_effect]
  exact (congrArg Prod.snd hrun).trans (Walk.after_bind_pure _)

end Collect

/-! ### Candidates for crates -/

section OfCrate

variable {store : Store} {id : CrateId} {root : Option Element} (name : Name)
  (h : (Walk.crateRoot id).answer store = .ok root)
include h

theorem answer_force_ofCrate : ∃ settled,
    (force (Entry.ofCrate name id)).answer store = .ok (root, settled) := by
  let entry : LazyEntry := .ofThunk name (.crateRoot id) true
  have hread : entry.force.answer store = .ok (root, entry.settle root) := by
    have hlookup : entry.lookup.answer store = .ok root := h
    rw [LazyEntry.force_eq, Walk.answer_bind_pure, hlookup]
    rfl
  have hforce : force (Entry.ofCrate name id) = entry.force >>= fun read =>
      pure (read.1, Entry.deferred read.2) := rfl
  rw [hforce, Walk.answer_bind_pure, hread]
  exact ⟨_, rfl⟩

theorem elementIn_ofCrate : elementIn store (Entry.ofCrate name id) = root := by
  obtain ⟨settled, hforce⟩ := answer_force_ofCrate name h
  rw [elementIn, hforce]

theorem failureIn?_ofCrate : failureIn? store (Entry.ofCrate name id) = none := by
  obtain ⟨settled, hforce⟩ := answer_force_ofCrate name h
  rw [failureIn?, hforce]

end OfCrate

/-! ### The plain loader -/

/-- The root that the plain loader makes for a crate. -/
def Crate.plainRoot (crate : Crate) : Element :=
  { Decl.ofKind .crateRoot (.root crate) with
    name := crate.name, visibility := some .pub, id := .crateRoot crate.id }

/-- Such a root is never left out of the build. -/
theorem Crate.isEnabled_plainRoot (crate : Crate) : crate.plainRoot.isEnabled = true := rfl

/-- A sound store in which the plain loader finds the roots. -/
structure Store.Plain (store : Store) : Prop where
  sound : store.Sound
  loader : store.graph.loader = .plain

namespace Store.Plain

variable {store : Store}

theorem following (actions : List Action) :
    ((Store.new .plain).following actions).Plain where
  sound := Store.sound_following .plain actions
  loader := (Store.Changes.grows ((Store.new .plain).changes_following actions)
    (Store.sound_new .plain)).loader

variable (plain : store.Plain) (id : CrateId)
include plain

theorem root?_eq : store.graph.root? id = (store.graph.crate? id).map (·.plainRoot) := by
  rw [CrateGraph.root?, plain.loader]
  cases hcrate : store.graph.crate? id with
  | none => rfl
  | some crate =>
    have hid := plain.sound.numbered hcrate
    rw [Option.map_some, Option.map_some, Crate.plainRoot, hid]
    rfl

theorem answer_crateRoot :
    (Walk.crateRoot id).answer store = .ok ((store.graph.crate? id).map (·.plainRoot)) := by
  obtain ⟨hanswer, -⟩ | ⟨_, _, -, hload, -, -, -⟩ :=
    plain.sound.follows.crateRoot_cases plain.sound.numbered id
  · rw [hanswer, plain.root?_eq]
  · rw [plain.loader] at hload
    cases hload

theorem after_crateRoot : ((Walk.crateRoot id).after store).Plain := by
  have hchange : store.Change ((Walk.crateRoot id).after store) := .read id
  exact ⟨hchange.sound plain.sound, (hchange.grows plain.sound).loader.trans plain.loader⟩

/-- Roots can be read one after another. -/
theorem answer_runAll (ids : List CrateId) :
    (Thunk.runAll (ids.map .crateRoot)).answer store = .ok () := by
  induction ids generalizing store with
  | nil => rfl
  | cons id rest ih =>
    have hfirst : (Walk.crateRoot id).effect.answer store = .ok () := by
      rw [Walk.answer_effect, plain.answer_crateRoot]
      rfl
    have hrun := Walk.run_bind_ok (fun _ => Thunk.runAll (rest.map .crateRoot)) hfirst
    rw [Walk.after_effect] at hrun
    exact (congrArg Prod.fst hrun).trans (ih (plain.after_crateRoot id))

end Store.Plain

/-! ### Resolving -/

section Resolve

variable {store : Store} (plain : store.Plain) (id : CrateId) (name : Name)

/-- What bears the name of all that a crate can name. -/
def CrateGraph.namesakes (graph : CrateGraph) (id : CrateId) (name : Name) : List Dependency :=
  (graph.nameable id true false).filter (·.name = name)

/-- Of what bears a name other than `self` nothing is on the standard library, or it is one crate. -/
theorem origins_of_namesakes {name : Name} (hname : name ≠ ⟨"self"⟩) {crates : List Crate}
    (h : (store.graph.namesakes id name).map (fun dependency =>
      store.graph.crate? dependency.crate) = crates.map some) :
    let roots := crates.map (·.plainRoot)
    (∀ root ∈ roots, root.module.crate.origin ≠ .stdlib) ∨
      ∃ root, roots = [root] ∧ root.module.crate.origin = .stdlib := by
  intro roots
  have hstdlib {dependency : Dependency} {crate : Crate}
      (hcrate : store.graph.crate? dependency.crate = some crate) :
      store.graph.isStdlib dependency = true ↔ crate.origin = .stdlib := by
    rw [CrateGraph.isStdlib_iff, CrateGraph.originOf, hcrate, Option.map_some, Option.some_inj]
  obtain hnone | ⟨dependency, hone, hdependency⟩ := store.graph.filter_nameable hname id true
  · refine .inl (List.forall_mem_map.mpr fun crate hcrate horigin => ?_)
    have hmem : some crate ∈ crates.map some := List.mem_map.mpr ⟨crate, hcrate, rfl⟩
    rw [← h] at hmem
    obtain ⟨dependency, hdependency, hknown⟩ := List.mem_map.mp hmem
    have hnot := hnone dependency hdependency
    rw [(hstdlib hknown).mpr horigin] at hnot
    cases hnot
  · rw [CrateGraph.namesakes, hone] at h
    obtain ⟨crate, rfl, hcrate⟩ := List.map_eq_singleton_iff.mp h.symm
    exact .inr ⟨crate.plainRoot, rfl, (hstdlib hcrate.symm).mp hdependency⟩

theorem answer_externCrateRefersTo {roots : List Element}
    (hroots : (resolveExternCrate id name).answer store = .ok roots) (element : Element) :
    (externCrateRefersTo id name element).answer store =
      .ok (element.kind = .crateRoot && roots.contains element) := by
  unfold externCrateRefersTo
  by_cases hkind : element.kind = .crateRoot
  · rw [if_pos hkind, Walk.answer_bind_pure, hroots]
    simp only [hkind, decide_true, Bool.true_and]
    rfl
  · rw [if_neg hkind]
    simp only [hkind, decide_false, Bool.false_and]
    rfl

include plain

/-- All these crates are there. -/
theorem exists_crates_namesakes : ∃ crates : List Crate,
    (store.graph.namesakes id name).map (fun dependency => store.graph.crate? dependency.crate) =
      crates.map some := by
  have hknown : ∀ dependency ∈ store.graph.namesakes id name,
      (store.graph.crate? dependency.crate).isSome := fun dependency hdependency =>
    plain.sound.regular.isSome_crate?_of_mem_nameable (List.mem_filter.mp hdependency).1
  generalize store.graph.namesakes id name = namesakes at hknown
  induction namesakes with
  | nil => exact ⟨[], rfl⟩
  | cons dependency rest ih =>
    obtain ⟨hfirst, hrest⟩ := List.forall_mem_cons.mp hknown
    obtain ⟨crate, hcrate⟩ := Option.isSome_iff_exists.mp hfirst
    obtain ⟨crates, hcrates⟩ := ih hrest
    exact ⟨crate :: crates, by rw [List.map_cons, List.map_cons, hcrate, hcrates]⟩

theorem resolveExternCrate_run :
    (resolveExternCrate id name).run.run store = (collect (n := Walk) name (Feed.entries
      ((store.graph.nameable id true false).map CrateGraph.dependencyEntry))).run.run store := by
  have hfeed : store.graph.externFeed (m := StateT (List Element) Walk) id true false =
      Feed.entries ((store.graph.nameable id true false).map CrateGraph.dependencyEntry) := by
    funext visit
    rw [CrateGraph.externFeed_eq_entries, plain.sound.regular.externEntries_eq]
  have hresolve : (resolveExternCrate id name).run.run store =
      (collect (n := Walk) name (store.graph.externFeed id true false)).run.run store := rfl
  rw [hresolve, hfeed]

theorem after_resolveExternCrate_plain : (resolveExternCrate id name).after store =
    (Thunk.runAll (((store.graph.namesakes id name).map (·.crate)).map .crateRoot)).after store := by
  have hrun := congrArg Prod.snd (resolveExternCrate_run plain id name)
  have hthunks : ((((store.graph.nameable id true false).map CrateGraph.dependencyEntry).filter
      (·.name = name)).filterMap Entry.thunk?) =
        ((store.graph.namesakes id name).map (·.crate)).map .crateRoot := by
    rw [List.filter_map, List.filterMap_map, List.map_map, ← List.filterMap_eq_map]
    rfl
  rw [← hthunks, ← after_collect_entries]
  exact hrun

/-- None of the candidates for dependencies breaks down. -/
theorem failureOf?_dependencyEntry (dependencies : List Dependency) :
    failureOf? name store (dependencies.map CrateGraph.dependencyEntry) = none := by
  refine List.findSome?_eq_none_iff.mpr (List.forall_mem_map.mpr fun dependency _ => ?_)
  have hdependency : failureIn? store (CrateGraph.dependencyEntry dependency) = none :=
    failureIn?_ofCrate _ (plain.answer_crateRoot dependency.crate)
  rw [failure?, hdependency, ite_self]

/-- The ones that bear the name are all accepted, as far as their crates are there. -/
theorem map_snd_acceptedOf_dependencyEntry (dependencies : List Dependency) :
    (acceptedOf name store (dependencies.map CrateGraph.dependencyEntry)).map Prod.snd =
      (dependencies.filter (·.name = name)).filterMap fun dependency =>
        (store.graph.crate? dependency.crate).map (·.plainRoot) := by
  rw [acceptedOf, List.map_filterMap, List.filterMap_map, List.filterMap_filter]
  refine congrArg (List.filterMap · _) (funext fun dependency => ?_)
  have hname : Candidate.name (CrateGraph.dependencyEntry dependency) = dependency.name := rfl
  have helement : elementIn store (CrateGraph.dependencyEntry dependency) =
      (store.graph.crate? dependency.crate).map (·.plainRoot) :=
    elementIn_ofCrate _ (plain.answer_crateRoot dependency.crate)
  rw [Function.comp_apply, map_snd_accepted?, hname, helement]
  cases store.graph.crate? dependency.crate with
  | none => simp
  | some crate => simp [Crate.isEnabled_plainRoot, Option.filter]

theorem answer_resolveExternCrate {crates : List Crate}
    (h : (store.graph.namesakes id name).map (fun dependency =>
      store.graph.crate? dependency.crate) = crates.map some) :
    (resolveExternCrate id name).answer store = .ok (crates.map (·.plainRoot)) := by
  have hcrates := congrArg (List.filterMap (Option.map (·.plainRoot))) h
  rw [List.filterMap_map, List.filterMap_map] at hcrates
  have hrun := congrArg Prod.fst (resolveExternCrate_run plain id name)
  refine hrun.trans ((answer_collect_entries name _ store).trans ?_)
  rw [outcome, failureOf?_dependencyEntry plain, Option.elim_none,
    map_snd_acceptedOf_dependencyEntry plain, ← List.filterMap_eq_map]
  exact congrArg Except.ok hcrates

/-- The roots of these crates are loaded then, and nothing else happens. -/
theorem node?_after_resolveExternCrate (other : CrateId) :
    ((resolveExternCrate id name).after store).graph.node? other =
      (store.graph.node? other).map fun node =>
        if other ∈ (store.graph.namesakes id name).map (·.crate) then
          { node with root := .ready (store.graph.root? other) }
        else node := by
  have hnodes := plain.sound.follows.node?_runAll plain.sound.numbered _
    (plain.answer_runAll ((store.graph.namesakes id name).map (·.crate)))
  rw [after_resolveExternCrate_plain plain]
  exact hnodes.2 other

theorem count_after_resolveExternCrate (other : CrateId) :
    ((resolveExternCrate id name).after store).journal.count (.load other) =
      if other ∈ (store.graph.namesakes id name).map (·.crate) then 1
      else store.journal.count (.load other) := by
  have hlater : ((resolveExternCrate id name).after store).Sound :=
    Store.Changes.sound ((resolveExternCrate_addsNothing id name).changes store) plain.sound
  have hnode := node?_after_resolveExternCrate plain id name other
  rw [hlater.count_load, CrateGraph.settledRoot?, hnode]
  by_cases hother : other ∈ (store.graph.namesakes id name).map (·.crate)
  · obtain ⟨dependency, hdependency, rfl⟩ := List.mem_map.mp hother
    have hknown := plain.sound.regular.isSome_crate?_of_mem_nameable
      (List.mem_filter.mp hdependency).1
    obtain ⟨crate, hcrate⟩ := Option.isSome_iff_exists.mp hknown
    obtain ⟨node, hnode, -⟩ := Option.map_eq_some_iff.mp hcrate
    simp only [hother, if_true, hnode, Option.map_some, Option.bind_some]
    rfl
  · simp only [hother, if_false, Option.map_id']
    exact (plain.sound.count_load other).symm

end Resolve

/-- A name stands in a crate for these other crates, with these roots. -/
structure Store.Designates (store : Store) (id : CrateId) (name : Name) (targets : List CrateId)
    (roots : List Element) : Prop where
  read : targets.map (fun target => (Walk.crateRoot target).answer store) =
    roots.map fun root => .ok (some root)
  resolve : (resolveExternCrate id name).answer store = .ok roots
  /-- The standard library goes by no name that something else was given. -/
  stdlib : name ≠ ⟨"self"⟩ → (∀ root ∈ roots, root.module.crate.origin ≠ .stdlib) ∨
    ∃ root, roots = [root] ∧ root.module.crate.origin = .stdlib
  /-- To resolve the name changes nothing but the root cells of these crates. -/
  node?_after : ∀ other, ((resolveExternCrate id name).after store).graph.node? other =
    (store.graph.node? other).map fun node =>
      if other ∈ targets then { node with root := .ready (store.graph.root? other) } else node
  count_after : ∀ other, ((resolveExternCrate id name).after store).journal.count (.load other) =
    if other ∈ targets then 1 else store.journal.count (.load other)
  /-- An element is known by its identity. -/
  refers : ∀ element : Element, (∀ root ∈ roots, element.id = root.id → element = root) →
    ∃ verdict, (externCrateRefersTo id name element).answer store = .ok verdict ∧
      (verdict = true ↔ element ∈ roots)

theorem Store.Plain.designates {store : Store} (plain : store.Plain) {id : CrateId} {name : Name}
    {crates : List Crate} (h : (store.graph.namesakes id name).map (fun dependency =>
      store.graph.crate? dependency.crate) = crates.map some) :
    store.Designates id name ((store.graph.namesakes id name).map (·.crate))
      (crates.map (·.plainRoot)) where
  read := by
    have hanswers := congrArg (List.map fun crate? : Option Crate =>
      (.ok (crate?.map (·.plainRoot)) : Except Failure (Option Element))) h
    simp only [List.map_map] at hanswers ⊢
    simp only [plain.answer_crateRoot]
    exact hanswers
  resolve := answer_resolveExternCrate plain id name h
  stdlib hself := origins_of_namesakes id hself h
  node?_after := node?_after_resolveExternCrate plain id name
  count_after := count_after_resolveExternCrate plain id name
  refers element hgenuine := by
    have hanswer := answer_resolveExternCrate plain id name h
    refine ⟨_, answer_externCrateRefersTo id name hanswer element, ?_⟩
    rw [Bool.and_eq_true, decide_eq_true_eq, List.contains_iff_exists_mem_beq]
    constructor
    · rintro ⟨-, root, hroot, hsame⟩
      rw [hgenuine root hroot (Element.beq_iff.mp hsame)]
      exact hroot
    · intro helement
      obtain ⟨crate, -, rfl⟩ := List.mem_map.mp helement
      exact ⟨rfl, crate.plainRoot, helement, Element.beq_iff.mpr rfl⟩

/-- Let a graph of crates be made from an empty one by any number of additions, with roots read,
names resolved and scopes walked in between. To any visitor a crate offers what it can name: itself
if asked to, then its dependencies in the order they were added, those on the standard library last
and only under names that were not given before, or for completion just the third-party ones. With
the plain loader a name resolves to the roots of all that is offered under it, in order. If it is
not `self`, then none of them is of the standard library, or there is one root alone. These roots are
loaded, once each, and nothing else happens. A declaration refers to an element just if that is one
of them, provided that no two elements have one identity. -/
theorem extern_names_designate (loader : Loader) (actions : List Action) :
    (let graph := ((Store.new loader).following actions).graph
      ∀ (m : Type → Type) [Monad m] [LawfulMonad m] (visit : Visitor m Entry) (id : CrateId)
        (withSelf forCompletion : Bool), graph.externFeed id withSelf forCompletion visit =
          Feed.entries ((graph.nameable id withSelf forCompletion).map
            fun dependency => .ofCrate dependency.name dependency.crate) visit) ∧
    let store := (Store.new .plain).following actions
    ∀ (id : CrateId) (name : Name),
      let named := (store.graph.nameable id true false).filter (·.name = name)
      ∃ roots : List Element, store.Designates id name (named.map (·.crate)) roots := by
  constructor
  · intro graph m _ _ visit id withSelf forCompletion
    have regular := (Store.sound_following loader actions).regular
    rw [CrateGraph.externFeed_eq_entries, regular.externEntries_eq]
    rfl
  · intro store id name named
    have plain : store.Plain := .following actions
    obtain ⟨crates, hcrates⟩ := exists_crates_namesakes plain id name
    exact ⟨_, plain.designates hcrates⟩

/-- A crate whose dependencies include the standard library under two names, one of which was also
given to a third-party crate, and one of which was given twice. -/
def sampleClashes : List Action :=
  [.addCrate ⟨"app"⟩ .workspace .empty, .addCrate ⟨"std"⟩ .stdlib .empty,
    .addCrate ⟨"std-shim"⟩ .dependency .empty, .addDependency ⟨0⟩ ⟨"std"⟩ ⟨1⟩,
    .addDependency ⟨0⟩ ⟨"core"⟩ ⟨1⟩, .addDependency ⟨0⟩ ⟨"core"⟩ ⟨1⟩,
    .addDependency ⟨0⟩ ⟨"std"⟩ ⟨2⟩]

/-- The third-party crate has the one name for itself, and the other stands for the standard library
once. Only that is loaded when this other name is resolved. -/
theorem extern_names_designate_sample :
    let store := (Store.new .plain).following sampleClashes
    let later := (resolveExternCrate ⟨0⟩ ⟨"core"⟩).after store
    store.graph.nameable ⟨0⟩ true false = [⟨⟨"self"⟩, ⟨0⟩⟩, ⟨⟨"std"⟩, ⟨2⟩⟩, ⟨⟨"core"⟩, ⟨1⟩⟩] ∧
      (⟨"core"⟩ : Name) ≠ ⟨"self"⟩ ∧
      (∃ root, (resolveExternCrate ⟨0⟩ ⟨"core"⟩).answer store = .ok [root] ∧
        root.module.crate.origin = .stdlib ∧
        (externCrateRefersTo ⟨0⟩ ⟨"core"⟩ root).answer store = .ok true) ∧
      later.journal = [.load ⟨1⟩] := by
  intro store later
  have hself : (⟨"core"⟩ : Name) ≠ ⟨"self"⟩ := by decide
  obtain ⟨-, hresolve⟩ := extern_names_designate .plain sampleClashes
  obtain ⟨roots, hdesignates⟩ := hresolve ⟨0⟩ ⟨"core"⟩
  have hanswer := hdesignates.resolve
  have hroots : roots = [(⟨⟨1⟩, ⟨"std"⟩, .stdlib, .empty⟩ : Crate).plainRoot] :=
    Except.ok.inj (hanswer.symm.trans (by rfl))
  subst hroots
  obtain hnone | ⟨root, hone, horigin⟩ := hdesignates.stdlib hself
  · exact absurd rfl (hnone _ (.head _))
  · obtain ⟨verdict, hverdict, hiff⟩ := hdesignates.refers root fun other hother _ => by
      rw [hone] at hother
      exact (List.mem_singleton.mp hother).symm
    have hmem : verdict = true := hiff.mpr (by rw [hone]; exact .head _)
    exact ⟨by rfl, hself, ⟨root, hone ▸ hanswer, horigin, hmem ▸ hverdict⟩, by rfl⟩

end ScopeWalk
