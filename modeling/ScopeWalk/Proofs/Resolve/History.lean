import ScopeWalk.Proofs.Crates.ExternOffers
import ScopeWalk.Proofs.Resolve.Queries
import ScopeWalk.Proofs.Scope.LexicalOffers

/-!
# What was done before

A graph of crates is shared by all who resolve names in it, and every root that one of them reads
is loaded for the others, too. Nobody can tell: whatever was read, resolved or walked before, a
query is answered as it would have been when the graph was newly built.

All stores that can be reached from a graph are alike. That is so because each step towards them
only reads roots, and what is offered depends on no root.
-/
namespace ScopeWalk

/-- Something to walk over in a graph of crates. -/
inductive Ground where
  | items (scopes : ScopeGraph) (scope : ItemScope)
  | lexical (scopes : ScopeGraph) (layers : List Layer)
  /-- The crates that a crate can name. -/
  | externCrates (id : CrateId) (withSelf forCompletion : Bool)

namespace Ground

section Feed

variable {m : Type → Type u} [Monad m] (crates : CrateGraph)

def feed : Ground → Feed m Entry
  | .items scopes scope => scopes.feed scope
  | .lexical scopes layers => lexicalFeed scopes layers
  | .externCrates id withSelf forCompletion => crates.externFeed id withSelf forCompletion

/-- The walk over one ground after another. -/
def feedAll (grounds : List Ground) : Feed m Entry := fun visit =>
  grounds.anyM fun ground => ground.feed crates visit

def offers : Ground → List (Offer Entry)
  | .items scopes scope => scopes.scopeOffers scope
  | .lexical scopes layers => lexicalOffers scopes layers
  | .externCrates id withSelf forCompletion =>
    (crates.externEntries forCompletion id withSelf).map .candidate

variable [LawfulMonad m]

theorem feed_eq_ofList (ground : Ground) (visit : Visitor m Entry) :
    ground.feed crates visit = Feed.ofList (ground.offers crates) visit := by
  cases ground with
  | items scopes scope => exact scopes.feed_eq_ofList scope visit
  | lexical scopes layers => exact lexicalFeed_eq_ofList scopes layers visit
  | externCrates id withSelf forCompletion =>
    exact crates.externFeed_eq_entries forCompletion id withSelf visit

theorem feedAll_eq_ofList (grounds : List Ground) (visit : Visitor m Entry) :
    feedAll crates grounds visit = Feed.ofList (grounds.flatMap (·.offers crates)) visit := by
  simp only [feedAll, feed_eq_ofList, Feed.anyM_ofList]

end Feed

/-! ### What is offered -/

/-- What scopes offer: declarations that are known, and crates. -/
inductive FromScope : Offer Entry → Prop where
  | boundary : FromScope .globBoundary
  | direct (entry : DirectEntry) : FromScope (.candidate (.direct entry))
  | crate (name : Name) (id : CrateId) : FromScope (.candidate (.ofCrate name id))

section Offers

variable {entry : Entry}

theorem FromScope.readable {offer : Offer Entry} (h : FromScope offer) : offer.IsReadable := by
  cases h with
  | boundary => exact trivial
  | direct entry => exact .pure _
  | crate name id =>
    show (Entry.ofCrate name id).force.ReadsRoots
    rw [Entry.ofCrate, Entry.force, LazyEntry.force_eq]
    exact ((Walk.ReadsRoots.crateRoot id).bind fun _ => .pure _).bind fun _ => .pure _

theorem named?_fromScope {subst : Substitution} {element : Element}
    (h : Entry.named? subst element = some entry) : FromScope (.candidate entry) := by
  obtain ⟨name, -, rfl⟩ := Option.map_eq_some_iff.mp h
  exact .direct _

theorem binding_fromScope {binding : Binding} (h : binding.entry? = some entry) :
    FromScope (.candidate entry) := by
  rcases binding with element | ⟨name, target⟩ | ⟨name, target⟩
  · exact named?_fromScope h
  · cases h
    exact .direct _
  · cases h
    exact .crate name target

theorem bindings_fromScope (bindings : List Binding) :
    ∀ offer ∈ (bindings.filterMap Binding.entry?).map Offer.candidate, FromScope offer := by
  simp only [List.forall_mem_map, List.forall_mem_filterMap]
  intro binding _ entry hentry
  exact binding_fromScope hentry

theorem scopeOffers_fromScope (scopes : ScopeGraph) (scope : ItemScope) :
    ∀ offer ∈ scopes.scopeOffers scope, FromScope offer := by
  rw [ScopeGraph.scopeOffers]
  refine List.forall_mem_append.mpr ⟨bindings_fromScope scope.bindings, ?_⟩
  cases scope.globs.isEmpty with
  | true => simp
  | false =>
    refine List.forall_mem_cons.mpr ⟨.boundary, ?_⟩
    rw [ScopeGraph.globEntries, List.map_flatMap]
    intro offer hoffer
    obtain ⟨place, -, hplace⟩ := List.mem_flatMap.mp hoffer
    exact bindings_fromScope _ offer hplace

theorem lexicalOffers_fromScope (scopes : ScopeGraph) (layers : List Layer) :
    ∀ offer ∈ lexicalOffers scopes layers, FromScope offer := by
  intro offer hoffer
  obtain ⟨layer, -, hlayer⟩ := List.mem_flatMap.mp hoffer
  cases layer with
  | items scope => exact scopeOffers_fromScope scopes scope offer hlayer
  | bindings elements =>
    obtain ⟨entry, hentry, rfl⟩ := List.mem_map.mp hlayer
    obtain ⟨element, -, helement⟩ := List.mem_filterMap.mp hentry
    exact named?_fromScope helement

theorem externEntries_fromScope (crates : CrateGraph) (forCompletion : Bool) (id : CrateId)
    (withSelf : Bool) :
    ∀ offer ∈ (crates.externEntries forCompletion id withSelf).map Offer.candidate,
      FromScope offer := by
  rw [CrateGraph.externEntries, List.forall_mem_map]
  cases (crates.crate? id).isNone with
  | true => simp
  | false =>
    refine List.forall_mem_append.mpr ⟨?_, List.forall_mem_map.mpr fun dependency _ => ?_⟩
    · cases withSelf with
      | true => exact List.forall_mem_singleton.mpr (.crate ⟨"self"⟩ id)
      | false => simp
    · exact .crate dependency.name dependency.crate

theorem offers_fromScope (crates : CrateGraph) (grounds : List Ground) :
    ∀ offer ∈ grounds.flatMap (·.offers crates), FromScope offer := by
  intro offer hoffer
  obtain ⟨ground, -, hground⟩ := List.mem_flatMap.mp hoffer
  cases ground with
  | items scopes scope => exact scopeOffers_fromScope scopes scope offer hground
  | lexical scopes layers => exact lexicalOffers_fromScope scopes layers offer hground
  | externCrates id withSelf forCompletion =>
    exact externEntries_fromScope crates forCompletion id withSelf offer hground

/-- All that is offered can be asked for its element. -/
theorem offers_readable (crates : CrateGraph) (grounds : List Ground) :
    ∀ offer ∈ grounds.flatMap (·.offers crates), offer.IsReadable :=
  fun offer hoffer => (offers_fromScope crates grounds offer hoffer).readable

end Offers

/-- What is offered has nothing to do with what was read of the crates. -/
theorem offers_eq {crates others : CrateGraph} (hcrates : ∀ id, crates.crate? id = others.crate? id)
    (hdependencies : ∀ id, crates.dependencies id = others.dependencies id) (ground : Ground) :
    ground.offers crates = ground.offers others := by
  cases ground with
  | items scopes scope => rfl
  | lexical scopes layers => rfl
  | externCrates id withSelf forCompletion =>
    exact congrArg (List.map Offer.candidate)
      (CrateGraph.externEntries_congr forCompletion hcrates hdependencies id withSelf)

theorem offers_congr {store other : Store} (h : store.Alike other) (ground : Ground) :
    ground.offers store.graph = ground.offers other.graph :=
  ground.offers_eq h.crates h.dependencies

end Ground

/-! ### What can be done before -/

/-- The stores that a newly built graph can be left in: by reading roots, resolving `extern crate`
declarations, and asking queries, in any order. -/
inductive Store.Reached (graph : CrateGraph) : Store → Prop where
  | built : Reached graph ⟨graph, []⟩
  | read {store : Store} (id : CrateId) :
      Reached graph store → Reached graph ((Walk.crateRoot id).after store)
  | resolve {store : Store} (id : CrateId) (name : Name) :
      Reached graph store → Reached graph ((resolveExternCrate id name).after store)
  | ask {store : Store} {σ : Type} (query : Query σ) (grounds : List Ground) :
      Reached graph store →
        Reached graph ((query.run Walk (Ground.feedAll store.graph grounds)).after store)

section History

variable {graph : CrateGraph} {store : Store}

/-- Asking a query reads roots and does nothing else. -/
theorem alike_after_ask {σ : Type} (query : Query σ) (grounds : List Ground)
    (unbroken : store.Unbroken) :
    store.Alike ((query.run Walk (Ground.feedAll store.graph grounds)).after store) := by
  have hfeed : Ground.feedAll (m := StateT σ Walk) store.graph grounds =
      Feed.ofList (grounds.flatMap (·.offers store.graph)) :=
    funext (Ground.feedAll_eq_ofList store.graph grounds)
  have hreads := (query.follow_reads query.start []
    (Ground.offers_readable store.graph grounds)).map fun followed => followed.1.2
  rw [hfeed, Query.run_list]
  obtain ⟨result, -, halike⟩ := hreads.answer_ok unbroken
  exact halike

theorem after_resolveExternCrate (id : CrateId) (name : Name) :
    (resolveExternCrate id name).after store =
      ((Query.collect name).run Walk
        (Ground.feedAll store.graph [.externCrates id true false])).after store := by
  have hfeed : store.graph.externFeed (m := StateT (List Element) Walk) id true false =
      Ground.feedAll store.graph [.externCrates id true false] := by
    funext visit
    rw [Ground.feedAll_eq_ofList, List.flatMap_singleton]
    exact store.graph.externFeed_eq_entries false id true visit
  have hresolve : (resolveExternCrate id name).after store =
      (collect (n := Walk) name (store.graph.externFeed id true false)).after store := rfl
  rw [hresolve, hfeed]
  rfl

theorem unbroken_of_built (built : graph.Built) (loads : graph.Loads) :
    (⟨graph, []⟩ : Store).Unbroken :=
  fun id => ⟨graph.root? id, Walk.answer_crateRoot_built built loads id []⟩

/-- Whatever was done before, the store answers as it would have at first. The induction is on what
was done. -/
theorem alike_of_reached (built : graph.Built) (loads : graph.Loads)
    (reached : store.Reached graph) : (⟨graph, []⟩ : Store).Alike store := by
  have unbroken := unbroken_of_built built loads
  induction reached with
  | built => exact .refl _
  | read id _ ih =>
    obtain ⟨root, -, halike⟩ :=
      (Walk.ReadsRoots.crateRoot id).answer_ok (unbroken.of_sameRoots ih.roots)
    exact ih.trans halike
  | resolve id name _ ih =>
    rw [after_resolveExternCrate]
    exact ih.trans (alike_after_ask _ _ (unbroken.of_sameRoots ih.roots))
  | ask query grounds _ ih =>
    exact ih.trans (alike_after_ask query grounds (unbroken.of_sameRoots ih.roots))

end History

/-- On a graph whose loader never breaks down, each crate has one root, and each query over scopes,
lexical chains and the crates that can be named has one result, which it comes to by the same calls.
That is so from every store that the graph was left in by what was done before, the one that was
newly built as well as the one that the query itself leaves behind. -/
theorem answers_outlive_loads {graph : CrateGraph} (built : graph.Built) (loads : graph.Loads) :
    (∀ store : Store, store.Reached graph → ∀ id,
      (Walk.crateRoot id).answer store = .ok (graph.root? id)) ∧
    ∀ {σ : Type} (query : Query σ) (grounds : List Ground), ∃ result calls,
      ∀ store : Store, store.Reached graph →
        query.Gives (fun _ _ => Ground.feedAll store.graph grounds) store result calls := by
  constructor
  · intro store reached id
    have hroots := (alike_of_reached built loads reached).roots id
    rw [← hroots, Walk.answer_crateRoot_built built loads]
  · intro σ query grounds
    obtain ⟨result, calls, hgives⟩ := query.gives_of_alike (Ground.offers_readable graph grounds)
      (unbroken_of_built built loads)
    refine ⟨result, calls, fun store reached => hgives store (alike_of_reached built loads reached)
      (fun _ _ => Ground.feedAll store.graph grounds) fun m _ _ visit => ?_⟩
    have halike := alike_of_reached built loads reached
    have hoffers : grounds.flatMap (·.offers store.graph) = grounds.flatMap (·.offers graph) :=
      congrArg grounds.flatMap (funext fun ground => (ground.offers_congr halike).symm)
    rw [Ground.feedAll_eq_ofList, hoffers]

/-- A graph of two crates, the first depending on the second. -/
def sampleGraph : CrateGraph :=
  (((CrateGraph.empty .plain).addCrate ⟨"app"⟩ .workspace .empty).addCrate ⟨"my-lib"⟩ .dependency
    .empty).addDependency ⟨0⟩ ⟨"my-lib"⟩ ⟨1⟩

/-- What `my_lib` stands for in the first crate is the root of the second, and the walk is not
stopped there. It stays so when the declaration was resolved before, and the root is loaded. -/
theorem answers_outlive_loads_sample :
    let name : Name := ⟨"my_lib"⟩
    let fresh : Store := ⟨sampleGraph, []⟩
    let later : Store := (resolveExternCrate ⟨0⟩ name).after fresh
    let calls : Calls Entry := [(.candidate (.ofCrate name ⟨1⟩), false)]
    let producer (graph : CrateGraph) : Producer Entry := fun _ _ =>
      Ground.feedAll graph [.externCrates ⟨0⟩ false false]
    sampleGraph.Built ∧ sampleGraph.Loads ∧
      fresh.graph.isRootLoaded ⟨1⟩ = false ∧ later.graph.isRootLoaded ⟨1⟩ = true ∧
      (Query.collect name).Gives (producer fresh.graph) fresh (sampleGraph.root? ⟨1⟩).toList calls ∧
      (Query.collect name).Gives (producer later.graph) later (sampleGraph.root? ⟨1⟩).toList
        calls := by
  intro name fresh later calls producer
  have built : sampleGraph.Built :=
    .addDependency _ _ _ (.addCrate _ _ _ (.addCrate _ _ _ (.empty _)))
  have loads : sampleGraph.Loads := fun _ => ⟨_, rfl⟩
  obtain ⟨result, found, hgives⟩ :=
    (answers_outlive_loads built loads).2 (.collect name) [.externCrates ⟨0⟩ false false]
  have hfresh := hgives fresh .built
  have hlater := hgives later (.resolve ⟨0⟩ name .built)
  have hvalue : (result, found) = ((sampleGraph.root? ⟨1⟩).toList, calls) :=
    Except.ok.inj (hfresh.traced.symm.trans (by rfl))
  cases hvalue
  exact ⟨built, loads, by rfl, by rfl, hfresh, hlater⟩

end ScopeWalk
