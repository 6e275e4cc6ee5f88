import Mathlib.Data.List.Forall2
import ScopeWalk.Proofs.Scope.GlobOrder
import ScopeWalk.Proofs.Scope.Standing

/-!
# What an item scope offers

A scope offers what its own bindings stand for, and behind a boundary what its glob imports bring in.
These are offered scope by scope, in the order in which a plain walk comes to them first.
-/
namespace ScopeWalk

namespace ScopeGraph

/-! ### What one scope brings in -/

/-- A glob import of the scope at `place` brings these candidates into the module `importer`: what
the bindings there stand for, as far as they can be seen from `importer`. -/
inductive Brings (graph : ScopeGraph) (importer : ModulePath) (place : Nat) (entries : List Entry) :
    Prop where
  | behind {via : ItemScope} : graph.scopes[place]? = some via →
      Gathers (fun binding entry => binding.SeenFrom via.module.path importer ∧
        binding.StandsFor entry) via.bindings entries →
      Brings graph importer place entries

/-- To see a binding and to have a candidate for it are two tests here, of which the first drops
bindings before the second is made. -/
theorem brings_iff {graph : ScopeGraph} {importer : ModulePath} {place : Nat} {via : ItemScope}
    (h : graph.scopes[place]? = some via) {entries : List Entry} :
    graph.Brings importer place entries ↔ graph.entriesBehind importer place = entries := by
  have hboth (binding : Binding) (entry : Entry) :
      (if binding.isVisibleFrom via.module.path importer then binding.entry? else none) =
          some entry ↔
        binding.SeenFrom via.module.path importer ∧ binding.StandsFor entry := by
    rw [← Binding.isVisibleFrom_iff, ← Binding.entry?_eq_some_iff]
    split <;> simp [*]
  rw [entriesBehind_eq h, ItemScope.visibleBindings, List.filterMap_filter, ← gathers_iff hboth]
  constructor
  · rintro ⟨hvia, hentries⟩
    rw [h] at hvia
    cases hvia
    exact hentries
  · exact .behind h

/-! ### All offers -/

/-- The offers of an item scope: its own candidates, then those behind its glob imports. -/
def scopeOffers (graph : ScopeGraph) (scope : ItemScope) : List (Offer Entry) :=
  scope.explicitEntries.map .candidate ++
    if scope.globs.isEmpty then [] else
      .globBoundary :: (graph.globEntries scope).map .candidate

theorem feed_eq_ofList {m : Type → Type u} [Monad m] [LawfulMonad m] (graph : ScopeGraph)
    (scope : ItemScope) (visit : Visitor m Entry) :
    graph.feed scope visit = Feed.ofList (graph.scopeOffers scope) visit := by
  have hnothing : graph.Explored scope.module.path graph.scopes.size [] := by
    intro place hplace
    exact absurd hplace List.not_mem_nil
  have horder : firstVisits [] ((graph.importedBy scope).flatMap (graph.tour scope.module.path)) =
      graph.globOrder scope := by
    simp [firstVisits, globOrder, globTour, importedBy]
  simp only [feed, scopeOffers, Feed.ofList_append, anyM_bindings,
    globFeed_eq _ _ _ _ _ _ _ hnothing, horder]
  refine bind_congr fun stopped => ?_
  cases stopped with
  | true => simp
  | false =>
    cases hglobs : scope.globs.isEmpty with
    | true => simp
    | false =>
      simp only [Bool.false_eq_true, if_false, Feed.ofList_cons]
      refine bind_congr fun stopped => ?_
      cases stopped with
      | true => simp
      | false =>
        simp only [offerVisits, globEntries, Feed.entries, Bool.false_eq_true, if_false, bind_assoc]
        refine Eq.trans (bind_congr fun stopped => ?_) (bind_pure _)
        cases stopped <;> simp

theorem Reaches.exists_scope {graph : ScopeGraph} {scope : ItemScope} {place : Nat}
    (h : graph.Reaches scope place) : ∃ via, graph.scopes[place]? = some via := by
  suffices hlt : place < graph.scopes.size from ⟨_, Array.getElem?_eq_getElem hlt⟩
  induction h with
  | imported _ hknown => exact hknown
  | reexported _ hvia hglob _ ih =>
    obtain ⟨hlt, rfl⟩ := Array.getElem?_eq_some_iff.mp hvia
    exact Nat.lt_trans (graph.earlier _ hlt _ hglob) hlt

/-- A scope offers what its own bindings stand for, then a boundary if it has any glob imports, then
for each scope that these lead to, once and in the order of the plain walk, what its bindings stand
for as far as they can be seen from the module of the importing scope. -/
theorem offers_feed (graph : ScopeGraph) (scope : ItemScope) :
    (∃ own behind, Gathers Binding.StandsFor scope.bindings own ∧
      List.Forall₂ (graph.Brings scope.module.path) (graph.globTour scope).eraseDups behind ∧
      (graph.feed scope).offers = own.map .candidate ++
        if scope.globs = [] then [] else .globBoundary :: behind.flatten.map .candidate) ∧
    (graph.globTour scope).eraseDups.Nodup ∧
    ∀ place, place ∈ (graph.globTour scope).eraseDups ↔ graph.Reaches scope place := by
  refine ⟨⟨scope.explicitEntries,
    (graph.globTour scope).eraseDups.map (graph.entriesBehind scope.module.path),
    gathers_standsFor_iff.mpr rfl, ?_, ?_⟩, nodup_eraseDups _, fun place => mem_globOrder⟩
  · rw [List.forall₂_map_right_iff, List.forall₂_same]
    intro place hplace
    obtain ⟨via, hvia⟩ := (mem_globOrder.mp hplace).exists_scope
    exact (brings_iff hvia).mpr rfl
  · rw [Feed.offers_eq (graph.feed_eq_ofList scope), ← List.flatMap_def]
    simp only [scopeOffers, List.isEmpty_iff]
    rfl

end ScopeGraph

/-- A crate without settings. -/
def sampleCrate : Crate := ⟨⟨0⟩, ⟨"main"⟩, .workspace, .empty⟩

/-- A public declaration in the root of that crate. -/
def sampleItem (index : Nat) (name : Option Name) : Element :=
  { Decl.ofKind .struct (.root sampleCrate) with
    name := name, visibility := some .pub, id := .declared index }

/-- A scope of a module right below the root. -/
def sampleScope (module : Name) (bindings : List Binding) (globs : List Glob) : ItemScope :=
  ⟨⟨(ModulePath.root ⟨0⟩).child module, sampleCrate⟩, bindings, globs⟩

/-- Three modules under one root. The first has declarations, one without a name, and an extern
crate. The second has two more names for one of the declarations; what it imports from the first it
keeps for itself. The third only imports. -/
def sampleDiamond : ScopeGraph where
  scopes := #[
    sampleScope ⟨"a"⟩ [.item (sampleItem 0 (some ⟨"x"⟩)), .item (sampleItem 1 none),
      .externCrate ⟨"s"⟩ ⟨1⟩ .pub] [],
    sampleScope ⟨"b"⟩ [.alias ⟨"z"⟩ (sampleItem 0 (some ⟨"x"⟩)) .inherited,
      .alias ⟨"y"⟩ (sampleItem 0 (some ⟨"x"⟩)) .pub] [⟨0, .inherited⟩],
    sampleScope ⟨"c"⟩ [] [⟨1, .pub⟩, ⟨0, .pubCrate⟩]]
  earlier := by decide

/-- The root imports the third of these modules and the first, which is also reached over the third.
-/
def sampleImporter : ItemScope :=
  ⟨.root sampleCrate,
    [.item (sampleItem 1 none), .alias ⟨"w"⟩ (sampleItem 0 (some ⟨"x"⟩)) .inherited,
      .item (sampleItem 2 (some ⟨"v"⟩))],
    [⟨2, .inherited⟩, ⟨0, .inherited⟩]⟩

/-- The declaration without a name and the alias kept private are left out. -/
def sampleImporterOffers : List (Offer Entry) :=
  [.candidate (.direct ⟨⟨"w"⟩, sampleItem 0 (some ⟨"x"⟩), .empty⟩),
    .candidate (.direct ⟨⟨"v"⟩, sampleItem 2 (some ⟨"v"⟩), .empty⟩),
    .globBoundary,
    .candidate (.direct ⟨⟨"y"⟩, sampleItem 0 (some ⟨"x"⟩), .empty⟩),
    .candidate (.direct ⟨⟨"x"⟩, sampleItem 0 (some ⟨"x"⟩), .empty⟩),
    .candidate (.deferred ⟨⟨"s"⟩, .pending (.crateRoot ⟨1⟩), true⟩)]

namespace ScopeGraph

/-- The first of the three is reached over the third and at once, but not over the second. It is
offered where it is reached first. -/
theorem offers_feed_sample :
    sampleDiamond.globTour sampleImporter = [2, 1, 0, 0] ∧
      (sampleDiamond.feed sampleImporter).offers = sampleImporterOffers := by
  have htour : sampleDiamond.globTour sampleImporter = [2, 1, 0, 0] := by decide +kernel
  refine ⟨htour, ?_⟩
  obtain ⟨⟨own, behind, hown, hbehind, hoffers⟩, -, -⟩ := offers_feed sampleDiamond sampleImporter
  have horder : (sampleDiamond.globTour sampleImporter).eraseDups = [2, 1, 0] := by
    rw [htour]
    decide
  rw [horder] at hbehind
  obtain _ | ⟨hthird, _ | ⟨hsecond, _ | ⟨hfirst, ⟨⟩⟩⟩⟩ := hbehind
  rw [hoffers, ← gathers_standsFor_iff.mp hown, ← (brings_iff rfl).mp hthird,
    ← (brings_iff rfl).mp hsecond, ← (brings_iff rfl).mp hfirst]
  rfl

end ScopeGraph

end ScopeWalk
