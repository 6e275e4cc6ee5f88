import Mathlib.Data.List.Perm.Subperm
import ScopeWalk.Proofs.Decl.Nesting
import ScopeWalk.Proofs.Resolve.Agreement
import ScopeWalk.Proofs.Resolve.Hiding
import ScopeWalk.Proofs.Scope.Imports

/-!
# Nested importers see at least as much

The same glob imports bring at least as much into a nested module as into a module around it. They
may bring it in another order: with more imports to follow, a scope can be reached earlier, over
another way. So the two walks are not compared step by step, but by what they reach.
-/
namespace ScopeWalk

open Candidate

/-- The candidates after the first boundary. -/
def behindBoundary : List (Offer ε) → List ε
  | [] => []
  | .globBoundary :: rest => candidatesOf rest
  | .candidate _ :: rest => behindBoundary rest

theorem behindBoundary_append (entries : List ε) (rest : List (Offer ε)) :
    behindBoundary (entries.map .candidate ++ rest) = behindBoundary rest := by
  induction entries with
  | nil => rfl
  | cons entry entries ih => exact ih

theorem subperm_filterMap {first second : List α} (h : first.Subperm second) (f : α → Option β) :
    (first.filterMap f).Subperm (second.filterMap f) := by
  obtain ⟨middle, hperm, hsublist⟩ := h
  exact ⟨middle.filterMap f, hperm.filterMap f, hsublist.filterMap f⟩

theorem Binding.SeenFrom.nested {importer nested : ModulePath}
    (nests : importer.isAncestorOf nested) {binding : Binding} {owner : ModulePath}
    (h : binding.SeenFrom owner importer) : binding.SeenFrom owner nested := by
  cases h with
  | unrestricted hnone => exact .unrestricted hnone
  | item hvisibility hadmits => exact .item hvisibility (Visibility.admits_nested nests hadmits)
  | renamed hadmits => exact .renamed (Visibility.admits_nested nests hadmits)
  | externCrate hadmits => exact .externCrate (Visibility.admits_nested nests hadmits)

namespace ScopeGraph

variable {graph : ScopeGraph} {scope inner : ItemScope}

theorem globEntries_of_globs_eq_nil (h : scope.globs = []) : graph.globEntries scope = [] := by
  have hnone : (Layer.items scope).hasGlobs = false := by simp [Layer.hasGlobs, h]
  exact Layer.globEntries_eq_nil hnone

theorem candidatesOf_scopeOffers (graph : ScopeGraph) (scope : ItemScope) :
    candidatesOf (graph.scopeOffers scope) = scope.explicitEntries ++ graph.globEntries scope :=
  Layer.candidatesOf_offers graph (.items scope)

/-- What is offered behind the boundary is what the glob imports bring in. -/
theorem behindBoundary_offers (graph : ScopeGraph) (scope : ItemScope) :
    behindBoundary (graph.feed scope).offers = graph.globEntries scope := by
  rw [Feed.offers_eq (graph.feed_eq_ofList scope), scopeOffers, behindBoundary_append]
  cases hglobs : scope.globs.isEmpty with
  | true => exact (globEntries_of_globs_eq_nil (List.isEmpty_iff.mp hglobs)).symm
  | false => exact candidatesOf_map_candidate _

section Nested

variable (globs : inner.globs = scope.globs)
  (nests : scope.module.path.isAncestorOf inner.module.path)
include globs nests

/-- The induction is on how the scope is reached. -/
theorem Reaches.nested {place : Nat} (h : graph.Reaches scope place) :
    graph.Reaches inner place := by
  induction h with
  | imported hglob hknown =>
    rw [← globs] at hglob
    exact .imported hglob hknown
  | reexported _ hvia hglob hadmits ih =>
    exact .reexported ih hvia hglob (Visibility.admits_nested nests hadmits)

theorem Imports.nested {place index : Nat} {binding : Binding}
    (h : graph.Imports scope place index binding) : graph.Imports inner place index binding := by
  obtain ⟨hreaches, hvia, hbinding, hseen⟩ := h
  exact .behind (hreaches.nested globs nests) hvia hbinding (hseen.nested nests)

theorem imports_subperm : (graph.imports scope).Subperm (graph.imports inner) := by
  refine List.Nodup.subperm nodup_imports fun found hfound => ?_
  exact mem_imports.mpr ((mem_imports.mp hfound).nested globs nests)

theorem globEntries_subperm : (graph.globEntries scope).Subperm (graph.globEntries inner) := by
  rw [← filterMap_imports, ← filterMap_imports, List.filterMap_map, List.filterMap_map]
  exact subperm_filterMap (imports_subperm globs nests) _

end Nested

end ScopeGraph

/-! ### What is found among glob imports -/

/-- If anything is accepted, picking does not go through the whole scope for nothing. -/
theorem pickFirst_feed_ne_none {graph : ScopeGraph} {scope : ItemScope} {name : Name} {store : Store}
    {hit : Entry × Element} (accepted : hit ∈ acceptedOf name store (graph.globEntries scope)) :
    (pickFirst (n := Walk) name (graph.feed scope)).answer store ≠ .ok none := by
  intro hnone
  rw [answer_pickFirst_of_offers fun visit => graph.feed_eq_ofList scope visit] at hnone
  cases hverdict : verdictOf? name store (candidatesOf (graph.scopeOffers scope)) with
  | some verdict =>
    rw [hverdict] at hnone
    cases verdict <;> cases hnone
  | none =>
    obtain ⟨entry, hentry, haccepted⟩ := List.mem_filterMap.mp accepted
    have hoffered : entry ∈ candidatesOf (graph.scopeOffers scope) := by
      rw [graph.candidatesOf_scopeOffers]
      exact List.mem_append_right _ hentry
    have hends : entry.endsPick name store = true := by
      rw [Entry.endsPick, isAccepted, haccepted]
      rfl
    rw [← Entry.isSome_verdict?, List.findSome?_eq_none_iff.mp hverdict entry hoffered] at hends
    cases hends

section Found

variable {graph : ScopeGraph} {scope : ItemScope} {name : Name} {store : Store}
  (explicit : scope.explicitEntries.any (isAccepted name store) = false)
include explicit

theorem acceptedOf_scopeOffers :
    acceptedOf name store (candidatesOf (graph.scopeOffers scope)) =
      acceptedOf name store (graph.globEntries scope) := by
  rw [graph.candidatesOf_scopeOffers, acceptedOf_append, acceptedOf_eq_nil explicit,
    List.nil_append]

theorem eq_of_collect_feed {found : List Element}
    (h : (collect (n := Walk) name (graph.feed scope)).answer store = .ok found) :
    found = (acceptedOf name store (graph.globEntries scope)).map Prod.snd := by
  rw [collect_feed_answer, explicit, if_neg Bool.false_ne_true, outcome] at h
  cases hfailure : failureOf? name store (scope.explicitEntries ++ graph.globEntries scope) with
  | some failure => simp [hfailure] at h
  | none =>
    rw [hfailure] at h
    exact (Except.ok.inj h).symm

theorem accepted_of_pickFirst_feed {element : Element}
    (h : (pickFirst (n := Walk) name (graph.feed scope)).answer store = .ok (some element)) :
    ∃ entry, (entry, element) ∈ acceptedOf name store (graph.globEntries scope) := by
  rw [answer_pickFirst_of_offers fun visit => graph.feed_eq_ofList scope visit] at h
  cases hverdict : verdictOf? name store (candidatesOf (graph.scopeOffers scope)) with
  | none => simp [hverdict] at h
  | some verdict =>
    rw [hverdict] at h
    cases verdict with
    | error failure => cases h
    | ok picked =>
      cases h
      obtain ⟨entry, hentry, hpicked⟩ := List.exists_of_findSome?_eq_some hverdict
      rw [← acceptedOf_scopeOffers explicit]
      exact ⟨entry, List.mem_filterMap.mpr ⟨entry, hentry, Entry.accepted_of_verdict? hpicked⟩⟩

/-- Where nothing breaks down, collecting finds what is accepted, and picking finds what comes first
of it. -/
theorem answer_feed_of_unbroken
    (unbroken : ∀ entry ∈ candidatesOf (graph.feed scope).offers,
      failure? name store entry = none) :
    let found := (acceptedOf name store (graph.globEntries scope)).map Prod.snd
    (collect (n := Walk) name (graph.feed scope)).answer store = .ok found ∧
      (pickFirst (n := Walk) name (graph.feed scope)).answer store = .ok found.head? := by
  rw [Feed.offers_eq (graph.feed_eq_ofList scope)] at unbroken
  constructor
  · have hfailure :
        failureOf? name store (scope.explicitEntries ++ graph.globEntries scope) = none := by
      rw [← graph.candidatesOf_scopeOffers]
      exact List.findSome?_eq_none_iff.mpr unbroken
    rw [collect_feed_answer, explicit, if_neg Bool.false_ne_true, outcome, hfailure]
    rfl
  · rw [answer_pickFirst_of_offers fun visit => graph.feed_eq_ofList scope visit,
      verdictOf?_of_unbroken unbroken, acceptedOf_scopeOffers explicit, List.head?_map]
    cases (acceptedOf name store (graph.globEntries scope)).head? <;> rfl

end Found

/-- Let a module lie in another, or be the same, and let scopes of both have the same glob imports.
What these bring into the outer scope they also bring into the inner one, and it is offered there
behind the boundary. So if none of their own bindings is accepted for a name, and there is something
to pick in the outer scope, picking does not end with nothing in the inner one. If nothing with the
name breaks down there, it is picked from all that is collected, and this contains what is collected
or picked in the outer scope. -/
theorem nested_importers_see_more (graph : ScopeGraph) (scope inner : ItemScope)
    (globs : inner.globs = scope.globs)
    (nests : scope.module.path.isAncestorOf inner.module.path) :
    (∀ importing : ItemScope, behindBoundary (graph.feed importing).offers =
      ((graph.imports importing).map Prod.snd).filterMap Binding.entry?) ∧
    (graph.imports scope).Subperm (graph.imports inner) ∧
    ∀ (name : Name) (store : Store),
      scope.explicitEntries.any (isAccepted name store) = false →
      inner.explicitEntries.any (isAccepted name store) = false →
      (∀ element, (pickFirst (n := Walk) name (graph.feed scope)).answer store =
        .ok (some element) →
          (pickFirst (n := Walk) name (graph.feed inner)).answer store ≠ .ok none) ∧
      ((∀ entry ∈ candidatesOf (graph.feed inner).offers, failure? name store entry = none) →
        ∃ more, (collect (n := Walk) name (graph.feed inner)).answer store = .ok more ∧
          (pickFirst (n := Walk) name (graph.feed inner)).answer store = .ok more.head? ∧
          (∀ found, (collect (n := Walk) name (graph.feed scope)).answer store = .ok found →
            found.Subperm more) ∧
          ∀ element, (pickFirst (n := Walk) name (graph.feed scope)).answer store =
            .ok (some element) → element ∈ more) := by
  refine ⟨fun importing => ?_, ScopeGraph.imports_subperm globs nests, ?_⟩
  · rw [ScopeGraph.behindBoundary_offers, ScopeGraph.filterMap_imports]
  · intro name store explicit explicit'
    have haccepted : (acceptedOf name store (graph.globEntries scope)).Subperm
        (acceptedOf name store (graph.globEntries inner)) :=
      subperm_filterMap (ScopeGraph.globEntries_subperm globs nests) _
    refine ⟨fun element helement => ?_, fun unbroken => ?_⟩
    · obtain ⟨entry, hentry⟩ := accepted_of_pickFirst_feed explicit helement
      exact pickFirst_feed_ne_none (haccepted.subset hentry)
    · obtain ⟨hcollect, hpick⟩ := answer_feed_of_unbroken explicit' unbroken
      refine ⟨_, hcollect, hpick, fun found hfound => ?_, fun element helement => ?_⟩
      · rw [eq_of_collect_feed explicit hfound, ← List.filterMap_eq_map]
        exact subperm_filterMap haccepted _
      · obtain ⟨entry, hentry⟩ := accepted_of_pickFirst_feed explicit helement
        exact List.mem_map_of_mem (haccepted.subset hentry)

/-- A module below the root of a crate without settings. -/
def sampleModule : Module :=
  ⟨(ModulePath.root ⟨0⟩).child ⟨"lib"⟩, ⟨⟨0⟩, ⟨"main"⟩, .workspace, .empty⟩⟩

/-- Three scopes of one module. The second gets the first along for the modules in there only, the
third for all. -/
def sampleScopes : ScopeGraph where
  scopes := #[
    ⟨sampleModule, [.alias ⟨"x"⟩ (sampleConst 0 []) .pub], []⟩,
    ⟨sampleModule, [.alias ⟨"x"⟩ (sampleConst 1 []) .inherited], [⟨0, .inherited⟩]⟩,
    ⟨sampleModule, [.alias ⟨"x"⟩ (sampleConst 2 []) .pub], [⟨0, .pub⟩]⟩]
  earlier := by decide

/-- In the inner module there is one more to find, and one that is found earlier. -/
theorem nested_importers_see_more_sample :
    let scope : ItemScope :=
      ⟨{ sampleModule with path := .root ⟨0⟩ }, [], [⟨1, .inherited⟩, ⟨2, .inherited⟩]⟩
    let inner : ItemScope := { scope with module := sampleModule }
    let name : Name := ⟨"x"⟩
    let store : Store := ⟨.empty .plain, []⟩
    let found : List Element := [sampleConst 2 [], sampleConst 0 []]
    let more : List Element := [sampleConst 1 [], sampleConst 0 [], sampleConst 2 []]
    inner.globs = scope.globs ∧ scope.module.path.isAncestorOf inner.module.path ∧
      scope.explicitEntries.any (isAccepted name store) = false ∧
      inner.explicitEntries.any (isAccepted name store) = false ∧
      (∀ entry ∈ candidatesOf (sampleScopes.feed inner).offers,
        failure? name store entry = none) ∧
      (collect (n := Walk) name (sampleScopes.feed scope)).answer store = .ok found ∧
      (collect (n := Walk) name (sampleScopes.feed inner)).answer store = .ok more ∧
      (pickFirst (n := Walk) name (sampleScopes.feed inner)).answer store = .ok more.head? ∧
      found.Subperm more := by
  intro scope inner name store found more
  have nests : scope.module.path.isAncestorOf inner.module.path := by decide
  have hscope : sampleScopes.globOrder scope = [1, 2, 0] := by decide +kernel
  have hinner : sampleScopes.globOrder inner = [1, 0, 2] := by decide +kernel
  have unbroken : ∀ entry ∈ candidatesOf (sampleScopes.feed inner).offers,
      failure? name store entry = none := by
    rw [Feed.offers_eq (sampleScopes.feed_eq_ofList inner),
      ScopeGraph.candidatesOf_scopeOffers, ScopeGraph.globEntries, hinner]
    exact List.findSome?_eq_none_iff.mp (by rfl)
  have hfound : (collect (n := Walk) name (sampleScopes.feed scope)).answer store = .ok found := by
    rw [collect_feed_answer, ScopeGraph.globEntries, hscope]
    rfl
  have hmore : (collect (n := Walk) name (sampleScopes.feed inner)).answer store = .ok more := by
    rw [collect_feed_answer, ScopeGraph.globEntries, hinner]
    rfl
  obtain ⟨-, -, hresolve⟩ := nested_importers_see_more sampleScopes scope inner rfl nests
  obtain ⟨-, hunbroken⟩ := hresolve name store rfl rfl
  obtain ⟨_, hcollect, hpick, hsubperm, -⟩ := hunbroken unbroken
  cases Except.ok.inj (hcollect.symm.trans hmore)
  exact ⟨rfl, nests, rfl, rfl, unbroken, hfound, hmore, hpick, hsubperm found hfound⟩

end ScopeWalk
