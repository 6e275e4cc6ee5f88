import ScopeWalk.Proofs.Scope.GlobOrder
import ScopeWalk.Proofs.Scope.Standing

/-!
# What glob imports bring in

A binding that a glob import brings in is known by the scope it is written in and its place there.
All of them together are listed in the order of first visits, and of one scope in the order in which
they are written. Each is listed once.
-/
namespace ScopeWalk

/-! ### Places in a list -/

theorem pairwise_zipIdx (list : List α) : list.zipIdx.Pairwise fun a b => a.2 < b.2 := by
  rw [← List.pairwise_map (f := Prod.snd) (R := (· < ·)), List.zipIdx_map_snd]
  exact List.pairwise_lt_range'

section Numbered

variable {α β : Type} (pick : α → Option β) (list : List α)

/-- What is picked from a list, each with its place there. -/
def numbered : List (Nat × β) :=
  list.zipIdx.filterMap fun member => (pick member.1).map (member.2, ·)

theorem mem_numbered {index : Nat} {b : β} :
    (index, b) ∈ numbered pick list ↔ ∃ a, list[index]? = some a ∧ pick a = some b := by
  rw [numbered, List.mem_filterMap]
  constructor
  · rintro ⟨⟨a, i⟩, hmem, hpick⟩
    obtain ⟨b', hb, heq⟩ := Option.map_eq_some_iff.mp hpick
    cases heq
    exact ⟨a, List.mem_zipIdx_iff_getElem?.mp hmem, hb⟩
  · rintro ⟨a, hget, hpick⟩
    exact ⟨(a, index), List.mem_zipIdx_iff_getElem?.mpr hget, by simp [hpick]⟩

theorem map_snd_numbered : (numbered pick list).map Prod.snd = list.filterMap pick := by
  have hpick : (fun b : α × Nat => ((pick b.1).map (b.2, ·)).map Prod.snd) = pick ∘ Prod.fst := by
    funext b
    cases h : pick b.1 <;> simp [h]
  rw [numbered, List.map_filterMap, hpick, ← List.filterMap_map, List.zipIdx_map_fst]

theorem pairwise_numbered : (numbered pick list).Pairwise fun a b => a.1 < b.1 := by
  rw [numbered, List.pairwise_filterMap]
  refine (pairwise_zipIdx list).imp fun {a b} hlt x hx y hy => ?_
  obtain ⟨_, -, rfl⟩ := Option.map_eq_some_iff.mp hx
  obtain ⟨_, -, rfl⟩ := Option.map_eq_some_iff.mp hy
  exact hlt

end Numbered

namespace ScopeGraph

/-- The plain walk over the glob imports of `scope` comes to one scope before it comes to another.
-/
def VisitedBefore (graph : ScopeGraph) (scope : ItemScope) (place other : Nat) : Prop :=
  (graph.globTour scope).idxOf place < (graph.globTour scope).idxOf other

theorem pairwise_globOrder (graph : ScopeGraph) (scope : ItemScope) :
    (graph.globOrder scope).Pairwise (graph.VisitedBefore scope) := pairwise_eraseDups _

/-! ### Imports -/

/-- The glob imports of `scope` bring in a binding, which is written at `index` in the scope at
`place`: the scope is reached, and the binding can be seen from the module of `scope`. -/
inductive Imports (graph : ScopeGraph) (scope : ItemScope) (place index : Nat) (binding : Binding) :
    Prop where
  | behind {via : ItemScope} : graph.Reaches scope place → graph.scopes[place]? = some via →
      via.bindings[index]? = some binding →
      binding.SeenFrom via.module.path scope.module.path →
      Imports graph scope place index binding

/-- The glob imports of `scope` bring in these candidates: what the imported bindings stand for,
scope after scope as the plain walk comes to them, and of one scope in the order they are written
there. -/
inductive BringIn (graph : ScopeGraph) (scope : ItemScope) (entries : List Entry) : Prop where
  | listed {found : List ((Nat × Nat) × Binding)} :
      (∀ place index binding, ((place, index), binding) ∈ found ↔
        graph.Imports scope place index binding) →
      (found.Pairwise fun a b =>
        graph.VisitedBefore scope a.1.1 b.1.1 ∨ a.1.1 = b.1.1 ∧ a.1.2 < b.1.2) →
      Gathers (fun member entry => member.2.StandsFor entry) found entries →
      BringIn graph scope entries

variable (graph : ScopeGraph) (scope : ItemScope)

/-- The bindings that a glob import of the scope at `place` brings into the module `importer`, each
with its place there. -/
def importsFrom (importer : ModulePath) (place : Nat) : List (Nat × Binding) :=
  graph.scopes[place]?.elim [] fun via =>
    numbered (Option.guard (·.isVisibleFrom via.module.path importer)) via.bindings

/-- All bindings that the glob imports of a scope bring in, each with the place of the scope it is
written in and its place there. -/
def imports : List ((Nat × Nat) × Binding) :=
  (graph.globOrder scope).flatMap fun place =>
    (graph.importsFrom scope.module.path place).map fun found => ((place, found.1), found.2)

variable {graph scope}

theorem mem_imports {place index : Nat} {binding : Binding} :
    ((place, index), binding) ∈ graph.imports scope ↔ graph.Imports scope place index binding := by
  rw [imports, List.mem_flatMap]
  constructor
  · rintro ⟨place, hplace, hlisted⟩
    obtain ⟨⟨index, binding⟩, hfound, heq⟩ := List.mem_map.mp hlisted
    cases heq
    cases hvia : graph.scopes[place]? with
    | none => simp [importsFrom, hvia] at hfound
    | some via =>
      simp only [importsFrom, hvia, Option.elim_some, mem_numbered] at hfound
      obtain ⟨binding, hbinding, hguard⟩ := hfound
      obtain ⟨rfl, hvisible⟩ := Option.guard_eq_some_iff.mp hguard
      have hseen := Binding.isVisibleFrom_iff.mp hvisible
      exact .behind (mem_globOrder.mp hplace) hvia hbinding hseen
  · rintro ⟨hreaches, hvia, hbinding, hseen⟩
    refine ⟨place, mem_globOrder.mpr hreaches, List.mem_map.mpr ⟨(index, binding), ?_, rfl⟩⟩
    simp only [importsFrom, hvia, Option.elim_some, mem_numbered]
    have hvisible := Binding.isVisibleFrom_iff.mpr hseen
    exact ⟨binding, hbinding, Option.guard_eq_some_iff.mpr ⟨rfl, hvisible⟩⟩

/-- Imports are listed by first visits, and those from one scope as they are written there. -/
theorem pairwise_imports : (graph.imports scope).Pairwise fun a b =>
    graph.VisitedBefore scope a.1.1 b.1.1 ∨ a.1.1 = b.1.1 ∧ a.1.2 < b.1.2 := by
  rw [imports, List.pairwise_flatMap]
  constructor
  · intro place _
    rw [List.pairwise_map]
    cases hvia : graph.scopes[place]? with
    | none => simp [importsFrom, hvia]
    | some via =>
      simp only [importsFrom, hvia, Option.elim_some]
      exact (pairwise_numbered _ _).imp fun hlt => .inr ⟨trivial, hlt⟩
  · refine (graph.pairwise_globOrder scope).imp fun hbefore x hx y hy => ?_
    obtain ⟨_, -, rfl⟩ := List.mem_map.mp hx
    obtain ⟨_, -, rfl⟩ := List.mem_map.mp hy
    exact .inl hbefore

theorem filterMap_imports :
    ((graph.imports scope).map Prod.snd).filterMap Binding.entry? = graph.globEntries scope := by
  rw [imports, List.map_flatMap, List.filterMap_flatMap, globEntries]
  refine congrArg (List.flatMap · _) (funext fun place => ?_)
  rw [List.map_map]
  cases hvia : graph.scopes[place]? with
  | none => simp [importsFrom, entriesBehind, hvia]
  | some via =>
    simp only [importsFrom, entriesBehind, hvia, Option.elim_some, ItemScope.visibleBindings]
    rw [← List.filterMap_eq_filter, ← map_snd_numbered (Option.guard _)]
    rfl

/-- What is listed as imported stands for what is offered behind the boundary. -/
theorem bringIn_globEntries (graph : ScopeGraph) (scope : ItemScope) :
    graph.BringIn scope (graph.globEntries scope) := by
  refine .listed (fun _ _ _ => mem_imports) pairwise_imports ?_
  rw [← filterMap_imports, List.filterMap_map]
  exact (gathers_iff fun _ _ => Binding.entry?_eq_some_iff).mpr rfl

theorem nodup_imports : (graph.imports scope).Nodup := by
  refine pairwise_imports.imp fun h heq => ?_
  subst heq
  obtain h | ⟨-, h⟩ := h
  · exact Nat.lt_irrefl _ h
  · exact Nat.lt_irrefl _ h

end ScopeGraph

end ScopeWalk
