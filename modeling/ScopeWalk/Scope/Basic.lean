import ScopeWalk.Feed.Basic

/-!
# Item scopes

An item scope is what the body of a module makes visible: explicit bindings, and glob imports of
other scopes. Scopes are kept in a list, and a glob import names its target by the place in it.
A scope can only import scopes that were there before it, so following glob imports always ends.
The same scope may be imported several times.
-/
namespace ScopeWalk

/-- An explicit binding of a name in a module. -/
inductive Binding where
  /-- A declaration under its own name. -/
  | item (element : Element)
  /-- Written `use path as name`. -/
  | alias (name : Name) (target : Element) (visibility : Visibility)
  /-- Written `extern crate target as name`. -/
  | externCrate (name : Name) (target : CrateId) (visibility : Visibility)

namespace Binding

def name? : Binding → Option Name
  | .item element => element.name
  | .alias name _ _ => some name
  | .externCrate name _ _ => some name

/-- A glob import in the module `importer` brings in this binding of the module `owner`. A
declaration without visibility is not held back. -/
def isVisibleFrom (binding : Binding) (owner importer : ModulePath) : Bool :=
  match binding with
  | .item element => (element.isVisibleFrom importer).getD true
  | .alias _ _ visibility => visibility.admits owner importer
  | .externCrate _ _ visibility => visibility.admits owner importer

/-- The candidate for the binding, if it has a name. -/
def entry? : Binding → Option Entry
  | .item element => Entry.named? .empty element
  | .alias name target _ => some (.ofElement name target .empty)
  | .externCrate name target _ => some (.ofCrate name target)

/-- Offer the binding. -/
def feed {m : Type → Type u} [Monad m] (binding : Binding) : Feed m Entry :=
  .optional binding.entry?

end Binding

/-- A glob import, written `use path::*`. -/
structure Glob where
  /-- Place of the imported scope. -/
  target : Nat
  /-- Which modules get the import along when they glob-import this one. -/
  visibility : Visibility

structure ItemScope where
  module : Module
  bindings : List Binding
  globs : List Glob

namespace ItemScope

/-- The bindings that a glob import in the module `importer` brings in. -/
def visibleBindings (scope : ItemScope) (importer : ModulePath) : List Binding :=
  scope.bindings.filter (·.isVisibleFrom scope.module.path importer)

/-- The targets of the glob imports that the module `importer` gets along. -/
def reexports (scope : ItemScope) (importer : ModulePath) : List Nat :=
  (scope.globs.filter (·.visibility.admits scope.module.path importer)).map (·.target)

theorem mem_globs_of_mem_reexports {scope : ItemScope} {importer : ModulePath} {target : Nat}
    (h : target ∈ scope.reexports importer) : ∃ glob ∈ scope.globs, glob.target = target := by
  obtain ⟨glob, hglob, rfl⟩ := List.mem_map.mp h
  exact ⟨glob, (List.mem_filter.mp hglob).1, rfl⟩

end ItemScope

/-- Scopes that import only scopes before them. -/
structure ScopeGraph where
  scopes : Array ItemScope
  earlier : ∀ place (h : place < scopes.size), ∀ glob ∈ scopes[place].globs, glob.target < place

namespace ScopeGraph

def empty : ScopeGraph := ⟨#[], by simp⟩

/-- Add a scope, which must import known scopes only. -/
def add? (graph : ScopeGraph) (scope : ItemScope) : Option ScopeGraph :=
  if known : ∀ glob ∈ scope.globs, glob.target < graph.scopes.size then
    some ⟨graph.scopes.push scope, by
      intro place h glob hglob
      rw [Array.getElem_push] at hglob
      split at hglob
      · exact graph.earlier place _ glob hglob
      · have := known glob hglob
        simp only [Array.size_push] at h
        omega⟩
  else none

theorem reexports_lt {graph : ScopeGraph} {place : Nat} {scope : ItemScope} {importer : ModulePath}
    (h : graph.scopes[place]? = some scope) :
    ∀ target ∈ scope.reexports importer, target < place := by
  intro target ht
  obtain ⟨hlt, rfl⟩ := Array.getElem?_eq_some_iff.mp h
  obtain ⟨glob, hglob, rfl⟩ := ItemScope.mem_globs_of_mem_reexports ht
  exact graph.earlier place hlt glob hglob

end ScopeGraph

end ScopeWalk
