import ScopeWalk.Scope.Basic

/-!
# What an item scope offers

The explicit bindings of a scope come first, in the order they are written. Behind a boundary
follow the glob imports: the visible bindings of each imported scope, then what that scope
itself re-exports, depth first. A scope that is imported along several ways is offered once,
where it is reached first. Whether something is visible is always asked for the module in which
the walk began.
-/
namespace ScopeWalk

variable {m : Type → Type u} [Monad m]

namespace ScopeGraph

/-- Offer what the scopes at `targets` bring into the module `importer`, leaving out the scopes
that were visited already. The answer is all scopes visited so far, or `none` if the visitor
stopped the walk. -/
def globFeed (graph : ScopeGraph) (importer : ModulePath) (visit : Visitor m Entry) (bound : Nat)
    (targets : List Nat) (inBounds : ∀ target ∈ targets, target < bound) (visited : List Nat) :
    m (Option (List Nat)) :=
  match targets, inBounds with
  | [], _ => pure (some visited)
  | target :: rest, inBounds =>
    have restInBounds : ∀ t ∈ rest, t < bound := fun t ht => inBounds t (.tail _ ht)
    if visited.contains target then
      graph.globFeed importer visit bound rest restInBounds visited
    else
      match h : graph.scopes[target]? with
      | none => graph.globFeed importer visit bound rest restInBounds (target :: visited)
      | some scope => do
        if ← (scope.visibleBindings importer).anyM (·.feed visit) then
          return none
        have _ : target < bound := inBounds target (.head _)
        match ← graph.globFeed importer visit target (scope.reexports importer) (reexports_lt h)
            (target :: visited) with
        | none => return none
        | some visited => graph.globFeed importer visit bound rest restInBounds visited
termination_by (bound, targets.length)

/-- The scopes that a scope glob-imports, whatever the visibility of the import. -/
def importedBy (graph : ScopeGraph) (scope : ItemScope) : List Nat :=
  (scope.globs.map (·.target)).filter (· < graph.scopes.size)

theorem importedBy_lt (graph : ScopeGraph) (scope : ItemScope) :
    ∀ target ∈ graph.importedBy scope, target < graph.scopes.size := by
  intro target h
  simpa using (List.mem_filter.mp h).2

/-- Offer everything visible in a scope. -/
def feed (graph : ScopeGraph) (scope : ItemScope) : Feed m Entry := fun visit => do
  if ← scope.bindings.anyM (·.feed visit) then
    return true
  if scope.globs.isEmpty then
    return false
  if ← visit .globBoundary then
    return true
  let visited ← graph.globFeed scope.module.path visit graph.scopes.size (graph.importedBy scope)
    (graph.importedBy_lt scope) []
  return visited.isNone

end ScopeGraph

end ScopeWalk
