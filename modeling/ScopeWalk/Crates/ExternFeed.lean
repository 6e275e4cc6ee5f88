import ScopeWalk.Feed.Basic

/-!
# Crates that a crate can name

The crate itself may be offered first, under the name `self`. Its dependencies follow in the
order they were added, those on the standard library last. A standard library crate gives way to
anything offered before under the same name. For completion only third-party crates are of
interest.

Every crate is offered without reading its root.
-/
namespace ScopeWalk

namespace CrateGraph

def originOf (graph : CrateGraph) (dependency : Dependency) : Option Origin :=
  (graph.crate? dependency.crate).map (·.origin)

def isStdlib (graph : CrateGraph) (dependency : Dependency) : Bool :=
  graph.originOf dependency == some .stdlib

/-- Dependencies with those on the standard library moved to the end. -/
def stdlibLast (graph : CrateGraph) (dependencies : List Dependency) : List Dependency :=
  dependencies.filter (!graph.isStdlib ·) ++ dependencies.filter (graph.isStdlib ·)

variable {m : Type → Type u} [Monad m]

/-- Offer dependencies one by one, given the names that came before. -/
def dependencyFeed (graph : CrateGraph) (forCompletion : Bool) (visit : Visitor m Entry) :
    List Dependency → List Name → m Bool
  | [], _ => pure false
  | dependency :: rest, seen =>
    match graph.originOf dependency with
    | none => graph.dependencyFeed forCompletion visit rest seen
    | some origin =>
      if forCompletion && origin != .dependency then
        graph.dependencyFeed forCompletion visit rest seen
      else if seen.contains dependency.name && origin == .stdlib then
        graph.dependencyFeed forCompletion visit rest seen
      else do
        if ← visit (.candidate (.ofCrate dependency.name dependency.crate)) then
          return true
        graph.dependencyFeed forCompletion visit rest (dependency.name :: seen)

/-- Offer the crates that the crate `id` can name. A crate that is not in the graph can name
none. -/
def externFeed (graph : CrateGraph) (id : CrateId) (withSelf forCompletion : Bool) : Feed m Entry :=
  fun visit => do
    if (graph.crate? id).isNone then
      return false
    if withSelf then
      if ← visit (.candidate (.ofCrate ⟨"self"⟩ id)) then
        return true
    graph.dependencyFeed forCompletion visit (graph.stdlibLast (graph.dependencies id)) []

end CrateGraph

end ScopeWalk
