import ScopeWalk.Scope.Feed

/-!
# Lexical chains

What can be named inside a body comes from layers of local bindings and of items. The innermost
layer is offered first. Of several local bindings the last one shadows those before it, so they are
offered backwards. Every layer of items announces its own glob imports.
-/
namespace ScopeWalk

variable {m : Type → Type u} [Monad m]

/-- A layer of a lexical chain. -/
inductive Layer where
  /-- Local bindings in the order they are declared. -/
  | bindings (elements : List Element)
  /-- A module's body, or the items of a block. -/
  | items (scope : ItemScope)

/-- Offer what a layer makes visible. -/
def Layer.feed (graph : ScopeGraph) (layer : Layer) : Feed m Entry := fun visit =>
  match layer with
  | .bindings elements => Feed.elements .empty elements.reverse visit
  | .items scope => graph.feed scope visit

/-- Offer what a chain of layers makes visible, given from the innermost outwards. -/
def lexicalFeed (graph : ScopeGraph) (layers : List Layer) : Feed m Entry := fun visit =>
  layers.anyM fun layer => layer.feed graph visit

end ScopeWalk
