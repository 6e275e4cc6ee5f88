import ScopeWalk.Proofs.Scope.ItemOffers
import ScopeWalk.Scope.Lexical

/-!
# What a lexical chain offers

The offers of a chain are those of its layers, one layer after another.
-/
namespace ScopeWalk

/-- The offers of a layer. Of local bindings the last one comes first. -/
def Layer.offers (graph : ScopeGraph) : Layer → List (Offer Entry)
  | .bindings elements => (elements.reverse.filterMap (Entry.named? .empty)).map .candidate
  | .items scope => graph.scopeOffers scope

/-- The offers of a chain of layers. -/
def lexicalOffers (graph : ScopeGraph) (layers : List Layer) : List (Offer Entry) :=
  layers.flatMap (·.offers graph)

variable {m : Type → Type u} [Monad m] [LawfulMonad m]

theorem Layer.feed_eq_ofList (graph : ScopeGraph) (layer : Layer) (visit : Visitor m Entry) :
    layer.feed graph visit = Feed.ofList (layer.offers graph) visit := by
  cases layer with
  | bindings elements => exact Feed.elements_eq_entries .empty elements.reverse visit
  | items scope => exact graph.feed_eq_ofList scope visit

theorem lexicalFeed_eq_ofList (graph : ScopeGraph) (layers : List Layer)
    (visit : Visitor m Entry) :
    lexicalFeed graph layers visit = Feed.ofList (lexicalOffers graph layers) visit := by
  simp only [lexicalFeed, Layer.feed_eq_ofList, Feed.anyM_ofList]
  rfl

end ScopeWalk
