import ScopeWalk.Completion.Suggestion
import ScopeWalk.Feed.Basic

/-!
# Collecting suggestions

Every candidate with an element becomes a suggestion, unless the element is a test or is not in
the build. The walk is never stopped, so glob imports are suggested even where they are
shadowed.
-/
namespace ScopeWalk

variable {n : Type → Type u} [Monad n] [MonadLiftT Walk n] {σ : Type}

/-- The declaration is worth suggesting. -/
def Decl.isSuggested (decl : Decl) : Bool := !decl.isTestFunction && decl.isEnabled

/-- Hands every suggestion to `add`, which keeps what it wants. -/
def suggester (add : σ → Suggestion → σ) (site : CompletionSite) :
    Visitor (StateT σ n) Entry
  | .globBoundary => return false
  | .candidate entry => do
    let (found, entry) ← (entry.force : Walk _)
    if let some element := found then
      if element.isSuggested then
        modify (add · (.ofEntry site entry element.toDecl))
    return false

/-- What becomes of `start` when all suggestions of a feed are added. -/
def suggest (add : σ → Suggestion → σ) (start : σ) (site : CompletionSite)
    (feed : Feed (StateT σ n) Entry) : n σ := do
  let (_, kept) ← (feed (suggester add site)).run start
  return kept

/-- All suggestions of a feed, in order. -/
def suggestions (site : CompletionSite) (feed : Feed (StateT (List Suggestion) n) Entry) :
    n (List Suggestion) :=
  suggest (fun kept suggestion => kept ++ [suggestion]) [] site feed

end ScopeWalk
