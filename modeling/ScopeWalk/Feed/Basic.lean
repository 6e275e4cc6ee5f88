import ScopeWalk.Candidate.Basic

/-!
# Feeds and visitors

A scope walk offers candidates one after another to a visitor, which answers each time whether
it has seen enough. Between candidates the walk may announce that all further ones come from
glob imports, which anything offered before takes precedence over. A feed is a walk waiting for
its visitor. It stops at the visitor's first `true`, and says whether it was stopped.

Visitors act in any monad, so they may keep a state of their own, read crate roots, or fail.
-/
namespace ScopeWalk

/-- What a visitor is handed. -/
inductive Offer (ε : Type) where
  | candidate (entry : ε)
  /-- From here on candidates come from glob imports. -/
  | globBoundary

namespace Offer

def candidate? : Offer ε → Option ε
  | .candidate entry => some entry
  | .globBoundary => none

def isGlobBoundary : Offer ε → Bool
  | .candidate _ => false
  | .globBoundary => true

def map (f : ε → δ) : Offer ε → Offer δ
  | .candidate entry => .candidate (f entry)
  | .globBoundary => .globBoundary

end Offer

/-- Looks at an offer and answers whether the walk shall stop. -/
abbrev Visitor (m : Type → Type u) (ε : Type) := Offer ε → m Bool

/-- Makes offers to a visitor until it has seen enough, and answers whether it has. -/
abbrev Feed (m : Type → Type u) (ε : Type) := Visitor m ε → m Bool

namespace Feed

variable {m : Type → Type u} [Monad m]

/-- Offers from a list. -/
def ofList (offers : List (Offer ε)) : Feed m ε := fun visit => offers.anyM visit

/-- One feed after another. -/
def chain (feeds : List (Feed m ε)) : Feed m ε := fun visit => feeds.anyM (· visit)

/-- The same offers with their candidates turned into others. -/
def map (f : ε → δ) (feed : Feed m ε) : Feed m δ := fun visit =>
  feed fun offer => visit (offer.map f)

/-- The announcement that glob imports follow. -/
def globBoundary : Feed m ε := fun visit => visit .globBoundary

def entry (entry : ε) : Feed m ε := fun visit => visit (.candidate entry)

/-- A candidate, or nothing. -/
def optional : Option ε → Feed m ε
  | some e => entry e
  | none => fun _ => pure false

/-- Candidates in order. -/
def entries (entries : List ε) : Feed m ε := ofList (entries.map .candidate)

/-- Declarations in order, each under its own name. Those without a name are passed over. -/
def elements (subst : Substitution) (es : List Element) : Feed m Entry := fun visit =>
  es.anyM fun e => optional (Entry.named? subst e) visit

end Feed

end ScopeWalk
