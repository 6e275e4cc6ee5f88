import ScopeWalk.Cfg.Parser

/-!
# Attributes of a declaration

Only three attributes mean something to a scope walk: a configuration predicate, the wish not to
be shown in documentation, and the mark of a test. All others are kept by name. Every predicate
must hold for the declaration to stay in the build.
-/
namespace ScopeWalk

inductive Attribute where
  | cfg (predicate : Cfg.Predicate)
  | docHidden
  | test
  | other (name : Name)
  deriving DecidableEq, Repr

/-- Attributes in the order they are written. -/
abbrev Attributes := List Attribute

/-- The attribute for the text of a predicate. Text that is no predicate stays unknown. -/
def Attribute.ofCfgText (text : String) : Attribute := .cfg (.ofText text)

namespace Attributes

def isDocHidden (attributes : Attributes) : Bool := attributes.contains .docHidden

def isTest (attributes : Attributes) : Bool := attributes.contains .test

/-- The configuration predicates, in order. -/
def predicates (attributes : Attributes) : List Cfg.Predicate :=
  attributes.filterMap fun
    | .cfg predicate => some predicate
    | _ => none

/-- No predicate is known to be false. -/
def isEnabled (attributes : Attributes) (settings : Cfg.Settings) : Bool :=
  attributes.predicates.all (·.isEnabled settings)

end Attributes

end ScopeWalk
