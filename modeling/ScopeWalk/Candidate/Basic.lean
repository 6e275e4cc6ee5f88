import ScopeWalk.Candidate.Lazy
import ScopeWalk.Candidate.Member

/-!
# Candidates

A candidate is a name that a scope makes visible, with the declaration behind it. The name may
differ from the declaration's own, and the declaration may be deferred or missing. Candidates
also carry the substitution under which they were reached.
-/
namespace ScopeWalk

/-- What every kind of candidate offers. -/
class Candidate (ε : Type) where
  name : ε → Name
  subst : ε → Substitution
  /-- The element behind the name, and the candidate as it is once that is known. -/
  force : ε → Walk (Option Element × ε)

/-- A declaration known from the start. -/
structure DirectEntry where
  name : Name
  element : Element
  subst : Substitution

/-- Candidates of ordinary scopes. -/
inductive Entry where
  | direct (entry : DirectEntry)
  | deferred (entry : LazyEntry)
  | member (entry : MemberEntry)

namespace Entry

def name : Entry → Name
  | .direct entry => entry.name
  | .deferred entry => entry.name
  | .member entry => entry.name

/-- Deferred candidates carry no substitution. -/
def subst : Entry → Substitution
  | .direct entry => entry.subst
  | .deferred _ => .empty
  | .member entry => entry.subst

def force : Entry → Walk (Option Element × Entry)
  | .direct entry => pure (some entry.element, .direct entry)
  | .deferred entry => do
    let (found, entry) ← entry.force
    return (found, .deferred entry)
  | .member entry => pure (some entry.element, .member entry)

/-- The candidate stands for a crate. -/
def isExternCrate : Entry → Bool
  | .deferred entry => entry.isExternCrate
  | _ => false

/-- A candidate for a declaration under some name. -/
def ofElement (name : Name) (element : Element) (subst : Substitution) : Entry :=
  .direct ⟨name, element, subst⟩

/-- The candidate for a declaration under its own name, if it has one. -/
def named? (subst : Substitution) (element : Element) : Option Entry :=
  element.name.map (ofElement · element subst)

/-- A candidate for a crate, its root not read yet. -/
def ofCrate (name : Name) (crate : CrateId) : Entry :=
  .deferred (.ofThunk name (.crateRoot crate) true)

end Entry

instance : Candidate Entry := ⟨Entry.name, Entry.subst, Entry.force⟩

instance : Candidate MemberEntry :=
  ⟨MemberEntry.name, MemberEntry.subst, fun entry => pure (some entry.element, entry)⟩

instance : Candidate MethodEntry :=
  ⟨(·.name), (·.subst), fun entry => pure (some entry.element, entry)⟩

end ScopeWalk
