import ScopeWalk.Crates.ExternFeed

/-!
# Resolving a name

A name is resolved by walking a scope and keeping the candidates that bear the name. Deferred
candidates are asked for their element only if they do. A candidate counts as a match if it has
an element, and the element is in the build of its crate. Collecting goes on until the feed
ends, or glob imports are announced after a match: they are shadowed by what was found before.
Picking stops at the first match.

`n` is the monad that everything runs in; it can read crate roots.
-/
namespace ScopeWalk

variable {n : Type → Type u} [Monad n] [MonadLiftT Walk n] {ε : Type} [Candidate ε]

/-- Keeps, of the candidates with a name, those that match, each in the form that `keep` gives
it. -/
def collector (name : Name) (keep : ε → Element → β) : Visitor (StateT (List β) n) ε
  | .globBoundary => return !(← get).isEmpty
  | .candidate entry => do
    if Candidate.name entry != name then
      return false
    let (found, entry) ← (Candidate.force entry : Walk _)
    if let some element := found then
      if element.isEnabled then
        modify (· ++ [keep entry element])
    return false

/-- All matches of a feed in the form that `keep` gives them. -/
def collectWith (name : Name) (keep : ε → Element → β) (feed : Feed (StateT (List β) n) ε) :
    n (List β) := do
  let (_, found) ← (feed (collector name keep)).run []
  return found

/-- All declarations that a name stands for. -/
def collect (name : Name) (feed : Feed (StateT (List Element) n) Entry) : n (List Element) :=
  collectWith name (fun _ element => element) feed

/-- All declarations that a name stands for, each with the substitution it was reached under. -/
def collectBound (name : Name) (feed : Feed (StateT (List (Element × Substitution)) n) Entry) :
    n (List (Element × Substitution)) :=
  collectWith name (fun entry element => (element, entry.subst)) feed

/-- All candidates that match a name. -/
def collectEntries (name : Name) (feed : Feed (StateT (List ε) n) ε) : n (List ε) :=
  collectWith name (fun entry _ => entry) feed

/-- Keeps the first match and then stops. -/
def picker (name : Name) : Visitor (StateT (Option Element) n) Entry
  | .globBoundary => return false
  | .candidate entry => do
    if entry.name != name then
      return false
    let (found, _) ← (entry.force : Walk _)
    match found with
    | some element =>
      if element.isEnabled then
        set (some element)
        return true
      else
        return false
    | none => return false

/-- The first declaration that a name stands for. -/
def pickFirst (name : Name) (feed : Feed (StateT (Option Element) n) Entry) :
    n (Option Element) := do
  let (_, found) ← (feed (picker name)).run none
  return found

/-- The crate roots that the name in an `extern crate` declaration of the crate `id` stands for.
-/
def resolveExternCrate (id : CrateId) (name : Name) : Walk (List Element) := do
  let graph := (← get).graph
  collect name (graph.externFeed id true false)

/-- An `extern crate` declaration of the crate `id` refers to this element. Only crate roots can
be referred to, and for anything else no root is read. -/
def externCrateRefersTo (id : CrateId) (name : Name) (element : Element) : Walk Bool := do
  if element.kind = .crateRoot then
    return (← resolveExternCrate id name).contains element
  else
    return false

end ScopeWalk
