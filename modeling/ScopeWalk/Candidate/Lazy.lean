import ScopeWalk.Crates.Walk

/-!
# Candidates with a deferred element

A scope can offer a name without knowing yet what stands behind it. The element is looked for
when someone first asks, and the answer is kept, also when there is nothing to be found.
-/
namespace ScopeWalk

/-- How a deferred element is found. -/
inductive Thunk where
  | known (found : Option Element)
  /-- By reading the root of a crate. -/
  | crateRoot (crate : CrateId)
  /-- Not at all: looking for it breaks down. -/
  | failing (message : String)
  /-- As `next` does, with a note in the journal first. -/
  | noting (text : String) (next : Thunk)

namespace Thunk

def run : Thunk → Walk (Option Element)
  | .known found => pure found
  | .crateRoot crate => Walk.crateRoot crate
  | .failing message => Walk.fail message
  | .noting text next => do
    Walk.note text
    next.run

end Thunk

structure LazyEntry where
  name : Name
  cell : Memo Thunk (Option Element)
  /-- The name comes from an `extern crate` declaration or from a crate's dependencies. -/
  isExternCrate : Bool

namespace LazyEntry

/-- A candidate whose element is not looked for yet. -/
def ofThunk (name : Name) (thunk : Thunk) (isExternCrate : Bool) : LazyEntry :=
  ⟨name, .pending thunk, isExternCrate⟩

def isResolved (entry : LazyEntry) : Bool := entry.cell.isComputed

/-- Ask for the element. The entry that comes back remembers the answer, or that there was none.
-/
def read (entry : LazyEntry) (store : Store) :
    (Except Failure (Option Element) × Store) × LazyEntry :=
  let (result, cell) := entry.cell.force (fun thunk => thunk.run.run) store
  (result, { entry with cell := cell })

/-- Ask for the element as part of a walk. -/
def force (entry : LazyEntry) : Walk (Option Element × LazyEntry) := fun store =>
  let ((answer, store), entry) := entry.read store
  (answer.map (·, entry), store)

/-- Kind, name, and what is known of the element. Nothing is looked for. -/
def render (entry : LazyEntry) : String :=
  (if entry.isExternCrate then "ExternCrateScopeEntry" else "LazyScopeEntry") ++ "(" ++
    entry.name.text ++ ", " ++
    (match entry.cell.peek with
      | some (some element) => element.render
      | some none => "<unresolved>"
      | none => "<pending>") ++ ")"

end LazyEntry

end ScopeWalk
