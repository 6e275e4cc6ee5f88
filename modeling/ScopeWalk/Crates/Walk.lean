import ScopeWalk.Crates.Graph

/-!
# Computations that read crate roots

Walking a scope may read the roots of crates, and so load them. What a walk may change is a
`Store`: the root cells of the graph, and a journal of what happened. A walk may break down; the
store then keeps what was done before.
-/
namespace ScopeWalk

inductive Event where
  /-- The loader was called for a crate. -/
  | load (crate : CrateId)
  /-- A remark of whoever follows the walk. -/
  | note (text : String)
  deriving DecidableEq, Repr

structure Store where
  graph : CrateGraph
  /-- All events, oldest first. -/
  journal : List Event

/-- A computation on the store that may break down. -/
abbrev Walk := ExceptT Failure (StateM Store)

namespace Walk

def note (text : String) : Walk Unit :=
  modify fun store => { store with journal := store.journal ++ [.note text] }

def fail (message : String) : Walk α := throw ⟨message⟩

/-- Call the loader and write down that it was called. The root it finds gets its identity here. A
crate has one root, whatever is found for it; a loader that gives out several, each with an identity
of its own, is not covered. -/
def load (loader : Loader) (crate : Crate) (journal : List Event) :
    Except Failure (Option Element) × List Event :=
  ((loader crate).map (·.map fun decl => { decl with id := .crateRoot crate.id }),
    journal ++ [.load crate.id])

/-- The root of a crate, loaded if this is the first time it is read. An unknown crate has none.
-/
def crateRoot (id : CrateId) : Walk (Option Element) := fun store =>
  match store.graph.node? id with
  | none => (.ok none, store)
  | some node =>
    let ((answer, journal), root) := node.root.force (load store.graph.loader) store.journal
    (answer, { graph := store.graph.setRoot id root, journal := journal })

end Walk

end ScopeWalk
