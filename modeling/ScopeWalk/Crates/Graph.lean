import ScopeWalk.Decl.Basic
import ScopeWalk.Memo

/-!
# The graph of crates

Crates are numbered in the order they are added. A dependency gives another crate a name inside
the depending one. Names of crates are written in packages with hyphens and in code with
underscores; the graph keeps the form used in code.

Every crate has a cell for the declaration of its root module. The loader that fills it is
called at most once for a crate, when its root is first read.
-/
namespace ScopeWalk

/-- Finds the declaration of a crate's root module. There may be none, and looking may break
down. What a loader finds depends on the crate alone. One with a state of its own, which may find
something else when it is asked for the same crate again, is not covered. -/
abbrev Loader := Crate → Except Failure (Option Decl)

/-- The root is a public declaration named after the crate. -/
def Loader.plain : Loader := fun crate =>
  .ok (some { Decl.ofKind .crateRoot (.root crate) with
    name := crate.name, visibility := some .pub })

structure Dependency where
  name : Name
  crate : CrateId
  deriving DecidableEq, Repr

structure CrateNode where
  crate : Crate
  dependencies : List Dependency
  root : Memo Crate (Option Element)

structure CrateGraph where
  loader : Loader
  nodes : List CrateNode

/-- The form of a crate's name that is used in code. -/
def Name.hyphensReplaced (name : Name) : Name :=
  .ofChars (name.chars.map fun c => if c = '-' then '_' else c)

namespace CrateGraph

def empty (loader : Loader) : CrateGraph := ⟨loader, []⟩

def size (graph : CrateGraph) : Nat := graph.nodes.length

def isEmpty (graph : CrateGraph) : Bool := graph.nodes.isEmpty

def node? (graph : CrateGraph) (id : CrateId) : Option CrateNode := graph.nodes[id.index]?

def crate? (graph : CrateGraph) (id : CrateId) : Option Crate := (graph.node? id).map (·.crate)

/-- The dependencies of a crate in the order they were added. An unknown crate has none. -/
def dependencies (graph : CrateGraph) (id : CrateId) : List Dependency :=
  ((graph.node? id).map (·.dependencies)).getD []

/-- The root of a crate was read already. -/
def isRootLoaded (graph : CrateGraph) (id : CrateId) : Bool :=
  (graph.node? id).any (·.root.isComputed)

def rootModule? (graph : CrateGraph) (id : CrateId) : Option Module := (graph.crate? id).map .root

/-- The number that the next crate will get. -/
def nextId (graph : CrateGraph) : CrateId := ⟨graph.size⟩

/-- Add a crate, with its root not read yet. Here there is always room for one more. Where crates are
numbered with 32 bits, adding one breaks down when all numbers are taken; that is left out. -/
def addCrate (graph : CrateGraph) (name : Name) (origin : Origin) (settings : Cfg.Settings) :
    CrateGraph :=
  let crate : Crate := ⟨graph.nextId, name.hyphensReplaced, origin, settings⟩
  { graph with nodes := graph.nodes ++ [⟨crate, [], .pending crate⟩] }

/-- Let `dependent` name the crate `target`. Crates that are not in the graph are ignored. -/
def addDependency (graph : CrateGraph) (dependent : CrateId) (name : Name) (target : CrateId) :
    CrateGraph :=
  if target.index < graph.size then
    { graph with
      nodes := graph.nodes.modify dependent.index fun node =>
        { node with dependencies := node.dependencies ++ [⟨name.hyphensReplaced, target⟩] } }
  else graph

def setRoot (graph : CrateGraph) (id : CrateId) (root : Memo Crate (Option Element)) : CrateGraph :=
  { graph with nodes := graph.nodes.modify id.index fun node => { node with root := root } }

/-- The quoted names of all crates. -/
def render (graph : CrateGraph) : String :=
  "[" ++ ", ".intercalate (graph.nodes.map (·.crate.name.quoted)) ++ "]"

end CrateGraph

end ScopeWalk
