import ScopeWalk.Cfg.Settings

/-!
# Crates, modules and visibility

A crate is a tree of modules. A module is known by its path: the crate and the names of the
modules on the way down from the root. A declaration's visibility says from which modules it may
be named, and always admits a module together with all modules nested in it.
-/
namespace ScopeWalk

/-- A crate's place in the graph of crates. There is no last place, as there is with numbers of 32
bits. -/
structure CrateId where
  index : Nat
  deriving DecidableEq, Inhabited, Repr

def CrateId.render (id : CrateId) : String := "crate#" ++ toString id.index

/-- Where a crate comes from. -/
inductive Origin where
  | workspace
  | dependency
  | stdlib
  deriving DecidableEq, Repr

/-- What all modules of a crate share. -/
structure Crate where
  id : CrateId
  name : Name
  origin : Origin
  settings : Cfg.Settings

structure ModulePath where
  crate : CrateId
  segments : List Name
  deriving DecidableEq, Repr

namespace ModulePath

def root (crate : CrateId) : ModulePath := ⟨crate, []⟩

def child (path : ModulePath) (segment : Name) : ModulePath :=
  { path with segments := path.segments ++ [segment] }

/-- The module around this one. The root of a crate has none. -/
def parent (path : ModulePath) : Option ModulePath :=
  if path.segments.isEmpty then none else some { path with segments := path.segments.dropLast }

/-- The module `inner` is this one or lies anywhere inside it. -/
def isAncestorOf (outer inner : ModulePath) : Bool :=
  outer.crate = inner.crate && outer.segments.isPrefixOf inner.segments

def render (path : ModulePath) : String :=
  path.segments.foldl (fun text segment => text ++ "::" ++ segment.text) "crate"

end ModulePath

/-- A module and the crate it belongs to. -/
structure Module where
  path : ModulePath
  crate : Crate

namespace Module

def root (crate : Crate) : Module := ⟨.root crate.id, crate⟩

/-- Modules are the same when their paths are. -/
def same (a b : Module) : Bool := a.path = b.path

end Module

/-- From where a declaration may be named. -/
inductive Visibility where
  /-- Written `pub`. -/
  | pub
  /-- Written `pub(crate)`. -/
  | pubCrate
  /-- Written `pub(in scope)`; also `pub(super)` and `pub(self)`, once resolved. -/
  | pubIn (scope : ModulePath)
  /-- No modifier: the declaring module and what is inside it. -/
  | inherited
  deriving DecidableEq, Repr

/-- A declaration of module `owner` may be named from module `importer`. -/
def Visibility.admits (visibility : Visibility) (owner importer : ModulePath) : Bool :=
  match visibility with
  | .pub => true
  | .pubCrate => owner.crate = importer.crate
  | .pubIn scope => scope.isAncestorOf importer
  | .inherited => owner.isAncestorOf importer

end ScopeWalk
