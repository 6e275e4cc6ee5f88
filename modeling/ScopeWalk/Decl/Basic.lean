import ScopeWalk.Decl.Attributes
import ScopeWalk.Decl.Module

/-!
# Declarations

A declaration has a kind and is written in a module. The rest is optional: a name, which an
`impl` block lacks, and the three capabilities of being visible, of carrying attributes, and of
belonging to a trait or an `impl` block. A missing capability is not the same as a restrictive
one; local bindings, for instance, are neither public nor private.

An element is a declaration with an identity. Two elements are equal when they are the same one,
however much two declarations may look alike.
-/
namespace ScopeWalk

inductive DeclKind where
  | function (takesSelf : Bool)
  | const
  | static
  | typeAlias
  | struct
  | enum
  | variant
  | union
  | trait
  | impl
  | mod
  | crateRoot
  | externCrate
  | use
  | macroDef
  | field
  | genericParam
  | binding
  | label
  deriving DecidableEq, Repr

namespace DeclKind

/-- Kinds that may be members of a trait or an `impl` block. -/
def isAbstractable : DeclKind → Bool
  | .function _ | .const | .typeAlias => true
  | _ => false

/-- Kinds that live in a body and never in a module. -/
def isLocal : DeclKind → Bool
  | .genericParam | .binding | .label => true
  | _ => false

def isFunction : DeclKind → Bool
  | .function _ => true
  | _ => false

def isMethod : DeclKind → Bool
  | .function takesSelf => takesSelf
  | _ => false

/-- The word for the kind. -/
def word : DeclKind → String
  | .function true => "method"
  | .function false => "fn"
  | .const => "const"
  | .static => "static"
  | .typeAlias => "type"
  | .struct => "struct"
  | .enum => "enum"
  | .variant => "variant"
  | .union => "union"
  | .trait => "trait"
  | .impl => "impl"
  | .mod => "mod"
  | .crateRoot => "crate"
  | .externCrate => "extern crate"
  | .use => "use"
  | .macroDef => "macro"
  | .field => "field"
  | .genericParam => "type parameter"
  | .binding => "binding"
  | .label => "label"

end DeclKind

/-- What makes an element the one it is. -/
inductive ElementId where
  /-- The declaration at a place in the list of all declarations. -/
  | declared (index : Nat)
  /-- The one root of a crate. -/
  | crateRoot (crate : CrateId)
  deriving DecidableEq, Inhabited, Repr

/-- The trait or `impl` block that a member is written in. -/
inductive Owner where
  | trait (id : ElementId)
  | impl (id : ElementId)
  deriving DecidableEq, Repr

structure Decl where
  name : Option Name
  kind : DeclKind
  /-- The module it is written in. The root of a crate is its own module. -/
  module : Module
  visibility : Option Visibility
  attributes : Option Attributes
  owner : Option Owner

namespace Decl

/-- A declaration with the capabilities usual for its kind: items are private and may carry
attributes, local bindings have neither capability. -/
def ofKind (kind : DeclKind) (module : Module) : Decl where
  name := none
  kind := kind
  module := module
  visibility := if kind.isLocal then none else some .inherited
  attributes := if kind.isLocal then none else some []
  owner := none

def isAbstractable (decl : Decl) : Bool := decl.kind.isAbstractable

/-- Whether it may be named from a module, unless it has no visibility at all. -/
def isVisibleFrom (decl : Decl) (importer : ModulePath) : Option Bool :=
  decl.visibility.map (·.admits decl.module.path importer)

/-- It stays in the build of its own crate. Without attributes it always does. -/
def isEnabled (decl : Decl) : Bool :=
  decl.attributes.all (·.isEnabled decl.module.crate.settings)

def isDocHidden (decl : Decl) : Bool := decl.attributes.any Attributes.isDocHidden

def isTestFunction (decl : Decl) : Bool :=
  decl.kind.isFunction && decl.attributes.any Attributes.isTest

/-- Kind, name and place. -/
def render (decl : Decl) : String :=
  decl.kind.word ++ " " ++ (decl.name.elim "<anon>" Name.text) ++ " in " ++ decl.module.path.render

end Decl

/-- A declaration with an identity. -/
structure Element extends Decl where
  id : ElementId

namespace Element

instance : BEq Element := ⟨fun a b => a.id == b.id⟩

theorem beq_iff {a b : Element} : (a == b) = true ↔ a.id = b.id := by
  simp [BEq.beq]

end Element

end ScopeWalk
