import ScopeWalk.Decl.Basic
import ScopeWalk.Ty.Substitution

/-!
# Members of traits and impl blocks as candidates

A member is offered for a type, together with the way it got there. A method is a member that
was found for the receiver of a call after some number of references had been stripped.
-/
namespace ScopeWalk

/-- How a member became available on a type. -/
inductive MemberSource where
  /-- Written in an `impl` block of the type itself. -/
  | inherent (impl : Element)
  /-- Written in an `impl` block of a trait. -/
  | written (impl trait : Element)
  /-- Taken over from the trait by an `impl` block that does not write it. -/
  | inheritedFrom (impl trait : Element)
  /-- Promised by a bound on the type. -/
  | bound (trait : Element)

namespace MemberSource

/-- The `impl` block it came through. -/
def impl? : MemberSource → Option Element
  | .inherent impl | .written impl _ | .inheritedFrom impl _ => some impl
  | .bound _ => none

/-- The trait it came through. -/
def trait? : MemberSource → Option Element
  | .inherent _ => none
  | .written _ trait | .inheritedFrom _ trait | .bound trait => some trait

def isInherent : MemberSource → Bool
  | .inherent _ => true
  | _ => false

/-- Members with this source are written in an `impl` block and not in a trait. -/
def isWrittenInImpl : MemberSource → Bool
  | .inherent _ | .written _ _ => true
  | _ => false

end MemberSource

structure MemberEntry where
  name : Name
  element : Element
  subst : Substitution
  /-- The type it is offered for. -/
  selfTy : Ty
  source : MemberSource

structure MethodEntry extends MemberEntry where
  /-- Number of references stripped from the receiver. -/
  derefs : Nat

end ScopeWalk
