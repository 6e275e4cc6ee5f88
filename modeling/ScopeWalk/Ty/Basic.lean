import ScopeWalk.Name

/-!
# Types

Types are carried along and compared, never inferred. A scope walk looks into them only to strip
the references of a method's receiver and to replace type parameters.
-/
namespace ScopeWalk

inductive Ty where
  /-- A type nobody could determine. -/
  | unknown
  | primitive (name : Name)
  /-- A type parameter. -/
  | param (name : Name)
  /-- A struct, enum or union with its type arguments. -/
  | adt (name : Name) (args : List Ty)
  | ref (isMut : Bool) (inner : Ty)
  | tuple (parts : List Ty)
  deriving Repr, Inhabited

namespace Ty

mutual

def beq : Ty → Ty → Bool
  | .unknown, .unknown => true
  | .primitive a, .primitive b => a == b
  | .param a, .param b => a == b
  | .adt a ss, .adt b ts => a == b && beqAll ss ts
  | .ref m s, .ref n t => m == n && beq s t
  | .tuple ss, .tuple ts => beqAll ss ts
  | _, _ => false

def beqAll : List Ty → List Ty → Bool
  | [], [] => true
  | s :: ss, t :: ts => beq s t && beqAll ss ts
  | _, _ => false

end

mutual

theorem beq_iff : (s t : Ty) → (beq s t = true ↔ s = t)
  | .unknown, t => by cases t <;> simp [beq]
  | .primitive _, t => by cases t <;> simp [beq]
  | .param _, t => by cases t <;> simp [beq]
  | .adt _ ss, t => by cases t <;> simp [beq, beqAll_iff ss]
  | .ref _ s, t => by cases t <;> simp [beq, beq_iff s]
  | .tuple ss, t => by cases t <;> simp [beq, beqAll_iff ss]

theorem beqAll_iff : (ss ts : List Ty) → (beqAll ss ts = true ↔ ss = ts)
  | [], ts => by cases ts <;> simp [beqAll]
  | s :: ss, ts => by cases ts <;> simp [beqAll, beq_iff s, beqAll_iff ss]

end

instance : DecidableEq Ty := fun s t => decidable_of_iff _ (beq_iff s t)

/-- The type behind a reference, mutable or not. -/
def deref : Ty → Option Ty
  | .ref _ inner => some inner
  | _ => none

/-- The type and all types that stripping references leads to, outermost first. -/
def derefChain : Ty → List Ty
  | .ref isMut inner => .ref isMut inner :: inner.derefChain
  | t => [t]

end Ty

end ScopeWalk
