import ScopeWalk.Cfg.Settings

/-!
# Configuration predicates

A predicate asks whether settings are on. Its answer is true, false or unknown: a predicate that
was written in a way nobody understands is `unknown`, and what depends on it is unknown as well,
unless the other parts already decide the answer. A declaration is kept unless its predicate is
known to be false.
-/
namespace ScopeWalk.Cfg

/-- A truth value that may be unknown, `none`. -/
abbrev Truth := Option Bool

namespace Truth

/-- One false part makes a conjunction false, known or not the other. -/
def and : Truth → Truth → Truth
  | some true, b => b
  | some false, _ => some false
  | none, some false => some false
  | none, _ => none

/-- One true part makes a disjunction true, known or not the other. -/
def or : Truth → Truth → Truth
  | some false, b => b
  | some true, _ => some true
  | none, some true => some true
  | none, _ => none

def not (a : Truth) : Truth := a.map (!·)

end Truth

inductive Predicate where
  | flag (name : Name)
  | keyValue (key value : Name)
  | all (parts : List Predicate)
  | any (parts : List Predicate)
  | not (part : Predicate)
  /-- Text that is no predicate. -/
  | unknown
  deriving Repr, Inhabited

namespace Predicate

mutual

def beq : Predicate → Predicate → Bool
  | .flag a, .flag b => a == b
  | .keyValue a v, .keyValue b w => a == b && v == w
  | .all ps, .all qs => beqAll ps qs
  | .any ps, .any qs => beqAll ps qs
  | .not p, .not q => beq p q
  | .unknown, .unknown => true
  | _, _ => false

def beqAll : List Predicate → List Predicate → Bool
  | [], [] => true
  | p :: ps, q :: qs => beq p q && beqAll ps qs
  | _, _ => false

end

mutual

theorem beq_iff : (p q : Predicate) → (beq p q = true ↔ p = q)
  | .flag _, q => by cases q <;> simp [beq]
  | .keyValue _ _, q => by cases q <;> simp [beq]
  | .all ps, q => by cases q <;> simp [beq, beqAll_iff ps]
  | .any ps, q => by cases q <;> simp [beq, beqAll_iff ps]
  | .not p, q => by cases q <;> simp [beq, beq_iff p]
  | .unknown, q => by cases q <;> simp [beq]

theorem beqAll_iff : (ps qs : List Predicate) → (beqAll ps qs = true ↔ ps = qs)
  | [], qs => by cases qs <;> simp [beqAll]
  | p :: ps, qs => by cases qs <;> simp [beqAll, beq_iff p, beqAll_iff ps]

end

instance : DecidableEq Predicate := fun p q => decidable_of_iff _ (beq_iff p q)

mutual

/-- The answer under the given settings. -/
def eval (settings : Settings) : Predicate → Truth
  | .flag name => some (Setting.flag name ∈ settings)
  | .keyValue key value => some (Setting.keyValue key value ∈ settings)
  | .all parts => evalAll settings parts
  | .any parts => evalAny settings parts
  | .not part => (part.eval settings).not
  | .unknown => none

/-- The answer to all of `parts` at once. -/
def evalAll (settings : Settings) : List Predicate → Truth
  | [] => some true
  | part :: parts => (part.eval settings).and (evalAll settings parts)

/-- The answer to at least one of `parts`. -/
def evalAny (settings : Settings) : List Predicate → Truth
  | [] => some false
  | part :: parts => (part.eval settings).or (evalAny settings parts)

end

/-- What the predicate guards stays in the build. Unknown is no reason to leave it out. -/
def isEnabled (settings : Settings) (p : Predicate) : Bool := p.eval settings != some false

end Predicate

end ScopeWalk.Cfg
