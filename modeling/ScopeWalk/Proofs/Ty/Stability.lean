import ScopeWalk.Proofs.Ty.Composition

/-!
# Types that a substitution leaves alone

A substitution leaves a type alone just if it leaves the parameters alone that occur in it. So a
second application may change again what came of the first one, as when a parameter is bound to a
type that contains the parameter, or when two parameters are bound crosswise. It never does just if
all parameters in the bound types are left alone.
-/
namespace ScopeWalk.Substitution

/-- The parameter is left alone: it is unbound, or bound to itself. -/
def Keeps (s : Substitution) (p : Name) : Prop :=
  s.get? p = none ∨ s.get? p = some (.param p)

variable (s : Substitution)

theorem apply_param_eq_iff {p : Name} : s.apply (.param p) = .param p ↔ s.Keeps p := by
  rw [apply_param, Keeps]
  cases s.get? p <;> simp

theorem apply_eq_self_iff (t : Ty) : s.apply t = t ↔ ∀ p, t.Mentions p → s.Keeps p := by
  rw [s.replaces_apply.eq_iff Ty.Replaces.id t]
  exact forall₂_congr fun p _ => s.apply_param_eq_iff

/-- What was not bound is kept, so only what was put in may change once more. -/
theorem apply_apply_eq_iff (t : Ty) : s.apply (s.apply t) = s.apply t ↔
    ∀ p, t.Mentions p → ∀ u, s.get? p = some u → ∀ q, u.Mentions q → s.Keeps q := by
  rw [apply_eq_self_iff]
  constructor
  · intro h p hp u hbound q hq
    exact h q ((mentions_apply_iff s).mpr (.inr ⟨p, u, hp, hbound, hq⟩))
  · intro h q hq
    obtain ⟨-, hfree⟩ | ⟨p, u, hp, hbound, hin⟩ := (mentions_apply_iff s).mp hq
    · exact .inl hfree
    · exact h p hp u hbound q hin

/-- A type is left alone just if each parameter in it is unbound or bound to itself. Applying the
substitution twice is applying it once, whatever the type, just if no type that it binds mentions a
parameter that it binds to anything but this parameter. -/
theorem apply_stable_iff :
    (∀ t, s.apply t = t ↔ ∀ p, t.Mentions p → s.Keeps p) ∧
    ((∀ t, s.apply (s.apply t) = s.apply t) ↔
      ∀ p u, s.get? p = some u → ∀ q, u.Mentions q → s.Keeps q) := by
  refine ⟨s.apply_eq_self_iff, fun h p u hbound => ?_, fun h t => ?_⟩
  · exact (s.apply_apply_eq_iff (.param p)).mp (h (.param p)) p .param u hbound
  · exact (s.apply_apply_eq_iff t).mpr fun p _ => h p

/-- With two parameters bound crosswise, each application changes a type again. -/
example :
    let s := ofList [(⟨"T"⟩, .param ⟨"U"⟩), (⟨"U"⟩, .param ⟨"T"⟩)]
    let t : Ty := .adt ⟨"Pair"⟩ [.param ⟨"T"⟩, .param ⟨"U"⟩]
    s.apply t ≠ t ∧ s.apply (s.apply t) ≠ s.apply t ∧ s.apply (s.apply t) = t := by
  decide

end ScopeWalk.Substitution
