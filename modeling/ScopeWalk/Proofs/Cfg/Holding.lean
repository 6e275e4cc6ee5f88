import ScopeWalk.Proofs.Cfg.Grammar
import ScopeWalk.Proofs.Cfg.Readings

/-!
# What a predicate says when it can be read

Without unknown parts a predicate is true or false, in the plain sense of all, any and not, and that
is how it is answered. What was read from a text has no unknown part, so its answer is always known.
-/
namespace ScopeWalk.Cfg.Predicate

variable (settings : Settings)

/-! ### True or false -/

/-- What the predicate says, if its parts are true or false. It is meant to have no unknown part. -/
def Holds : Predicate → Prop
  | .flag name => .flag name ∈ settings
  | .keyValue key value => .keyValue key value ∈ settings
  | .all parts => ∀ part ∈ parts, part.Holds
  | .any parts => ∃ (part : Predicate) (_ : part ∈ parts), part.Holds
  | .not part => ¬ part.Holds
  | .unknown => False

theorem areKnown_iff {parts : List Predicate} :
    areKnown parts = true ↔ ∀ part ∈ parts, part.isKnown = true := by
  induction parts with
  | nil => simp [areKnown]
  | cons part parts ih => simp [areKnown, ih]

section Parts

variable {settings} {parts : List Predicate}

theorem eval_all_eq_true_iff :
    (all parts).eval settings = some true ↔ ∀ part ∈ parts, part.eval settings = some true := by
  rw [eval_all, ← Bool.not_false, Truth.decided_eq_some_not_iff, List.forall_mem_map]

theorem eval_all_eq_false_iff :
    (all parts).eval settings = some false ↔ ∃ part ∈ parts, part.eval settings = some false := by
  rw [eval_all, Truth.decided_eq_some_iff, List.mem_map]

theorem eval_any_eq_true_iff :
    (any parts).eval settings = some true ↔ ∃ part ∈ parts, part.eval settings = some true := by
  rw [eval_any, Truth.decided_eq_some_iff, List.mem_map]

theorem eval_any_eq_false_iff :
    (any parts).eval settings = some false ↔ ∀ part ∈ parts, part.eval settings = some false := by
  rw [eval_any, ← Bool.not_true, Truth.decided_eq_some_not_iff, List.forall_mem_map]

end Parts

/-- The answer is true if the predicate holds, and false if it does not. -/
theorem eval_iff_holds {p : Predicate} : p.isKnown = true →
    (p.eval settings = some true ↔ p.Holds settings) ∧
      (p.eval settings = some false ↔ ¬ p.Holds settings) := by
  induction p using byParts with
  | flag name => simp [eval, Holds]
  | keyValue key value => simp [eval, Holds]
  | all parts ih =>
    intro hknown
    have hparts (part) (h : part ∈ parts) := ih part h (areKnown_iff.mp hknown part h)
    rw [eval_all_eq_true_iff, eval_all_eq_false_iff, Holds]
    push Not
    constructor
    · exact forall₂_congr fun part h => (hparts part h).1
    · exact exists_congr fun part => and_congr_right fun h => (hparts part h).2
  | any parts ih =>
    intro hknown
    have hparts (part) (h : part ∈ parts) := ih part h (areKnown_iff.mp hknown part h)
    rw [eval_any_eq_true_iff, eval_any_eq_false_iff, Holds]
    simp only [exists_prop]
    push Not
    constructor
    · exact exists_congr fun part => and_congr_right fun h => (hparts part h).1
    · exact forall₂_congr fun part h => (hparts part h).2
  | not part ih =>
    intro hknown
    obtain ⟨htrue, hfalse⟩ := ih hknown
    rw [Holds, not_not, ← hfalse, ← htrue, eval_not]
    rcases part.eval settings with _ | _ | _ <;> simp
  | unknown =>
    intro hknown
    simp [isKnown] at hknown

/-- The answer to a predicate without unknown parts is known. -/
theorem exists_eval_eq_some {p : Predicate} (hknown : p.isKnown = true) :
    ∃ answer, p.eval settings = some answer ∧ (answer = true ↔ p.Holds settings) := by
  obtain ⟨htrue, hfalse⟩ := eval_iff_holds settings hknown
  by_cases h : p.Holds settings
  · exact ⟨true, htrue.mpr h, by simp [h]⟩
  · exact ⟨false, hfalse.mpr h, by simp [h]⟩

/-! ### What was read -/

theorem isKnown_of_operation {word : Name} {operands : List Predicate} {p : Predicate}
    (h : Operation word operands p) (hoperands : areKnown operands = true) :
    p.isKnown = true := by
  cases h with
  | all => rwa [isKnown]
  | any => rwa [isKnown]
  | not operand => simpa [isKnown, areKnown] using hoperands

mutual

/-- Only predicates without unknown parts can be written. -/
theorem isKnown_of_spells {written : List Char} {p : Predicate} (h : Spells written p) :
    p.isKnown = true := by
  cases h with
  | flag name => rw [isKnown]
  | keyValue key value => rw [isKnown]
  | operation word operands p blanks inside hword hblanks hinside =>
    exact isKnown_of_operation hword (areKnown_of_spellsOperands hinside)
termination_by 2 * written.length

theorem areKnown_of_spellsOperands {inside : List Char} {operands : List Predicate}
    (h : SpellsOperands inside operands) : areKnown operands = true := by
  cases h with
  | none => rw [areKnown]
  | last operand before written after hbefore hwritten =>
    simp [areKnown, isKnown_of_spells hwritten]
  | more operand operands before written after rest hbefore hwritten hafter hrest =>
    simp [areKnown, isKnown_of_spells hwritten, areKnown_of_spellsOperands hrest]
termination_by 2 * inside.length + 1
decreasing_by
  all_goals
    subst_vars
    simp only [List.length_append, List.length_cons]
    omega

end

theorem isKnown_of_parse {text : String} {p : Predicate} (h : parse text = .ok p) :
    p.isKnown = true := by
  obtain ⟨before, written, after, -, hwritten, -⟩ := exists_spells_of_parse h
  exact isKnown_of_spells hwritten

end ScopeWalk.Cfg.Predicate
