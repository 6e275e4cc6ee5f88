import ScopeWalk.Proofs.Candidate.Acceptance

/-!
# Judging candidates

Whatever is done about a name, a candidate is judged in the same way: its name is compared, then
its element is asked for, and the element is looked at. Judging is steady, so what it comes to can
be said before any candidate is judged: accepted candidates come back with their elements, unless
one that bears the name breaks down before.
-/
namespace ScopeWalk

open Candidate

variable {ε : Type} [Candidate ε]

/-- Look whether a candidate is accepted for a name. If so, it comes back with its element. -/
def judge (name : Name) (entry : ε) : Walk (Option (ε × Element)) := do
  if Candidate.name entry != name then
    return none
  let (found, entry) ← force entry
  return (found.filter (·.isEnabled)).map (entry, ·)

/-- Judge candidates one after another. -/
def search (name : Name) : List ε → Walk (List (ε × Element))
  | [] => pure []
  | entry :: rest => do
    let accepted ← judge name entry
    let others ← search name rest
    return accepted.toList ++ others

/-- An accepted candidate comes back in its settled form. -/
def settle (store : Store) (hit : ε × Element) : ε × Element := (settledIn store hit.1, hit.2)

theorem answer_judge (name : Name) (store : Store) (entry : ε) :
    (judge name entry).answer store =
      (failure? name store entry).elim (.ok ((accepted? name store entry).map (settle store)))
        .error := by
  by_cases hname : Candidate.name entry = name
  · simp only [judge, failure?, accepted?, hname, bne_self_eq_false, Bool.false_eq_true, if_false,
      if_true]
    cases hfailure : failureIn? store entry with
    | none =>
      rw [Walk.answer, Walk.run_bind_ok _ (answer_force_of_unbroken hfailure)]
      cases helement : elementIn store entry with
      | none => rfl
      | some element =>
        cases henabled : element.isEnabled <;> simp [henabled, Option.filter] <;> rfl
    | some failure =>
      have hforce := answer_force store entry
      rw [hfailure, Option.elim_some] at hforce
      rw [Walk.answer, Walk.run_bind_error _ hforce]
      rfl
  · simp only [judge, failure?, accepted?, bne_iff_ne, ne_eq, hname, not_false_eq_true, if_true,
      if_false, Option.elim_none, Option.map_none]
    rfl

section Lawful

variable [LawfulCandidate ε] (name : Name)

theorem judge_steady (entry : ε) : (judge name entry).Steady := by
  unfold judge
  cases Candidate.name entry != name with
  | true => exact Walk.steady_pure none
  | false => exact (LawfulCandidate.force_steady entry).bind fun _ => Walk.steady_pure _

theorem settle_congr {store other : Store} (h : store.SameRoots other) :
    settle (ε := ε) store = settle other := by
  funext hit
  simp only [settle, settledIn_congr h]

/-- The induction is on the candidates. What was judged before leaves all later answers as they
were. -/
theorem answer_search (store : Store) (entries : List ε) :
    (search name entries).answer store =
      outcome name store entries ((acceptedOf name store entries).map (settle store)) := by
  induction entries generalizing store with
  | nil => rfl
  | cons entry rest ih =>
    have hjudge := answer_judge name store entry
    simp only [search, outcome, failureOf?, acceptedOf, List.findSome?_cons, List.filterMap_cons]
    cases hfailure : failure? name store entry with
    | some failure =>
      rw [hfailure, Option.elim_some] at hjudge
      rw [Walk.answer, Walk.run_bind_error _ hjudge]
      rfl
    | none =>
      rw [hfailure, Option.elim_none] at hjudge
      have hroots := (judge_steady name entry).sameRoots hjudge
      have hrest := ih ((judge name entry).after store)
      simp only [outcome, failureOf?, acceptedOf, ← failure?_congr hroots, ← accepted?_congr hroots,
        ← settle_congr hroots] at hrest
      rw [Walk.answer, Walk.run_bind_ok _ hjudge]
      show (search name rest >>= fun others => pure (_ ++ others)).answer _ = _
      rw [Walk.answer_bind_pure, hrest]
      cases rest.findSome? (failure? name store) with
      | some failure => rfl
      | none => cases accepted? name store entry <;> rfl

theorem answer_search_bind_pure (store : Store) (entries : List ε) (f : List (ε × Element) → β) :
    (search name entries >>= fun found => pure (f found)).answer store =
      outcome name store entries (f ((acceptedOf name store entries).map (settle store))) := by
  rw [Walk.answer_bind_pure, answer_search, outcome_map]

end Lawful

end ScopeWalk
