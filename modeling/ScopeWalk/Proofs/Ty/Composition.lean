import ScopeWalk.Proofs.Ty.Parameters

/-!
# One substitution after another

To apply two substitutions one after the other is to apply a single one, which binds what the first
binds to types that went through the second, and else what the second binds. It may be built in any
order, since all that is seen of a substitution is which type it has for a parameter.
-/
namespace ScopeWalk

namespace Substitution

/-! ### What is bound -/

theorem lookup_eq_some_iff_mem {bindings : List (Name × Ty)}
    (distinct : (bindings.map Prod.fst).Nodup) {p : Name} {t : Ty} :
    bindings.lookup p = some t ↔ (p, t) ∈ bindings := by
  induction bindings with
  | nil => simp
  | cons b rest ih =>
    obtain ⟨q, u⟩ := b
    obtain ⟨hnew, hrest⟩ := List.nodup_cons.mp distinct
    by_cases hpq : p = q
    · subst hpq
      have hnone : (p, t) ∉ rest := fun hmem => hnew (List.mem_map.mpr ⟨_, hmem, rfl⟩)
      simp [hnone, eq_comm]
    · simp [List.lookup_cons, beq_eq_false_iff_ne.mpr hpq, hpq, ih hrest]

theorem get?_eq_some_iff {s : Substitution} {p : Name} {t : Ty} :
    s.get? p = some t ↔ (p, t) ∈ s.bindings :=
  lookup_eq_some_iff_mem s.nodup

/-- What was inserted is bound, and what was bound before to anything else. -/
theorem get?_foldl_insert {bindings : List (Name × Ty)}
    (distinct : (bindings.map Prod.fst).Nodup) (s : Substitution) (q : Name) :
    (bindings.foldl (fun s b => s.insert b.1 b.2) s).get? q =
      (bindings.lookup q).or (s.get? q) := by
  induction bindings generalizing s with
  | nil => rfl
  | cons b rest ih =>
    obtain ⟨p, t⟩ := b
    obtain ⟨hnew, hrest⟩ := List.nodup_cons.mp distinct
    rw [List.foldl_cons, ih hrest, get?_insert, List.lookup_cons]
    by_cases hq : q = p
    · subst hq
      have hnone : rest.lookup q = none := by
        rw [Option.eq_none_iff_forall_ne_some]
        intro u hu
        exact hnew (List.mem_map.mpr ⟨_, (lookup_eq_some_iff_mem hrest).mp hu, rfl⟩)
      simp [hnone]
    · simp [hq, beq_eq_false_iff_ne.mpr hq]

theorem get?_ofList {bindings : List (Name × Ty)} (distinct : (bindings.map Prod.fst).Nodup)
    {q : Name} {t : Ty} : (ofList bindings).get? q = some t ↔ (q, t) ∈ bindings := by
  rw [ofList, get?_foldl_insert distinct, get?_empty, Option.or_none,
    lookup_eq_some_iff_mem distinct]

/-- Substitutions that are the same have the same type for each parameter. -/
theorem get?_congr {s r : Substitution} (h : s.same r) (p : Name) : s.get? p = r.get? p := by
  rw [same, Bool.and_eq_true, List.all_eq_true, List.all_eq_true] at h
  obtain ⟨hforth, hback⟩ := h
  refine Option.ext fun t => ⟨fun hs => ?_, fun hr => ?_⟩
  · exact of_decide_eq_true (hforth (p, t) (get?_eq_some_iff.mp hs))
  · exact of_decide_eq_true (hback (p, t) (get?_eq_some_iff.mp hr))

/-! ### Two substitutions -/

/-- What two substitutions come to, the second applied after the first: parameters that the first
one binds go to their types under the second, and those that only the second binds to their types
there. -/
def composed (first second : Substitution) : List (Name × Ty) :=
  first.bindings.map (fun b => (b.1, second.apply b.2)) ++
    second.bindings.filter fun b => (first.get? b.1).isNone

variable (first second : Substitution)

theorem nodup_composed : ((composed first second).map Prod.fst).Nodup := by
  have hfirst : (first.bindings.map fun b => (b.1, second.apply b.2)).map Prod.fst =
      first.bindings.map Prod.fst := by
    rw [List.map_map]
    rfl
  rw [composed, List.map_append, hfirst, List.nodup_append]
  refine ⟨first.nodup, second.nodup.sublist (List.filter_sublist.map _), ?_⟩
  rintro p hp q hq rfl
  obtain ⟨⟨p, t⟩, hbound, rfl⟩ := List.mem_map.mp hp
  obtain ⟨⟨q, u⟩, hkept, hqp⟩ := List.mem_map.mp hq
  have hnone := (List.mem_filter.mp hkept).2
  rw [hqp, get?_eq_some_iff.mpr hbound] at hnone
  cases hnone

theorem mem_composed {p : Name} {t : Ty} : (p, t) ∈ composed first second ↔
    (∃ u, first.get? p = some u ∧ second.apply u = t) ∨
      first.get? p = none ∧ second.get? p = some t := by
  rw [composed, List.mem_append, List.mem_map, List.mem_filter, Option.isNone_iff_eq_none,
    ← get?_eq_some_iff, and_comm (a := second.get? p = some t)]
  refine or_congr_left ⟨?_, ?_⟩
  · rintro ⟨⟨q, u⟩, hbound, heq⟩
    cases heq
    exact ⟨u, get?_eq_some_iff.mpr hbound, rfl⟩
  · rintro ⟨u, hu, rfl⟩
    exact ⟨(p, u), get?_eq_some_iff.mp hu, rfl⟩

theorem apply_ofList_composed {bindings : List (Name × Ty)}
    (hperm : bindings.Perm (composed first second)) (t : Ty) :
    (ofList bindings).apply t = second.apply (first.apply t) := by
  have hdistinct : (bindings.map Prod.fst).Nodup :=
    (hperm.map Prod.fst).nodup_iff.mpr (nodup_composed first second)
  have hget (p : Name) (u : Ty) : (ofList bindings).get? p = some u ↔ _ :=
    (get?_ofList hdistinct).trans (hperm.mem_iff.trans (mem_composed first second))
  refine ((replaces_apply _).eq_iff (second.replaces_apply.comp first.replaces_apply) t).mpr
    fun p _ => ?_
  cases hfirst : first.get? p with
  | some u =>
    have hbound := (hget p (second.apply u)).mpr (.inl ⟨u, hfirst, rfl⟩)
    simp only [apply_param, hbound, hfirst, Option.getD_some]
  | none =>
    have hbound : (ofList bindings).get? p = second.get? p :=
      Option.ext fun u => by rw [hget, hfirst]; simp
    simp only [apply_param, hbound, hfirst, Option.getD_none]

theorem mentions_apply_iff (s : Substitution) {q : Name} {t : Ty} : (s.apply t).Mentions q ↔
    t.Mentions q ∧ s.get? q = none ∨ ∃ p u, t.Mentions p ∧ s.get? p = some u ∧ u.Mentions q := by
  rw [s.replaces_apply.mentions_iff]
  constructor
  · rintro ⟨p, hp, hq⟩
    rw [apply_param] at hq
    cases hbound : s.get? p with
    | none =>
      rw [hbound, Option.getD_none, Ty.mentions_param] at hq
      subst hq
      exact .inl ⟨hp, hbound⟩
    | some u =>
      rw [hbound, Option.getD_some] at hq
      exact .inr ⟨p, u, hp, hbound, hq⟩
  · rintro (⟨hq, hfree⟩ | ⟨p, u, hp, hbound, hq⟩)
    · exact ⟨q, hq, by rw [apply_param, hfree]; exact .param⟩
    · exact ⟨p, hp, by rw [apply_param, hbound]; exact hq⟩

theorem apply_congr {s r : Substitution} (h : s.same r) (t : Ty) : s.apply t = r.apply t := by
  refine (s.replaces_apply.eq_iff r.replaces_apply t).mpr fun p _ => ?_
  rw [apply_param, apply_param, get?_congr h]

/-- To apply one substitution after another is to apply any that is built from what the two come to,
in whatever order. A parameter occurs afterwards if it occurred before and is not bound, or if it
occurs in what is bound to a parameter that occurred before. Substitutions that are the same do the
same to every type, and the empty one does what it would do if types were looked at. -/
theorem apply_apply (first second : Substitution) (t : Ty) :
    (∀ bindings, bindings.Perm (composed first second) →
      (ofList bindings).apply t = second.apply (first.apply t)) ∧
    (∀ q, (first.apply t).Mentions q ↔ t.Mentions q ∧ first.get? q = none ∨
      ∃ p u, t.Mentions p ∧ first.get? p = some u ∧ u.Mentions q) ∧
    (first.same second → first.apply t = second.apply t) ∧
    first.apply t = first.replace t := by
  refine ⟨fun bindings hperm => ?_, fun q => ?_, fun hsame => ?_, ?_⟩
  · exact apply_ofList_composed first second hperm t
  · exact mentions_apply_iff first
  · exact apply_congr hsame t
  · exact first.apply_eq_replace t

/-- Two parameters are bound crosswise, and the second substitution is built the other way round. -/
theorem apply_apply_sample :
    let param (name : String) : Ty := .param ⟨name⟩
    let first := ofList [(⟨"T"⟩, .adt ⟨"Vec"⟩ [param "U"]), (⟨"U"⟩, param "T")]
    let other := ofList [(⟨"U"⟩, param "T"), (⟨"T"⟩, .adt ⟨"Vec"⟩ [param "U"])]
    let second := ofList [(⟨"V"⟩, param "T"), (⟨"U"⟩, .ref false (param "U"))]
    let bindings : List (Name × Ty) := [(⟨"V"⟩, param "T"), (⟨"U"⟩, param "T"),
      (⟨"T"⟩, .adt ⟨"Vec"⟩ [.ref false (param "U")])]
    let t : Ty := .tuple [param "T", param "U", .ref true (param "V")]
    (bindings.Perm (composed first second) ∧
      (ofList bindings).apply t = second.apply (first.apply t)) ∧
    first.same other ∧ first.apply t = other.apply t := by
  intro param first other second bindings t
  have hperm : bindings.Perm (composed first second) := by decide +kernel
  have hsame : first.same other := by decide +kernel
  obtain ⟨hcompose, -⟩ := apply_apply first second t
  obtain ⟨-, -, hsames, -⟩ := apply_apply first other t
  exact ⟨⟨hperm, hcompose bindings hperm⟩, hsame, hsames hsame⟩

end Substitution

end ScopeWalk
