import ScopeWalk.Ty.Substitution

/-!
# The parameters of a type

To apply a substitution is to go through a type and to put something in the place of each parameter.
What comes of it is settled by what becomes of the parameters that occur: two ways of going through
types give the same for a type just if they do for each of these.
-/
namespace ScopeWalk

namespace Ty

/-- The parameter occurs in the type. -/
inductive Mentions (param : Name) : Ty → Prop where
  | param : Mentions param (.param param)
  | arg {name : Name} {args : List Ty} {t : Ty} : t ∈ args → Mentions param t →
      Mentions param (.adt name args)
  | inner {isMut : Bool} {t : Ty} : Mentions param t → Mentions param (.ref isMut t)
  | part {parts : List Ty} {t : Ty} : t ∈ parts → Mentions param t → Mentions param (.tuple parts)

/-- A property of types may be assumed of all arguments and parts. -/
theorem byParts {motive : Ty → Prop} (unknown : motive .unknown)
    (primitive : ∀ name, motive (.primitive name)) (param : ∀ name, motive (.param name))
    (adt : ∀ name args, (∀ t ∈ args, motive t) → motive (.adt name args))
    (ref : ∀ isMut t, motive t → motive (.ref isMut t))
    (tuple : ∀ parts, (∀ t ∈ parts, motive t) → motive (.tuple parts)) : ∀ t, motive t
  | .unknown => unknown
  | .primitive name => primitive name
  | .param name => param name
  | .adt name args => adt name args fun t _ => byParts unknown primitive param adt ref tuple t
  | .ref isMut t => ref isMut t (byParts unknown primitive param adt ref tuple t)
  | .tuple parts => tuple parts fun t _ => byParts unknown primitive param adt ref tuple t

section Mentions

variable {q : Name}

@[simp] theorem not_mentions_unknown : ¬ Mentions q .unknown := nofun

@[simp] theorem not_mentions_primitive {name : Name} : ¬ Mentions q (.primitive name) := nofun

@[simp] theorem mentions_param {p : Name} : Mentions q (.param p) ↔ q = p := by
  constructor
  · rintro ⟨⟩
    rfl
  · rintro rfl
    exact .param

@[simp] theorem mentions_adt {name : Name} {args : List Ty} :
    Mentions q (.adt name args) ↔ ∃ t ∈ args, Mentions q t := by
  constructor
  · rintro (_ | ⟨hmem, ht⟩)
    exact ⟨_, hmem, ht⟩
  · rintro ⟨t, hmem, ht⟩
    exact .arg hmem ht

@[simp] theorem mentions_ref {isMut : Bool} {t : Ty} :
    Mentions q (.ref isMut t) ↔ Mentions q t := by
  constructor
  · rintro (_ | _ | ht)
    exact ht
  · exact .inner

@[simp] theorem mentions_tuple {parts : List Ty} :
    Mentions q (.tuple parts) ↔ ∃ t ∈ parts, Mentions q t := by
  constructor
  · rintro (_ | _ | _ | ⟨hmem, ht⟩)
    exact ⟨_, hmem, ht⟩
  · rintro ⟨t, hmem, ht⟩
    exact .part hmem ht

end Mentions

/-- Goes through types and changes nothing but parameters. -/
structure Replaces (f : Ty → Ty) : Prop where
  unknown : f .unknown = .unknown
  primitive : ∀ name, f (.primitive name) = .primitive name
  adt : ∀ name args, f (.adt name args) = .adt name (args.map f)
  ref : ∀ isMut t, f (.ref isMut t) = .ref isMut (f t)
  tuple : ∀ parts, f (.tuple parts) = .tuple (parts.map f)

namespace Replaces

variable {f g : Ty → Ty}

/-- To change nothing at all is a case of it. -/
theorem id : Replaces fun t => t :=
  ⟨rfl, fun _ => rfl, fun _ _ => by rw [List.map_id'], fun _ _ => rfl,
    fun _ => by rw [List.map_id']⟩

theorem comp (hg : Replaces g) (hf : Replaces f) : Replaces fun t => g (f t) where
  unknown := by rw [hf.unknown, hg.unknown]
  primitive name := by rw [hf.primitive, hg.primitive]
  adt name args := by rw [hf.adt, hg.adt, List.map_map, Function.comp_def]
  ref isMut t := by rw [hf.ref, hg.ref]
  tuple parts := by rw [hf.tuple, hg.tuple, List.map_map, Function.comp_def]

/-- The induction is on the type. -/
theorem eq_iff (hf : Replaces f) (hg : Replaces g) (t : Ty) :
    f t = g t ↔ ∀ p, Mentions p t → f (.param p) = g (.param p) := by
  -- a list is changed alike just if all parameters in it are
  have hlist (ts : List Ty)
      (ih : ∀ t ∈ ts, f t = g t ↔ ∀ p, Mentions p t → f (.param p) = g (.param p)) :
      ts.map f = ts.map g ↔
        ∀ p, (∃ t ∈ ts, Mentions p t) → f (.param p) = g (.param p) := by
    rw [List.map_inj_left]
    constructor
    · rintro h p ⟨t, hmem, hp⟩
      exact (ih t hmem).mp (h t hmem) p hp
    · intro h t hmem
      exact (ih t hmem).mpr fun p hp => h p ⟨t, hmem, hp⟩
  induction t using byParts with
  | unknown => simp [hf.unknown, hg.unknown]
  | primitive name => simp [hf.primitive, hg.primitive]
  | param name => simp
  | adt name args ih => simpa [hf.adt, hg.adt] using hlist args ih
  | ref isMut t ih => simpa [hf.ref, hg.ref] using ih
  | tuple parts ih => simpa [hf.tuple, hg.tuple] using hlist parts ih

/-- What occurs afterwards was put in the place of a parameter. -/
theorem mentions_iff (hf : Replaces f) {q : Name} (t : Ty) :
    Mentions q (f t) ↔ ∃ p, Mentions p t ∧ Mentions q (f (.param p)) := by
  have hlist (ts : List Ty)
      (ih : ∀ t ∈ ts, Mentions q (f t) ↔ ∃ p, Mentions p t ∧ Mentions q (f (.param p))) :
      (∃ t ∈ ts.map f, Mentions q t) ↔
        ∃ p, (∃ t ∈ ts, Mentions p t) ∧ Mentions q (f (.param p)) := by
    constructor
    · rintro ⟨_, hchanged, hq⟩
      obtain ⟨t, hmem, rfl⟩ := List.mem_map.mp hchanged
      obtain ⟨p, hp, hin⟩ := (ih t hmem).mp hq
      exact ⟨p, ⟨t, hmem, hp⟩, hin⟩
    · rintro ⟨p, ⟨t, hmem, hp⟩, hin⟩
      exact ⟨f t, List.mem_map_of_mem hmem, (ih t hmem).mpr ⟨p, hp, hin⟩⟩
  induction t using byParts with
  | unknown => simp [hf.unknown]
  | primitive name => simp [hf.primitive]
  | param name => simp
  | adt name args ih =>
    simp only [hf.adt, mentions_adt]
    exact hlist args ih
  | ref isMut t ih =>
    simp only [hf.ref, mentions_ref]
    exact ih
  | tuple parts ih =>
    simp only [hf.tuple, mentions_tuple]
    exact hlist parts ih

end Replaces

end Ty

namespace Substitution

theorem replaceAll_eq_map (s : Substitution) (ts : List Ty) :
    s.replaceAll ts = ts.map s.replace := by
  induction ts with
  | nil => rfl
  | cons t ts ih => rw [replaceAll, ih, List.map_cons]

theorem replaces_replace (s : Substitution) : Ty.Replaces s.replace where
  unknown := by rw [replace]
  primitive name := by rw [replace]
  adt name args := by rw [replace, replaceAll_eq_map]
  ref isMut t := by rw [replace]
  tuple parts := by rw [replace, replaceAll_eq_map]

/-- Of the empty substitution it makes no difference whether it is applied. -/
theorem apply_eq_replace (s : Substitution) (t : Ty) : s.apply t = s.replace t := by
  rw [apply]
  split
  case isFalse => rfl
  case isTrue hempty =>
    have hbindings : s.bindings = [] := List.isEmpty_iff.mp hempty
    refine ((Ty.Replaces.id.eq_iff s.replaces_replace t).mpr fun p _ => ?_)
    rw [replace, get?, hbindings]
    rfl

theorem replaces_apply (s : Substitution) : Ty.Replaces s.apply := by
  have happly : s.apply = s.replace := funext s.apply_eq_replace
  rw [happly]
  exact s.replaces_replace

theorem apply_param (s : Substitution) (p : Name) :
    s.apply (.param p) = (s.get? p).getD (.param p) := by
  rw [apply_eq_replace, replace]

end Substitution

end ScopeWalk
