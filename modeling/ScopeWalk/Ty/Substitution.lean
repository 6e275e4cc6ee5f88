import ScopeWalk.Ty.Basic

/-!
# Substitutions

A substitution binds type parameters to types. A parameter is bound at most once; binding it
again replaces the type and keeps its place in the order. Replacement is simultaneous: the types
put in are not looked at again. Two substitutions are the same when they bind the same
parameters to the same types, in whatever order.
-/
namespace ScopeWalk

structure Substitution where
  bindings : List (Name × Ty)
  nodup : (bindings.map Prod.fst).Nodup

namespace Substitution

/-- Replace the type of `param` where it is bound, and bind it at the end otherwise. -/
def assign (param : Name) (ty : Ty) : List (Name × Ty) → List (Name × Ty)
  | [] => [(param, ty)]
  | (p, t) :: rest => if p = param then (param, ty) :: rest else (p, t) :: assign param ty rest

theorem map_fst_assign (param : Name) (ty : Ty) (bindings : List (Name × Ty)) :
    (assign param ty bindings).map Prod.fst =
      if param ∈ bindings.map Prod.fst then bindings.map Prod.fst
      else bindings.map Prod.fst ++ [param] := by
  induction bindings with
  | nil => simp [assign]
  | cons b rest ih =>
    obtain ⟨p, t⟩ := b
    by_cases h : p = param
    · simp [assign, h]
    · have h' : param ≠ p := fun e => h e.symm
      simp only [assign, h, if_false, List.map_cons, ih, List.mem_cons, h', false_or]
      split <;> simp

theorem lookup_assign (param q : Name) (ty : Ty) (bindings : List (Name × Ty)) :
    (assign param ty bindings).lookup q = if q = param then some ty else bindings.lookup q := by
  induction bindings with
  | nil =>
    by_cases h : q = param
    · simp [assign, h]
    · simp [assign, List.lookup_cons, h, beq_eq_false_iff_ne.mpr h]
  | cons b rest ih =>
    obtain ⟨p, t⟩ := b
    by_cases h : p = param
    · subst h
      by_cases hq : q = p
      · simp [assign, hq]
      · simp [assign, List.lookup_cons, hq, beq_eq_false_iff_ne.mpr hq]
    · by_cases hq : q = p
      · subst hq
        simp [assign, h]
      · simp [assign, h, List.lookup_cons, beq_eq_false_iff_ne.mpr hq, ih]

def empty : Substitution := ⟨[], List.nodup_nil⟩

instance : Inhabited Substitution := ⟨empty⟩

/-- Bind a parameter. -/
def insert (s : Substitution) (param : Name) (ty : Ty) : Substitution where
  bindings := assign param ty s.bindings
  nodup := by
    rw [map_fst_assign]
    split
    · exact s.nodup
    · refine List.nodup_append.mpr ⟨s.nodup, by simp, ?_⟩
      intro a ha b hb hab
      simp_all

def ofList (bindings : List (Name × Ty)) : Substitution :=
  bindings.foldl (fun s b => s.insert b.1 b.2) empty

/-- The type a parameter is bound to. -/
def get? (s : Substitution) (param : Name) : Option Ty := s.bindings.lookup param

theorem get?_insert (s : Substitution) (param q : Name) (ty : Ty) :
    (s.insert param ty).get? q = if q = param then some ty else s.get? q :=
  lookup_assign param q ty s.bindings

@[simp] theorem get?_empty (q : Name) : empty.get? q = none := rfl

def isEmpty (s : Substitution) : Bool := s.bindings.isEmpty

def size (s : Substitution) : Nat := s.bindings.length

/-- The same parameters are bound to the same types. -/
def same (s t : Substitution) : Bool :=
  s.bindings.all (fun b => t.get? b.1 = some b.2) && t.bindings.all (fun b => s.get? b.1 = some b.2)

mutual

/-- Replace the bound parameters of a type. -/
def replace (s : Substitution) : Ty → Ty
  | .unknown => .unknown
  | .primitive name => .primitive name
  | .param name => (s.get? name).getD (.param name)
  | .adt name args => .adt name (s.replaceAll args)
  | .ref isMut inner => .ref isMut (s.replace inner)
  | .tuple parts => .tuple (s.replaceAll parts)

def replaceAll (s : Substitution) : List Ty → List Ty
  | [] => []
  | t :: ts => s.replace t :: s.replaceAll ts

end

/-- The type with its bound parameters replaced. The empty substitution need not look. -/
def apply (s : Substitution) (t : Ty) : Ty :=
  if s.isEmpty then t else s.replace t

end Substitution

end ScopeWalk
