import ScopeWalk.Scope.Basic

/-!
# What bindings stand for

What is offered for a binding, and from where it can be seen, can be read off the way the binding is
written. A declaration without a name stands for nothing, so of a list of bindings some are passed
over; the others keep their order.
-/
namespace ScopeWalk

/-! ### One binding -/

namespace Binding

/-- The candidate that is offered for a binding, wherever it is offered. -/
inductive StandsFor : Binding → Entry → Prop where
  /-- A declaration goes by its own name, if it has one. -/
  | item {element : Element} {name : Name} : element.name = some name →
      StandsFor (.item element) (.direct ⟨name, element, .empty⟩)
  /-- The target of an alias goes by the alias, whatever its own name is. -/
  | renamed {name : Name} {target : Element} {visibility : Visibility} :
      StandsFor (.alias name target visibility) (.direct ⟨name, target, .empty⟩)
  /-- Behind an extern crate is the root of that crate, which is still to be read. -/
  | externCrate {name : Name} {target : CrateId} {visibility : Visibility} :
      StandsFor (.externCrate name target visibility)
        (.deferred ⟨name, .pending (.crateRoot target), true⟩)

/-- A binding of the module `owner` can be seen from the module `importer`. A declaration is not
asked about `owner`: it knows its own module. -/
inductive SeenFrom (owner importer : ModulePath) : Binding → Prop where
  /-- A declaration that can have no visibility is seen from everywhere. -/
  | unrestricted {element : Element} : element.visibility = none →
      SeenFrom owner importer (.item element)
  | item {element : Element} {visibility : Visibility} : element.visibility = some visibility →
      visibility.admits element.module.path importer → SeenFrom owner importer (.item element)
  | renamed {name : Name} {target : Element} {visibility : Visibility} :
      visibility.admits owner importer → SeenFrom owner importer (.alias name target visibility)
  | externCrate {name : Name} {target : CrateId} {visibility : Visibility} :
      visibility.admits owner importer →
      SeenFrom owner importer (.externCrate name target visibility)

theorem named?_eq_some_iff {element : Element} {entry : Entry} :
    Entry.named? .empty element = some entry ↔ (item element).StandsFor entry := by
  rw [Entry.named?, Option.map_eq_some_iff]
  constructor
  · rintro ⟨name, hname, rfl⟩
    exact .item hname
  · rintro ⟨hname⟩
    exact ⟨_, hname, rfl⟩

theorem entry?_eq_some_iff {binding : Binding} {entry : Entry} :
    binding.entry? = some entry ↔ binding.StandsFor entry := by
  match binding with
  | .item element => exact named?_eq_some_iff
  | .alias name target visibility =>
    constructor
    · rintro ⟨⟩
      exact .renamed
    · rintro ⟨⟩
      rfl
  | .externCrate name target visibility =>
    constructor
    · rintro ⟨⟩
      exact .externCrate
    · rintro ⟨⟩
      rfl

theorem isVisibleFrom_iff {binding : Binding} {owner importer : ModulePath} :
    binding.isVisibleFrom owner importer ↔ binding.SeenFrom owner importer := by
  match binding with
  | .item element =>
    rw [isVisibleFrom, Decl.isVisibleFrom]
    cases hvisibility : element.visibility with
    | none => exact ⟨fun _ => .unrestricted hvisibility, fun _ => rfl⟩
    | some visibility =>
      refine ⟨fun hadmits => .item hvisibility hadmits, ?_⟩
      rintro (hnone | ⟨hsome, hadmits⟩)
      · rw [hvisibility] at hnone
        cases hnone
      · rw [hvisibility] at hsome
        cases hsome
        exact hadmits
  | .alias name target visibility =>
    refine ⟨.renamed, ?_⟩
    rintro ⟨⟩
    assumption
  | .externCrate name target visibility =>
    refine ⟨.externCrate, ?_⟩
    rintro ⟨⟩
    assumption

end Binding

/-! ### A list of bindings -/

/-- The second list has what members of the first are related to, in the order of the first.
Members that are related to nothing are passed over. -/
inductive Gathers (r : α → β → Prop) : List α → List β → Prop where
  | nil : Gathers r [] []
  | found {a : α} {b : β} {as : List α} {bs : List β} :
      r a b → Gathers r as bs → Gathers r (a :: as) (b :: bs)
  | passed {a : α} {as : List α} {bs : List β} :
      (∀ b, ¬ r a b) → Gathers r as bs → Gathers r (a :: as) bs

/-- The induction is on the list that is gathered from; only one of the two rules fits its head. -/
theorem gathers_iff {r : α → β → Prop} {f : α → Option β} (h : ∀ a b, f a = some b ↔ r a b)
    {as : List α} {bs : List β} : Gathers r as bs ↔ as.filterMap f = bs := by
  induction as generalizing bs with
  | nil =>
    constructor
    · rintro ⟨⟩
      rfl
    · rintro rfl
      exact .nil
  | cons a as ih =>
    cases hf : f a with
    | none =>
      have hnone (b : β) : ¬ r a b := by
        rw [← h, hf]
        exact nofun
      rw [List.filterMap_cons_none hf, ← ih]
      constructor
      · rintro (_ | ⟨hr, -⟩ | ⟨-, hrest⟩)
        · exact absurd hr (hnone _)
        · exact hrest
      · exact .passed hnone
    | some b =>
      rw [List.filterMap_cons_some hf]
      constructor
      · rintro (_ | ⟨hr, hrest⟩ | ⟨hnone, -⟩)
        · rw [← h, hf] at hr
          cases hr
          rw [ih.mp hrest]
        · exact absurd ((h a b).mp hf) (hnone b)
      · rintro rfl
        exact .found ((h a b).mp hf) (ih.mpr rfl)

theorem gathers_standsFor_iff {bindings : List Binding} {entries : List Entry} :
    Gathers Binding.StandsFor bindings entries ↔ bindings.filterMap Binding.entry? = entries :=
  gathers_iff fun _ _ => Binding.entry?_eq_some_iff

end ScopeWalk
