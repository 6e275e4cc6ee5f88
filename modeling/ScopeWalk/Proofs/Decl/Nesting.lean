import ScopeWalk.Decl.Module

/-!
# What nested modules may name

The path of a module begins with the paths of the modules around it. Under each visibility, what a
module may name can also be named from the modules nested in it.
-/
namespace ScopeWalk

namespace ModulePath

theorem isAncestorOf_iff {outer inner : ModulePath} :
    outer.isAncestorOf inner ↔ outer.crate = inner.crate ∧ outer.segments <+: inner.segments := by
  simp [isAncestorOf]

theorem isAncestorOf_trans {outer middle inner : ModulePath} (h : outer.isAncestorOf middle)
    (h' : middle.isAncestorOf inner) : outer.isAncestorOf inner := by
  rw [isAncestorOf_iff] at *
  exact ⟨h.1.trans h'.1, h.2.trans h'.2⟩

end ModulePath

section Nested

variable {importer nested : ModulePath} (nests : importer.isAncestorOf nested)
include nests

theorem Visibility.admits_nested {visibility : Visibility} {owner : ModulePath}
    (h : visibility.admits owner importer) : visibility.admits owner nested := by
  cases visibility with
  | pub => rfl
  | pubCrate =>
    have howner : owner.crate = importer.crate := of_decide_eq_true h
    exact decide_eq_true (howner.trans (ModulePath.isAncestorOf_iff.mp nests).1)
  | pubIn scope => exact ModulePath.isAncestorOf_trans h nests
  | inherited => exact ModulePath.isAncestorOf_trans h nests

end Nested

end ScopeWalk
