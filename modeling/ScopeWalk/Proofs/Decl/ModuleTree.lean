import Mathlib.Data.List.Induction
import Mathlib.Logic.Relation
import ScopeWalk.Proofs.Decl.Nesting

/-!
# The tree of modules and the order of visibilities

Going up from a module, one comes by the modules around it, up to the root of its crate. These are
its ancestors, and of two of them one lies in the other. A visibility admits a module and what is
nested in it. What is seen from the declaring module only is the least, and it becomes more the
further up the module is to which a declaration is restricted, until it is the whole crate.
-/
namespace ScopeWalk

namespace ModulePath

/-- Every path is that of a root, or leads one level further down than another one. -/
theorem byLevel {motive : ModulePath → Prop} (root : ∀ crate, motive (.root crate))
    (child : ∀ path segment, motive path → motive (path.child segment)) : ∀ path, motive path
  | ⟨crate, segments⟩ => by
    induction segments using List.reverseRecOn with
    | nil => exact root crate
    | append_singleton segments segment ih => exact child ⟨crate, segments⟩ segment ih

/-! ### Going up -/

theorem parent_root (crate : CrateId) : (root crate).parent = none := rfl

theorem parent_child (path : ModulePath) (segment : Name) :
    (path.child segment).parent = some path := by
  simp [parent, child]

theorem isAncestorOf_root_iff {outer : ModulePath} {crate : CrateId} :
    outer.isAncestorOf (root crate) ↔ outer = root crate := by
  obtain ⟨crate', segments⟩ := outer
  simp [isAncestorOf_iff, root]

theorem isAncestorOf_child_iff {outer inner : ModulePath} {segment : Name} :
    outer.isAncestorOf (inner.child segment) ↔
      outer = inner.child segment ∨ outer.isAncestorOf inner := by
  obtain ⟨crate, segments⟩ := outer
  simp only [isAncestorOf_iff, child, List.prefix_concat_iff, ModulePath.mk.injEq]
  exact and_or_left

theorem isAncestorOf_refl (path : ModulePath) : path.isAncestorOf path :=
  isAncestorOf_iff.mpr ⟨rfl, List.prefix_rfl⟩

theorem isAncestorOf_of_parent {path outer : ModulePath} (h : path.parent = some outer) :
    outer.isAncestorOf path := by
  cases path using byLevel with
  | root crate => cases (parent_root crate).symm.trans h
  | child path segment =>
    cases (parent_child path segment).symm.trans h
    exact isAncestorOf_child_iff.mpr (.inr (isAncestorOf_refl outer))

/-- The ancestors of a module are the modules that one comes by going up from it. -/
theorem isAncestorOf_iff_reaches {outer inner : ModulePath} : outer.isAncestorOf inner ↔
    Relation.ReflTransGen (fun path around => path.parent = some around) inner outer := by
  constructor
  · intro h
    induction inner using byLevel with
    | root crate => rw [isAncestorOf_root_iff.mp h]
    | child path segment ih =>
      obtain rfl | h := isAncestorOf_child_iff.mp h
      · exact .refl
      · exact .head (parent_child path segment) (ih h)
  · intro h
    induction h with
    | refl => exact isAncestorOf_refl inner
    | tail _ hparent ih => exact isAncestorOf_trans (isAncestorOf_of_parent hparent) ih

/-! ### The order of modules -/

theorem isAncestorOf_antisymm {first second : ModulePath} (h : first.isAncestorOf second)
    (h' : second.isAncestorOf first) : first = second := by
  rw [isAncestorOf_iff] at h h'
  have hsegments : first.segments = second.segments := h.2.eq_of_length_le h'.2.length_le
  exact congrArg₂ ModulePath.mk h.1 hsegments

theorem isAncestorOf_total_of_nested {first second inner : ModulePath}
    (h : first.isAncestorOf inner) (h' : second.isAncestorOf inner) :
    first.isAncestorOf second ∨ second.isAncestorOf first := by
  simp only [isAncestorOf_iff] at *
  have hcrate : first.crate = second.crate := h.1.trans h'.1.symm
  refine (List.prefix_or_prefix_of_prefix h.2 h'.2).imp ?_ ?_
  · exact fun hprefix => ⟨hcrate, hprefix⟩
  · exact fun hprefix => ⟨hcrate.symm, hprefix⟩

end ModulePath

/-! ### The order of visibilities -/

namespace Visibility

variable {owner scope importer : ModulePath}

theorem admits_pubCrate_iff : pubCrate.admits owner importer ↔ owner.crate = importer.crate :=
  decide_eq_true_iff

theorem admits_pubIn_of_inherited (around : scope.isAncestorOf owner)
    (h : inherited.admits owner importer) : (pubIn scope).admits owner importer :=
  ModulePath.isAncestorOf_trans around h

theorem admits_pubCrate_of_pubIn (around : scope.isAncestorOf owner)
    (h : (pubIn scope).admits owner importer) : pubCrate.admits owner importer := by
  have howner : scope.crate = owner.crate := (ModulePath.isAncestorOf_iff.mp around).1
  have himporter : scope.crate = importer.crate := (ModulePath.isAncestorOf_iff.mp h).1
  exact admits_pubCrate_iff.mpr (howner.symm.trans himporter)

/-- To restrict a declaration to its own module is to write nothing. -/
theorem admits_pubIn_self : (pubIn owner).admits owner importer = inherited.admits owner importer :=
  rfl

theorem admits_pubIn_root :
    (pubIn (.root owner.crate)).admits owner importer = pubCrate.admits owner importer := by
  have hroot : (ModulePath.root owner.crate).isAncestorOf importer ↔
      owner.crate = importer.crate := by
    simp [ModulePath.isAncestorOf_iff, ModulePath.root]
  exact Bool.eq_iff_iff.mpr (hroot.trans admits_pubCrate_iff.symm)

end Visibility

/-- One module lies in another, or is the same, just if one gets from the first to the second by going
up. This is a partial order, in which of two modules around a third one lies in the other. Under each
visibility, what may be named from a module may also be named from what is nested in it. If a
declaration is restricted to a module around its own, it may be named from wherever it could be named
if it had no visibility, and from nowhere outside its crate. Restricted to its own module it is as if
it had none, and restricted to the root as if it were for the crate. -/
theorem module_tree_orders_visibilities :
    (∀ outer inner : ModulePath, outer.isAncestorOf inner ↔
      Relation.ReflTransGen (fun path around => path.parent = some around) inner outer) ∧
    ((∀ path : ModulePath, path.isAncestorOf path) ∧
      (∀ first second : ModulePath,
        first.isAncestorOf second → second.isAncestorOf first → first = second) ∧
      ∀ outer middle inner : ModulePath,
        outer.isAncestorOf middle → middle.isAncestorOf inner → outer.isAncestorOf inner) ∧
    (∀ first second inner : ModulePath, first.isAncestorOf inner → second.isAncestorOf inner →
      first.isAncestorOf second ∨ second.isAncestorOf first) ∧
    (∀ (visibility : Visibility) (owner importer nested : ModulePath),
      importer.isAncestorOf nested →
        visibility.admits owner importer → visibility.admits owner nested) ∧
    (∀ owner scope importer : ModulePath, scope.isAncestorOf owner →
      (Visibility.inherited.admits owner importer → (Visibility.pubIn scope).admits owner importer) ∧
      ((Visibility.pubIn scope).admits owner importer → Visibility.pubCrate.admits owner importer) ∧
      (Visibility.pubCrate.admits owner importer → Visibility.pub.admits owner importer)) ∧
    ∀ owner importer : ModulePath,
      (Visibility.pubIn owner).admits owner importer =
        Visibility.inherited.admits owner importer ∧
      (Visibility.pubIn (.root owner.crate)).admits owner importer =
        Visibility.pubCrate.admits owner importer := by
  refine ⟨fun outer inner => ModulePath.isAncestorOf_iff_reaches, ⟨ModulePath.isAncestorOf_refl,
    fun first second => ModulePath.isAncestorOf_antisymm,
    fun outer middle inner => ModulePath.isAncestorOf_trans⟩,
    fun first second inner => ModulePath.isAncestorOf_total_of_nested, ?_, ?_, ?_⟩
  · intro visibility owner importer nested nests
    exact Visibility.admits_nested nests
  · intro owner scope importer around
    refine ⟨?_, ?_, fun _ => rfl⟩
    · exact Visibility.admits_pubIn_of_inherited around
    · exact Visibility.admits_pubCrate_of_pubIn around
  · intro owner importer
    exact ⟨Visibility.admits_pubIn_self, Visibility.admits_pubIn_root⟩

/-- What is restricted to `net` may be named further down, and beside its own module as well. -/
theorem module_tree_orders_visibilities_sample :
    let net := (ModulePath.root ⟨0⟩).child ⟨"net"⟩
    let tcp := net.child ⟨"tcp"⟩
    let raw := tcp.child ⟨"raw"⟩
    let udp := net.child ⟨"udp"⟩
    (net.isAncestorOf raw ∧ tcp.isAncestorOf raw ∧
      Relation.ReflTransGen (fun path around => path.parent = some around) raw net ∧
      (net.isAncestorOf tcp ∨ tcp.isAncestorOf net)) ∧
    (Visibility.inherited.admits tcp tcp ∧ Visibility.inherited.admits tcp raw ∧
      (Visibility.pubIn net).admits tcp raw) ∧
    (Visibility.pubIn net).admits tcp udp ∧ ¬ Visibility.inherited.admits tcp udp ∧
    Visibility.pubCrate.admits tcp udp := by
  intro net tcp raw udp
  obtain ⟨hreaches, -, htotal, hnested, hrestricted, -⟩ := module_tree_orders_visibilities
  have hnet : net.isAncestorOf raw := by decide
  have htcp : tcp.isAncestorOf raw := by decide
  have hself : Visibility.inherited.admits tcp tcp := by decide
  have hbeside : (Visibility.pubIn net).admits tcp udp := by decide
  have hinherited := hnested .inherited tcp tcp raw htcp hself
  obtain ⟨hpubIn, -⟩ := hrestricted tcp net raw (by decide)
  obtain ⟨-, hpubCrate, -⟩ := hrestricted tcp net udp (by decide)
  exact ⟨⟨hnet, htcp, (hreaches net raw).mp hnet, htotal net tcp raw hnet htcp⟩,
    ⟨hself, hinherited, hpubIn hinherited⟩, hbeside, by decide, hpubCrate hbeside⟩

end ScopeWalk
