import ScopeWalk.Proofs.Crates.Additions
import ScopeWalk.Proofs.Crates.ExternOffers

/-!
# Which crates can be named

A crate can name each of its dependencies, in the order they were added, and those on the standard
library behind the others. A name that was given to several dependencies stands for all of them, but
a dependency on the standard library gives way to any other of its name, and to one on the standard
library before it. For completion only third-party crates are of interest.
-/
namespace ScopeWalk

/-! ### Elements that are kept -/

/-- The elements with a property, given the elements before them. -/
def allWith (p : List α → α → Bool) (list : List α) : List α :=
  (List.range list.length).filterMap fun place => list[place]?.filter (p (list.take place))

@[simp] theorem allWith_nil (p : List α → α → Bool) : allWith p [] = [] := rfl

theorem allWith_cons (p : List α → α → Bool) (first : α) (rest : List α) :
    allWith p (first :: rest) =
      (if p [] first then [first] else []) ++ allWith (fun before => p (first :: before)) rest := by
  have hlater : (fun place => (first :: rest)[place]?.filter (p ((first :: rest).take place))) ∘
      Nat.succ = fun place => rest[place]?.filter (p (first :: rest.take place)) := by
    funext place
    simp
  simp only [allWith, List.length_cons, List.range_succ_eq_map, List.filterMap_cons,
    List.filterMap_map, hlater]
  cases hfirst : p [] first with
  | true => simp [hfirst, Option.filter]
  | false => simp [hfirst, Option.filter]

theorem mem_of_mem_allWith {p : List α → α → Bool} {list : List α} {a : α}
    (h : a ∈ allWith p list) : a ∈ list := by
  obtain ⟨place, -, hplace⟩ := List.mem_filterMap.mp h
  exact List.mem_of_getElem? (Option.filter_eq_some_iff.mp hplace).1

namespace CrateGraph

variable (graph : CrateGraph)

/-- The dependencies that code of a crate can name: those that are not on the standard library, and
of the others each whose name was not given before, neither to one of the former nor to one of the
latter. -/
def namedDependencies (id : CrateId) : List Dependency :=
  let others := (graph.dependencies id).filter (!graph.isStdlib ·)
  others ++ allWith (fun before dependency => dependency.name ∉ (others ++ before).map (·.name))
    ((graph.dependencies id).filter (graph.isStdlib ·))

/-- The dependencies on third-party crates. -/
def thirdPartyDependencies (id : CrateId) : List Dependency :=
  (graph.dependencies id).filter (graph.originOf · = some .dependency)

/-- All that a crate can name, the crate itself before its dependencies. A crate that is not there
can name nothing. -/
def nameable (id : CrateId) (withSelf forCompletion : Bool) : List Dependency :=
  if (graph.crate? id).isNone then [] else
    (if withSelf then [⟨⟨"self"⟩, id⟩] else []) ++
      if forCompletion then graph.thirdPartyDependencies id else graph.namedDependencies id

/-! ### What is offered -/

section Offered

variable {graph}

theorem isStdlib_iff {dependency : Dependency} :
    graph.isStdlib dependency = true ↔ graph.originOf dependency = some .stdlib := by
  simp only [isStdlib, beq_iff_eq]

theorem offeredDependencies_forCompletion (dependencies : List Dependency) (seen : List Name) :
    graph.offeredDependencies true dependencies seen =
      dependencies.filter (graph.originOf · = some .dependency) := by
  induction dependencies generalizing seen with
  | nil => rfl
  | cons dependency rest ih =>
    rw [offeredDependencies, List.filter_cons]
    cases horigin : graph.originOf dependency with
    | none => simp [ih]
    | some origin => cases origin <;> simp [ih]

/-- Those that are not on the standard library are all offered, before anything else. -/
theorem offeredDependencies_others {others : List Dependency}
    (hothers : ∀ dependency ∈ others,
      ∃ origin, graph.originOf dependency = some origin ∧ origin ≠ .stdlib)
    (rest : List Dependency) (seen : List Name) :
    graph.offeredDependencies false (others ++ rest) seen =
      others ++ graph.offeredDependencies false rest ((others.map (·.name)).reverse ++ seen) := by
  induction others generalizing seen with
  | nil => rfl
  | cons dependency others ih =>
    obtain ⟨⟨origin, horigin, hstdlib⟩, htail⟩ := List.forall_mem_cons.mp hothers
    have hrest := ih htail (dependency.name :: seen)
    simp [offeredDependencies, horigin, hstdlib, hrest]

/-- Of those on the standard library the ones are offered whose names were not given before. What is
compared with grows only by names that are offered, and the others are in it already. -/
theorem offeredDependencies_stdlib {dependencies : List Dependency}
    (hstdlib : ∀ dependency ∈ dependencies, graph.originOf dependency = some .stdlib)
    {seen names : List Name} (hseen : ∀ name, name ∈ seen ↔ name ∈ names) :
    graph.offeredDependencies false dependencies seen =
      allWith (fun before dependency => dependency.name ∉ names ++ before.map (·.name))
        dependencies := by
  induction dependencies generalizing seen names with
  | nil => rfl
  | cons dependency rest ih =>
    obtain ⟨horigin, htail⟩ := List.forall_mem_cons.mp hstdlib
    have hnames (before : List Dependency) :
        names ++ (dependency :: before).map (·.name) =
          (names ++ [dependency.name]) ++ before.map (·.name) := by simp
    rw [allWith_cons]
    simp only [offeredDependencies, horigin, hnames]
    by_cases hmem : dependency.name ∈ seen
    · have hsame : ∀ name, name ∈ seen ↔ name ∈ names ++ [dependency.name] := by
        intro name
        rw [List.mem_append, List.mem_singleton, ← hseen]
        exact ⟨Or.inl, fun h => h.elim id fun heq => heq ▸ hmem⟩
      rw [← ih htail hsame]
      simp [hmem, (hseen _).mp hmem]
    · have hsame : ∀ name, name ∈ dependency.name :: seen ↔ name ∈ names ++ [dependency.name] := by
        intro name
        rw [List.mem_append, List.mem_singleton, List.mem_cons, ← hseen, or_comm]
      have hnew : dependency.name ∉ names := fun h => hmem ((hseen _).mpr h)
      rw [← ih htail hsame]
      simp [hmem, hnew]

end Offered

section Regular

variable {graph} (regular : graph.Regular)
include regular

theorem Regular.exists_origin {id : CrateId} {dependency : Dependency}
    (h : dependency ∈ graph.dependencies id) :
    ∃ origin, graph.originOf dependency = some origin := by
  obtain ⟨crate, hcrate⟩ := Option.isSome_iff_exists.mp (regular.isSome_crate?_of_mem h)
  exact ⟨crate.origin, by rw [originOf, hcrate, Option.map_some]⟩

theorem Regular.offeredDependencies_eq (forCompletion : Bool) (id : CrateId) :
    graph.offeredDependencies forCompletion (graph.stdlibLast (graph.dependencies id)) [] =
      if forCompletion then graph.thirdPartyDependencies id else graph.namedDependencies id := by
  cases forCompletion with
  | true =>
    have hfirst : ((graph.dependencies id).filter (!graph.isStdlib ·)).filter
        (graph.originOf · = some .dependency) = graph.thirdPartyDependencies id := by
      rw [List.filter_filter]
      refine List.filter_congr fun dependency _ => ?_
      by_cases horigin : graph.originOf dependency = some .dependency
      · simp [isStdlib, horigin]
      · simp [horigin]
    have hlast : ((graph.dependencies id).filter (graph.isStdlib ·)).filter
        (graph.originOf · = some .dependency) = [] := by
      refine List.filter_eq_nil_iff.mpr fun dependency hdependency => ?_
      simp [isStdlib_iff.mp (List.mem_filter.mp hdependency).2]
    rw [offeredDependencies_forCompletion, stdlibLast, List.filter_append, hfirst, hlast,
      List.append_nil, if_pos rfl]
  | false =>
    have hothers : ∀ dependency ∈ (graph.dependencies id).filter (!graph.isStdlib ·),
        ∃ origin, graph.originOf dependency = some origin ∧ origin ≠ .stdlib := by
      intro dependency hdependency
      obtain ⟨hmem, hnot⟩ := List.mem_filter.mp hdependency
      obtain ⟨origin, horigin⟩ := regular.exists_origin hmem
      refine ⟨origin, horigin, ?_⟩
      rintro rfl
      rw [isStdlib_iff.mpr horigin] at hnot
      cases hnot
    have hstdlib : ∀ dependency ∈ (graph.dependencies id).filter (graph.isStdlib ·),
        graph.originOf dependency = some .stdlib :=
      fun dependency hdependency => isStdlib_iff.mp (List.mem_filter.mp hdependency).2
    have hseen (names : List Name) : ∀ name, name ∈ names.reverse ++ [] ↔ name ∈ names := by simp
    rw [stdlibLast, offeredDependencies_others hothers, offeredDependencies_stdlib hstdlib (hseen _)]
    simp only [namedDependencies, List.map_append]
    rfl

theorem Regular.externEntries_eq (forCompletion : Bool) (id : CrateId) (withSelf : Bool) :
    graph.externEntries forCompletion id withSelf =
      (graph.nameable id withSelf forCompletion).map dependencyEntry := by
  rw [externEntries, nameable, regular.offeredDependencies_eq]
  split
  · rfl
  · rw [List.map_append]
    cases withSelf <;> rfl

/-- All that can be named is in the graph. -/
theorem Regular.isSome_crate?_of_mem_nameable {id : CrateId} {withSelf forCompletion : Bool}
    {dependency : Dependency} (h : dependency ∈ graph.nameable id withSelf forCompletion) :
    (graph.crate? dependency.crate).isSome := by
  rw [nameable] at h
  split at h
  case isTrue => cases h
  case isFalse hknown =>
    rcases List.mem_append.mp h with hself | hdependency
    · cases withSelf with
      | false => cases hself
      | true =>
        rw [if_pos rfl] at hself
        rw [List.mem_singleton.mp hself]
        exact Option.isSome_iff_ne_none.mpr fun hnone => hknown (by rw [hnone]; rfl)
    · have hmem : dependency ∈ graph.dependencies id := by
        cases forCompletion with
        | true => exact (List.mem_filter.mp hdependency).1
        | false =>
          rcases List.mem_append.mp hdependency with hother | hstdlib
          · exact (List.mem_filter.mp hother).1
          · exact (List.mem_filter.mp (mem_of_mem_allWith hstdlib)).1
      exact regular.isSome_crate?_of_mem hmem

end Regular

/-! ### What a name stands for -/

section Name

/-- A name is not given twice among the elements that are kept. -/
theorem filter_allWith_name (seen : List Name) (name : Name) (dependencies : List Dependency) :
    let kept := allWith (fun before dependency => dependency.name ∉ seen ++ before.map (·.name))
      dependencies
    kept.filter (·.name = name) = [] ∨
      name ∉ seen ∧ ∃ dependency, kept.filter (·.name = name) = [dependency] := by
  induction dependencies generalizing seen with
  | nil => exact .inl rfl
  | cons dependency rest ih =>
    intro kept
    have hkept : kept = (if dependency.name ∈ seen then [] else [dependency]) ++
        allWith (fun before dependency' =>
          dependency'.name ∉ (seen ++ [dependency.name]) ++ before.map (·.name)) rest := by
      simp only [kept, allWith_cons, List.map_nil, List.append_nil, List.map_cons,
        List.append_assoc, List.singleton_append, decide_not]
      by_cases hmem : dependency.name ∈ seen <;> simp [hmem]
    have hrest := ih (seen ++ [dependency.name])
    rw [hkept, List.filter_append]
    by_cases hname : dependency.name = name
    · -- what comes behind bears another name, since this one is taken
      subst hname
      have htaken : dependency.name ∈ seen ++ [dependency.name] := by simp
      have hnone := hrest.resolve_right fun h => h.1 htaken
      rw [hnone, List.append_nil]
      by_cases hmem : dependency.name ∈ seen
      · exact .inl (by simp [hmem])
      · exact .inr ⟨hmem, dependency, by simp [hmem]⟩
    · have hfirst : (if dependency.name ∈ seen then [] else [dependency]).filter
          (·.name = name) = [] := by
        split <;> simp [hname]
      rw [hfirst, List.nil_append]
      refine hrest.imp_right fun ⟨hnew, hone⟩ => ⟨fun hmem => hnew ?_, hone⟩
      exact List.mem_append_left _ hmem

/-- The dependencies of one name are not on the standard library, or there is only one. -/
theorem filter_namedDependencies (id : CrateId) (name : Name) :
    (∀ dependency ∈ (graph.namedDependencies id).filter (·.name = name),
      graph.isStdlib dependency = false) ∨
    ∃ dependency, (graph.namedDependencies id).filter (·.name = name) = [dependency] ∧
      graph.isStdlib dependency = true := by
  let others := (graph.dependencies id).filter (!graph.isStdlib ·)
  let stdlib := (graph.dependencies id).filter (graph.isStdlib ·)
  have hnamed : (graph.namedDependencies id).filter (·.name = name) = others.filter (·.name = name) ++
      (allWith (fun before dependency => dependency.name ∉ others.map (·.name) ++ before.map (·.name))
        stdlib).filter (·.name = name) := by
    simp only [namedDependencies, List.map_append, List.filter_append]
    rfl
  have hother : ∀ dependency ∈ others.filter (·.name = name), graph.isStdlib dependency = false := by
    intro dependency hdependency
    have hmem := (List.mem_filter.mp (List.mem_filter.mp hdependency).1).2
    simpa using hmem
  obtain hnone | ⟨hnew, dependency, hone⟩ :=
    filter_allWith_name (others.map (·.name)) name stdlib
  · rw [hnamed, hnone, List.append_nil]
    exact .inl hother
  · have hempty : others.filter (·.name = name) = [] := by
      refine List.filter_eq_nil_iff.mpr fun other hmem hname => hnew ?_
      exact List.mem_map.mpr ⟨other, hmem, of_decide_eq_true hname⟩
    have hmem : dependency ∈ (allWith (fun before dependency =>
        dependency.name ∉ others.map (·.name) ++ before.map (·.name)) stdlib).filter
          (·.name = name) := by
      rw [hone]
      exact .head _
    have hstdlib := (List.mem_filter.mp (mem_of_mem_allWith (List.mem_filter.mp hmem).1)).2
    rw [hnamed, hempty, List.nil_append, hone]
    exact .inr ⟨dependency, rfl, hstdlib⟩

/-- What a name other than `self` stands for is not on the standard library, or there is only one
such crate. -/
theorem filter_nameable {name : Name} (hname : name ≠ ⟨"self"⟩) (id : CrateId) (withSelf : Bool) :
    (∀ dependency ∈ (graph.nameable id withSelf false).filter (·.name = name),
      graph.isStdlib dependency = false) ∨
    ∃ dependency, (graph.nameable id withSelf false).filter (·.name = name) = [dependency] ∧
      graph.isStdlib dependency = true := by
  unfold nameable
  cases (graph.crate? id).isNone with
  | true => exact .inl fun dependency h => by simp at h
  | false =>
    have hself : (if withSelf then [(⟨⟨"self"⟩, id⟩ : Dependency)] else []).filter
        (·.name = name) = [] := by
      cases withSelf <;> simp [Ne.symm hname]
    simp only [Bool.false_eq_true, if_false, List.filter_append, hself, List.nil_append]
    exact graph.filter_namedDependencies id name

end Name

end CrateGraph

end ScopeWalk
