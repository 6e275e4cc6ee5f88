import ScopeWalk.Crates.ExternFeed
import ScopeWalk.Proofs.Feed.Offers

/-!
# The crates that are offered

The walk over the crates that a crate can name goes through a list that depends on the graph
alone.
-/
namespace ScopeWalk.CrateGraph

variable (graph : CrateGraph) (forCompletion : Bool)

/-- Of some dependencies those that are offered, when the names `seen` came before. -/
def offeredDependencies : List Dependency → List Name → List Dependency
  | [], _ => []
  | dependency :: rest, seen =>
    match graph.originOf dependency with
    | none => offeredDependencies rest seen
    | some origin =>
      if forCompletion && origin != .dependency ||
          seen.contains dependency.name && origin == .stdlib then
        offeredDependencies rest seen
      else
        dependency :: offeredDependencies rest (dependency.name :: seen)

/-- The candidate for a dependency. -/
def dependencyEntry (dependency : Dependency) : Entry :=
  .ofCrate dependency.name dependency.crate

/-- The crates that the crate `id` can name. -/
def externEntries (id : CrateId) (withSelf : Bool) : List Entry :=
  if (graph.crate? id).isNone then [] else
    (if withSelf then [.ofCrate ⟨"self"⟩ id] else []) ++
      (graph.offeredDependencies forCompletion (graph.stdlibLast (graph.dependencies id)) []).map
        dependencyEntry

section Congr

variable {graph other : CrateGraph} (forCompletion : Bool)

theorem offeredDependencies_congr (hcrates : ∀ id, graph.crate? id = other.crate? id)
    (dependencies : List Dependency) (seen : List Name) :
    graph.offeredDependencies forCompletion dependencies seen =
      other.offeredDependencies forCompletion dependencies seen := by
  induction dependencies generalizing seen with
  | nil => rfl
  | cons dependency rest ih => simp only [offeredDependencies, originOf, hcrates, ih]

/-- Which crates a crate can name has nothing to do with what was read of them. -/
theorem externEntries_congr (hcrates : ∀ id, graph.crate? id = other.crate? id)
    (hdependencies : ∀ id, graph.dependencies id = other.dependencies id) (id : CrateId)
    (withSelf : Bool) :
    graph.externEntries forCompletion id withSelf =
      other.externEntries forCompletion id withSelf := by
  have hstdlib : graph.isStdlib = other.isStdlib := by
    funext dependency
    simp only [isStdlib, originOf, hcrates]
  simp only [externEntries, stdlibLast, hstdlib, hcrates, hdependencies,
    offeredDependencies_congr forCompletion hcrates]

end Congr

variable {m : Type → Type u} [Monad m]

theorem dependencyFeed_eq_entries (visit : Visitor m Entry) (dependencies : List Dependency)
    (seen : List Name) :
    graph.dependencyFeed forCompletion visit dependencies seen =
      Feed.entries ((graph.offeredDependencies forCompletion dependencies seen).map
        dependencyEntry) visit := by
  fun_induction dependencyFeed graph forCompletion visit dependencies seen with
  | case1 => rfl
  | case2 seen dependency rest hunknown ih =>
    simp only [offeredDependencies, hunknown, ih]
  | case3 seen dependency rest origin horigin hskip ih =>
    simp only [offeredDependencies, horigin, hskip, Bool.true_or, if_true, ih]
  | case4 seen dependency rest origin horigin hkeep hskip ih =>
    simp only [offeredDependencies, horigin, hskip, Bool.or_true, if_true, ih]
  | case5 seen dependency rest origin horigin hkeep hfresh ih =>
    simp only [Bool.not_eq_true] at hkeep hfresh
    simp only [offeredDependencies, horigin, hkeep, hfresh, Bool.or_false, Bool.false_eq_true,
      if_false, ih, Feed.entries, List.map_cons, Feed.ofList_cons, dependencyEntry]

theorem externFeed_eq_entries [LawfulMonad m] (id : CrateId) (withSelf : Bool)
    (visit : Visitor m Entry) :
    graph.externFeed id withSelf forCompletion visit =
      Feed.entries (graph.externEntries forCompletion id withSelf) visit := by
  simp only [externFeed, externEntries, dependencyFeed_eq_entries]
  cases (graph.crate? id).isNone with
  | true => rfl
  | false =>
    cases withSelf with
    | true => simp [Feed.entries, Feed.ofList_cons]
    | false => simp [Feed.entries]

end ScopeWalk.CrateGraph
