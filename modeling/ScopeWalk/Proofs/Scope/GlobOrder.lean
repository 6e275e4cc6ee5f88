import ScopeWalk.Proofs.Feed.Offers
import ScopeWalk.Scope.Feed

/-!
# The order of glob imports

A walk over glob imports remembers which scopes it has visited. The plain walk remembers nothing:
from every scope it goes on to all that is re-exported there, and so it comes to a scope once for
every way of getting there. Both offer the same scopes in the same order, if of the plain walk
only the first visit of each scope is counted.

The reason is an invariant of the visited list. Scopes import earlier scopes only, so whatever
was visited and lies before the scopes still to come has been walked to the end: everything its
tour leads to is in the list as well.
-/
namespace ScopeWalk

/-- The candidates written in the scope itself. -/
def ItemScope.explicitEntries (scope : ItemScope) : List Entry :=
  scope.bindings.filterMap Binding.entry?

namespace ScopeGraph

/-- The candidates that a glob import of the scope at `place` brings into the module `importer`.
-/
def entriesBehind (graph : ScopeGraph) (importer : ModulePath) (place : Nat) : List Entry :=
  (graph.scopes[place]?.elim [] (·.visibleBindings importer)).filterMap Binding.entry?

theorem entriesBehind_eq {graph : ScopeGraph} {place : Nat} {via : ItemScope}
    (h : graph.scopes[place]? = some via) (importer : ModulePath) :
    graph.entriesBehind importer place =
      (via.visibleBindings importer).filterMap Binding.entry? := by
  rw [entriesBehind, h]
  rfl

/-- The scopes to which the plain walk goes on from the scope at `place`: over every glob import
there that the module `importer` gets along. -/
def reexportsAt (graph : ScopeGraph) (importer : ModulePath) (place : Nat) : List Nat :=
  graph.scopes[place]?.elim [] fun via =>
    (via.globs.filter fun glob => glob.visibility.admits via.module.path importer).map (·.target)

theorem reexportsAt_eq {graph : ScopeGraph} {place : Nat} {via : ItemScope}
    (h : graph.scopes[place]? = some via) (importer : ModulePath) :
    graph.reexportsAt importer place = via.reexports importer := by
  rw [reexportsAt, h]
  rfl

theorem mem_reexportsAt {graph : ScopeGraph} {importer : ModulePath} {place target : Nat} :
    target ∈ graph.reexportsAt importer place ↔ ∃ via, graph.scopes[place]? = some via ∧
      ∃ glob ∈ via.globs, glob.visibility.admits via.module.path importer ∧
        glob.target = target := by
  cases hvia : graph.scopes[place]? with
  | none => simp [reexportsAt, hvia]
  | some via => simp [reexportsAt, hvia, and_assoc]

theorem reexportsAt_lt {graph : ScopeGraph} {importer : ModulePath} {place target : Nat}
    (h : target ∈ graph.reexportsAt importer place) : target < place := by
  obtain ⟨via, hvia, glob, hglob, -, rfl⟩ := mem_reexportsAt.mp h
  obtain ⟨hlt, rfl⟩ := Array.getElem?_eq_some_iff.mp hvia
  exact graph.earlier place hlt glob hglob

/-- The plain walk from a scope: the scope itself, then the walk from each scope it re-exports. -/
def tour (graph : ScopeGraph) (importer : ModulePath) (place : Nat) : List Nat :=
  place :: (graph.reexportsAt importer place).attach.flatMap fun ⟨target, _⟩ =>
    graph.tour importer target
termination_by place
decreasing_by exact reexportsAt_lt ‹_›

/-- The plain walk over all glob imports of a scope, whatever their visibility. -/
def globTour (graph : ScopeGraph) (scope : ItemScope) : List Nat :=
  ((scope.globs.map (·.target)).filter (· < graph.scopes.size)).flatMap
    (graph.tour scope.module.path)

/-- Of the plain walk over the glob imports of a scope, the first visit of each scope. -/
def globOrder (graph : ScopeGraph) (scope : ItemScope) : List Nat :=
  (graph.globTour scope).eraseDups

/-- The candidates behind the glob imports of a scope. -/
def globEntries (graph : ScopeGraph) (scope : ItemScope) : List Entry :=
  (graph.globOrder scope).flatMap (graph.entriesBehind scope.module.path)

/-- A scope is reached from `scope` over any glob import written there, and from then on over
imports that the module of `scope` gets along. -/
inductive Reaches (graph : ScopeGraph) (scope : ItemScope) : Nat → Prop where
  | imported {glob : Glob} : glob ∈ scope.globs → glob.target < graph.scopes.size →
      Reaches graph scope glob.target
  | reexported {place : Nat} {via : ItemScope} {glob : Glob} : Reaches graph scope place →
      graph.scopes[place]? = some via → glob ∈ via.globs →
      glob.visibility.admits via.module.path scope.module.path → Reaches graph scope glob.target

/-! ### Tours -/

section Tours

variable {graph : ScopeGraph} {importer : ModulePath}

theorem tour_eq (place : Nat) : graph.tour importer place =
    place :: (graph.reexportsAt importer place).flatMap (graph.tour importer) := by
  rw [tour, List.flatMap_subtype (g := graph.tour importer) fun _ _ => rfl, List.unattach_attach]

theorem self_mem_tour (place : Nat) : place ∈ graph.tour importer place := by
  rw [tour_eq]
  exact List.mem_cons_self

/-- Whatever a tour comes to, it tours. -/
theorem tour_subset {start place : Nat} (h : place ∈ graph.tour importer start) :
    graph.tour importer place ⊆ graph.tour importer start := by
  induction start using Nat.strongRecOn with
  | ind start ih =>
    intro later hlater
    rw [tour_eq, List.mem_cons, List.mem_flatMap] at h
    obtain rfl | ⟨target, htarget, h⟩ := h
    · exact hlater
    · rw [tour_eq]
      have hin := ih target (reexportsAt_lt htarget) h hlater
      exact List.mem_cons_of_mem _ (List.mem_flatMap.mpr ⟨target, htarget, hin⟩)

end Tours

/-! ### First visits -/

/-- What a tour adds to the scopes visited before: each further scope, where it is first. -/
def firstVisits (visited tour : List Nat) : List Nat := (tour.removeAll visited).eraseDups

section FirstVisits

variable {visited tour : List Nat} {place : Nat}

@[simp] theorem mem_firstVisits :
    place ∈ firstVisits visited tour ↔ place ∈ tour ∧ place ∉ visited := by
  simp [firstVisits, List.removeAll]

theorem firstVisits_eq_nil (h : tour ⊆ visited) : firstVisits visited tour = [] := by
  rw [List.eq_nil_iff_forall_not_mem]
  intro place hplace
  obtain ⟨hin, hnew⟩ := mem_firstVisits.mp hplace
  exact hnew (h hin)

theorem firstVisits_cons (h : place ∉ visited) :
    firstVisits visited (place :: tour) = place :: firstVisits (place :: visited) tour := by
  have hkept : (place :: tour).removeAll visited = place :: tour.removeAll visited := by
    simp [List.cons_removeAll, h]
  have hrest : tour.removeAll (place :: visited) =
      (tour.removeAll visited).filter fun other => !other == place := by
    rw [List.removeAll_cons]
    simp only [List.removeAll, List.filter_filter, Bool.and_comm]
  rw [firstVisits, hkept, List.eraseDups_cons, ← hrest, firstVisits]

theorem firstVisits_append (first second : List Nat) :
    firstVisits visited (first ++ second) =
      firstVisits visited first ++
        firstVisits ((firstVisits visited first).reverse ++ visited) second := by
  have hsplit : (first ++ second).removeAll visited =
      first.removeAll visited ++ second.removeAll visited := by
    simp [List.removeAll]
  have hrest : (second.removeAll visited).removeAll (first.removeAll visited) =
      second.removeAll ((firstVisits visited first).reverse ++ visited) := by
    simp only [List.removeAll, List.filter_filter]
    refine List.filter_congr fun place _ => ?_
    rw [Bool.eq_iff_iff]
    simp [firstVisits, List.removeAll]
  rw [firstVisits, hsplit, List.eraseDups_append, hrest]
  rfl

theorem firstVisits_tour {graph : ScopeGraph} {importer : ModulePath} (h : place ∉ visited) :
    firstVisits visited (graph.tour importer place) =
      place :: firstVisits (place :: visited)
        ((graph.reexportsAt importer place).flatMap (graph.tour importer)) := by
  rw [tour_eq, firstVisits_cons h]

end FirstVisits

/-- The scopes visited before `bound` have been walked to the end. -/
def Explored (graph : ScopeGraph) (importer : ModulePath) (bound : Nat) (visited : List Nat) :
    Prop :=
  ∀ place ∈ visited, place < bound → graph.tour importer place ⊆ visited

namespace Explored

variable {graph : ScopeGraph} {importer : ModulePath} {bound target : Nat} {visited : List Nat}

/-- A scope may be marked before it is walked, as long as only earlier ones are asked about. -/
theorem mark (h : graph.Explored importer bound visited) (hbound : target < bound) :
    graph.Explored importer target (target :: visited) := by
  intro place hplace hlt
  obtain rfl | hplace := List.mem_cons.mp hplace
  · exact absurd hlt (Nat.lt_irrefl place)
  · have hsub := h place hplace (Nat.lt_trans hlt hbound)
    exact fun later hlater => List.mem_cons_of_mem _ (hsub hlater)

/-- Once a scope is walked, all that its tour comes to is walked. -/
theorem walk (h : graph.Explored importer bound visited) (start : Nat) :
    graph.Explored importer bound
      ((firstVisits visited (graph.tour importer start)).reverse ++ visited) := by
  intro place hplace hlt later hlater
  rw [List.mem_append, List.mem_reverse, mem_firstVisits]
  rw [List.mem_append, List.mem_reverse, mem_firstVisits] at hplace
  by_cases hold : later ∈ visited
  · exact Or.inr hold
  · refine Or.inl ⟨?_, hold⟩
    obtain ⟨hin, -⟩ | hin := hplace
    · exact tour_subset hin hlater
    · exact absurd (h place hin hlt hlater) hold

end Explored

/-! ### The walk with memory -/

section Walk

variable {m : Type → Type u} [Monad m] (graph : ScopeGraph) (importer : ModulePath)
  (visit : Visitor m Entry)

/-- Offer what is behind the scopes in `order`, and count them as visited. -/
def offerVisits (order visited : List Nat) : m (Option (List Nat)) := do
  if ← Feed.entries (order.flatMap (graph.entriesBehind importer)) visit then
    return none
  return some (order.reverse ++ visited)

variable [LawfulMonad m]

theorem anyM_bindings (bindings : List Binding) :
    bindings.anyM (·.feed visit) = Feed.entries (bindings.filterMap Binding.entry?) visit :=
  Feed.anyM_optional Binding.entry? bindings visit

theorem offerVisits_cons (place : Nat) (order visited : List Nat) :
    graph.offerVisits importer visit (place :: order) visited = (do
      if ← Feed.entries (graph.entriesBehind importer place) visit then
        return none
      graph.offerVisits importer visit order (place :: visited)) := by
  simp only [offerVisits, List.flatMap_cons, Feed.entries_append, bind_assoc]
  refine bind_congr fun stopped => ?_
  cases stopped <;> simp

theorem offerVisits_bind (order visited : List Nat) (next : List Nat → m (Option (List Nat))) :
    (do
      match ← graph.offerVisits importer visit order visited with
      | none => return none
      | some visited => next visited) = (do
      if ← Feed.entries (order.flatMap (graph.entriesBehind importer)) visit then
        return none
      next (order.reverse ++ visited)) := by
  simp only [offerVisits, bind_assoc]
  refine bind_congr fun stopped => ?_
  cases stopped <;> simp

theorem offerVisits_append (first second visited : List Nat) :
    graph.offerVisits importer visit (first ++ second) visited = (do
      match ← graph.offerVisits importer visit first visited with
      | none => return none
      | some visited => graph.offerVisits importer visit second visited) := by
  rw [offerVisits_bind]
  simp only [offerVisits, List.flatMap_append, Feed.entries_append, bind_assoc]
  refine bind_congr fun stopped => ?_
  cases stopped <;> simp

/-- The walk with memory makes the first visits of the plain one. The induction is on the walk's
own recursion, and `Explored` is what it keeps. -/
theorem globFeed_eq (bound : Nat) (targets : List Nat)
    (inBounds : ∀ target ∈ targets, target < bound) (visited : List Nat)
    (explored : graph.Explored importer bound visited) :
    graph.globFeed importer visit bound targets inBounds visited =
      graph.offerVisits importer visit
        (firstVisits visited (targets.flatMap (graph.tour importer))) visited := by
  fun_induction globFeed graph importer visit bound targets inBounds visited with
  | case1 bound visited =>
    simp [offerVisits, firstVisits, Feed.entries]
  | case2 bound visited target rest _ _ hold inBounds ih =>
    -- all that lies behind a visited scope was offered when it was visited
    have hsub := explored target (List.contains_iff_mem.mp hold) (inBounds target (.head _))
    rw [ih explored, List.flatMap_cons, firstVisits_append, firstVisits_eq_nil hsub]
    rfl
  | case3 bound visited target rest _ _ hnew hscope inBounds ih =>
    have hfresh : target ∉ visited := by simpa using hnew
    have hfirst : firstVisits visited (graph.tour importer target) = [target] := by
      rw [firstVisits_tour hfresh]
      simp [reexportsAt, hscope, firstVisits]
    have hbehind : graph.entriesBehind importer target = [] := by
      simp [entriesBehind, hscope]
    have hwalk := explored.walk target
    rw [hfirst] at hwalk
    rw [ih hwalk, List.flatMap_cons, firstVisits_append, hfirst, List.singleton_append,
      offerVisits_cons, hbehind]
    simp [Feed.entries]
  | case4 bound visited target rest _ restInBounds hnew scope hscope inBounds ihTarget ihRest =>
    have hfresh : target ∉ visited := by simpa using hnew
    have hbehind := entriesBehind_eq hscope importer
    have hreexports := reexportsAt_eq hscope importer
    have hmark := explored.mark (inBounds target (.head _))
    have hwalk := explored.walk target
    rw [firstVisits_tour hfresh, hreexports, List.reverse_cons, List.append_assoc,
      List.singleton_append] at hwalk
    rw [List.flatMap_cons, firstVisits_append, offerVisits_append, firstVisits_tour hfresh,
      offerVisits_cons, hbehind, hreexports, anyM_bindings, ihTarget hmark, List.reverse_cons,
      List.append_assoc, List.singleton_append]
    -- what the walk below `target` offers, and whether the visitor stops it there
    generalize firstVisits (target :: visited) _ = below at hwalk ⊢
    simp only [bind_assoc]
    refine bind_congr fun stopped => ?_
    cases stopped with
    | true => simp
    | false =>
      simp only [Bool.false_eq_true, if_false]
      have hleft := offerVisits_bind graph importer visit below (target :: visited)
        (graph.globFeed importer visit bound rest restInBounds)
      have hright := offerVisits_bind graph importer visit below (target :: visited)
        (graph.offerVisits importer visit (firstVisits (below.reverse ++ target :: visited)
          (rest.flatMap (graph.tour importer))))
      rw [ihRest _ hwalk] at hleft
      exact hleft.trans hright.symm

end Walk

/-! ### The scopes in the order -/

theorem idxOf_filter_lt {p : Nat → Bool} {a b : Nat} (ha : p a) (hb : p b) {tour : List Nat}
    (h : (tour.filter p).idxOf a < (tour.filter p).idxOf b) : tour.idxOf a < tour.idxOf b := by
  induction tour with
  | nil => exact h
  | cons c tour ih =>
    by_cases hc : p c
    · rw [List.filter_cons_of_pos hc, List.idxOf_cons, List.idxOf_cons] at h
      rw [List.idxOf_cons, List.idxOf_cons]
      cases hca : c == a <;> cases hcb : c == b <;> simp [hca, hcb] at h ⊢
      exact ih h
    · have hother {d : Nat} (hd : p d) : (c == d) = false := by
        rw [beq_eq_false_iff_ne]
        rintro rfl
        exact hc hd
      rw [List.filter_cons_of_neg hc] at h
      rw [List.idxOf_cons, List.idxOf_cons, hother ha, hother hb]
      exact Nat.succ_lt_succ (ih h)

/-- Without repetitions, a tour is in the order of first visits. -/
theorem pairwise_eraseDups (tour : List Nat) :
    tour.eraseDups.Pairwise fun a b => tour.idxOf a < tour.idxOf b := by
  match tour with
  | [] => exact .nil
  | place :: rest =>
    have hshorter := List.length_filter_le (fun other => !other == place) rest
    have hne {a : Nat} (ha : a ∈ (rest.filter fun other => !other == place).eraseDups) :
        (!a == place) = true := (List.mem_filter.mp (List.mem_eraseDups.mp ha)).2
    have hlater {a : Nat} (ha : (!a == place) = true) :
        (place :: rest).idxOf a = rest.idxOf a + 1 := by
      have hplace : (place == a) = false := by
        rw [beq_eq_false_iff_ne]
        rintro rfl
        simp at ha
      rw [List.idxOf_cons, hplace, cond_false]
    rw [List.eraseDups_cons, List.pairwise_cons]
    constructor
    · intro a ha
      rw [hlater (hne ha), List.idxOf_cons_self]
      exact Nat.succ_pos _
    · refine (pairwise_eraseDups _).imp_of_mem fun {a b} ha hb hlt => ?_
      rw [hlater (hne ha), hlater (hne hb)]
      exact Nat.succ_lt_succ (idxOf_filter_lt (hne ha) (hne hb) hlt)
termination_by tour.length
decreasing_by exact Nat.lt_succ_of_le hshorter

section Order

variable {graph : ScopeGraph} {scope : ItemScope} {place : Nat}

theorem nodup_eraseDups (tour : List Nat) : tour.eraseDups.Nodup := by
  refine (pairwise_eraseDups tour).imp fun hlt heq => ?_
  rw [heq] at hlt
  exact Nat.lt_irrefl _ hlt

theorem mem_imported : place ∈ (scope.globs.map (·.target)).filter (· < graph.scopes.size) ↔
    ∃ glob ∈ scope.globs, glob.target < graph.scopes.size ∧ glob.target = place := by
  simp only [List.mem_filter, List.mem_map, decide_eq_true_eq]
  grind

theorem Reaches.of_mem_tour (h : graph.Reaches scope place) {later : Nat}
    (hlater : later ∈ graph.tour scope.module.path place) : graph.Reaches scope later := by
  induction place using Nat.strongRecOn with
  | ind place ih =>
    rw [tour_eq, List.mem_cons, List.mem_flatMap] at hlater
    obtain rfl | ⟨target, htarget, hlater⟩ := hlater
    · exact h
    · have hlt := reexportsAt_lt htarget
      obtain ⟨via, hvia, glob, hglob, hadmits, rfl⟩ := mem_reexportsAt.mp htarget
      exact ih _ hlt (h.reexported hvia hglob hadmits) hlater

theorem Reaches.mem_globTour (h : graph.Reaches scope place) : place ∈ graph.globTour scope := by
  induction h with
  | imported hglob hknown =>
    have hin := mem_imported.mpr ⟨_, hglob, hknown, rfl⟩
    exact List.mem_flatMap.mpr ⟨_, hin, self_mem_tour _⟩
  | reexported _ hvia hglob hadmits ih =>
    obtain ⟨start, hstart, htour⟩ := List.mem_flatMap.mp ih
    refine List.mem_flatMap.mpr ⟨start, hstart, tour_subset htour ?_⟩
    have htarget := mem_reexportsAt.mpr ⟨_, hvia, _, hglob, hadmits, rfl⟩
    rw [tour_eq]
    exact List.mem_cons_of_mem _ (List.mem_flatMap.mpr ⟨_, htarget, self_mem_tour _⟩)

theorem mem_globOrder : place ∈ graph.globOrder scope ↔ graph.Reaches scope place := by
  rw [globOrder, List.mem_eraseDups]
  constructor
  · intro h
    obtain ⟨start, hstart, htour⟩ := List.mem_flatMap.mp h
    obtain ⟨glob, hglob, hknown, rfl⟩ := mem_imported.mp hstart
    exact (Reaches.imported hglob hknown).of_mem_tour htour
  · exact Reaches.mem_globTour

end Order

end ScopeGraph

end ScopeWalk
