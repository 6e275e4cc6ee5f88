import ScopeWalk.Crates.Walk
import ScopeWalk.Proofs.Memo

/-!
# Walks that can be put off

Reading the root of a crate changes the store, but only so that it need not be read again: what
is answered for any root stays the same, unless reading broke down. A walk is steady if roots are
all it depends on, and all it touches. What a steady walk answers is known before anything else
is done.
-/
namespace ScopeWalk

namespace CrateGraph

theorem node?_setRoot_self {graph : CrateGraph} {id : CrateId} {node : CrateNode}
    (h : graph.node? id = some node) (root : Memo Crate (Option Element)) :
    (graph.setRoot id root).node? id = some { node with root := root } := by
  simp only [node?] at h
  simp [setRoot, node?, h]

theorem node?_setRoot_ne (graph : CrateGraph) {id other : CrateId} (h : id ≠ other)
    (root : Memo Crate (Option Element)) :
    (graph.setRoot id root).node? other = graph.node? other := by
  have hindex : id.index ≠ other.index := by
    intro he
    cases id
    cases other
    exact h (congrArg _ he)
  simp [setRoot, node?, hindex]

end CrateGraph

namespace Walk

/-- What a walk answers when it starts from a store. -/
def answer (walk : Walk α) (store : Store) : Except Failure α := (walk.run.run store).1

/-- The store that a walk leaves behind. -/
def after (walk : Walk α) (store : Store) : Store := (walk.run.run store).2

end Walk

/-- Reading the root of any crate gives the same answer in both stores. -/
def Store.SameRoots (store other : Store) : Prop :=
  ∀ id, (Walk.crateRoot id).answer store = (Walk.crateRoot id).answer other

namespace Store.SameRoots

variable {first second third : Store}

theorem refl (store : Store) : store.SameRoots store := fun _ => rfl

theorem symm (h : first.SameRoots second) : second.SameRoots first := fun id => (h id).symm

theorem trans (h : first.SameRoots second) (h' : second.SameRoots third) : first.SameRoots third :=
  fun id => (h id).trans (h' id)

end Store.SameRoots

namespace Walk

/-- Nothing but crate roots has an influence on the walk, and none of them is lost by it. -/
structure Steady (walk : Walk α) : Prop where
  answer_congr : ∀ {store other : Store}, store.SameRoots other →
    walk.answer store = walk.answer other
  /-- A walk that breaks down may leave a root unread for good. -/
  sameRoots : ∀ {store : Store} {value : α}, walk.answer store = .ok value →
    store.SameRoots (walk.after store)

section Laws

variable {walk : Walk α} (next : α → Walk β) {store : Store}

theorem run_of_answer {result : Except Failure α} (h : walk.answer store = result) :
    walk.run.run store = pure (result, walk.after store) := by
  rw [← h]
  rfl

theorem run_bind_ok {value : α} (h : walk.answer store = .ok value) :
    (walk >>= next).run.run store = (next value).run.run (walk.after store) := by
  simp [ExceptT.run_bind, run_of_answer h]

theorem after_bind_of_ok {value : α} (h : walk.answer store = .ok value) :
    (walk >>= next).after store = (next value).after (walk.after store) :=
  congrArg Prod.snd (run_bind_ok next h)

theorem run_bind_error {failure : Failure} (h : walk.answer store = .error failure) :
    (walk >>= next).run.run store = pure (.error failure, walk.after store) := by
  simp [ExceptT.run_bind, run_of_answer h]

theorem run_bind_congr {other : Walk α} (h : walk.run.run store = other.run.run store) :
    (walk >>= next).run.run store = (other >>= next).run.run store := by
  simp only [ExceptT.run_bind, StateT.run_bind, h]

theorem answer_of_run {other : Walk α} (h : walk.run.run store = other.run.run store) :
    walk.answer store = other.answer store := congrArg Prod.fst h

theorem answer_bind_pure (f : α → β) :
    (walk >>= fun value => pure (f value)).answer store = (walk.answer store).map f := by
  cases h : walk.answer store with
  | ok value =>
    rw [answer, run_bind_ok _ h]
    rfl
  | error failure =>
    rw [answer, run_bind_error _ h]
    rfl

theorem after_bind_pure (f : α → β) :
    (walk >>= fun value => pure (f value)).after store = walk.after store := by
  cases h : walk.answer store with
  | ok value =>
    rw [after, run_bind_ok _ h]
    rfl
  | error failure =>
    rw [after, run_bind_error _ h]
    rfl

/-- A walk that does not break down had no part that did. -/
theorem answer_bind_ok {next : α → Walk β} {value : β}
    (h : (walk >>= next).answer store = .ok value) :
    ∃ first, walk.answer store = .ok first ∧
      (next first).answer (walk.after store) = .ok value := by
  cases hfirst : walk.answer store with
  | error failure =>
    rw [answer, run_bind_error next hfirst] at h
    cases h
  | ok first =>
    rw [answer, run_bind_ok next hfirst] at h
    exact ⟨first, rfl, h⟩

end Laws

/-! ### Reading a root -/

theorem crateRoot_unknown {id : CrateId} {store : Store} (h : store.graph.node? id = none) :
    (crateRoot id).run.run store = pure (.ok none, store) := by
  show crateRoot id store = _
  simp only [crateRoot, h]
  rfl

theorem crateRoot_known {id : CrateId} {store : Store} {node : CrateNode}
    (h : store.graph.node? id = some node) :
    let read := node.root.force (load store.graph.loader) store.journal
    (crateRoot id).run.run store =
      pure (read.1.1, { graph := store.graph.setRoot id read.2, journal := read.1.2 }) := by
  show crateRoot id store = _
  simp only [crateRoot, h]
  rfl

/-- What reading a root answers is up to the loader and the node of the crate. -/
theorem answer_crateRoot_congr {id : CrateId} {store other : Store}
    (hloader : store.graph.loader = other.graph.loader)
    (hnodes : store.graph.node? id = other.graph.node? id) :
    (crateRoot id).answer store = (crateRoot id).answer other := by
  cases hnode : store.graph.node? id with
  | none =>
    rw [answer, answer, crateRoot_unknown hnode, crateRoot_unknown (hnodes ▸ hnode)]
    rfl
  | some node =>
    rw [answer, answer, crateRoot_known hnode, crateRoot_known (hnodes ▸ hnode), hloader]
    exact Memo.force_answer_congr fun crate => rfl

/-! ### Steady walks -/

theorem steady_pure (value : α) : (pure value : Walk α).Steady where
  answer_congr _ := rfl
  sameRoots _ := .refl _

theorem steady_fail (message : String) : (fail message : Walk α).Steady where
  answer_congr _ := rfl
  sameRoots h := by cases h

theorem steady_note (text : String) : (note text).Steady where
  answer_congr _ := rfl
  sameRoots _ := fun _ => answer_crateRoot_congr rfl rfl

theorem steady_crateRoot (id : CrateId) : (crateRoot id).Steady where
  answer_congr h := h id
  sameRoots {store found} h := by
    cases hnode : store.graph.node? id with
    | none =>
      rw [after, crateRoot_unknown hnode]
      exact .refl store
    | some node =>
      have hread : (node.root.force (load store.graph.loader) store.journal).1.1 = .ok found := by
        rw [answer, crateRoot_known hnode] at h
        exact h
      intro other
      rw [after, crateRoot_known hnode, Memo.force_of_ok hread]
      by_cases hother : id = other
      · subst hother
        have hafter := CrateGraph.node?_setRoot_self hnode (.ready found)
        rw [h, answer, crateRoot_known hafter]
        rfl
      · have hafter := store.graph.node?_setRoot_ne hother (.ready found)
        exact answer_crateRoot_congr rfl hafter.symm

theorem Steady.bind {walk : Walk α} {next : α → Walk β} (h : walk.Steady)
    (hnext : ∀ value, (next value).Steady) : (walk >>= next).Steady := by
  constructor
  · intro store other hroots
    have hanswer := h.answer_congr hroots
    cases hfirst : walk.answer store with
    | error failure =>
      rw [hfirst] at hanswer
      rw [answer, answer, run_bind_error next hfirst, run_bind_error next hanswer.symm]
      rfl
    | ok value =>
      rw [hfirst] at hanswer
      rw [answer, answer, run_bind_ok next hfirst, run_bind_ok next hanswer.symm]
      have hafter := ((h.sameRoots hfirst).symm.trans hroots).trans (h.sameRoots hanswer.symm)
      exact (hnext value).answer_congr hafter
  · intro store value hrun
    obtain ⟨first, hfirst, hsecond⟩ := answer_bind_ok hrun
    rw [after, run_bind_ok next hfirst]
    exact (h.sameRoots hfirst).trans ((hnext first).sameRoots hsecond)

theorem Steady.map {walk : Walk α} (h : walk.Steady) (f : α → β) : (f <$> walk).Steady := by
  rw [map_eq_pure_bind]
  exact h.bind fun value => steady_pure (f value)

end Walk

end ScopeWalk
