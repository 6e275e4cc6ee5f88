import ScopeWalk.Proofs.Candidate.Acceptance

/-!
# What asking a candidate does

To ask a candidate for its element is to run the computation behind it, if the candidate is deferred
and was not asked before, and to do nothing otherwise. A computation may note in the journal that it
runs, and then the journal tells how often it ran.
-/
namespace ScopeWalk

/-! ### Walks without their answers -/

namespace Walk

/-- What the walk does, without its answer. -/
def effect (walk : Walk α) : Walk Unit := (fun _ => ()) <$> walk

theorem effect_map (walk : Walk α) (f : α → β) : (f <$> walk).effect = walk.effect := by
  rw [effect, effect, Functor.map_map]

theorem effect_bind_pure (walk : Walk α) (f : α → β) :
    (walk >>= fun value => pure (f value)).effect = walk.effect := by
  rw [← map_eq_pure_bind, effect_map]

theorem effect_of_run {walk : Walk α} {store next : Store} {answer : Except Failure α}
    (h : walk.run.run store = pure (answer, next)) :
    walk.effect.run.run store = pure (answer.map fun _ => (), next) := by
  rw [effect, map_eq_pure_bind, ExceptT.run_bind, StateT.run_bind, h]
  cases answer with
  | ok value => rfl
  | error failure => rfl

theorem answer_effect (walk : Walk α) (store : Store) :
    walk.effect.answer store = (walk.answer store).map fun _ => () :=
  congrArg Prod.fst (effect_of_run rfl)

theorem after_effect (walk : Walk α) (store : Store) :
    walk.effect.after store = walk.after store :=
  congrArg Prod.snd (effect_of_run rfl)

end Walk

/-! ### The computations behind candidates -/

/-- Run computations one after another. -/
def Thunk.runAll (thunks : List Thunk) : Walk Unit := thunks.forM fun thunk => thunk.run.effect

theorem Thunk.runAll_append (first second : List Thunk) :
    runAll (first ++ second) = runAll first >>= fun _ => runAll second := List.forM_append

theorem Thunk.runAll_singleton (thunk : Thunk) : runAll [thunk] = thunk.run.effect := by
  simp [runAll]

theorem Thunk.runAll_concat_run {first : List Thunk} {store : Store}
    (h : (runAll first).answer store = .ok ()) (thunk : Thunk) :
    (runAll (first ++ [thunk])).run.run store =
      thunk.run.effect.run.run ((runAll first).after store) := by
  rw [runAll_append, Walk.run_bind_ok _ h, runAll_singleton]

/-- As long as nothing breaks down, all computations run. -/
theorem Thunk.of_runAll_cons {thunk : Thunk} {rest : List Thunk} {store : Store}
    (h : (runAll (thunk :: rest)).answer store = .ok ()) :
    (∃ found, thunk.run.answer store = .ok found) ∧
      (runAll rest).answer (thunk.run.after store) = .ok () := by
  obtain ⟨⟨⟩, hthunk, hrest⟩ : ∃ value, thunk.run.effect.answer store = .ok value ∧
      (runAll rest).answer (thunk.run.effect.after store) = .ok () := Walk.answer_bind_ok h
  rw [Walk.after_effect] at hrest
  rw [Walk.answer_effect] at hthunk
  cases hfound : thunk.run.answer store with
  | ok found => exact ⟨⟨found, rfl⟩, hrest⟩
  | error failure =>
    rw [hfound] at hthunk
    cases hthunk

theorem Thunk.after_runAll_cons {thunk : Thunk} {store : Store} {found : Option Element}
    (h : thunk.run.answer store = .ok found) (rest : List Thunk) :
    (runAll (thunk :: rest)).after store = (runAll rest).after (thunk.run.after store) := by
  have heffect : thunk.run.effect.answer store = .ok () := by
    rw [Walk.answer_effect, h]
    rfl
  have hafter : (runAll (thunk :: rest)).after store =
      (runAll rest).after (thunk.run.effect.after store) :=
    Walk.after_bind_of_ok (fun _ => runAll rest) heffect
  rw [hafter, Walk.after_effect]

namespace Entry

/-- The computation that is run when the candidate is asked for its element. There is none if the
element is known, or cannot be found any more. -/
def thunk? : Entry → Option Thunk
  | .deferred ⟨_, .pending thunk, _⟩ => some thunk
  | _ => none

theorem force_effect (entry : Entry) : entry.force.effect = Thunk.runAll entry.thunk?.toList := by
  cases entry with
  | direct entry => rfl
  | member entry => rfl
  | deferred entry =>
    rw [Entry.force, Walk.effect_bind_pure, LazyEntry.force_eq, Walk.effect_bind_pure]
    obtain ⟨name, cell, isExternCrate⟩ := entry
    cases cell with
    | ready found => rfl
    | spent => rfl
    | pending thunk => exact (Thunk.runAll_singleton thunk).symm

end Entry

/-! ### Notes -/

def Event.note? : Event → Option String
  | .note text => some text
  | .load _ => none

/-- The notes in the journal. -/
def Store.notes (store : Store) : List String := store.journal.filterMap Event.note?

/-- The notes that the computation makes whenever it runs. -/
def Thunk.notes : Thunk → List String
  | .known _ => []
  | .crateRoot _ => []
  | .failing _ => []
  | .noting text next => text :: next.notes

theorem Store.notes_append (graph : CrateGraph) (journal : List Event) (event : Event) :
    Store.notes ⟨graph, journal ++ [event]⟩ = journal.filterMap Event.note? ++ event.note?.toList := by
  rw [notes, List.filterMap_append]
  cases event <;> rfl

theorem Walk.notes_crateRoot (id : CrateId) (store : Store) :
    ((crateRoot id).after store).notes = store.notes := by
  cases hnode : store.graph.node? id with
  | none =>
    rw [after, crateRoot_unknown hnode]
    rfl
  | some node =>
    rw [after, crateRoot_known hnode]
    cases node.root with
    | ready root => rfl
    | spent => rfl
    | pending crate =>
      rw [Memo.force_pending_state, load]
      exact (Store.notes_append _ store.journal (.load crate.id)).trans (List.append_nil _)

namespace Thunk

theorem notes_run (thunk : Thunk) (store : Store) :
    (thunk.run.after store).notes = store.notes ++ thunk.notes := by
  induction thunk generalizing store with
  | known found =>
    rw [notes, List.append_nil]
    rfl
  | crateRoot crate => rw [run, notes, List.append_nil, Walk.notes_crateRoot]
  | failing message =>
    rw [notes, List.append_nil]
    rfl
  | noting text next ih =>
    have hnote : (Walk.note text).answer store = .ok () := rfl
    have hnotes : ((Walk.note text).after store).notes = store.notes ++ [text] :=
      Store.notes_append store.graph store.journal (.note text)
    rw [run, Walk.after, Walk.run_bind_ok _ hnote, notes, List.append_cons, ← hnotes]
    exact ih ((Walk.note text).after store)

/-- Of computations of which only the last may break down, each makes its notes once. -/
theorem notes_runAll {first : List Thunk} {store : Store}
    (h : (runAll first).answer store = .ok ()) (last : Option Thunk) :
    ((runAll (first ++ last.toList)).after store).notes =
      store.notes ++ (first ++ last.toList).flatMap notes := by
  induction first generalizing store with
  | nil =>
    cases last with
    | none =>
      show store.notes = store.notes ++ []
      rw [List.append_nil]
    | some thunk =>
      show ((runAll [thunk]).after store).notes = store.notes ++ [thunk].flatMap notes
      rw [runAll_singleton, Walk.after_effect, notes_run, List.flatMap_cons, List.flatMap_nil,
        List.append_nil]
  | cons thunk rest ih =>
    obtain ⟨⟨found, hfound⟩, hrest⟩ := of_runAll_cons h
    rw [List.cons_append, after_runAll_cons hfound, ih hrest, notes_run, List.append_assoc]
    rfl

end Thunk

end ScopeWalk
