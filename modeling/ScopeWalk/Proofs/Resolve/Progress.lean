import ScopeWalk.Proofs.Feed.Record
import ScopeWalk.Proofs.Resolve.Queries

/-!
# How far a driver comes

A driver is handed one offer after another until it has seen enough or breaks down. So what it is
handed is a first part of the list, and on all offers but the last of them it did neither.
-/
namespace ScopeWalk.Query

variable {σ : Type} (query : Query σ)

/-- The driver on a list of offers, when something was kept before: whether it stopped the walk, and
what is kept in the end. -/
def visit (offers : List (Offer Entry)) (kept : σ) : Walk (Bool × σ) :=
  (Feed.ofList offers (query.visitor Walk)).run kept

theorem visit_eq (offers : List (Offer Entry)) (kept : σ) :
    query.visit offers kept = Step.visit query.step offers kept := by
  rw [visit, visitor_eq]
  rfl

theorem run_eq_visit (offers : List (Offer Entry)) : query.run Walk (Feed.ofList offers) =
    Prod.snd <$> query.visit offers query.start := by
  rw [run_eq, map_eq_pure_bind]
  rfl

/-- The offers that the driver is handed. -/
def reach : List (Offer Entry) → σ → Store → List (Offer Entry)
  | [], _, _ => []
  | offer :: rest, kept, store =>
    offer :: match (query.step offer kept).answer store with
      | .ok (false, next) => reach rest next ((query.step offer kept).after store)
      | .ok (true, _) => []
      | .error _ => []

section Steps

variable {offer : Offer Entry} {rest : List (Offer Entry)} {kept kept' : σ} {store : Store}

theorem reach_next (h : (query.step offer kept).answer store = .ok (false, kept')) :
    query.reach (offer :: rest) kept store =
      offer :: query.reach rest kept' ((query.step offer kept).after store) := by
  simp only [reach, h]

theorem reach_stop (h : (query.step offer kept).answer store = .ok (true, kept')) :
    query.reach (offer :: rest) kept store = [offer] := by
  simp only [reach, h]

theorem reach_error {failure : Failure}
    (h : (query.step offer kept).answer store = .error failure) :
    query.reach (offer :: rest) kept store = [offer] := by
  simp only [reach, h]

end Steps

theorem reach_isPrefix (offers : List (Offer Entry)) (kept : σ) (store : Store) :
    query.reach offers kept store <+: offers := by
  induction offers generalizing kept store with
  | nil => exact List.prefix_refl []
  | cons offer rest ih =>
    have hone : [offer] <+: offer :: rest := by simp
    cases h : (query.step offer kept).answer store with
    | error failure => rwa [query.reach_error h]
    | ok result =>
      obtain ⟨stop, kept'⟩ := result
      cases stop with
      | true => rwa [query.reach_stop h]
      | false =>
        rw [query.reach_next h]
        exact (List.prefix_cons_inj offer).mpr (ih kept' _)

/-! ### The record of a walk -/

/-- The record of the driver's walk that starts from a store. -/
def record (producer : Producer Entry) (store : Store) : Record Entry :=
  (((query.run (Recorded Entry) (producer _).recorded).run.run .empty).run store).1.2

theorem recorded_visitor_run (offer : Offer Entry) (kept : σ) (record : Record Entry) :
    (((query.visitor (Recorded Entry)).recorded offer).run kept).run.run record =
      (query.step offer kept).run >>= fun answer =>
        pure (answer, { record with handed := record.handed ++ [offer] }) := by
  show ((query.visitor (Recorded Entry) offer).run kept).run.run
    { record with handed := record.handed ++ [offer] } = _
  have hvisit : (query.visitor (Recorded Entry) offer).run kept =
      Recorded.lift (query.step offer kept) := query.visitor_run offer kept
  rw [hvisit, Recorded.lift_run]

/-- Writing down what the driver is offered changes nothing. -/
theorem recorded_visit_run (offers : List (Offer Entry)) (kept : σ) (record : Record Entry)
    (store : Store) :
    (((Feed.ofList offers (query.visitor (Recorded Entry)).recorded).run kept).run.run
        record).run store =
      ((((query.visit offers kept).run.run store).1,
        { record with handed := record.handed ++ query.reach offers kept store }),
        ((query.visit offers kept).run.run store).2) := by
  rw [visit_eq]
  induction offers generalizing kept record store with
  | nil =>
    rw [reach, List.append_nil]
    rfl
  | cons offer rest ih =>
    have hstep : (query.step offer kept).run.run store =
        pure ((query.step offer kept).answer store, (query.step offer kept).after store) := rfl
    rw [Feed.ofList_cons, StateT.run_bind, ExceptT.run_bind, StateT.run_bind, recorded_visitor_run,
      bind_assoc, StateT.run_bind, hstep]
    cases hanswer : (query.step offer kept).answer store with
    | error failure =>
      rw [query.reach_error hanswer, Step.visit_run_error hanswer]
      rfl
    | ok result =>
      obtain ⟨stop, next⟩ := result
      cases stop with
      | true =>
        rw [query.reach_stop hanswer, Step.visit_run_stop hanswer]
        rfl
      | false =>
        have hrest := ih next { record with handed := record.handed ++ [offer] }
          ((query.step offer kept).after store)
        rw [List.append_assoc, List.singleton_append] at hrest
        rw [query.reach_next hanswer, Step.visit_run_next hanswer]
        exact hrest

/-- What the driver makes of the walk, and the store that it leaves behind, are as they would have
been without a record. -/
theorem recorded_run (offers : List (Offer Entry)) (store : Store) :
    ((query.run (Recorded Entry) (Feed.ofList offers).recorded).run.run .empty).run store =
      (((query.run Walk (Feed.ofList offers)).answer store,
        ⟨query.reach offers query.start store,
          ((query.visit offers query.start).answer store).toOption.map Prod.fst⟩),
        (query.run Walk (Feed.ofList offers)).after store) := by
  have hvisit := query.recorded_visit_run offers query.start .empty store
  have hplain : (query.visit offers query.start).run.run store =
      pure ((query.visit offers query.start).answer store,
        (query.visit offers query.start).after store) := rfl
  rw [run_eq, Feed.recorded, StateT.run_bind, bind_assoc, ExceptT.run_bind, StateT.run_bind,
    StateT.run_bind, hvisit, hplain, run_eq_visit, map_eq_pure_bind, Walk.answer_bind_pure,
    Walk.after_bind_pure]
  cases (query.visit offers query.start).answer store with
  | error failure => rfl
  | ok result => rfl

theorem record_ofList (offers : List (Offer Entry)) (store : Store) :
    query.record (fun _ _ => Feed.ofList offers) store =
      ⟨query.reach offers query.start store,
        ((query.visit offers query.start).answer store).toOption.map Prod.fst⟩ := by
  rw [record, recorded_run]

end ScopeWalk.Query
