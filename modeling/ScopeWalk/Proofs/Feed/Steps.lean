import ScopeWalk.Proofs.Candidate.Acceptance
import ScopeWalk.Proofs.Feed.Calls

/-!
# Visitors step by step

What a driver does on an offer is a computation on the store, which is given the offer and what was
kept before, and says whether the walk is stopped there and what is kept then. A walk is followed
by taking one such step after another.
-/
namespace ScopeWalk

/-- What is done on an offer: whether the walk is stopped there, and what is kept then. -/
abbrev Step (σ : Type) := Offer Entry → σ → Walk (Bool × σ)

namespace Step

variable {σ : Type}

/-- The visitor that takes this step on each offer. -/
def visitor (step : Step σ) (n : Type → Type) [Monad n] [MonadLiftT Walk n] :
    Visitor (StateT σ n) Entry := fun offer kept => liftM (step offer kept)

/-- One step after another on a list of offers, with the calls of the visitor written down. Something
may have been kept before, and some calls made. -/
def follow (step : Step σ) :
    List (Offer Entry) → σ → Calls Entry → Walk ((Bool × σ) × Calls Entry)
  | [], kept, calls => pure ((false, kept), calls)
  | offer :: rest, kept, calls => do
    let result ← step offer kept
    if result.1 then return (result, calls ++ [(offer, true)])
    follow step rest result.2 (calls ++ [(offer, false)])

section Runs

variable (step : Step σ) (offers : List (Offer Entry)) (kept : σ) (calls : Calls Entry)

theorem traced_visitor_run (offer : Offer Entry) :
    (((visitor step (StateT (Calls Entry) Walk)).traced offer).run kept).run calls = do
      let result ← step offer kept
      return (result, calls ++ [(offer, result.1)]) := by
  have hvisit : (visitor step (StateT (Calls Entry) Walk) offer).run kept =
      liftM (step offer kept) := rfl
  have hwrite (stop : Bool) (kept : σ) (calls : Calls Entry) :
      ((modifyThe (Calls Entry) (· ++ [(offer, stop)]) :
        StateT σ (StateT (Calls Entry) Walk) PUnit).run kept).run calls =
        pure ((⟨⟩, kept), calls ++ [(offer, stop)]) := rfl
  simp only [Visitor.traced, StateT.run_bind, hwrite, hvisit, StateT.run_monadLift, bind_assoc,
    pure_bind, StateT.run_pure]
  rfl

theorem ofList_traced_visitor_run :
    (((Feed.ofList (m := StateT σ (StateT (Calls Entry) Walk)) offers).traced
      (visitor step _)).run kept).run calls = follow step offers kept calls := by
  induction offers generalizing kept calls with
  | nil => simp [follow, Feed.traced]
  | cons offer rest ih =>
    simp only [Feed.traced, Feed.ofList_cons, StateT.run_bind, traced_visitor_run, follow,
      bind_assoc, pure_bind] at ih ⊢
    refine bind_congr fun result => ?_
    obtain ⟨stop, kept⟩ := result
    cases stop with
    | true => simp
    | false => exact ih kept (calls ++ [(offer, false)])

theorem ofList_visitor_run : (Feed.ofList (m := StateT σ Walk) offers (visitor step _)).run kept =
    Prod.fst <$> follow step offers kept calls := by
  have hvisit (offer : Offer Entry) (kept : σ) :
      (visitor step Walk offer).run kept = step offer kept := rfl
  induction offers generalizing kept calls with
  | nil => simp [follow]
  | cons offer rest ih =>
    rw [Feed.ofList_cons, StateT.run_bind, hvisit, follow, map_bind]
    refine bind_congr fun result => ?_
    obtain ⟨stop, kept⟩ := result
    cases stop with
    | true => simp
    | false => exact ih kept (calls ++ [(offer, false)])

/-- The steps by themselves: whether the walk is stopped, and what is kept in the end. -/
def visit : Walk (Bool × σ) := (Feed.ofList offers (visitor step Walk)).run kept

theorem visit_eq : visit step offers kept = Prod.fst <$> follow step offers kept calls :=
  ofList_visitor_run step offers kept calls

theorem visit_cons (offer : Offer Entry) (rest : List (Offer Entry)) :
    visit step (offer :: rest) kept = (do
      let result ← step offer kept
      if result.1 then return result
      visit step rest result.2) := by
  have hvisit : (visitor step Walk offer).run kept = step offer kept := rfl
  rw [visit, Feed.ofList_cons, StateT.run_bind, hvisit]
  refine bind_congr fun result => ?_
  obtain ⟨stop, kept⟩ := result
  cases stop <;> rfl

end Runs

section First

variable {step : Step σ} {offer : Offer Entry} {rest : List (Offer Entry)} {kept kept' : σ}
  {store : Store}

theorem visit_run_next (h : (step offer kept).answer store = .ok (false, kept')) :
    (visit step (offer :: rest) kept).run.run store =
      (visit step rest kept').run.run ((step offer kept).after store) := by
  rw [visit_cons, Walk.run_bind_ok _ h]
  rfl

theorem answer_visit_next (h : (step offer kept).answer store = .ok (false, kept')) :
    (visit step (offer :: rest) kept).answer store =
      (visit step rest kept').answer ((step offer kept).after store) :=
  congrArg Prod.fst (visit_run_next h)

theorem visit_run_stop (h : (step offer kept).answer store = .ok (true, kept')) :
    (visit step (offer :: rest) kept).run.run store =
      pure (.ok (true, kept'), (step offer kept).after store) := by
  rw [visit_cons, Walk.run_bind_ok _ h]
  rfl

theorem visit_run_error {failure : Failure}
    (h : (step offer kept).answer store = .error failure) :
    (visit step (offer :: rest) kept).run.run store =
      pure (.error failure, (step offer kept).after store) := by
  rw [visit_cons, Walk.run_bind_error _ h]

/-- Two walks answer the same if their first steps do, and what follows does. -/
theorem answer_visit_congr {step' : Step σ} {offer' : Offer Entry} {store' : Store}
    {rest' : List (Offer Entry)}
    (hfirst : (step offer kept).answer store = (step' offer' kept).answer store')
    (hrest : ∀ next, (step offer kept).answer store = .ok (false, next) →
      (visit step rest next).answer ((step offer kept).after store) =
        (visit step' rest' next).answer ((step' offer' kept).after store')) :
    (visit step (offer :: rest) kept).answer store =
      (visit step' (offer' :: rest') kept).answer store' := by
  cases hanswer : (step offer kept).answer store with
  | error failure =>
    rw [Walk.answer, Walk.answer, visit_run_error hanswer,
      visit_run_error (hfirst.symm.trans hanswer)]
    rfl
  | ok result =>
    obtain ⟨stop, next⟩ := result
    have hanswer' := hfirst.symm.trans hanswer
    cases stop with
    | false => rw [answer_visit_next hanswer, answer_visit_next hanswer', hrest next hanswer]
    | true =>
      rw [Walk.answer, Walk.answer, visit_run_stop hanswer, visit_run_stop hanswer']
      rfl

end First

/-! ### Steps that let everything pass -/

/-- The step never stops the walk. -/
def NeverStops (step : Step σ) : Prop :=
  ∀ {offer : Offer Entry} {kept : σ} {store : Store} {result : Bool × σ},
    (step offer kept).answer store = .ok result → result.1 = false

/-- Then the visitor is called on all that is offered. -/
theorem NeverStops.calls_eq {step : Step σ} (never : NeverStops step)
    {offers : List (Offer Entry)} {kept : σ} {calls called : Calls Entry} {store : Store}
    {result : Bool × σ}
    (h : (follow step offers kept calls).answer store = .ok (result, called)) :
    called = calls ++ offers.map (·, false) := by
  induction offers generalizing kept calls store with
  | nil =>
    cases h
    rw [List.map_nil, List.append_nil]
  | cons offer rest ih =>
    obtain ⟨⟨stop, kept⟩, hstep, hrest⟩ := Walk.answer_bind_ok h
    obtain rfl : stop = false := never hstep
    rw [ih hrest, List.append_assoc, List.map_cons, List.singleton_append]

theorem NeverStops.answer_follow {step : Step σ} (never : NeverStops step)
    {offers : List (Offer Entry)} {kept : σ} (calls : Calls Entry) {store : Store}
    {result : Bool × σ} (h : (visit step offers kept).answer store = .ok result) :
    (follow step offers kept calls).answer store =
      .ok (result, calls ++ offers.map (·, false)) := by
  rw [visit_eq step offers kept calls, map_eq_pure_bind, Walk.answer_bind_pure] at h
  cases hfollow : (follow step offers kept calls).answer store with
  | error failure =>
    rw [hfollow] at h
    cases h
  | ok followed =>
    obtain ⟨found, called⟩ := followed
    rw [hfollow] at h
    cases h
    rw [never.calls_eq hfollow]

/-! ### Steady steps -/

section Steady

variable {step : Step σ} (steady : ∀ offer kept, (step offer kept).Steady)
include steady

theorem visit_steady (offers : List (Offer Entry)) (kept : σ) :
    (visit step offers kept).Steady := by
  induction offers generalizing kept with
  | nil => exact Walk.steady_pure _
  | cons offer rest ih =>
    rw [visit_cons]
    refine (steady offer kept).bind fun result => ?_
    obtain ⟨stop, kept⟩ := result
    cases stop with
    | true => exact Walk.steady_pure _
    | false => exact ih kept

end Steady

end Step

end ScopeWalk
