import ScopeWalk.Feed.VisibleFrom
import ScopeWalk.Proofs.Resolve.Queries

/-!
# Walks within a module

A walk can be kept to what is of use in a module. Every candidate is then asked for its element, and
those that pass are handed on with their elements known. As long as nothing breaks down, the visitor
could as well be given the list of what is left.
-/
namespace ScopeWalk

open Candidate

/-- The part of a feed that is of use in a module, or all of it if no module is given. -/
def Feed.within {m : Type → Type u} [Monad m] [MonadLiftT Walk m] (importer? : Option Module)
    (feed : Feed m Entry) : Feed m Entry :=
  importer?.elim feed (feed.visibleFrom ·)

/-- The declaration is worth offering in the module, if one is given. -/
def Decl.isOfferedWithin (importer? : Option Module) (decl : Decl) : Bool :=
  importer?.all decl.isOfferedIn

/-! ### Steps behind the filter -/

namespace Step

variable {σ : Type}

/-- The step on what is of use in a module. -/
def visibleFrom (importer : Module) (step : Step σ) : Step σ
  | .globBoundary, kept => step .globBoundary kept
  | .candidate entry, kept => do
    let (found, entry) ← entry.force
    if found.all (·.isOfferedIn importer) then step (.candidate entry) kept else pure (false, kept)

/-- The step on what is of use in a module, if one is given. -/
def within (importer? : Option Module) (step : Step σ) : Step σ :=
  importer?.elim step (visibleFrom · step)

section Visitors

variable {n : Type → Type} [Monad n] [LawfulMonad n] [MonadLiftT Walk n] [LawfulMonadLiftT Walk n]

theorem visitor_visibleFrom (importer : Module) (step : Step σ) :
    (visitor step n).visibleFrom importer = visitor (visibleFrom importer step) n := by
  funext offer kept
  cases offer with
  | globBoundary => rfl
  | candidate entry =>
    show StateT.run _ kept = liftM (visibleFrom importer step (.candidate entry) kept)
    simp only [visibleFrom, StateT.run_bind, StateT.run_monadLift, liftM_bind,
      bind_assoc, pure_bind]
    refine bind_congr fun asked => ?_
    obtain ⟨found, entry⟩ := asked
    cases found.all (·.isOfferedIn importer) with
    | true => rfl
    | false => simp

theorem within_visitor (importer? : Option Module) (step : Step σ)
    (feed : Feed (StateT σ n) Entry) :
    feed.within importer? (visitor step n) = feed (visitor (within importer? step) n) := by
  cases importer? with
  | none => rfl
  | some importer => exact congrArg feed (visitor_visibleFrom importer step)

end Visitors

theorem NeverStops.within {step : Step σ} (never : NeverStops step) (importer? : Option Module) :
    NeverStops (within importer? step) := by
  cases importer? with
  | none => exact never
  | some importer =>
    intro offer kept store result h
    cases offer with
    | globBoundary => exact never h
    | candidate entry =>
      obtain ⟨⟨found, settled⟩, -, hrest⟩ := Walk.answer_bind_ok h
      dsimp only at hrest
      split at hrest
      · exact never hrest
      · cases hrest
        rfl

theorem within_steady {step : Step σ} (steady : ∀ offer kept, (step offer kept).Steady)
    (importer? : Option Module) (offer : Offer Entry) (kept : σ) :
    (within importer? step offer kept).Steady := by
  cases importer? with
  | none => exact steady offer kept
  | some importer =>
    cases offer with
    | globBoundary => exact steady .globBoundary kept
    | candidate entry =>
      refine (LawfulCandidate.force_steady entry).bind fun (found, settled) => ?_
      dsimp only
      split
      · exact steady _ _
      · exact Walk.steady_pure _

end Step

/-! ### What is left of a walk -/

/-- What is left of an offer within a module. -/
def Offer.visible? (importer : Module) (store : Store) : Offer Entry → Option (Offer Entry)
  | .globBoundary => some .globBoundary
  | .candidate entry =>
    if (elementIn store entry).all (·.isOfferedIn importer) then
      some (.candidate (settledIn store entry))
    else none

/-- What is left of some offers within a module, if one is given. -/
def offersWithin (importer? : Option Module) (store : Store) (offers : List (Offer Entry)) :
    List (Offer Entry) :=
  importer?.elim offers fun importer => offers.filterMap (Offer.visible? importer store)

theorem offersWithin_cons_candidate (importer : Module) (store : Store) (entry : Entry)
    (rest : List (Offer Entry)) :
    offersWithin (some importer) store (.candidate entry :: rest) =
      if (elementIn store entry).all (·.isOfferedIn importer) then
        .candidate (settledIn store entry) :: offersWithin (some importer) store rest
      else offersWithin (some importer) store rest := by
  simp only [offersWithin, Option.elim_some, List.filterMap_cons, Offer.visible?]
  cases (elementIn store entry).all (·.isOfferedIn importer) <;> rfl

theorem offersWithin_congr {store other : Store} (h : store.SameRoots other)
    (importer? : Option Module) : offersWithin importer? store = offersWithin importer? other := by
  have hvisible (importer : Module) :
      Offer.visible? importer store = Offer.visible? importer other := by
    funext offer
    cases offer with
    | globBoundary => rfl
    | candidate entry =>
      simp only [Offer.visible?, elementIn_congr h, settledIn_congr h]
  funext offers
  cases importer? with
  | none => rfl
  | some importer => simp only [offersWithin, Option.elim_some, hvisible]

section Left

variable {store : Store} {offers : List (Offer Entry)}

variable (importer? : Option Module)
  (unbroken : ∀ entry ∈ candidatesOf offers, failureIn? store entry = none)

/-- What holds of a candidate when its element is known holds of it before. -/
theorem filterMap_candidatesOf_offersWithin {f : Entry → Option β}
    (hf : ∀ entry ∈ candidatesOf offers, f (settledIn store entry) = f entry) :
    (candidatesOf (offersWithin importer? store offers)).filterMap f =
      (candidatesOf offers).filterMap fun entry =>
        if (elementIn store entry).all (·.isOfferedWithin importer?) then f entry else none := by
  cases importer? with
  | none =>
    have hall (found : Option Element) : found.all (·.isOfferedWithin none) = true := by
      cases found <;> rfl
    simp only [hall, if_true]
    rfl
  | some importer =>
    induction offers with
    | nil => rfl
    | cons offer rest ih =>
      cases offer with
      | globBoundary => exact ih hf
      | candidate entry =>
        obtain ⟨hentry, hrest⟩ := List.forall_mem_cons.mp hf
        have hwithin : (elementIn store entry).all (·.isOfferedWithin (some importer)) =
            (elementIn store entry).all (·.isOfferedIn importer) := rfl
        rw [offersWithin_cons_candidate, candidatesOf_candidate, List.filterMap_cons, hwithin]
        cases (elementIn store entry).all (·.isOfferedIn importer) with
        | false => exact ih hrest
        | true =>
          rw [if_pos rfl, if_pos rfl, candidatesOf_candidate, List.filterMap_cons, hentry]
          rw [ih hrest]

include unbroken

theorem unbroken_offersWithin :
    ∀ entry ∈ candidatesOf (offersWithin importer? store offers), failureIn? store entry = none := by
  cases importer? with
  | none => exact unbroken
  | some importer =>
    intro entry hentry
    obtain ⟨offer, hoffer, hcandidate⟩ := List.mem_filterMap.mp hentry
    obtain ⟨original, horiginal, hvisible⟩ := List.mem_filterMap.mp hoffer
    cases original with
    | globBoundary =>
      cases hvisible
      cases hcandidate
    | candidate original =>
      have hunbroken := unbroken original (List.mem_filterMap.mpr ⟨_, horiginal, rfl⟩)
      rw [Offer.visible?, Option.ite_none_right_eq_some] at hvisible
      obtain ⟨-, hsettled⟩ := hvisible
      cases hsettled
      cases hcandidate
      exact failureIn?_settledIn hunbroken

end Left

/-! ### A walk within a module -/

namespace Step

section Asking

variable {σ : Type} (importer : Module) (step : Step σ) {entry : Entry} (kept : σ) {store : Store}
  (unbroken : failureIn? store entry = none)
include unbroken

/-- A candidate that does not break down is asked for its element. If it passes, the step is taken
on the candidate as it is then. -/
theorem within_run :
    (within (some importer) step (.candidate entry) kept).run.run store =
      (if (elementIn store entry).all (·.isOfferedIn importer) then
        step (.candidate (settledIn store entry)) kept
      else pure (false, kept)).run.run (entry.force.after store) :=
  Walk.run_bind_ok _ (answer_force_of_unbroken unbroken)

theorem sameRoots_force : store.SameRoots (entry.force.after store) :=
  (LawfulCandidate.force_steady entry).sameRoots (answer_force_of_unbroken unbroken)

/-- A candidate that does not pass is asked for its element, and that is all. -/
theorem within_run_of_hidden
    (hidden : (elementIn store entry).all (·.isOfferedIn importer) = false) :
    (within (some importer) step (.candidate entry) kept).run.run store =
      (.ok (false, kept), entry.force.after store) := by
  rw [within_run importer step kept unbroken, hidden, if_neg Bool.false_ne_true]
  rfl

/-- On a candidate that passes the step answers what it would on the candidate as it is then. -/
theorem answer_within_of_offered
    (steady : (step (.candidate (settledIn store entry)) kept).Steady)
    (offered : (elementIn store entry).all (·.isOfferedIn importer) = true) :
    (within (some importer) step (.candidate entry) kept).answer store =
      (step (.candidate (settledIn store entry)) kept).answer store := by
  have hrun := within_run importer step kept unbroken
  rw [offered, if_pos rfl] at hrun
  exact (congrArg Prod.fst hrun).trans (steady.answer_congr (sameRoots_force unbroken)).symm

end Asking

variable {σ : Type} {step : Step σ} (steady : ∀ offer kept, (step offer kept).Steady)
include steady

/-- A visitor that is kept to what is of use in a module gets to know of a walk what it would get to
know of the offers that are left. The induction is on the offers. -/
theorem answer_visit_within (importer? : Option Module) (offers : List (Offer Entry)) (kept : σ)
    (store : Store) (unbroken : ∀ entry ∈ candidatesOf offers, failureIn? store entry = none) :
    (visit (within importer? step) offers kept).answer store =
      (visit step (offersWithin importer? store offers) kept).answer store := by
  cases importer? with
  | none => rfl
  | some importer =>
    induction offers generalizing kept store with
    | nil => rfl
    | cons offer rest ih =>
      -- what is left of the rest is the same after the first offer as before
      have hlater {first second : Store} (kept : σ) (hfirst : store.SameRoots first)
          (hsecond : store.SameRoots second)
          (unbroken : ∀ entry ∈ candidatesOf rest, failureIn? store entry = none) :
          (visit (within (some importer) step) rest kept).answer first =
            (visit step (offersWithin (some importer) store rest) kept).answer second := by
        simp only [failureIn?_congr hfirst] at unbroken
        rw [ih kept first unbroken, offersWithin_congr hfirst]
        exact (visit_steady steady _ kept).answer_congr (hfirst.symm.trans hsecond)
      cases offer with
      | globBoundary =>
        refine answer_visit_congr rfl fun next hnext => ?_
        have hroots := (steady .globBoundary kept).sameRoots hnext
        exact hlater next hroots hroots unbroken
      | candidate entry =>
        obtain ⟨hentry, hrest⟩ := List.forall_mem_cons.mp unbroken
        rw [offersWithin_cons_candidate]
        cases hoffered : (elementIn store entry).all (·.isOfferedIn importer) with
        | false =>
          have hrun := within_run_of_hidden importer step kept hentry hoffered
          rw [answer_visit_next (congrArg Prod.fst hrun), Walk.after, hrun]
          exact hlater kept (sameRoots_force hentry) (.refl store) hrest
        | true =>
          have hsteady := steady (.candidate (settledIn store entry)) kept
          have hfirst := answer_within_of_offered importer step kept hentry hsteady hoffered
          refine answer_visit_congr hfirst fun next hnext => ?_
          have hwithin := (within_steady steady (some importer) _ kept).sameRoots hnext
          exact hlater next hwithin (hsteady.sameRoots (hfirst.symm.trans hnext)) hrest

end Step

/-! ### Drivers within a module -/

namespace Query

variable {σ : Type} (query : Query σ) (importer? : Option Module) (offers : List (Offer Entry))

theorem run_within : query.run Walk ((Feed.ofList offers).within importer?) =
    Prod.snd <$> Step.visit (Step.within importer? query.step) offers query.start := by
  rw [run_eq, visitor_eq, Step.within_visitor, map_eq_pure_bind]
  rfl

theorem traced_run_within :
    (query.run (StateT (Calls Entry) Walk) ((Feed.ofList offers).traced.within importer?)).run [] =
      (fun followed => (followed.1.2, followed.2)) <$>
        Step.follow (Step.within importer? query.step) offers query.start [] := by
  rw [run_eq, visitor_eq, Step.within_visitor, StateT.run_bind, Step.ofList_traced_visitor_run,
    map_eq_pure_bind]
  rfl

section Steady

variable (steady : ∀ offer kept, (query.step offer kept).Steady)
include steady

theorem run_within_steady : (query.run Walk ((Feed.ofList offers).within importer?)).Steady := by
  rw [run_within]
  exact (Step.visit_steady (Step.within_steady steady importer?) offers query.start).map _

/-- A driver within a module answers what it would answer on the offers that are left there. -/
theorem answer_run_within {store : Store}
    (unbroken : ∀ entry ∈ candidatesOf offers, failureIn? store entry = none) :
    (query.run Walk ((Feed.ofList offers).within importer?)).answer store =
      (query.run Walk (Feed.ofList (offersWithin importer? store offers))).answer store := by
  have hwhole : query.run Walk (Feed.ofList (offersWithin importer? store offers)) =
      Prod.snd <$> Step.visit query.step (offersWithin importer? store offers) query.start :=
    query.run_within none _
  rw [run_within, hwhole, map_eq_pure_bind, map_eq_pure_bind, Walk.answer_bind_pure,
    Walk.answer_bind_pure,
    Step.answer_visit_within steady importer? offers query.start store unbroken]

end Steady

end Query

end ScopeWalk
