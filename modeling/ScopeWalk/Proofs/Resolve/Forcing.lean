import Mathlib.Data.List.Forall2
import ScopeWalk.Proofs.Candidate.Asking
import ScopeWalk.Proofs.Resolve.Picking

/-!
# Which candidates are asked

A driver that resolves a name asks only the candidates that bear it, each when it is handed the
candidate. So all that it does to the store, breakdowns included, is what running the computations
behind these candidates does, one after another and each once. Candidates with other names could as
well be others.
-/
namespace ScopeWalk

open Candidate

/-! ### What a driver asks for -/

theorem judge_effect (name : Name) (entry : Entry) :
    (judge name entry).effect =
      if entry.name = name then entry.force.effect else pure () := by
  have hentry : Candidate.name entry = entry.name := rfl
  unfold judge
  rw [hentry]
  by_cases hname : entry.name = name
  · rw [if_pos hname, hname, bne_self_eq_false, if_neg Bool.false_ne_true]
    exact Walk.effect_bind_pure _ _
  · rw [if_neg hname, if_pos (bne_iff_ne.mpr hname)]
    rfl

namespace Query

variable {σ : Type}

/-- The name that is resolved, if one is. -/
def name? : Query σ → Option Name
  | .collect name => some name
  | .collectBound name => some name
  | .collectEntries name => some name
  | .pickFirst name => some name
  | .suggest _ _ _ => none
  | .custom _ _ _ => none

/-- No driver of this library asks that. -/
def isCustom : Query σ → Bool
  | .custom _ _ _ => true
  | _ => false

variable (query : Query σ)

/-- The driver asks the candidate for its element when it is handed it. -/
def asks (entry : Entry) : Bool := query.name?.all (entry.name = ·)

/-- The computations that the driver runs when it is handed these offers. -/
def thunks (offers : List (Offer Entry)) : List Thunk :=
  ((candidatesOf offers).filter query.asks).filterMap Entry.thunk?

theorem thunks_append (first second : List (Offer Entry)) :
    query.thunks (first ++ second) = query.thunks first ++ query.thunks second := by
  rw [thunks, candidatesOf_append, List.filter_append, List.filterMap_append]
  rfl

theorem isCustom_of_name {name : Name} (h : query.name? = some name) : query.isCustom = false := by
  cases query with
  | custom => cases h
  | _ => rfl

theorem asks_of_name {name : Name} (h : query.name? = some name) :
    query.asks = fun entry => decide (entry.name = name) := by
  funext entry
  rw [asks, h, Option.all_some]

theorem thunks_candidate (entry : Entry) : query.thunks [.candidate entry] =
    if query.asks entry then entry.thunk?.toList else [] := by
  rw [thunks, candidatesOf_candidate, candidatesOf_nil, List.filter_cons]
  cases query.asks entry with
  | true => cases hthunk : entry.thunk? <;> simp [hthunk]
  | false => rfl

/-- At most one computation is run for an offer. -/
theorem exists_thunks_singleton (offer : Offer Entry) :
    ∃ thunk : Option Thunk, query.thunks [offer] = thunk.toList := by
  cases offer with
  | globBoundary => exact ⟨none, rfl⟩
  | candidate entry =>
    rw [thunks_candidate]
    cases query.asks entry with
    | true => exact ⟨entry.thunk?, rfl⟩
    | false => exact ⟨none, rfl⟩

theorem exists_thunks_eq (handed : List (Offer Entry)) :
    ∃ last : Option Thunk, query.thunks handed = query.thunks handed.dropLast ++ last.toList := by
  rcases List.eq_nil_or_concat handed with rfl | ⟨before, offer, rfl⟩
  · exact ⟨none, rfl⟩
  · obtain ⟨last, hlast⟩ := query.exists_thunks_singleton offer
    refine ⟨last, ?_⟩
    rw [List.concat_eq_append, thunks_append, hlast, List.dropLast_concat]

theorem runAll_thunks_candidate (entry : Entry) :
    Thunk.runAll (query.thunks [.candidate entry]) =
      if query.asks entry then entry.force.effect else pure () := by
  rw [thunks_candidate, Entry.force_effect]
  cases query.asks entry <;> rfl

theorem exists_step_boundary (h : query.isCustom = false) (kept : σ) :
    ∃ result, query.step .globBoundary kept = pure result := by
  cases query with
  | custom => cases h
  | _ => exact ⟨_, rfl⟩

/-- A driver that resolves a name judges each candidate, and goes by that alone. -/
theorem exists_step_candidate {name : Name} (h : query.name? = some name) :
    ∃ respond : σ → Option (Entry × Element) → Bool × σ,
      ∀ entry kept, query.step (.candidate entry) kept = respond kept <$> judge name entry := by
  cases query with
  | suggest => cases h
  | custom => cases h
  | _ =>
    cases h
    exact ⟨_, fun _ _ => rfl⟩

theorem step_effect (h : query.isCustom = false) (offer : Offer Entry) (kept : σ) :
    (query.step offer kept).effect = Thunk.runAll (query.thunks [offer]) := by
  cases offer with
  | globBoundary =>
    obtain ⟨result, hresult⟩ := query.exists_step_boundary h kept
    rw [hresult]
    rfl
  | candidate entry =>
    rw [runAll_thunks_candidate]
    cases hname : query.name? with
    | some name =>
      obtain ⟨respond, hrespond⟩ := query.exists_step_candidate hname
      rw [hrespond, Walk.effect_map, judge_effect, query.asks_of_name hname]
      simp only [decide_eq_true_eq]
    | none =>
      cases query with
      | suggest add start site => exact Walk.effect_map _ _
      | custom => cases h
      | _ => cases hname

/-! ### What a driver does -/

variable (h : query.isCustom = false)
include h

theorem runAll_thunks_run (offer : Offer Entry) (kept : σ) (store : Store) :
    (Thunk.runAll (query.thunks [offer])).run.run store =
      pure (((query.step offer kept).answer store).map fun _ => (),
        (query.step offer kept).after store) := by
  rw [← query.step_effect h offer kept]
  exact Walk.effect_of_run rfl

theorem runAll_thunks_cons_run {offer : Offer Entry} {kept kept' : σ} {store : Store}
    (hstep : (query.step offer kept).answer store = .ok (false, kept'))
    (handed : List (Offer Entry)) :
    (Thunk.runAll (query.thunks (offer :: handed))).run.run store =
      (Thunk.runAll (query.thunks handed)).run.run ((query.step offer kept).after store) := by
  have hfirst := query.runAll_thunks_run h offer kept store
  rw [hstep] at hfirst
  have hanswer : (Thunk.runAll (query.thunks [offer])).answer store = .ok () :=
    congrArg Prod.fst hfirst
  have hafter : (Thunk.runAll (query.thunks [offer])).after store =
      (query.step offer kept).after store := congrArg Prod.snd hfirst
  rw [← List.singleton_append, thunks_append, Thunk.runAll_append, Walk.run_bind_ok _ hanswer,
    hafter]

/-- A driver does what the computations behind the candidates do that it asks. The induction is on
the offers. -/
theorem visit_effect (offers : List (Offer Entry)) (kept : σ) (store : Store) :
    (query.visit offers kept).effect.run.run store =
      (Thunk.runAll (query.thunks (query.reach offers kept store))).run.run store := by
  rw [visit_eq]
  induction offers generalizing kept store with
  | nil => rfl
  | cons offer rest ih =>
    have hfirst := query.runAll_thunks_run h offer kept store
    cases hanswer : (query.step offer kept).answer store with
    | error failure =>
      rw [query.reach_error hanswer, hfirst, Walk.effect_of_run (Step.visit_run_error hanswer),
        hanswer]
    | ok result =>
      obtain ⟨stop, next⟩ := result
      cases stop with
      | true =>
        rw [query.reach_stop hanswer, hfirst, Walk.effect_of_run (Step.visit_run_stop hanswer),
          hanswer]
      | false =>
        rw [query.reach_next hanswer, query.runAll_thunks_cons_run h hanswer, ← ih,
          Walk.effect_of_run (Step.visit_run_next hanswer)]
        exact (Walk.effect_of_run rfl).symm

/-- If anything breaks down, it is at the last offer that the driver is handed. -/
theorem answer_runAll_dropLast (offers : List (Offer Entry)) (kept : σ) (store : Store) :
    (Thunk.runAll (query.thunks (query.reach offers kept store).dropLast)).answer store =
      .ok () := by
  induction offers generalizing kept store with
  | nil => rfl
  | cons offer rest ih =>
    cases hanswer : (query.step offer kept).answer store with
    | error failure =>
      rw [query.reach_error hanswer]
      rfl
    | ok result =>
      obtain ⟨stop, next⟩ := result
      cases stop with
      | true =>
        rw [query.reach_stop hanswer]
        rfl
      | false =>
        have hrest := ih next ((query.step offer kept).after store)
        rw [query.reach_next hanswer]
        cases hreach : query.reach rest next ((query.step offer kept).after store) with
        | nil => rfl
        | cons second others =>
          rw [hreach] at hrest
          have hrun := query.runAll_thunks_cons_run h hanswer (second :: others).dropLast
          exact (congrArg Prod.fst hrun).trans hrest

/-- Each computation that is run makes its notes once. -/
theorem visit_notes (offers : List (Offer Entry)) (kept : σ) (store : Store) :
    ((query.visit offers kept).after store).notes =
      store.notes ++ (query.thunks (query.reach offers kept store)).flatMap Thunk.notes := by
  have hafter := congrArg Prod.snd (query.visit_effect h offers kept store)
  obtain ⟨last, hlast⟩ := query.exists_thunks_eq (query.reach offers kept store)
  have hnotes := Thunk.notes_runAll (query.answer_runAll_dropLast h offers kept store) last
  rw [← hlast] at hnotes
  rw [← hnotes, ← Walk.after_effect]
  exact congrArg Store.notes hafter

end Query

/-! ### Candidates with other names -/

/-- The candidates with a name among some offers. -/
def namesakesOf (name : Name) (offers : List (Offer Entry)) : List Entry :=
  (candidatesOf offers).filter (·.name = name)

/-- It makes no difference for a name which of the two is offered. -/
inductive Offer.SameFor (name : Name) : Offer Entry → Offer Entry → Prop where
  | same (offer : Offer Entry) : SameFor name offer offer
  | others {entry other : Entry} :
      entry.name ≠ name → other.name ≠ name → SameFor name (.candidate entry) (.candidate other)

theorem judge_of_ne {name : Name} {entry : Entry} (h : entry.name ≠ name) :
    judge name entry = pure none := by
  have hentry : Candidate.name entry = entry.name := rfl
  rw [judge, hentry, if_pos (bne_iff_ne.mpr h)]

namespace Query

variable {σ : Type} (query : Query σ) {name : Name} (h : query.name? = some name)
include h

theorem step_eq_of_sameFor {offer other : Offer Entry} (hsame : offer.SameFor name other) :
    query.step offer = query.step other := by
  cases hsame with
  | same => rfl
  | others hentry hother =>
    obtain ⟨respond, hrespond⟩ := query.exists_step_candidate h
    funext kept
    rw [hrespond, hrespond, judge_of_ne hentry, judge_of_ne hother]

theorem visit_congr {offers others : List (Offer Entry)}
    (hsame : List.Forall₂ (Offer.SameFor name) offers others) (kept : σ) :
    query.visit offers kept = query.visit others kept := by
  rw [visit_eq, visit_eq]
  induction hsame generalizing kept with
  | nil => rfl
  | cons hoffer _ ih => simp only [Step.visit_cons, query.step_eq_of_sameFor h hoffer, ih]

theorem reach_congr {offers others : List (Offer Entry)}
    (hsame : List.Forall₂ (Offer.SameFor name) offers others) (kept : σ) (store : Store) :
    List.Forall₂ (Offer.SameFor name) (query.reach offers kept store)
      (query.reach others kept store) := by
  induction hsame generalizing kept store with
  | nil => exact .nil
  | @cons offer other _ _ hoffer _ ih =>
    rw [reach, reach, query.step_eq_of_sameFor h hoffer]
    refine .cons hoffer ?_
    cases (query.step other kept).answer store with
    | error failure => exact .nil
    | ok result =>
      obtain ⟨stop, next⟩ := result
      cases stop with
      | true => exact .nil
      | false => exact ih next _

end Query

/-! ### Asking again -/

/-- Collected candidates give the element again for which they were accepted, and nothing is done
for it. -/
theorem forall₂_of_collectEntries {ε : Type} [Candidate ε] [LawfulCandidate ε] {name : Name}
    {store : Store} {offers : List (Offer ε)} {entries : List ε}
    (h : (collectEntries (n := Walk) name (Feed.ofList offers)).answer store = .ok entries) :
    List.Forall₂ (fun entry hit => force entry = pure (some hit.2, entry)) entries
      (acceptedOf name store (candidatesOf (heard (isAccepted name store) false offers))) := by
  have hfinds := collectWith_finds name (fun (entry : ε) _ => entry) offers store
    (fun _ _ => Feed.ofList offers) fun _ _ _ _ => rfl
  have hanswer := hfinds.answer.symm.trans h
  generalize candidatesOf (heard (isAccepted name store) false offers) = candidates at hanswer ⊢
  unfold outcome at hanswer
  cases hfailure : failureOf? name store candidates with
  | some failure =>
    rw [hfailure] at hanswer
    cases hanswer
  | none =>
    rw [hfailure, Option.elim_none] at hanswer
    cases hanswer
    rw [List.forall₂_map_left_iff, List.forall₂_same]
    intro hit hhit
    obtain ⟨entry, hentry, haccepted⟩ := List.mem_filterMap.mp hhit
    have hunbroken := List.findSome?_eq_none_iff.mp hfailure entry hentry
    exact (settled_of_accepted haccepted hunbroken).2

/-- What a driver that resolves a name does to the store is what the computations behind those
candidates do that bear the name, were handed to the driver, and were not asked before: each of them
runs once, in order, and only the last may break down. If candidates with other names are replaced by
others, everything stays as it is. The candidates that are collected give their elements again
without anything being run, and picking is handed all offers up to the first candidate that is
accepted or breaks down. -/
theorem only_namesakes_asked (name : Name) (store : Store) :
    (∀ {σ : Type} (query : Query σ), query.name? = some name → ∀ offers : List (Offer Entry),
      let walk : Walk σ := query.run Walk (Feed.ofList offers)
      let record := query.record (fun _ _ => Feed.ofList offers) store
      let thunks (handed : List (Offer Entry)) := (namesakesOf name handed).filterMap Entry.thunk?
      record.handed <+: offers ∧
      walk.effect.run.run store = (Thunk.runAll (thunks record.handed)).run.run store ∧
      (Thunk.runAll (thunks record.handed.dropLast)).answer store = .ok () ∧
      (walk.after store).notes = store.notes ++ (thunks record.handed).flatMap Thunk.notes ∧
      ∀ others : List (Offer Entry), List.Forall₂ (Offer.SameFor name) offers others →
        let other := query.record (fun _ _ => Feed.ofList others) store
        (query.run Walk (Feed.ofList others)).run.run store = walk.run.run store ∧
        other.stopped? = record.stopped? ∧
        List.Forall₂ (Offer.SameFor name) record.handed other.handed) ∧
    (∀ (ε : Type) [Candidate ε] [LawfulCandidate ε] (offers : List (Offer ε)) (entries : List ε),
      (collectEntries (n := Walk) name (Feed.ofList offers)).answer store = .ok entries →
        List.Forall₂ (fun entry hit => force entry = pure (some hit.2, entry)) entries
          (acceptedOf name store (candidatesOf (heard (isAccepted name store) false offers)))) ∧
    ∀ offers : List (Offer Entry),
      ((Query.pickFirst name).record (fun _ _ => Feed.ofList offers) store).handed =
        offers.take (offers.findIdx (·.candidate?.any (Entry.endsPick name store)) + 1) := by
  refine ⟨fun query hname offers => ?_, fun ε _ _ offers entries => forall₂_of_collectEntries,
    fun offers => ?_⟩
  · have hcustom := query.isCustom_of_name hname
    have hthunks (handed : List (Offer Entry)) :
        (namesakesOf name handed).filterMap Entry.thunk? = query.thunks handed := by
      rw [Query.thunks, query.asks_of_name hname, namesakesOf]
    simp only [Query.record_ofList, hthunks, Query.run_eq_visit]
    refine ⟨query.reach_isPrefix offers query.start store, ?_,
      query.answer_runAll_dropLast hcustom offers query.start store, ?_, fun others hsame => ?_⟩
    · rw [Walk.effect_map]
      exact query.visit_effect hcustom offers query.start store
    · rw [map_eq_pure_bind, Walk.after_bind_pure]
      exact query.visit_notes hcustom offers query.start store
    · rw [query.visit_congr hname hsame]
      exact ⟨rfl, rfl, query.reach_congr hname hsame query.start store⟩
  · rw [Query.record_ofList, Query.reach_pickFirst]

/-- What bears another name is not asked, and what it is makes no difference. -/
theorem only_namesakes_asked_sample :
    let name : Name := ⟨"x"⟩
    let store : Store := ⟨.empty .plain, []⟩
    let query : Query (List Entry) := .collectEntries name
    let others : List (Offer Entry) :=
      sampleOffers.set 5 (.candidate (.deferred (.ofThunk ⟨"z"⟩ (.crateRoot ⟨0⟩) true)))
    query.name? = some name ∧ List.Forall₂ (Offer.SameFor name) sampleOffers others ∧
      (query.run Walk (Feed.ofList others)).run.run store =
        (query.run Walk (Feed.ofList sampleOffers)).run.run store ∧
      List.Forall₂ (fun (entry : Entry) element => entry.force = pure (some element, entry))
        [.ofElement name (sampleConst 0 []) .empty,
          .deferred ⟨name, .ready (some (sampleConst 0 [])), false⟩]
        [sampleConst 0 [], sampleConst 0 []] := by
  intro name store query others
  have hdiffers : (⟨"y"⟩ : Name) ≠ name ∧ (⟨"z"⟩ : Name) ≠ name := by decide
  have hsame : List.Forall₂ (Offer.SameFor name) sampleOffers others :=
    .cons (.same _) <| .cons (.same _) <| .cons (.same _) <| .cons (.same _) <| .cons (.same _) <|
      .cons (.others hdiffers.1 hdiffers.2) <| .cons (.same _) <| .cons (.same _) <|
      .cons (.same _) <| .cons (.same _) .nil
  have hasked := only_namesakes_asked name store
  obtain ⟨-, -, -, -, hothers⟩ := hasked.1 query rfl sampleOffers
  have hentries := hasked.2.1 Entry sampleOffers _ (by rfl)
  have hread : List.Forall₂ (fun (entry : Entry) element => entry.force = pure (some element, entry))
      _ (List.map Prod.snd _) := List.forall₂_map_right_iff.mpr hentries
  exact ⟨rfl, hsame, (hothers others hsame).1, hread⟩

end ScopeWalk
