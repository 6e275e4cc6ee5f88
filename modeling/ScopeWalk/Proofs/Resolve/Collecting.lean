import ScopeWalk.Proofs.Resolve.Cut
import ScopeWalk.Proofs.Resolve.Judging
import ScopeWalk.Resolve

/-!
# What is collected

A driver that collects keeps the accepted candidates it is offered, and stops the walk at the
first boundary that comes when it has kept something. Its visitor's answers depend on what was
kept, so a run is followed with its calls written down: at every moment something was kept just
if something accepted was offered, and so the run ends at the cut.
-/
namespace ScopeWalk

open Candidate

variable {ε β : Type} [Candidate ε]

/-! ### One offer after another -/

/-- The collector on a list of offers, with its calls written down. Something may have been kept
before, and some calls made. -/
def collecting (name : Name) (keep : ε → Element → β) (offers : List (Offer ε)) (kept : List β)
    (calls : Calls ε) : Walk ((Bool × List β) × Calls ε) :=
  (((Feed.ofList (m := StateT (List β) (StateT (Calls ε) Walk)) offers).traced
    (collector name keep)).run kept).run calls

section Steps

variable (name : Name) (keep : ε → Element → β) (rest : List (Offer ε)) (kept : List β)
  (calls : Calls ε)

theorem collector_boundary {n : Type → Type} [Monad n] [LawfulMonad n] [MonadLiftT Walk n] :
    (collector (n := n) name keep .globBoundary).run kept = pure (!kept.isEmpty, kept) := by
  simp [collector]

theorem collector_candidate {n : Type → Type} [Monad n] [LawfulMonad n] [MonadLiftT Walk n]
    [LawfulMonadLiftT Walk n] (entry : ε) :
    (collector (n := n) name keep (.candidate entry)).run kept = do
      let accepted ← (judge name entry : Walk _)
      return (false, kept ++ accepted.toList.map fun hit => keep hit.1 hit.2) := by
  unfold collector judge
  by_cases hname : Candidate.name entry = name
  · simp only [hname, bne_self_eq_false, Bool.false_eq_true, ↓reduceIte, bind_pure_comp,
      StateT.run_bind, StateT.run_monadLift, bind_map_left, liftM_map, Functor.map_map]
    rw [map_eq_pure_bind]
    refine bind_congr fun asked => ?_
    obtain ⟨found, entry⟩ := asked
    cases found with
    | none => simp
    | some element => cases helement : element.isEnabled <;> simp [helement, Option.filter]
  · simp [hname]

theorem traced_collector (offer : Offer ε) :
    (((collector (n := StateT (Calls ε) Walk) name keep).traced offer).run kept).run calls = do
      let result ← (collector (n := Walk) name keep offer).run kept
      return (result, calls ++ [(offer, result.1)]) := by
  have hwrite (stop : Bool) (kept : List β) (calls : Calls ε) :
      ((modifyThe (Calls ε) (· ++ [(offer, stop)]) :
        StateT (List β) (StateT (Calls ε) Walk) PUnit).run kept).run calls =
        pure ((⟨⟩, kept), calls ++ [(offer, stop)]) := rfl
  simp only [Visitor.traced, StateT.run_bind, hwrite]
  cases offer with
  | globBoundary => simp [collector_boundary]
  | candidate entry => simp [collector_candidate]

theorem collecting_cons (offer : Offer ε) :
    collecting name keep (offer :: rest) kept calls = (do
      let result ← (collector (n := Walk) name keep offer).run kept
      if result.1 then return (result, calls ++ [(offer, true)])
      collecting name keep rest result.2 (calls ++ [(offer, false)])) := by
  simp only [collecting, Feed.traced, Feed.ofList_cons, StateT.run_bind, traced_collector,
    bind_assoc, pure_bind]
  refine bind_congr fun result => ?_
  obtain ⟨stop, kept⟩ := result
  cases stop <;> simp

theorem collecting_nil : collecting name keep [] kept calls = pure ((false, kept), calls) := by
  simp [collecting, Feed.traced]

theorem collecting_boundary : collecting name keep (.globBoundary :: rest) kept calls =
    if kept.isEmpty then collecting name keep rest kept (calls ++ [(.globBoundary, false)])
    else pure ((true, kept), calls ++ [(.globBoundary, true)]) := by
  rw [collecting_cons, collector_boundary, pure_bind]
  cases kept.isEmpty <;> rfl

theorem collecting_candidate (entry : ε) :
    collecting name keep (.candidate entry :: rest) kept calls = (do
      let accepted ← judge name entry
      collecting name keep rest (kept ++ accepted.toList.map fun hit => keep hit.1 hit.2)
        (calls ++ [(.candidate entry, false)])) := by
  rw [collecting_cons, collector_candidate, bind_assoc]
  rfl

/-- Writing the calls down changes nothing. -/
theorem ofList_collector_run (offers : List (Offer ε)) :
    (Feed.ofList (m := StateT (List β) Walk) offers (collector name keep)).run kept =
      Prod.fst <$> collecting name keep offers kept calls := by
  induction offers generalizing kept calls with
  | nil => simp [collecting_nil]
  | cons offer rest ih =>
    rw [Feed.ofList_cons, StateT.run_bind, collecting_cons, map_bind]
    refine bind_congr fun result => ?_
    obtain ⟨stop, kept⟩ := result
    cases stop with
    | true => simp
    | false => exact ih kept (calls ++ [(offer, false)])

end Steps

/-! ### A whole run -/

section Runs

variable [LawfulCandidate ε] (name : Name) (keep : ε → Element → β) (offers : List (Offer ε))
  (store : Store)

/-- A run judges the candidates before the cut and stops there. The induction is on the offers;
whether something was kept tells whether something was accepted before. -/
theorem collecting_run (kept : List β) (calls : Calls ε) :
    (collecting name keep offers kept calls).run.run store =
      (do
        let found ← search name
          (candidatesOf (heard (isAccepted name store) (!kept.isEmpty) offers))
        return (((cut? (isAccepted name store) (!kept.isEmpty) offers).isSome,
            kept ++ found.map fun hit => keep hit.1 hit.2),
          calls ++ callsUpToCut (isAccepted name store) (!kept.isEmpty) offers) :
        Walk _).run.run store := by
  induction offers generalizing kept calls store with
  | nil =>
    rw [collecting_nil, heard_nil, callsUpToCut_nil, cut?_nil, candidatesOf_nil, search, pure_bind]
    simp
  | cons offer rest ih =>
    cases offer with
    | globBoundary =>
      rw [collecting_boundary, heard_boundary, callsUpToCut_boundary, cut?_boundary]
      cases hkept : kept.isEmpty with
      | true =>
        have hrest := ih store kept (calls ++ [(.globBoundary, false)])
        simp only [hkept, List.append_assoc, List.singleton_append, Bool.not_true,
          Bool.false_eq_true, if_false, if_true, Option.isSome_map, candidatesOf_boundary]
          at hrest ⊢
        exact hrest
      | false => simp [search]
    | candidate entry =>
      have hjudge := answer_judge name store entry
      rw [collecting_candidate, heard_candidate, callsUpToCut_candidate, cut?_candidate,
        candidatesOf_candidate, search]
      simp only [bind_assoc, pure_bind, Option.isSome_map]
      cases hfailure : failure? name store entry with
      | some failure =>
        rw [hfailure, Option.elim_some] at hjudge
        rw [Walk.run_bind_error _ hjudge, Walk.run_bind_error _ hjudge]
      | none =>
        rw [hfailure, Option.elim_none] at hjudge
        have hroots := (judge_steady name entry).sameRoots hjudge
        rw [Walk.run_bind_ok _ hjudge, Walk.run_bind_ok _ hjudge, ih]
        have harmed (hits : Option (ε × Element)) :
            (!(kept ++ hits.toList.map fun hit => keep hit.1 hit.2).isEmpty) =
              (!kept.isEmpty || hits.isSome) := by
          cases hits <;> simp
        rw [harmed, Option.isSome_map, ← isAccepted_congr hroots]
        simp [isAccepted]

end Runs

/-! ### Drivers -/

/-- Makes a list of what a walk offers, in any monad that can read crate roots. -/
abbrev Driver (ε β : Type) :=
  ∀ (n : Type → Type) [Monad n] [MonadLiftT Walk n], Feed (StateT (List β) n) ε → n (List β)

/-- What a driver makes of a walk that starts from a store, and the calls of the driver's visitor
if nothing breaks down. -/
structure Driver.Finds (driver : Driver ε β) (producer : Producer ε) (store : Store)
    (result : Except Failure (List β)) (calls : Calls ε) : Prop where
  answer : (driver Walk (producer _)).answer store = result
  traced : ((driver (StateT (Calls ε) Walk) (producer _).traced).run []).answer store =
    result.map (·, calls)

section Drivers

variable [LawfulCandidate ε] (name : Name) (keep : ε → Element → β) (offers : List (Offer ε))
  (store : Store)

theorem collectWith_traced_run :
    ((collectWith (n := StateT (Calls ε) Walk) name keep (Feed.ofList offers).traced).run
        []).run.run store =
      (do
        let found ← search name (candidatesOf (heard (isAccepted name store) false offers))
        return (found.map fun hit => keep hit.1 hit.2,
          callsUpToCut (isAccepted name store) false offers) : Walk _).run.run store := by
  have hrun := Walk.run_bind_congr (fun result => pure (result.1.2, result.2))
    (collecting_run name keep offers store [] [])
  simp only [bind_assoc, pure_bind, List.nil_append] at hrun
  simp only [collectWith, StateT.run_bind, StateT.run_pure]
  exact hrun

theorem collectWith_run :
    (collectWith (n := Walk) name keep (Feed.ofList offers)).run.run store =
      (do
        let found ← search name (candidatesOf (heard (isAccepted name store) false offers))
        return found.map fun hit => keep hit.1 hit.2 : Walk _).run.run store := by
  have hrun := Walk.run_bind_congr (fun result => pure result.1.2)
    (collecting_run name keep offers store [] [])
  simp only [bind_assoc, pure_bind, List.nil_append] at hrun
  simp only [collectWith, ofList_collector_run name keep [] [], map_eq_pure_bind, bind_assoc,
    pure_bind]
  exact hrun

/-- Collecting is as if only the candidates before the cut had been there. It leaves the same
store behind, too. -/
theorem collectWith_candidates_run :
    (collectWith (n := Walk) name keep (Feed.ofList offers)).run.run store =
      (collectWith (n := Walk) name keep (Feed.entries (candidatesOf
        (heard (isAccepted name store) false offers)))).run.run store := by
  rw [Feed.entries, collectWith_run, collectWith_run, candidatesOf_heard_map_candidate]

/-- Collecting gives the accepted candidates before the cut in the form that `keep` gives them,
unless a candidate that is judged breaks down. -/
theorem collectWith_finds (producer : Producer ε)
    (h : ∀ (m : Type → Type) [Monad m] [LawfulMonad m] (visit : Visitor m ε),
      producer m visit = Feed.ofList offers visit) :
    let entries := candidatesOf (heard (isAccepted name store) false offers)
    Driver.Finds (fun _ _ _ => collectWith name keep) producer store
      (outcome name store entries
        ((acceptedOf name store entries).map fun hit => keep (settledIn store hit.1) hit.2))
      (callsUpToCut (isAccepted name store) false offers) := by
  intro entries
  have hplain : producer (StateT (List β) Walk) = Feed.ofList offers := funext (h _)
  have htraced : producer (StateT (List β) (StateT (Calls ε) Walk)) = Feed.ofList offers :=
    funext (h _)
  have hsettle : ((acceptedOf name store entries).map (settle store)).map
      (fun hit => keep hit.1 hit.2) =
      (acceptedOf name store entries).map fun hit => keep (settledIn store hit.1) hit.2 :=
    List.map_map
  constructor
  · have hrun := Walk.answer_of_run (collectWith_run name keep offers store)
    rw [answer_search_bind_pure, hsettle] at hrun
    rw [hplain, hrun]
  · have hrun := Walk.answer_of_run (collectWith_traced_run name keep offers store)
    rw [answer_search_bind_pure, hsettle] at hrun
    rw [htraced, hrun, outcome_map]

theorem collectWith_finds_unbroken
    (unbroken : ∀ entry ∈ candidatesOf offers, failure? name store entry = none) :
    Driver.Finds (fun _ _ _ => collectWith name keep) (fun _ _ => Feed.ofList offers) store
      (.ok ((acceptedOf name store (candidatesOf (heard (isAccepted name store) false offers))).map
        fun hit => keep (settledIn store hit.1) hit.2))
      (callsUpToCut (isAccepted name store) false offers) := by
  have hunbroken : failureOf? name store
      (candidatesOf (heard (isAccepted name store) false offers)) = none :=
    List.findSome?_eq_none_iff.mpr fun entry hentry =>
      unbroken entry (candidatesOf_heard_subset _ _ offers hentry)
  have hfinds := collectWith_finds name keep offers store (fun _ _ => Feed.ofList offers)
    fun _ _ _ _ => rfl
  simp only [outcome, hunbroken, Option.elim_none] at hfinds
  exact hfinds

/-- Of candidates whose element is known from the start, those are found that bear the name and are
in the build. -/
theorem answer_collectWith_known {candidate : α → ε} {element : α → Element}
    (hforce : ∀ a, force (candidate a) = pure (some (element a), candidate a)) (list : List α) :
    (collectWith (n := Walk) name keep (Feed.entries (list.map candidate))).answer store =
      .ok ((list.filter fun a =>
          Candidate.name (candidate a) = name && (element a).isEnabled).map fun a =>
        keep (candidate a) (element a)) := by
  have hanswer (a : α) :
      (force (candidate a)).answer store = .ok (some (element a), candidate a) := by
    rw [hforce]
    rfl
  have hfailure (a : α) : failure? name store (candidate a) = none := by
    simp [failure?, failureIn?, hanswer]
  have hsettled (a : α) : settledIn store (candidate a) = candidate a := by
    simp [settledIn, hanswer]
  have haccepted : (fun a => (accepted? name store (candidate a)).map fun hit =>
      keep (settledIn store hit.1) hit.2) = fun a =>
        (Option.guard (fun a => Candidate.name (candidate a) = name && (element a).isEnabled) a).map
          fun a => keep (candidate a) (element a) := by
    funext a
    by_cases hname : Candidate.name (candidate a) = name <;>
      cases henabled : (element a).isEnabled <;>
      simp [accepted?, elementIn, hanswer, hsettled, hname, henabled, Option.guard, Option.filter]
  have hunbroken : ∀ entry ∈ candidatesOf ((list.map candidate).map Offer.candidate),
      failure? name store entry = none := by
    rw [candidatesOf_map_candidate]
    exact List.forall_mem_map.mpr fun a _ => hfailure a
  have hfinds := (collectWith_finds_unbroken name keep _ store hunbroken).answer
  rw [candidatesOf_heard_map_candidate] at hfinds
  simp only [acceptedOf, List.map_filterMap, List.filterMap_map, Function.comp_def, haccepted]
    at hfinds
  rw [← List.map_filterMap, List.filterMap_eq_filter] at hfinds
  exact hfinds

end Drivers

/-- The collecting drivers, on a walk over any list of offers in which no candidate with the name
breaks down: they find the accepted candidates before the first boundary that has an accepted
one before it, in order, and they stop the walk at that boundary and nowhere else. -/
theorem collecting_drivers_find (name : Name) (store : Store) :
    (∀ offers : List (Offer Entry),
      (∀ entry ∈ candidatesOf offers, failure? name store entry = none) →
        let found := acceptedOf name store
          (candidatesOf (heard (isAccepted name store) false offers))
        let calls := callsUpToCut (isAccepted name store) false offers
        Driver.Finds (fun _ _ _ => collect name) (fun _ _ => Feed.ofList offers) store
          (.ok (found.map fun hit => hit.2)) calls ∧
        Driver.Finds (fun _ _ _ => collectBound name) (fun _ _ => Feed.ofList offers) store
          (.ok (found.map fun hit => (hit.2, hit.1.subst))) calls) ∧
    (∀ (ε : Type) [Candidate ε] [LawfulCandidate ε] (offers : List (Offer ε)),
      (∀ entry ∈ candidatesOf offers, failure? name store entry = none) →
        let found := acceptedOf name store
          (candidatesOf (heard (isAccepted name store) false offers))
        let calls := callsUpToCut (isAccepted name store) false offers
        Driver.Finds (fun _ _ _ => collectEntries name) (fun _ _ => Feed.ofList offers) store
          (.ok (found.map fun hit => settledIn store hit.1)) calls) := by
  constructor
  · intro offers unbroken found calls
    constructor
    · exact collectWith_finds_unbroken name _ offers store unbroken
    · have hbound := collectWith_finds_unbroken name
        (fun (entry : Entry) element => (element, entry.subst)) offers store unbroken
      have hsubst (entry : Entry) : (settledIn store entry).subst = entry.subst :=
        subst_settledIn store entry
      simp only [hsubst] at hbound
      exact hbound
  · intro ε _ _ offers unbroken found calls
    exact collectWith_finds_unbroken name (fun entry _ => entry) offers store unbroken

/-- A constant of a crate without settings. -/
def sampleConst (index : Nat) (attributes : Attributes) : Element :=
  { Decl.ofKind .const (.root ⟨⟨0⟩, ⟨"main"⟩, .workspace, .empty⟩) with
    attributes := some attributes, id := .declared index }

/-- A walk with one constant twice, the second time deferred. Before it come matches of the name
that are not accepted, each between two boundaries. -/
def sampleOffers : List (Offer Entry) :=
  [.globBoundary,
    .candidate (.ofElement ⟨"x"⟩ (sampleConst 1 [.cfg (.flag ⟨"off"⟩)]) .empty),
    .globBoundary,
    .candidate (.deferred (.ofThunk ⟨"x"⟩ (.known none) false)),
    .globBoundary,
    .candidate (.deferred (.ofThunk ⟨"y"⟩ (.failing "not asked for") false)),
    .candidate (.ofElement ⟨"x"⟩ (sampleConst 0 []) .empty),
    .candidate (.deferred (.ofThunk ⟨"x"⟩ (.known (some (sampleConst 0 []))) false)),
    .globBoundary,
    .candidate (.ofElement ⟨"x"⟩ (sampleConst 2 []) .empty)]

theorem collecting_drivers_find_sample :
    let store : Store := ⟨.empty .plain, []⟩
    let calls : Calls Entry := (sampleOffers.take 8).map (·, false) ++ [(.globBoundary, true)]
    (∀ entry ∈ candidatesOf sampleOffers, failure? ⟨"x"⟩ store entry = none) ∧
      Driver.Finds (fun _ _ _ => collect ⟨"x"⟩) (fun _ _ => Feed.ofList sampleOffers) store
        (.ok [sampleConst 0 [], sampleConst 0 []]) calls ∧
      Driver.Finds (fun _ _ _ => collectEntries ⟨"x"⟩) (fun _ _ => Feed.ofList sampleOffers) store
        (.ok [.ofElement ⟨"x"⟩ (sampleConst 0 []) .empty,
          .deferred ⟨⟨"x"⟩, .ready (some (sampleConst 0 [])), false⟩]) calls := by
  intro store calls
  have hunbroken : ∀ entry ∈ candidatesOf sampleOffers, failure? ⟨"x"⟩ store entry = none :=
    List.findSome?_eq_none_iff.mp (by rfl)
  have hfind := collecting_drivers_find ⟨"x"⟩ store
  exact ⟨hunbroken, (hfind.1 sampleOffers hunbroken).1, hfind.2 Entry sampleOffers hunbroken⟩

end ScopeWalk
