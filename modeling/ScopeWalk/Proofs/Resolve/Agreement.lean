import ScopeWalk.Proofs.Resolve.Forcing

/-!
# Drivers agree

The drivers that resolve a name say the same about it, each in its own form. The one that picks is
made apart from those that collect: it takes no notice of boundaries, and stops elsewhere. But before
anything is accepted a boundary stops nobody, so the first accepted candidate is never cut off.
-/
namespace ScopeWalk

open Candidate

/-- What comes first of the accepted candidates comes before the cut. The induction is on the
offers; up to the first that is accepted, both sides go through the same. -/
theorem head?_acceptedOf_heard {ε : Type} [Candidate ε] (name : Name) (store : Store)
    (offers : List (Offer ε)) :
    (acceptedOf name store (candidatesOf (heard (isAccepted name store) false offers))).head? =
      (acceptedOf name store (candidatesOf offers)).head? := by
  induction offers with
  | nil => rfl
  | cons offer rest ih =>
    cases offer with
    | globBoundary =>
      rw [heard_boundary, if_neg Bool.false_ne_true, candidatesOf_boundary, candidatesOf_boundary, ih]
    | candidate entry =>
      rw [heard_candidate, candidatesOf_candidate, candidatesOf_candidate, Bool.false_or, acceptedOf,
        acceptedOf, List.filterMap_cons, List.filterMap_cons, isAccepted]
      cases accepted? name store entry with
      | some hit => rfl
      | none => exact ih

namespace Query

variable {σ : Type} (query : Query σ) {name : Name} (h : query.name? = some name)
include h

/-- Resolving a name only reads what it needs of the candidates that bear it. -/
theorem step_steady (offer : Offer Entry) (kept : σ) : (query.step offer kept).Steady := by
  cases offer with
  | globBoundary =>
    obtain ⟨result, hresult⟩ := query.exists_step_boundary (query.isCustom_of_name h) kept
    rw [hresult]
    exact Walk.steady_pure result
  | candidate entry =>
    obtain ⟨respond, hrespond⟩ := query.exists_step_candidate h
    rw [hrespond]
    exact (judge_steady name entry).map (respond kept)

theorem visit_steady (offers : List (Offer Entry)) (kept : σ) :
    (query.visit offers kept).Steady := by
  rw [visit_eq]
  exact Step.visit_steady (query.step_steady h) offers kept

theorem run_steady (offers : List (Offer Entry)) :
    (query.run Walk (Feed.ofList offers)).Steady := by
  rw [run_eq_visit]
  exact (query.visit_steady h offers query.start).map _

end Query

theorem answer_pickFirst {name : Name} {offers : List (Offer Entry)} {store : Store}
    (unbroken : ∀ entry ∈ candidatesOf offers, failure? name store entry = none) :
    (pickFirst (n := Walk) name (Feed.ofList offers)).answer store =
      .ok ((acceptedOf name store (candidatesOf offers)).head?.map Prod.snd) := by
  rw [answer_pickFirst_ofList, verdictOf?_of_unbroken unbroken]
  cases (acceptedOf name store (candidatesOf offers)).head? <;> rfl

/-- On a walk in which no candidate with the name breaks down there is one list of elements, each of
a candidate with the name that is settled by now. Collecting finds these elements, picking finds the
first of them or none, and the other drivers find the elements with the substitutions of these
candidates, or the candidates. It makes no difference which of the drivers were there before. -/
theorem drivers_agree (name : Name) (offers : List (Offer Entry)) (store : Store)
    (unbroken : ∀ entry ∈ candidatesOf offers, failure? name store entry = none) :
    ∃ (entries : List Entry) (elements : List Element),
      List.Forall₂ (fun entry element =>
        entry.name = name ∧ entry.force = pure (some element, entry)) entries elements ∧
      ∀ other : Store, store.SameRoots other →
        (collect (n := Walk) name (Feed.ofList offers)).answer other = .ok elements ∧
        (pickFirst (n := Walk) name (Feed.ofList offers)).answer other = .ok elements.head? ∧
        (collectBound (n := Walk) name (Feed.ofList offers)).answer other =
          .ok (List.zipWith (fun entry element => (element, entry.subst)) entries elements) ∧
        (collectEntries (n := Walk) name (Feed.ofList offers)).answer other = .ok entries ∧
        ∀ {σ : Type} (query : Query σ), query.name? = some name →
          store.SameRoots ((query.run Walk (Feed.ofList offers)).after other) := by
  let hits := acceptedOf name store (candidatesOf (heard (isAccepted name store) false offers))
  refine ⟨hits.map fun hit => settledIn store hit.1, hits.map Prod.snd, ?_, fun other hroots => ?_⟩
  · rw [List.forall₂_map_left_iff, List.forall₂_map_right_iff, List.forall₂_same]
    intro hit hhit
    obtain ⟨entry, hentry, haccepted⟩ := List.mem_filterMap.mp hhit
    exact settled_of_accepted haccepted
      (unbroken entry (candidatesOf_heard_subset _ _ offers hentry))
  · -- every driver is judged by what is accepted in `store`, whatever was read meanwhile
    have hunbroken := unbroken
    rw [failure?_congr hroots] at hunbroken
    have hhits : acceptedOf name other
        (candidatesOf (heard (isAccepted name other) false offers)) = hits := by
      simp only [hits, acceptedOf, isAccepted_congr hroots, accepted?_congr hroots]
    have hfind {β : Type} (keep : Entry → Element → β) :
        (collectWith (n := Walk) name keep (Feed.ofList offers)).answer other =
          .ok (hits.map fun hit => keep (settledIn store hit.1) hit.2) := by
      rw [settledIn_congr hroots, ← hhits]
      exact (collectWith_finds_unbroken name keep offers other hunbroken).answer
    have hpick : (pickFirst (n := Walk) name (Feed.ofList offers)).answer other =
        .ok (hits.map Prod.snd).head? := by
      rw [answer_pickFirst hunbroken, ← head?_acceptedOf_heard, hhits, List.head?_map]
    have hbound : List.zipWith (fun (entry : Entry) element => (element, entry.subst))
        (hits.map fun hit => settledIn store hit.1) (hits.map Prod.snd) =
        hits.map fun hit => (hit.2, (settledIn store hit.1).subst) := by
      rw [List.zipWith_map, List.zipWith_self]
    refine ⟨hfind _, hpick, ?_, hfind _, fun query hname => ?_⟩
    · rw [hbound]
      exact hfind fun entry element => (element, entry.subst)
    · have hresult : ∃ result, (query.run Walk (Feed.ofList offers)).answer other = .ok result := by
        cases query with
        | collect =>
          cases hname
          exact ⟨_, hfind fun _ element => element⟩
        | collectBound =>
          cases hname
          exact ⟨_, hfind fun entry element => (element, entry.subst)⟩
        | collectEntries =>
          cases hname
          exact ⟨_, hfind fun entry _ => entry⟩
        | pickFirst =>
          cases hname
          exact ⟨_, hpick⟩
        | suggest => cases hname
        | custom => cases hname
      obtain ⟨result, hresult⟩ := hresult
      exact hroots.trans ((query.run_steady hname offers).sameRoots hresult)

/-- The constant that comes first is also the one that is picked, although picking does not come to
the boundary at which collecting stops. -/
theorem drivers_agree_sample :
    let name : Name := ⟨"x"⟩
    let store : Store := ⟨.empty .plain, []⟩
    let element := sampleConst 0 []
    (∀ entry ∈ candidatesOf sampleOffers, failure? name store entry = none) ∧
      (collect (n := Walk) name (Feed.ofList sampleOffers)).answer store = .ok [element, element] ∧
      (pickFirst (n := Walk) name (Feed.ofList sampleOffers)).answer store = .ok (some element) := by
  intro name store element
  have hunbroken : ∀ entry ∈ candidatesOf sampleOffers, failure? name store entry = none :=
    List.findSome?_eq_none_iff.mp (by rfl)
  obtain ⟨entries, elements, -, hagree⟩ := drivers_agree name sampleOffers store hunbroken
  obtain ⟨hcollect, hpick, -⟩ := hagree store (.refl store)
  have helements : elements = [element, element] := Except.ok.inj (hcollect.symm.trans (by rfl))
  subst helements
  exact ⟨hunbroken, hcollect, hpick⟩

end ScopeWalk
