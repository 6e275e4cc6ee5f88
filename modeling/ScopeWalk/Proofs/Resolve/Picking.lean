import ScopeWalk.Proofs.Resolve.Progress

/-!
# Picking

Picking goes on until a candidate is accepted or breaks down. It takes no notice of boundaries, so
the first of all candidates with which it can end decides what comes of it.
-/
namespace ScopeWalk

open Candidate

/-- Picking ends with this candidate: it is accepted for the name, or breaks down. -/
def Entry.endsPick (name : Name) (store : Store) (entry : Entry) : Bool :=
  isAccepted name store entry || (failure? name store entry).isSome

theorem Entry.endsPick_congr {store other : Store} (h : store.SameRoots other) (name : Name) :
    endsPick name store = endsPick name other := by
  funext entry
  simp only [endsPick, isAccepted_congr h, failure?_congr h]

/-- What comes of picking if it comes to this candidate: it goes on, or picks the element, or breaks
down. -/
def Entry.verdict? (name : Name) (store : Store) (entry : Entry) :
    Option (Except Failure Element) :=
  (failure? name store entry).elim ((accepted? name store entry).map fun hit => .ok hit.2)
    fun failure => some (.error failure)

theorem Entry.isSome_verdict? (name : Name) (store : Store) (entry : Entry) :
    (entry.verdict? name store).isSome = entry.endsPick name store := by
  rw [verdict?, endsPick, isAccepted]
  cases failure? name store entry <;> simp

theorem Entry.verdict?_congr {store other : Store} (h : store.SameRoots other) (name : Name) :
    verdict? name store = verdict? name other := by
  funext entry
  simp only [verdict?, accepted?_congr h, failure?_congr h]

section Verdicts

variable {name : Name} {store : Store} {entry : Entry}

theorem Entry.accepted_of_verdict? {element : Element}
    (h : entry.verdict? name store = some (.ok element)) :
    accepted? name store entry = some (entry, element) := by
  rw [verdict?] at h
  cases hfailure : failure? name store entry with
  | some failure => simp [hfailure] at h
  | none =>
    rw [hfailure, Option.elim_none] at h
    obtain ⟨⟨judged, _⟩, haccepted, heq⟩ := Option.map_eq_some_iff.mp h
    cases heq
    obtain ⟨rfl, -⟩ := of_accepted haccepted
    exact haccepted

theorem Entry.verdict?_eq_ok_iff {element : Element} :
    entry.verdict? name store = some (.ok element) ↔
      entry.name = name ∧ elementIn store entry = some element ∧ element.isEnabled = true := by
  constructor
  · exact fun h => (of_accepted (accepted_of_verdict? h)).2
  · rintro ⟨hname, helement, henabled⟩
    have hunbroken : failureIn? store entry = none := failureIn?_of_elementIn helement
    have haccepted : accepted? name store entry = some (entry, element) := by
      simp [accepted?, Candidate.name, hname, helement, henabled]
    rw [verdict?, failure?, hunbroken, ite_self, haccepted]
    rfl

theorem Entry.verdict?_eq_error_iff {failure : Failure} :
    entry.verdict? name store = some (.error failure) ↔
      entry.name = name ∧ failureIn? store entry = some failure := by
  have hbroken : entry.verdict? name store = some (.error failure) ↔
      failure? name store entry = some failure := by
    rw [verdict?]
    cases failure? name store entry with
    | some failure => simp
    | none => cases accepted? name store entry <;> simp
  rw [hbroken, failure?, Option.ite_none_right_eq_some]
  rfl

end Verdicts

/-- What comes of picking from some candidates: the first one that has a verdict decides. -/
def verdictOf? (name : Name) (store : Store) (entries : List Entry) :
    Option (Except Failure Element) :=
  entries.findSome? (Entry.verdict? name store)

/-- Where nothing breaks down, the first accepted candidate decides. -/
theorem verdictOf?_of_unbroken {name : Name} {store : Store} {entries : List Entry}
    (unbroken : ∀ entry ∈ entries, failure? name store entry = none) :
    verdictOf? name store entries =
      (acceptedOf name store entries).head?.map fun hit => .ok hit.2 := by
  rw [verdictOf?, acceptedOf, List.head?_filterMap]
  induction entries with
  | nil => rfl
  | cons entry rest ih =>
    obtain ⟨hentry, hrest⟩ := List.forall_mem_cons.mp unbroken
    rw [List.findSome?_cons, List.findSome?_cons, ih hrest, Entry.verdict?, hentry,
      Option.elim_none]
    cases accepted? name store entry <;> rfl

theorem take_findIdx_cons (p : α → Bool) (first : α) (rest : List α) :
    (first :: rest).take ((first :: rest).findIdx p + 1) =
      first :: if p first then [] else rest.take (rest.findIdx p + 1) := by
  rw [List.take_succ_cons, List.findIdx_cons]
  cases p first <;> rfl

namespace Query

section Step

variable (name : Name) (entry : Entry) (kept : Option Element) (store : Store)

theorem step_pickFirst_candidate :
    (pickFirst name).step (.candidate entry) kept = judge name entry >>= fun accepted =>
      pure (accepted.isSome, (accepted.map Prod.snd).or kept) := by
  rw [← map_eq_pure_bind]
  rfl

theorem answer_step_pickFirst :
    ((pickFirst name).step (.candidate entry) kept).answer store =
      (failure? name store entry).elim (.ok ((accepted? name store entry).isSome,
        ((accepted? name store entry).map Prod.snd).or kept)) .error := by
  rw [step_pickFirst_candidate, Walk.answer_bind_pure, answer_judge]
  cases failure? name store entry with
  | some failure => rfl
  | none => cases accepted? name store entry <;> rfl

/-- What was picked so far leaves all later answers as they were. -/
theorem sameRoots_step_pickFirst {result : Bool × Option Element}
    (h : ((pickFirst name).step (.candidate entry) kept).answer store = .ok result) :
    store.SameRoots (((pickFirst name).step (.candidate entry) kept).after store) := by
  rw [step_pickFirst_candidate] at h ⊢
  exact ((judge_steady name entry).bind fun _ => Walk.steady_pure _).sameRoots h

end Step

/-- Picking is handed all offers up to the first that ends it. The induction is on the offers. -/
theorem reach_pickFirst (name : Name) (offers : List (Offer Entry)) (kept : Option Element)
    (store : Store) :
    (pickFirst name).reach offers kept store =
      offers.take (offers.findIdx (·.candidate?.any (Entry.endsPick name store)) + 1) := by
  induction offers generalizing kept store with
  | nil => rfl
  | cons offer rest ih =>
    rw [take_findIdx_cons]
    cases offer with
    | globBoundary =>
      have hstep : ((pickFirst name).step .globBoundary kept).answer store = .ok (false, kept) :=
        rfl
      rw [reach_next _ hstep, ih]
      rfl
    | candidate entry =>
      have hanswer := answer_step_pickFirst name entry kept store
      rw [Offer.candidate?, Option.any_some, Entry.endsPick, isAccepted]
      cases hfailure : failure? name store entry with
      | some failure =>
        rw [hfailure] at hanswer
        rw [reach_error _ hanswer, Option.isSome_some, Bool.or_true, if_pos rfl]
      | none =>
        rw [hfailure] at hanswer
        cases haccepted : accepted? name store entry with
        | some hit =>
          rw [haccepted] at hanswer
          rw [reach_stop _ hanswer]
          rfl
        | none =>
          rw [haccepted] at hanswer
          have hroots := sameRoots_step_pickFirst name entry kept store hanswer
          rw [reach_next _ hanswer, ih, Entry.endsPick_congr hroots]
          rfl

/-- The first candidate that has a verdict decides. The induction is on the offers. -/
theorem answer_visit_pickFirst (name : Name) (offers : List (Offer Entry)) (store : Store) :
    ((pickFirst name).visit offers none).answer store =
      (verdictOf? name store (candidatesOf offers)).elim (.ok (false, none))
        (·.map fun element => (true, some element)) := by
  rw [visit_eq]
  induction offers generalizing store with
  | nil => rfl
  | cons offer rest ih =>
    cases offer with
    | globBoundary =>
      have hstep : ((pickFirst name).step .globBoundary none).answer store = .ok (false, none) :=
        rfl
      rw [Step.answer_visit_next hstep]
      exact ih _
    | candidate entry =>
      have hanswer := answer_step_pickFirst name entry none store
      rw [candidatesOf_candidate, verdictOf?, List.findSome?_cons, Entry.verdict?]
      cases hfailure : failure? name store entry with
      | some failure =>
        rw [hfailure] at hanswer
        exact congrArg Prod.fst (Step.visit_run_error hanswer)
      | none =>
        rw [hfailure] at hanswer
        cases haccepted : accepted? name store entry with
        | some hit =>
          rw [haccepted] at hanswer
          exact congrArg Prod.fst (Step.visit_run_stop hanswer)
        | none =>
          rw [haccepted] at hanswer
          have hroots := sameRoots_step_pickFirst name entry none store hanswer
          rw [Step.answer_visit_next hanswer, Entry.verdict?_congr hroots]
          exact ih _

end Query

/-- What picking makes of a walk over a list of offers. -/
theorem answer_pickFirst_ofList (name : Name) (offers : List (Offer Entry)) (store : Store) :
    (pickFirst (n := Walk) name (Feed.ofList offers)).answer store =
      (verdictOf? name store (candidatesOf offers)).elim (.ok none) (·.map some) := by
  have hrun := (Query.pickFirst name).run_eq_visit offers
  rw [map_eq_pure_bind] at hrun
  show ((Query.pickFirst name).run Walk (Feed.ofList offers)).answer store = _
  have hvisit :
      ((Query.pickFirst name).visit offers (Query.pickFirst name).start).answer store = _ :=
    Query.answer_visit_pickFirst name offers store
  rw [hrun, Walk.answer_bind_pure, hvisit]
  cases verdictOf? name store (candidatesOf offers) with
  | none => rfl
  | some verdict => cases verdict <;> rfl

theorem answer_pickFirst_of_offers {feed : Feed (StateT (Option Element) Walk) Entry}
    {offers : List (Offer Entry)} (h : ∀ visit, feed visit = Feed.ofList offers visit) (name : Name)
    (store : Store) : (pickFirst name feed).answer store =
      (verdictOf? name store (candidatesOf offers)).elim (.ok none) (·.map some) := by
  have hfeed : feed = Feed.ofList offers := funext h
  rw [hfeed, answer_pickFirst_ofList]

end ScopeWalk
