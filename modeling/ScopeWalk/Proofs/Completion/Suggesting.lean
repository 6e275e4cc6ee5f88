import ScopeWalk.Proofs.Resolve.Agreement
import ScopeWalk.Proofs.Resolve.Within

/-!
# What is suggested can be resolved

Completion and resolution were made apart. The one takes no notice of names and boundaries, never
stops a walk, and leaves out tests; the other looks for one name and stops at the first match. But
both go by the elements of candidates, so a label that is suggested resolves, and what a name
resolves to is suggested under that name, unless it is a test.
-/
namespace ScopeWalk

open Candidate

/-- How a candidate is presented has nothing to do with what was known of its element before. -/
theorem Suggestion.ofEntry_settledIn (site : CompletionSite) (store : Store) (entry : Entry)
    (decl : Decl) : ofEntry site (settledIn store entry) decl = ofEntry site entry decl := by
  cases entry with
  | direct entry => rfl
  | member entry => rfl
  | deferred entry =>
    rw [settledIn]
    cases hforce : (force (Entry.deferred entry)).answer store with
    | error failure => rfl
    | ok result =>
      obtain ⟨⟨found, next⟩, hread, hresult⟩ := Walk.answer_bind_ok hforce
      cases hresult
      cases LazyEntry.settled_of_force hread
      rfl

/-- The suggestion for a candidate, if there is one. -/
def suggested? (site : CompletionSite) (store : Store) (entry : Entry) : Option Suggestion :=
  ((elementIn store entry).filter (·.isSuggested)).map fun element =>
    .ofEntry site entry element.toDecl

theorem suggested?_congr {store other : Store} (h : store.SameRoots other)
    (site : CompletionSite) : suggested? site store = suggested? site other := by
  funext entry
  rw [suggested?, suggested?, elementIn_congr h]

theorem suggested?_settledIn {store : Store} {entry : Entry}
    (unbroken : failureIn? store entry = none) (site : CompletionSite) :
    suggested? site store (settledIn store entry) = suggested? site store entry := by
  simp only [suggested?, elementIn_settledIn unbroken, Suggestion.ofEntry_settledIn]

/-! ### Completion -/

namespace Query

variable {σ : Type} (add : σ → Suggestion → σ) (start : σ) (site : CompletionSite)

theorem step_suggest_candidate (entry : Entry) (kept : σ) :
    (suggest add start site).step (.candidate entry) kept = force entry >>= fun asked =>
      pure (false, (asked.1.filter (·.isSuggested)).elim kept fun element =>
        add kept (.ofEntry site asked.2 element.toDecl)) := by
  rw [← map_eq_pure_bind]
  rfl

theorem suggest_neverStops : Step.NeverStops (suggest add start site).step := by
  intro offer kept store result h
  cases offer with
  | globBoundary =>
    cases h
    rfl
  | candidate entry =>
    rw [step_suggest_candidate] at h
    obtain ⟨asked, -, hresult⟩ := Walk.answer_bind_ok h
    cases hresult
    rfl

theorem suggest_step_steady (offer : Offer Entry) (kept : σ) :
    ((suggest add start site).step offer kept).Steady := by
  cases offer with
  | globBoundary => exact Walk.steady_pure _
  | candidate entry => exact (LawfulCandidate.force_steady entry).map _

theorem answer_step_suggest {entry : Entry} {store : Store}
    (unbroken : failureIn? store entry = none) (kept : σ) :
    ((suggest add start site).step (.candidate entry) kept).answer store =
      .ok (false, (suggested? site store entry).elim kept (add kept)) := by
  rw [step_suggest_candidate, Walk.answer_bind_pure, answer_force_of_unbroken unbroken, suggested?]
  simp only [Except.map, Suggestion.ofEntry_settledIn]
  cases (elementIn store entry).filter (·.isSuggested) <;> rfl

/-- Completion suggests what it can of all candidates. The induction is on the offers. -/
theorem answer_visit_suggest (offers : List (Offer Entry)) (kept : σ) (store : Store)
    (unbroken : ∀ entry ∈ candidatesOf offers, failureIn? store entry = none) :
    (Step.visit (suggest add start site).step offers kept).answer store =
      .ok (false, ((candidatesOf offers).filterMap (suggested? site store)).foldl add kept) := by
  induction offers generalizing kept store with
  | nil => rfl
  | cons offer rest ih =>
    cases offer with
    | globBoundary =>
      have hstep : ((suggest add start site).step .globBoundary kept).answer store =
          .ok (false, kept) := rfl
      rw [Step.answer_visit_next hstep]
      exact ih kept _ unbroken
    | candidate entry =>
      obtain ⟨hentry, hrest⟩ := List.forall_mem_cons.mp unbroken
      have hstep := answer_step_suggest add start site hentry kept
      have hroots := (suggest_step_steady add start site _ kept).sameRoots hstep
      simp only [failureIn?_congr hroots] at hrest
      rw [Step.answer_visit_next hstep, ih _ _ hrest, candidatesOf_candidate,
        ← suggested?_congr hroots, List.filterMap_cons]
      cases suggested? site store entry <;> rfl

end Query

/-! ### Completion within a module -/

section Within

variable (importer? : Option Module) {offers : List (Offer Entry)} {store : Store}
  (unbroken : ∀ entry ∈ candidatesOf offers, failureIn? store entry = none)

/-- The candidates whose elements have a property, each with its element. -/
def hitsOf (p : Element → Bool) (store : Store) (entries : List Entry) :
    List (Entry × Element) :=
  entries.filterMap fun entry => ((elementIn store entry).filter p).map (entry, ·)

theorem hitsOf_congr {other : Store} (h : store.SameRoots other) (p : Element → Bool) :
    hitsOf p store = hitsOf p other := by
  funext entries
  refine congrArg (List.filterMap · entries) (funext fun entry => ?_)
  rw [elementIn_congr h]

theorem mem_hitsOf {p : Element → Bool} {entries : List Entry} {hit : Entry × Element} :
    hit ∈ hitsOf p store entries ↔
      hit.1 ∈ entries ∧ elementIn store hit.1 = some hit.2 ∧ p hit.2 := by
  obtain ⟨entry, element⟩ := hit
  simp only [hitsOf, List.mem_filterMap, Option.map_eq_some_iff, Option.filter_eq_some_iff,
    Prod.mk.injEq]
  constructor
  · rintro ⟨_, hmem, _, ⟨helement, hp⟩, rfl, rfl⟩
    exact ⟨hmem, helement, hp⟩
  · rintro ⟨hmem, helement, hp⟩
    exact ⟨entry, hmem, element, ⟨helement, hp⟩, rfl, rfl⟩

include unbroken

theorem filterMap_suggested?_offersWithin (site : CompletionSite) :
    (candidatesOf (offersWithin importer? store offers)).filterMap (suggested? site store) =
      (hitsOf (fun element => element.isOfferedWithin importer? && element.isSuggested) store
        (candidatesOf offers)).map fun hit => .ofEntry site hit.1 hit.2.toDecl := by
  rw [filterMap_candidatesOf_offersWithin importer? fun entry hentry =>
    suggested?_settledIn (unbroken entry hentry) site, hitsOf, List.map_filterMap]
  refine congrArg (List.filterMap · _) (funext fun entry => ?_)
  rw [suggested?]
  cases elementIn store entry with
  | none => rfl
  | some element =>
    cases hoffered : element.isOfferedWithin importer? <;>
      cases hsuggested : element.isSuggested <;>
      simp [hoffered, hsuggested, Option.filter]

/-- Completion within a module suggests what passes there of all candidates. -/
theorem answer_visit_suggest_within {σ : Type} (add : σ → Suggestion → σ) (start kept : σ)
    (site : CompletionSite) :
    (Step.visit (Step.within importer? (Query.suggest add start site).step) offers kept).answer
      store = .ok (false, ((hitsOf
        (fun element => element.isOfferedWithin importer? && element.isSuggested) store
        (candidatesOf offers)).map fun hit => .ofEntry site hit.1 hit.2.toDecl).foldl add kept) := by
  have hsteady := Query.suggest_step_steady add start site
  have hvisit := Step.answer_visit_within hsteady importer? offers kept store unbroken
  have hleft := Query.answer_visit_suggest add start site (offersWithin importer? store offers) kept
    store (unbroken_offersWithin importer? unbroken)
  rw [hvisit.trans hleft, filterMap_suggested?_offersWithin importer? unbroken]

theorem answer_pickFirst_within (name : Name) :
    (pickFirst (n := Walk) name ((Feed.ofList offers).within importer?)).answer store =
      .ok (((hitsOf (fun element => element.isOfferedWithin importer? && element.isEnabled) store
        (candidatesOf offers)).filter (·.1.name = name)).head?.map Prod.snd) := by
  have hleft : ∀ entry ∈ candidatesOf (offersWithin importer? store offers),
      failure? name store entry = none := by
    intro entry hentry
    rw [failure?, unbroken_offersWithin importer? unbroken entry hentry, ite_self]
  have hsettled : ∀ entry ∈ candidatesOf offers,
      (accepted? name store (settledIn store entry)).map Prod.snd =
        (accepted? name store entry).map Prod.snd := by
    intro entry hentry
    obtain ⟨hname, -, -⟩ := settledIn_spec (unbroken entry hentry)
    rw [map_snd_accepted?, map_snd_accepted?, hname, elementIn_settledIn (unbroken entry hentry)]
  have hwithin := (Query.pickFirst name).answer_run_within importer? offers
    ((Query.pickFirst name).step_steady rfl) unbroken
  have hpick := hwithin.trans (answer_pickFirst hleft)
  refine hpick.trans (congrArg Except.ok ?_)
  rw [← List.head?_map, ← List.head?_map, acceptedOf, List.map_filterMap,
    filterMap_candidatesOf_offersWithin importer? hsettled, hitsOf, List.filter_filterMap,
    List.map_filterMap]
  refine congrArg List.head? (congrArg (List.filterMap · _) (funext fun entry => ?_))
  have hentry : Candidate.name entry = entry.name := rfl
  rw [map_snd_accepted?, hentry]
  cases elementIn store entry with
  | none => simp
  | some element =>
    cases hoffered : element.isOfferedWithin importer? <;>
      cases henabled : element.isEnabled <;>
      by_cases hname : entry.name = name <;>
      simp [hoffered, henabled, hname, Option.filter]

theorem suggestions_within_finds (site : CompletionSite) :
    Driver.Finds (fun _ _ _ feed => suggestions site (feed.within importer?))
      (fun _ _ => Feed.ofList offers) store
      (.ok ((hitsOf (fun element => element.isOfferedWithin importer? && element.isSuggested) store
        (candidatesOf offers)).map fun hit => .ofEntry site hit.1 hit.2.toDecl))
      (offers.map (·, false)) := by
  let add (kept : List Suggestion) (suggestion : Suggestion) := kept ++ [suggestion]
  let query : Query (List Suggestion) := .suggest add [] site
  have hnever : Step.NeverStops query.step := Query.suggest_neverStops add [] site
  have hadd (items : List Suggestion) : items.foldl add [] = items := by
    rw [List.foldl_append_eq_append, List.nil_append, ← List.flatMap_def, List.flatMap_singleton']
  have hvisit := answer_visit_suggest_within importer? unbroken add [] [] site
  rw [hadd] at hvisit
  have hfollow := Step.NeverStops.answer_follow (hnever.within importer?) [] hvisit
  constructor
  · show (query.run Walk ((Feed.ofList offers).within importer?)).answer store = _
    rw [query.run_within, map_eq_pure_bind, Walk.answer_bind_pure]
    exact congrArg (Except.map Prod.snd) hvisit
  · show ((query.run (StateT (Calls Entry) Walk)
      ((Feed.ofList offers).traced.within importer?)).run []).answer store = _
    rw [query.traced_run_within, map_eq_pure_bind, Walk.answer_bind_pure]
    exact congrArg (Except.map fun followed => (followed.1.2, followed.2)) hfollow

end Within

/-- Completion on a walk in which no candidate breaks down, be it kept to what is of use in a module
or not, never stops the walk. It makes one suggestion for each candidate whose element is there, is
in the build, is no test and passes, in the order in which they are offered, and labels it with the
candidate's name. Picking a name finds an element if there is a suggestion with this label. If it
finds one that is no test, a suggestion with this label was made of a candidate for the element. All
of it is as it was when one of them went over the walk before. -/
theorem suggestions_resolve (site : CompletionSite) (importer? : Option Module)
    (offers : List (Offer Entry)) (store : Store)
    (unbroken : ∀ entry ∈ candidatesOf offers, failureIn? store entry = none) :
    let feed {m : Type → Type} [Monad m] [MonadLiftT Walk m] : Feed m Entry :=
      (Feed.ofList offers).within importer?
    let hits := hitsOf (fun element => element.isOfferedWithin importer? &&
      (!element.isTestFunction && element.isEnabled)) store (candidatesOf offers)
    let items := hits.map fun hit => Suggestion.ofEntry site hit.1 hit.2.toDecl
    items.map (·.label) = hits.map (·.1.name) ∧
    (∀ other : Store, store.SameRoots other →
      Driver.Finds (fun _ _ _ feed => suggestions site (feed.within importer?))
        (fun _ _ => Feed.ofList offers) other (.ok items) (offers.map (·, false)) ∧
      store.SameRoots ((suggestions (n := Walk) site feed).after other)) ∧
    ∀ name, ∃ picked,
      (∀ other : Store, store.SameRoots other →
        (pickFirst (n := Walk) name feed).answer other = .ok picked ∧
        store.SameRoots ((pickFirst (n := Walk) name feed).after other)) ∧
      ((∃ item ∈ items, item.label = name) → picked.isSome) ∧
      ∀ element, picked = some element → element.isTestFunction = false →
        ∃ entry, (entry, element) ∈ hits ∧ entry.name = name ∧
          Suggestion.ofEntry site entry element.toDecl ∈ items := by
  intro feed hits items
  refine ⟨List.map_map, fun other hroots => ?_, fun name => ?_⟩
  · have hunbroken := unbroken
    simp only [failureIn?_congr hroots] at hunbroken
    have hfinds := suggestions_within_finds importer? hunbroken site
    rw [← hitsOf_congr hroots] at hfinds
    have hsteady := Query.run_within_steady _ importer? offers
      (Query.suggest_step_steady (fun kept suggestion => kept ++ [suggestion]) [] site)
    exact ⟨hfinds, hroots.trans (hsteady.sameRoots hfinds.answer)⟩
  · let matching := (hitsOf (fun element => element.isOfferedWithin importer? && element.isEnabled)
      store (candidatesOf offers)).filter (·.1.name = name)
    refine ⟨matching.head?.map Prod.snd, fun other hroots => ?_, ?_, ?_⟩
    · have hunbroken := unbroken
      simp only [failureIn?_congr hroots] at hunbroken
      have hpick := answer_pickFirst_within importer? hunbroken name
      rw [← hitsOf_congr hroots] at hpick
      have hsteady := Query.run_within_steady (.pickFirst name) importer? offers
        ((Query.pickFirst name).step_steady rfl)
      exact ⟨hpick, hroots.trans (hsteady.sameRoots hpick)⟩
    · rintro ⟨item, hitem, rfl⟩
      obtain ⟨hit, hhit, rfl⟩ := List.mem_map.mp hitem
      obtain ⟨hentry, helement, hp⟩ := mem_hitsOf.mp hhit
      have hmatching : hit ∈ matching := by
        refine List.mem_filter.mpr ⟨mem_hitsOf.mpr ⟨hentry, helement, ?_⟩, decide_eq_true rfl⟩
        simp only [Bool.and_eq_true] at hp ⊢
        exact ⟨hp.1, hp.2.2⟩
      rw [Option.isSome_map, List.isSome_head?]
      exact List.ne_nil_of_mem hmatching
    · intro element hpicked htest
      obtain ⟨⟨entry, _⟩, hhead, rfl⟩ := Option.map_eq_some_iff.mp hpicked
      obtain ⟨hhit, hname⟩ := List.mem_filter.mp (List.mem_of_head? hhead)
      obtain ⟨hentry, helement, hp⟩ := mem_hitsOf.mp hhit
      simp only [Bool.and_eq_true] at hp
      have hmem : (entry, _) ∈ hits :=
        mem_hitsOf.mpr ⟨hentry, helement, by simp [hp.1, hp.2, htest]⟩
      exact ⟨entry, hmem, of_decide_eq_true hname, List.mem_map.mpr ⟨_, hmem, rfl⟩⟩

/-- A test, between a constant and an alias of the constant behind a boundary. -/
def sampleTestOffers : List (Offer Entry) :=
  [.candidate (.ofElement ⟨"x"⟩ (sampleConst 0 []) .empty),
    .candidate (.ofElement ⟨"t"⟩ { sampleConst 1 [.test] with kind := .function false } .empty),
    .candidate (.deferred (.ofThunk ⟨"t"⟩ (.known none) false)),
    .globBoundary,
    .candidate (.deferred (.ofThunk ⟨"y"⟩ (.known (some (sampleConst 0 []))) false))]

/-- Within its module, the constant is suggested under both names, and each of them resolves. The
test is not suggested. -/
theorem suggestions_resolve_sample :
    let store : Store := ⟨.empty .plain, []⟩
    let module : Module := .root ⟨⟨0⟩, ⟨"main"⟩, .workspace, .empty⟩
    let site : CompletionSite := ⟨module, none⟩
    let items := (candidatesOf sampleTestOffers).filterMap (suggested? site store)
    (∀ entry ∈ candidatesOf sampleTestOffers, failureIn? store entry = none) ∧
      items.map (·.label) = [⟨"x"⟩, ⟨"y"⟩] ∧
      Driver.Finds (fun _ _ _ feed => suggestions site (feed.within (some module)))
        (fun _ _ => Feed.ofList sampleTestOffers) store (.ok items)
        (sampleTestOffers.map (·, false)) ∧
      ∃ element, (pickFirst (n := Walk) ⟨"y"⟩
        ((Feed.ofList sampleTestOffers).within (some module))).answer store = .ok (some element) := by
  intro store module site items
  have hunbroken : ∀ entry ∈ candidatesOf sampleTestOffers, failureIn? store entry = none :=
    List.findSome?_eq_none_iff.mp (by rfl)
  obtain ⟨-, hfinds, hpick⟩ :=
    suggestions_resolve site (some module) sampleTestOffers store hunbroken
  obtain ⟨picked, hanswer, hsome, -⟩ := hpick ⟨"y"⟩
  obtain ⟨element, rfl⟩ := Option.isSome_iff_exists.mp (hsome ⟨_, .tail _ (.head _), rfl⟩)
  exact ⟨hunbroken, by rfl, (hfinds store (.refl store)).1, element, (hanswer store (.refl store)).1⟩

end ScopeWalk
