import ScopeWalk.Proofs.Candidate.MemberOffers
import ScopeWalk.Proofs.Crates.ExternOffers
import ScopeWalk.Proofs.Feed.Calls
import ScopeWalk.Proofs.Scope.LexicalOffers

/-!
# Walks stop when told

A visitor may keep a state of its own and answer as it likes. Whatever it is, every walk calls it
on the offers of the walk in order, once each, until it answers `true` for the first time, and
then calls it no more and answers `true` itself. The list of offers is the one that a visitor
gets that never stops the walk.
-/
namespace ScopeWalk

/-- These are the calls of a visitor that is heeded, when it is offered a list. -/
inductive Heeded : List (Offer ε) → Bool → Calls ε → Prop where
  /-- It was called on the whole list and never stopped it. -/
  | never (offers : List (Offer ε)) : Heeded offers false (offers.map (·, false))
  /-- It was called up to the first offer that it stopped at. -/
  | stoppedAt (before : List (Offer ε)) (last : Offer ε) (after : List (Offer ε)) :
    Heeded (before ++ last :: after) true (before.map (·, false) ++ [(last, true)])

theorem Heeded.cons {rest : List (Offer ε)} {stopped : Bool} {calls : Calls ε}
    (h : Heeded rest stopped calls) (offer : Offer ε) :
    Heeded (offer :: rest) stopped ((offer, false) :: calls) := by
  cases h with
  | never => exact .never (offer :: rest)
  | stoppedAt before last after => exact .stoppedAt (offer :: before) last after

/-- The walk goes through its list of offers and heeds its visitor. -/
structure Producer.Obeys (producer : Producer ε) : Prop where
  /-- The visitor does on the walk what it does on the list, whatever its effects are. -/
  eq_ofList : ∀ (m : Type → Type) [Monad m] [LawfulMonad m] (visit : Visitor m ε),
    producer m visit = Feed.ofList producer.offers visit
  /-- A visitor with a state of its own is called up to its first `true`. -/
  heeded : ∀ (σ : Type) (visit : Visitor (StateM σ) ε) (start : σ),
    ∃ stopped calls finish,
      (((producer (StateT (Calls ε) (StateM σ))).traced fun offer => visit offer).run []).run
        start = ((stopped, calls), finish) ∧ Heeded producer.offers stopped calls

theorem ofList_traced_run {σ : Type} (visit : Visitor (StateM σ) ε) (list : List (Offer ε))
    (log : Calls ε) (start : σ) :
    ∃ stopped calls finish,
      (((Feed.ofList (m := StateT (Calls ε) (StateM σ)) list).traced fun offer => visit offer).run
        log).run start = ((stopped, log ++ calls), finish) ∧ Heeded list stopped calls := by
  induction list generalizing log start with
  | nil => exact ⟨false, [], start, by rw [List.append_nil]; rfl, .never []⟩
  | cons offer rest ih =>
    obtain ⟨⟨stop, next⟩, hvisit⟩ : ∃ result, (visit offer).run start = pure result := ⟨_, rfl⟩
    simp only [Feed.traced, Feed.ofList_cons, StateT.run_bind, Visitor.traced_run] at ih ⊢
    cases stop with
    | true =>
      refine ⟨true, [(offer, true)], next, ?_, .stoppedAt [] offer rest⟩
      simp [hvisit]
      rfl
    | false =>
      obtain ⟨stopped, calls, finish, hrun, hheeded⟩ := ih (log ++ [(offer, false)]) next
      refine ⟨stopped, (offer, false) :: calls, finish, ?_, hheeded.cons offer⟩
      rw [List.append_assoc, List.singleton_append] at hrun
      simp [hvisit, hrun]

theorem Producer.Obeys.of_list {producer : Producer ε} (list : List (Offer ε))
    (h : ∀ (m : Type → Type) [Monad m] [LawfulMonad m] (visit : Visitor m ε),
      producer m visit = Feed.ofList list visit) : producer.Obeys := by
  have hoffers : producer.offers = list := Feed.offers_eq (h _)
  constructor
  · intro m _ _ visit
    rw [h, hoffers]
  · intro σ visit start
    obtain ⟨stopped, calls, finish, hrun, hheeded⟩ := ofList_traced_run visit list [] start
    rw [List.nil_append] at hrun
    refine ⟨stopped, calls, finish, ?_, hoffers ▸ hheeded⟩
    rw [← hrun, Feed.traced, h]
    rfl

theorem Producer.Obeys.of_entries {producer : Producer ε} (list : List ε)
    (h : ∀ (m : Type → Type) [Monad m] [LawfulMonad m] (visit : Visitor m ε),
      producer m visit = Feed.entries list visit) : producer.Obeys :=
  .of_list (list.map .candidate) h

/-- All ten walks heed their visitors: over declarations, candidates, and declarations under a
substitution; over an item scope and a lexical chain; over the crates a crate can name; and over
members, members as candidates, methods, and the methods of a receiver. -/
theorem producers_obey :
    (∀ es, Producer.Obeys fun m _ => Feed.elements (m := m) .empty es) ∧
    (∀ es : List Entry, Producer.Obeys fun m _ => Feed.entries (m := m) es) ∧
    (∀ subst es, Producer.Obeys fun m _ => Feed.elements (m := m) subst es) ∧
    (∀ (graph : ScopeGraph) scope, Producer.Obeys fun m _ => graph.feed (m := m) scope) ∧
    (∀ graph layers, Producer.Obeys fun m _ => lexicalFeed (m := m) graph layers) ∧
    (∀ (graph : CrateGraph) id withSelf forCompletion,
      Producer.Obeys fun m _ => graph.externFeed (m := m) id withSelf forCompletion) ∧
    (∀ providers, Producer.Obeys fun m _ => memberFeed (m := m) providers) ∧
    (∀ providers, Producer.Obeys fun m _ => memberEntryFeed (m := m) providers) ∧
    (∀ providers derefs, Producer.Obeys fun m _ => methodFeed (m := m) providers derefs) ∧
    (∀ receiver providers,
      Producer.Obeys fun m _ => receiverFeed (m := m) receiver providers) := by
  refine ⟨?_, ?_, ?_, ?_, ?_, ?_, ?_, ?_, ?_, ?_⟩
  · intro es
    exact .of_entries _ fun m _ _ visit => Feed.elements_eq_entries .empty es visit
  · intro es
    exact .of_entries es fun m _ _ visit => rfl
  · intro subst es
    exact .of_entries _ fun m _ _ visit => Feed.elements_eq_entries subst es visit
  · intro graph scope
    exact .of_list _ fun m _ _ visit => graph.feed_eq_ofList scope visit
  · intro graph layers
    exact .of_list _ fun m _ _ visit => lexicalFeed_eq_ofList graph layers visit
  · intro graph id withSelf forCompletion
    exact .of_entries _ fun m _ _ visit =>
      graph.externFeed_eq_entries forCompletion id withSelf visit
  · intro providers
    exact .of_entries _ fun m _ _ visit => memberFeed_eq_entries providers visit
  · intro providers
    exact .of_entries _ fun m _ _ visit => memberEntryFeed_eq_entries providers visit
  · intro providers derefs
    exact .of_entries _ fun m _ _ visit => methodFeed_eq_entries providers derefs visit
  · intro receiver providers
    exact .of_entries _ fun m _ _ visit => receiverFeed_eq_entries receiver providers visit

end ScopeWalk
