import ScopeWalk.Feed.Basic

/-!
# Walks as lists of offers

What a walk offers does not depend on who listens: every walk of this library goes through a
fixed list of offers and stops where its visitor says so. This module has the laws by which the
lists of smaller walks are put together to those of larger ones, and `Feed.offers`, which reads
the list off any walk by running it with a visitor that never stops it.
-/
namespace ScopeWalk

/-- Never stops a walk, and writes down what it is offered. -/
def Visitor.listening : Visitor (StateM (List (Offer ε))) ε := fun offer => do
  modify (· ++ [offer])
  return false

namespace Feed

/-- What a walk offers when it is never stopped, in order. -/
def offers (feed : Feed (StateM (List (Offer ε))) ε) : List (Offer ε) :=
  ((feed Visitor.listening).run []).2

section Laws

variable {m : Type → Type u} [Monad m]

@[simp] theorem ofList_nil (visit : Visitor m ε) : ofList [] visit = pure false := rfl

theorem ofList_cons (offer : Offer ε) (rest : List (Offer ε)) (visit : Visitor m ε) :
    ofList (offer :: rest) visit = (do
      if ← visit offer then return true
      ofList rest visit) := by
  simp only [ofList, List.anyM_cons]

@[simp] theorem optional_none (visit : Visitor m ε) : optional none visit = pure false := rfl

@[simp] theorem optional_some (e : ε) (visit : Visitor m ε) :
    optional (some e) visit = visit (.candidate e) := rfl

theorem map_ofList (f : ε → δ) (list : List (Offer ε)) (visit : Visitor m δ) :
    (ofList list).map f visit = ofList (list.map (Offer.map f)) visit := by
  simp only [map, ofList]
  induction list with
  | nil => rfl
  | cons offer rest ih => simp only [List.map_cons, List.anyM_cons, ih]

theorem map_entries (f : ε → δ) (list : List ε) (visit : Visitor m δ) :
    (entries list).map f visit = entries (list.map f) visit := by
  simp only [entries, map_ofList, List.map_map]
  rfl

variable [LawfulMonad m]

theorem ofList_append (first second : List (Offer ε)) (visit : Visitor m ε) :
    ofList (first ++ second) visit = (do
      if ← ofList first visit then return true
      ofList second visit) := by
  induction first with
  | nil => simp
  | cons offer first ih =>
    rw [List.cons_append, ofList_cons, ofList_cons, ih]
    simp only [bind_assoc]
    refine bind_congr fun stopped => ?_
    cases stopped <;> simp

theorem entries_append (first second : List ε) (visit : Visitor m ε) :
    entries (first ++ second) visit = (do
      if ← entries first visit then return true
      entries second visit) := by
  simp only [entries, List.map_append, ofList_append]

/-- One walk after another offers one list after another. -/
theorem anyM_ofList (offersOf : α → List (Offer ε)) (sources : List α) (visit : Visitor m ε) :
    (sources.anyM fun source => ofList (offersOf source) visit) =
      ofList (sources.flatMap offersOf) visit := by
  induction sources with
  | nil => rfl
  | cons source sources ih => rw [List.flatMap_cons, ofList_append, ← ih, List.anyM_cons]

/-- Sources that give at most one candidate each. -/
theorem anyM_optional (pick : α → Option ε) (sources : List α) (visit : Visitor m ε) :
    (sources.anyM fun source => optional (pick source) visit) =
      entries (sources.filterMap pick) visit := by
  induction sources with
  | nil => rfl
  | cons source sources ih =>
    cases hpick : pick source with
    | none => simp [hpick, ih]
    | some e =>
      rw [List.filterMap_cons_some hpick]
      simp only [List.anyM_cons, hpick, optional_some, ih, entries, List.map_cons, ofList_cons]

/-- Sources that give any number of candidates each. -/
theorem anyM_entries (entriesOf : α → List ε) (sources : List α) (visit : Visitor m ε) :
    (sources.anyM fun source => entries (entriesOf source) visit) =
      entries (sources.flatMap entriesOf) visit := by
  simp only [entries, anyM_ofList, List.map_flatMap]

theorem elements_eq_entries (subst : Substitution) (es : List Element) (visit : Visitor m Entry) :
    elements subst es visit = entries (es.filterMap (Entry.named? subst)) visit :=
  anyM_optional (Entry.named? subst) es visit

end Laws

theorem listening_run (list seen : List (Offer ε)) :
    (ofList list Visitor.listening).run seen = (false, seen ++ list) := by
  induction list generalizing seen with
  | nil =>
    rw [ofList_nil, List.append_nil]
    rfl
  | cons offer rest ih =>
    rw [ofList_cons]
    simp [Visitor.listening, ih]

/-- A walk that goes through a list offers that list. -/
theorem offers_eq {feed : Feed (StateM (List (Offer ε))) ε} {list : List (Offer ε)}
    (h : ∀ visit, feed visit = ofList list visit) : feed.offers = list := by
  simp only [offers, h, listening_run, List.nil_append]

end Feed

end ScopeWalk
