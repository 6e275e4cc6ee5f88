import ScopeWalk.Feed.VisibleFrom
import ScopeWalk.Proofs.Candidate.Acceptance
import ScopeWalk.Proofs.Feed.Steps

/-!
# Visitors that are spared what is of no use

A visitor that is kept to a module is called on some of the offers, in their order. The others are
answered in its place. Every candidate is asked for its element first, and once it was asked it
gives the same answer without anything being done. That is why such visitors can be nested in either
order, and why it changes nothing to nest two for the same module.
-/
namespace ScopeWalk

/-! ### Asking twice -/

namespace Entry

/-- How the element is found when the candidate is asked for it. -/
def lookup : Entry → Walk (Option Element)
  | .direct entry => pure (some entry.element)
  | .deferred entry => entry.lookup
  | .member entry => pure (some entry.element)

/-- The candidate when it is known what there is to be found. Only a deferred one has to remember
it. -/
def settle (entry : Entry) (found : Option Element) : Entry :=
  match entry with
  | .direct entry => .direct entry
  | .deferred entry => .deferred (entry.settle found)
  | .member entry => .member entry

theorem force_eq (entry : Entry) :
    entry.force = entry.lookup >>= fun found => pure (found, entry.settle found) := by
  cases entry with
  | direct entry => rfl
  | deferred entry =>
    show (entry.force >>= fun result => pure (result.1, Entry.deferred result.2)) = _
    rw [entry.force_eq, bind_assoc]
    rfl
  | member entry => rfl

/-- Nothing but what it remembers of its element is changed. -/
theorem settle_same (entry : Entry) (found : Option Element) :
    (entry.settle found).name = entry.name ∧ (entry.settle found).subst = entry.subst ∧
      (entry.settle found).isExternCrate = entry.isExternCrate := by
  cases entry <;> exact ⟨rfl, rfl, rfl⟩

theorem settle_settle (entry : Entry) (found other : Option Element) :
    (entry.settle found).settle other = entry.settle other := by
  cases entry <;> rfl

/-- In the store where the candidate is asked, this is what it gives. -/
theorem elementIn_of_lookup {entry : Entry} {store : Store} {found : Option Element}
    (h : entry.lookup.answer store = .ok found) : Candidate.elementIn store entry = found := by
  have hforce : (Candidate.force entry).answer store = .ok (found, entry.settle found) := by
    show entry.force.answer store = _
    rw [force_eq, Walk.answer_bind_pure, h]
    rfl
  simp only [Candidate.elementIn, hforce]

end Entry

section Lifted

variable {n : Type → Type} [Monad n] [LawfulMonad n] [MonadLiftT Walk n] [LawfulMonadLiftT Walk n]

theorem Entry.liftM_force (entry : Entry) (next : Option Element × Entry → n β) :
    (liftM entry.force : n _) >>= next =
      liftM entry.lookup >>= fun found => next (found, entry.settle found) := by
  rw [entry.force_eq, liftM_bind, bind_assoc]
  simp only [liftM_pure, pure_bind]

/-- What is done after a candidate was asked may rely on this: to ask it again is to do nothing, and
gives the same answer. -/
theorem Entry.liftM_lookup_congr (entry : Entry) {next other : Option Element → n β}
    (h : ∀ found, (entry.settle found).lookup = pure found → next found = other found) :
    liftM entry.lookup >>= next = liftM entry.lookup >>= other := by
  cases entry with
  | direct entry =>
    simp only [lookup, liftM_pure, pure_bind]
    exact h _ rfl
  | deferred entry => exact bind_congr fun found => h found rfl
  | member entry =>
    simp only [lookup, liftM_pure, pure_bind]
    exact h _ rfl

end Lifted

/-! ### What is of use in a module -/

/-- The declaration can be named in the module, unless it has no visibility at all, and if it is
hidden from documentation, then it is the module's own. -/
def Decl.OfUseIn (decl : Decl) (importer : Module) : Prop :=
  (∀ visibility, decl.visibility = some visibility →
    visibility.admits decl.module.path importer.path = true) ∧
  (decl.isDocHidden = true → decl.module.path = importer.path)

theorem Decl.isOfferedIn_iff (decl : Decl) {importer : Module} :
    decl.isOfferedIn importer = true ↔ decl.OfUseIn importer := by
  unfold isOfferedIn OfUseIn isVisibleFrom Module.same
  cases decl.visibility <;> cases decl.isDocHidden <;> simp

instance (decl : Decl) (importer : Module) : Decidable (decl.OfUseIn importer) :=
  decidable_of_iff _ decl.isOfferedIn_iff

theorem Decl.isOfferedIn_eq (decl : Decl) (importer : Module) :
    decl.isOfferedIn importer = decide (decl.OfUseIn importer) := by
  rw [Bool.eq_iff_iff, isOfferedIn_iff, decide_eq_true_iff]

/-- The offer is an announcement, or a candidate without an element, or one whose element is of use
in the module. -/
def Offer.PassesIn (importer : Module) (store : Store) : Offer Entry → Prop
  | .globBoundary => True
  | .candidate entry => ∀ element, Candidate.elementIn store entry = some element →
    element.OfUseIn importer

/-- The offer once its candidate was asked for the element. -/
def Offer.asked (store : Store) : Offer Entry → Offer Entry
  | .globBoundary => .globBoundary
  | .candidate entry => .candidate (entry.settle (Candidate.elementIn store entry))

theorem all_isOfferedIn_iff {importer : Module} {found : Option Element} :
    found.all (·.isOfferedIn importer) = true ↔
      ∀ element, found = some element → element.OfUseIn importer := by
  cases found <;> simp [Decl.isOfferedIn_iff]

instance (importer : Module) (store : Store) (offer : Offer Entry) :
    Decidable (offer.PassesIn importer store) :=
  match offer with
  | .globBoundary => inferInstanceAs (Decidable True)
  | .candidate _ => decidable_of_iff _ all_isOfferedIn_iff

namespace Visitor

variable {n : Type → Type} [Monad n] [LawfulMonad n] [MonadLiftT Walk n] [LawfulMonadLiftT Walk n]

theorem visibleFrom_candidate (importer : Module) (visit : Visitor n Entry) (entry : Entry) :
    visit.visibleFrom importer (.candidate entry) = (do
      let found ← liftM entry.lookup
      if found.all (·.isOfferedIn importer) then visit (.candidate (entry.settle found))
      else pure false) :=
  entry.liftM_force _

/-- Two visitors around another one ask once, and hand on what is of use in both modules. -/
theorem visibleFrom_visibleFrom_candidate (first second : Module) (visit : Visitor n Entry)
    (entry : Entry) :
    (visit.visibleFrom first).visibleFrom second (.candidate entry) = (do
      let found ← liftM entry.lookup
      if found.all fun element => element.isOfferedIn first && element.isOfferedIn second then
        visit (.candidate (entry.settle found))
      else pure false) := by
  rw [visibleFrom_candidate]
  refine entry.liftM_lookup_congr fun found hagain => ?_
  rw [visibleFrom_candidate, hagain, liftM_pure, pure_bind, Entry.settle_settle]
  cases found with
  | none => rfl
  | some element =>
    by_cases hsecond : element.isOfferedIn second = true <;> simp [hsecond]

theorem visibleFrom_comm (first second : Module) (visit : Visitor n Entry) :
    (visit.visibleFrom first).visibleFrom second =
      (visit.visibleFrom second).visibleFrom first := by
  funext offer
  cases offer with
  | globBoundary => rfl
  | candidate entry =>
    rw [visibleFrom_visibleFrom_candidate, visibleFrom_visibleFrom_candidate]
    simp only [Bool.and_comm]

theorem visibleFrom_idem (importer : Module) (visit : Visitor n Entry) :
    (visit.visibleFrom importer).visibleFrom importer = visit.visibleFrom importer := by
  funext offer
  cases offer with
  | globBoundary => rfl
  | candidate entry =>
    rw [visibleFrom_visibleFrom_candidate, visibleFrom_candidate]
    simp only [Bool.and_self]

end Visitor

/-! ### Calls on many offers -/

/-- A call of a visitor: the store it was made in, what was offered, and what was answered. -/
structure Call where
  store : Store
  offer : Offer Entry
  answer : Bool

/-- The call of the visitor inside that a call comes to, if its offer passes: it is the same offer,
once asked, and the same answer. -/
def Call.inside? (importer : Module) (call : Call) : Option (Offer Entry × Bool) :=
  if call.offer.PassesIn importer call.store then
    some (call.offer.asked call.store, call.answer)
  else none

/-- Call a visitor on some offers one after another, whatever it answers. -/
def Visitor.serve {n : Type → Type} [Monad n] [MonadLiftT Walk n] (visit : Visitor n Entry) :
    List (Offer Entry) → n (List Call)
  | [] => pure []
  | offer :: rest => do
    let store ← (get : Walk Store)
    let answer ← visit offer
    let calls ← visit.serve rest
    return ⟨store, offer, answer⟩ :: calls

namespace Step

variable {σ : Type}

/-- The visitor that takes this step on what is of use in a module, with the calls inside written
down. -/
def sifting (step : Step σ) (importer : Module) :
    Visitor (StateT σ (StateT (Calls Entry) Walk)) Entry :=
  (step.visitor (StateT (Calls Entry) Walk)).traced.visibleFrom importer

section Runs

variable (step : Step σ) (importer : Module) (kept : σ) (log : Calls Entry)

theorem sifting_boundary_run : ((step.sifting importer .globBoundary).run kept).run log = (do
    let result ← step .globBoundary kept
    return (result, log ++ [(.globBoundary, result.1)])) :=
  traced_visitor_run step kept log .globBoundary

theorem sifting_candidate_run (entry : Entry) :
    ((step.sifting importer (.candidate entry)).run kept).run log = (do
      let found ← entry.lookup
      if found.all (·.isOfferedIn importer) then
        let result ← step (.candidate (entry.settle found)) kept
        return (result, log ++ [(.candidate (entry.settle found), result.1)])
      else return ((false, kept), log)) := by
  rw [sifting, Visitor.visibleFrom_candidate]
  simp only [StateT.run_bind, StateT.run_monadLift, bind_assoc, pure_bind]
  show (entry.lookup >>= _) = _
  refine bind_congr fun found => ?_
  cases found.all (·.isOfferedIn importer) with
  | false => rfl
  | true => exact traced_visitor_run step kept log _

theorem serve_sifting_cons_run (offer : Offer Entry) (rest : List (Offer Entry)) :
    (((step.sifting importer).serve (offer :: rest)).run kept).run log = (do
      let store ← get
      let ((answer, kept), log) ← ((step.sifting importer offer).run kept).run log
      let ((calls, kept), log) ← (((step.sifting importer).serve rest).run kept).run log
      return ((⟨store, offer, answer⟩ :: calls, kept), log)) := by
  rw [Visitor.serve]
  simp only [StateT.run_bind, StateT.run_monadLift, bind_assoc, pure_bind]
  rfl

end Runs

section Calls

variable {step : Step σ} {importer : Module} {kept next : σ} {log written : Calls Entry}
  {store : Store}

/-- One call: if the offer passes, the visitor inside was called on it, and otherwise the answer is
no. -/
theorem sifting_call {offer : Offer Entry} {answer : Bool}
    (h : (((step.sifting importer offer).run kept).run log).answer store =
      .ok ((answer, next), written)) :
    written = log ++ ((⟨store, offer, answer⟩ : Call).inside? importer).toList ∧
      (¬ offer.PassesIn importer store → answer = false) := by
  cases offer with
  | globBoundary =>
    rw [sifting_boundary_run] at h
    obtain ⟨result, -, hreturn⟩ := Walk.answer_bind_ok h
    cases hreturn
    exact ⟨rfl, fun hpasses => absurd trivial hpasses⟩
  | candidate entry =>
    rw [sifting_candidate_run] at h
    obtain ⟨found, hfound, hrest⟩ := Walk.answer_bind_ok h
    have helement := Entry.elementIn_of_lookup hfound
    have hpasses : found.all (·.isOfferedIn importer) = true ↔
        (Offer.candidate entry).PassesIn importer store := by
      rw [all_isOfferedIn_iff, Offer.PassesIn, helement]
    split at hrest
    case isTrue hoffered =>
      obtain ⟨result, -, hreturn⟩ := Walk.answer_bind_ok hrest
      cases hreturn
      have hpasses := hpasses.mp hoffered
      refine ⟨?_, fun hdropped => absurd hpasses hdropped⟩
      rw [Call.inside?, if_pos hpasses, Offer.asked, helement]
      rfl
    case isFalse hoffered =>
      cases hrest
      have hdropped := mt hpasses.mpr hoffered
      refine ⟨?_, fun _ => rfl⟩
      rw [Call.inside?, if_neg hdropped, Option.toList_none, List.append_nil]

/-- Many calls: the visitor inside was called on what passes, in order. The induction is on the
offers. -/
theorem serve_sifting {offers : List (Offer Entry)} {calls : List Call}
    (h : ((((step.sifting importer).serve offers).run kept).run log).answer store =
      .ok ((calls, next), written)) :
    calls.map (·.offer) = offers ∧ written = log ++ calls.filterMap (Call.inside? importer) ∧
      ∀ call ∈ calls, ¬ call.offer.PassesIn importer call.store → call.answer = false := by
  induction offers generalizing kept log store calls with
  | nil =>
    cases h
    simp
  | cons offer rest ih =>
    rw [serve_sifting_cons_run] at h
    obtain ⟨_, hstore, h⟩ := Walk.answer_bind_ok h
    cases hstore
    change Walk.answer _ store = _ at h
    obtain ⟨⟨⟨answer, middle⟩, between⟩, hcall, h⟩ := Walk.answer_bind_ok h
    obtain ⟨⟨⟨later, last⟩, whole⟩, hlater, h⟩ := Walk.answer_bind_ok h
    cases h
    obtain ⟨hfirst, hanswer⟩ := sifting_call hcall
    obtain ⟨hoffers, hwritten, hanswers⟩ := ih hlater
    refine ⟨by rw [List.map_cons, hoffers], ?_, List.forall_mem_cons.mpr ⟨hanswer, hanswers⟩⟩
    rw [hwritten, hfirst, List.append_assoc, List.filterMap_cons]
    cases (⟨store, offer, answer⟩ : Call).inside? importer <;> rfl

end Calls

end Step

/-- A visitor that is kept to a module asks every candidate for its element and hands on what is of
use, with nothing changed but that the candidate remembers; it answers what the visitor inside
answers, and no for all else. So of many offers the visitor inside is called on those that pass, in
order. Two of them around another one, for the same module, are like one. For two modules it makes
no difference which of them is inside, not in what is asked either: they are the same
computation. -/
theorem Visitor.visibleFrom_sifts (importer : Module) :
    (∀ (n : Type → Type) [Monad n] [LawfulMonad n] [MonadLiftT Walk n] [LawfulMonadLiftT Walk n]
      (visit : Visitor n Entry),
      visit.visibleFrom importer .globBoundary = visit .globBoundary ∧
      (∀ entry : Entry, visit.visibleFrom importer (.candidate entry) = (do
        let found ← liftM entry.lookup
        if found.all fun element => element.OfUseIn importer then
          visit (.candidate (entry.settle found))
        else return false)) ∧
      (visit.visibleFrom importer).visibleFrom importer = visit.visibleFrom importer ∧
      ∀ other, (visit.visibleFrom importer).visibleFrom other =
        (visit.visibleFrom other).visibleFrom importer) ∧
    (∀ (σ : Type) (step : Step σ) (offers : List (Offer Entry)) (start finish : σ) (store : Store)
      (calls : List Call) (inside : Calls Entry),
      ((((step.sifting importer).serve offers).run start).run []).answer store =
        .ok ((calls, finish), inside) →
      calls.map (·.offer) = offers ∧ inside = calls.filterMap (Call.inside? importer) ∧
        ∀ call ∈ calls, ¬ call.offer.PassesIn importer call.store → call.answer = false) ∧
    ∀ (entry : Entry) (found : Option Element), (entry.settle found).name = entry.name ∧
      (entry.settle found).subst = entry.subst ∧
      (entry.settle found).isExternCrate = entry.isExternCrate := by
  refine ⟨?_, ?_, Entry.settle_same⟩
  · intro n _ _ _ _ visit
    refine ⟨rfl, fun entry => ?_, visibleFrom_idem importer visit, fun other => ?_⟩
    · simpa only [Decl.isOfferedIn_eq] using visibleFrom_candidate importer visit entry
    · exact visibleFrom_comm importer other visit
  · intro σ step offers start finish store calls inside h
    exact Step.serve_sifting h

/-- Counts its calls, and wants to stop at the second. -/
def sampleCounter : Step Nat := fun _ count => pure (count == 1, count + 1)

/-- An announcement, something public and something private of a module inside, and a name with
nothing behind it. -/
def sampleSifted (inner : Module) : List (Offer Entry) :=
  let item : Decl := .ofKind .const inner
  [.globBoundary,
    .candidate
      (.ofElement ⟨"shown"⟩ { item with visibility := some .pub, id := .declared 0 } .empty),
    .candidate (.ofElement ⟨"secret"⟩ { item with id := .declared 1 } .empty),
    .candidate (.deferred (.ofThunk ⟨"absent"⟩ (.known none) false))]

/-- Of four offers the counter sees all but the private one, and two modules can be asked in either
order. -/
theorem Visitor.visibleFrom_sifts_sample :
    let outer : Module := .root ⟨⟨0⟩, ⟨"main"⟩, .workspace, .empty⟩
    let inner : Module := { outer with path := outer.path.child ⟨"inner"⟩ }
    let offers := sampleSifted inner
    let visit := sampleCounter.visitor Walk
    ∃ calls inside,
      ((((sampleCounter.sifting outer).serve offers).run 0).run []).answer ⟨.empty .plain, []⟩ =
        .ok ((calls, 3), inside) ∧
      calls.map (·.answer) = [false, true, false, false] ∧
      inside.map (·.2) = [false, true, false] ∧
      inside = calls.filterMap (Call.inside? outer) ∧
      (visit.visibleFrom outer).visibleFrom inner =
        (visit.visibleFrom inner).visibleFrom outer := by
  intro outer inner offers visit
  obtain ⟨hvisitors, hcalls, -⟩ := visibleFrom_sifts outer
  refine ⟨_, _, rfl, rfl, rfl, ?_, ?_⟩
  · exact (hcalls Nat sampleCounter offers 0 3 ⟨.empty .plain, []⟩ _ _ rfl).2.1
  · exact (hvisitors (StateT Nat Walk) visit).2.2.2 inner

end ScopeWalk
