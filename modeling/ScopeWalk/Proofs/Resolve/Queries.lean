import ScopeWalk.Completion.Collect
import ScopeWalk.Proofs.Crates.Reading
import ScopeWalk.Proofs.Feed.Steps
import ScopeWalk.Proofs.Resolve.Collecting

/-!
# Whatever is asked

The drivers differ in what they keep of a walk and when they stop it, but each of them follows the
walk step by step: it is handed an offer, possibly asks a candidate for its element, keeps
something, and says whether it has seen enough. Nothing else happens to the store.
-/
namespace ScopeWalk

/-- The candidate can be asked for its element, and nothing is done for it but to read roots. -/
def Offer.IsReadable : Offer Entry → Prop
  | .candidate entry => entry.force.ReadsRoots
  | .globBoundary => True

/-- What is asked about a walk. The answer is of type `σ`, and so is what is kept meanwhile. -/
inductive Query : Type → Type 1 where
  | collect (name : Name) : Query (List Element)
  | collectBound (name : Name) : Query (List (Element × Substitution))
  | collectEntries (name : Name) : Query (List Entry)
  | pickFirst (name : Name) : Query (Option Element)
  | suggest {σ : Type} (add : σ → Suggestion → σ) (start : σ) (site : CompletionSite) : Query σ
  /-- Anything else that is asked by way of the elements of candidates and of crate roots. -/
  | custom {σ : Type} (step : Offer Entry → σ → Walk (Bool × σ)) (start : σ)
      (reads : ∀ offer kept, offer.IsReadable → (step offer kept).ReadsRoots) : Query σ

namespace Query

variable {σ : Type}

/-- The driver that finds the answer. -/
def run (n : Type → Type) [Monad n] [MonadLiftT Walk n] :
    Query σ → Feed (StateT σ n) Entry → n σ
  | .collect name, feed => ScopeWalk.collect name feed
  | .collectBound name, feed => ScopeWalk.collectBound name feed
  | .collectEntries name, feed => ScopeWalk.collectEntries name feed
  | .pickFirst name, feed => ScopeWalk.pickFirst name feed
  | .suggest add start site, feed => ScopeWalk.suggest add start site feed
  | .custom step start _, feed => do
    let (_, kept) ← (feed fun offer kept => liftM (step offer kept)).run start
    return kept

def visitor (n : Type → Type) [Monad n] [MonadLiftT Walk n] :
    Query σ → Visitor (StateT σ n) Entry
  | .collect name => collector name fun _ element => element
  | .collectBound name => collector name fun entry element => (element, entry.subst)
  | .collectEntries name => collector name fun entry _ => entry
  | .pickFirst name => picker name
  | .suggest add _ site => suggester add site
  | .custom step _ _ => fun offer kept => liftM (step offer kept)

/-- What is kept before the walk begins. -/
def start : Query σ → σ
  | .collect _ => []
  | .collectBound _ => []
  | .collectEntries _ => []
  | .pickFirst _ => none
  | .suggest _ start _ => start
  | .custom _ start _ => start

/-- What a collector does on an offer. -/
def collectStep {β : Type} (name : Name) (keep : Entry → Element → β) :
    Offer Entry → List β → Walk (Bool × List β)
  | .globBoundary, kept => pure (!kept.isEmpty, kept)
  | .candidate entry, kept =>
    (fun accepted => (false, kept ++ accepted.toList.map fun hit => keep hit.1 hit.2)) <$>
      judge name entry

/-- What the driver does on an offer: whether it stops the walk there, and what it has kept
then. -/
def step : Query σ → Offer Entry → σ → Walk (Bool × σ)
  | .collect name => collectStep name fun _ element => element
  | .collectBound name => collectStep name fun entry element => (element, entry.subst)
  | .collectEntries name => collectStep name fun entry _ => entry
  | .pickFirst name => fun
    | .globBoundary, kept => pure (false, kept)
    | .candidate entry, kept =>
      (fun accepted => (accepted.isSome, (accepted.map Prod.snd).or kept)) <$> judge name entry
  | .suggest add _ site => fun
    | .globBoundary, kept => pure (false, kept)
    | .candidate entry, kept =>
      (fun (found, entry) => (false, (found.filter (·.isSuggested)).elim kept fun element =>
        add kept (.ofEntry site entry element.toDecl))) <$> entry.force
  | .custom step _ _ => step

section Steps

variable {n : Type → Type} [Monad n] [MonadLiftT Walk n]

theorem run_eq (query : Query σ) (feed : Feed (StateT σ n) Entry) :
    query.run n feed = do
      let (_, kept) ← (feed (query.visitor n)).run query.start
      return kept := by
  cases query <;> rfl

variable [LawfulMonad n] [LawfulMonadLiftT Walk n]

theorem collector_run {β : Type} (name : Name) (keep : Entry → Element → β) (offer : Offer Entry)
    (kept : List β) : (collector (n := n) name keep offer).run kept =
      liftM (collectStep name keep offer kept) := by
  cases offer with
  | globBoundary => rw [collector_boundary, collectStep, liftM_pure]
  | candidate entry =>
    rw [collector_candidate, collectStep, liftM_map, map_eq_pure_bind]

theorem picker_run (name : Name) (offer : Offer Entry) (kept : Option Element) :
    (picker (n := n) name offer).run kept = liftM ((pickFirst name).step offer kept) := by
  cases offer with
  | globBoundary =>
    rw [step, liftM_pure]
    rfl
  | candidate entry =>
    have hentry : Candidate.name entry = entry.name := rfl
    simp only [step, judge, picker, hentry]
    by_cases hname : entry.name = name
    · simp only [hname, bne_self_eq_false, Bool.false_eq_true, ↓reduceIte, StateT.run_bind,
        StateT.run_monadLift, liftM_map, liftM_bind, map_bind, bind_assoc, pure_bind]
      refine bind_congr fun asked => ?_
      obtain ⟨found, entry⟩ := asked
      cases found with
      | none => simp
      | some element => cases helement : element.isEnabled <;> simp [helement, Option.filter]
    · simp [hname]

theorem suggester_run (add : σ → Suggestion → σ) (start : σ) (site : CompletionSite)
    (offer : Offer Entry) (kept : σ) :
    (suggester (n := n) add site offer).run kept =
      liftM ((suggest add start site).step offer kept) := by
  cases offer with
  | globBoundary =>
    rw [step, liftM_pure]
    rfl
  | candidate entry =>
    simp only [step, suggester, StateT.run_bind, StateT.run_monadLift, map_eq_pure_bind, liftM_bind,
      bind_assoc, pure_bind]
    refine bind_congr fun asked => ?_
    obtain ⟨found, entry⟩ := asked
    cases found with
    | none => simp
    | some element => cases helement : element.isSuggested <;> simp [helement, Option.filter]

theorem visitor_run (query : Query σ) (offer : Offer Entry) (kept : σ) :
    (query.visitor n offer).run kept = liftM (query.step offer kept) := by
  cases query with
  | collect name => exact collector_run name (fun _ element => element) offer kept
  | collectBound name =>
    exact collector_run name (fun entry element => (element, entry.subst)) offer kept
  | collectEntries name => exact collector_run name (fun entry _ => entry) offer kept
  | pickFirst name => exact picker_run name offer kept
  | suggest add start site => exact suggester_run add start site offer kept
  | custom step start reads => rfl

theorem visitor_eq (query : Query σ) : query.visitor n = Step.visitor query.step n := by
  funext offer kept
  exact query.visitor_run offer kept

end Steps

/-! ### Whole walks -/

/-- The driver on a list of offers, with the calls of its visitor written down. Something may have
been kept before, and some calls made. -/
def follow (query : Query σ) :
    List (Offer Entry) → σ → Calls Entry → Walk ((Bool × σ) × Calls Entry)
  | [], kept, calls => pure ((false, kept), calls)
  | offer :: rest, kept, calls => do
    let result ← query.step offer kept
    if result.1 then return (result, calls ++ [(offer, true)])
    query.follow rest result.2 (calls ++ [(offer, false)])

/-- What the driver makes of a walk that starts from a store, and the calls of its visitor. -/
structure Gives (query : Query σ) (producer : Producer Entry) (store : Store) (result : σ)
    (calls : Calls Entry) : Prop where
  answer : (query.run Walk (producer _)).answer store = .ok result
  traced : ((query.run (StateT (Calls Entry) Walk) (producer _).traced).run []).answer store =
    .ok (result, calls)

section Walks

variable (query : Query σ) (offers : List (Offer Entry)) (kept : σ) (calls : Calls Entry)

theorem follow_eq : query.follow offers kept calls = Step.follow query.step offers kept calls := by
  induction offers generalizing kept calls with
  | nil => rfl
  | cons offer rest ih => simp only [follow, Step.follow, ih]

theorem ofList_traced_run :
    (((Feed.ofList (m := StateT σ (StateT (Calls Entry) Walk)) offers).traced
      (query.visitor _)).run kept).run calls = query.follow offers kept calls := by
  rw [visitor_eq, Step.ofList_traced_visitor_run, follow_eq]

theorem ofList_run : (Feed.ofList (m := StateT σ Walk) offers (query.visitor _)).run kept =
    Prod.fst <$> query.follow offers kept calls := by
  rw [visitor_eq, Step.ofList_visitor_run query.step offers kept calls, follow_eq]

theorem run_list : query.run Walk (Feed.ofList offers) =
    (fun followed => followed.1.2) <$> query.follow offers query.start [] := by
  rw [run_eq, ofList_run query offers query.start []]
  simp

theorem traced_run_list :
    (query.run (StateT (Calls Entry) Walk) (Feed.ofList offers).traced).run [] =
      (fun followed => (followed.1.2, followed.2)) <$> query.follow offers query.start [] := by
  rw [run_eq, StateT.run_bind, ofList_traced_run]
  rfl

end Walks

/-! ### What happens to the store -/

theorem judge_reads (name : Name) {entry : Entry} (h : entry.force.ReadsRoots) :
    (judge name entry).ReadsRoots := by
  unfold judge
  cases Candidate.name entry != name with
  | true => exact .pure none
  | false => exact Walk.ReadsRoots.bind h fun _ => .pure _

section Reads

variable (query : Query σ) {offers : List (Offer Entry)} (kept : σ) (calls : Calls Entry)

theorem collectStep_reads {β : Type} (name : Name) (keep : Entry → Element → β) (kept : List β)
    {offer : Offer Entry} (h : offer.IsReadable) :
    (collectStep name keep offer kept).ReadsRoots := by
  cases offer with
  | globBoundary => exact .pure _
  | candidate entry => exact (judge_reads name h).map _

theorem step_reads {offer : Offer Entry} (h : offer.IsReadable) :
    (query.step offer kept).ReadsRoots := by
  cases query with
  | collect name => exact collectStep_reads name (fun _ element => element) kept h
  | collectBound name =>
    exact collectStep_reads name (fun entry element => (element, entry.subst)) kept h
  | collectEntries name => exact collectStep_reads name (fun entry _ => entry) kept h
  | pickFirst name =>
    cases offer with
    | globBoundary => exact .pure _
    | candidate entry => exact (judge_reads name h).map _
  | suggest add start site =>
    cases offer with
    | globBoundary => exact .pure _
    | candidate entry => exact Walk.ReadsRoots.map h _
  | custom step start reads => exact reads offer kept h

theorem follow_reads (h : ∀ offer ∈ offers, offer.IsReadable) :
    (query.follow offers kept calls).ReadsRoots := by
  induction offers generalizing kept calls with
  | nil => exact .pure _
  | cons offer rest ih =>
    obtain ⟨hoffer, hrest⟩ := List.forall_mem_cons.mp h
    refine (query.step_reads kept hoffer).bind fun result => ?_
    obtain ⟨stop, kept⟩ := result
    cases stop with
    | true => exact .pure _
    | false => exact ih kept _ hrest

end Reads

/-- What the driver makes of a walk that goes through a list of offers is what it makes of the list.
-/
theorem gives_of_follow {query : Query σ} {offers : List (Offer Entry)} {store : Store}
    {stopped : Bool} {result : σ} {calls : Calls Entry}
    (h : (query.follow offers query.start []).answer store = .ok ((stopped, result), calls))
    (producer : Producer Entry)
    (hlist : ∀ (m : Type → Type) [Monad m] [LawfulMonad m] (visit : Visitor m Entry),
      producer m visit = Feed.ofList offers visit) : query.Gives producer store result calls := by
  have hplain : producer (StateT σ Walk) = Feed.ofList offers := funext (hlist _)
  have htraced : producer (StateT σ (StateT (Calls Entry) Walk)) = Feed.ofList offers :=
    funext (hlist _)
  constructor
  · rw [hplain, run_list, map_eq_pure_bind, Walk.answer_bind_pure, h]
    rfl
  · rw [htraced, traced_run_list, map_eq_pure_bind, Walk.answer_bind_pure, h]
    rfl

/-- A query on a walk that goes through a list of offers, all of them readable, is answered from
all stores that are alike with the same result and the same calls. -/
theorem gives_of_alike (query : Query σ) {offers : List (Offer Entry)}
    (h : ∀ offer ∈ offers, offer.IsReadable) {fresh : Store} (unbroken : fresh.Unbroken) :
    ∃ result calls, ∀ store, fresh.Alike store → ∀ producer : Producer Entry,
      (∀ (m : Type → Type) [Monad m] [LawfulMonad m] (visit : Visitor m Entry),
        producer m visit = Feed.ofList offers visit) → query.Gives producer store result calls := by
  have hreads := query.follow_reads query.start [] h
  obtain ⟨⟨⟨stopped, result⟩, calls⟩, hanswer, -⟩ := hreads.answer_ok unbroken
  refine ⟨result, calls, fun store halike producer hlist => ?_⟩
  have hfollow := (hreads.steady.answer_congr halike.roots).symm.trans hanswer
  exact gives_of_follow hfollow producer hlist

end Query

end ScopeWalk
