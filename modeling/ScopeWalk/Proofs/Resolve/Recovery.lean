import ScopeWalk.Proofs.Crates.Breakdowns
import ScopeWalk.Proofs.Resolve.Forcing
import ScopeWalk.Proofs.Resolve.History

/-!
# Trying again

If the loader breaks down on some crates, a walk may break down. What it read before stays loaded,
and the loader is not called again for the crate that it broke down on, so that trying again leads
further. Sooner or later the walk comes to its end, with the result that it would have had if there
were no roots to be found in those crates.
-/
namespace ScopeWalk

/-- The driver on these grounds, as they are in a store. -/
def Query.runOn {σ : Type} (query : Query σ) (grounds : List Ground) (store : Store) : Walk σ :=
  query.run Walk (Ground.feedAll store.graph grounds)

section

variable {σ : Type} (query : Query σ) (grounds : List Ground) {graph : CrateGraph} {store : Store}

theorem Query.runOn_eq (store : Store) : query.runOn grounds store =
    query.run Walk (Feed.ofList (grounds.flatMap (·.offers store.graph))) :=
  congrArg (query.run Walk) (funext (Ground.feedAll_eq_ofList store.graph grounds))

theorem Store.Follows.runOn (built : graph.Built) (h : store.Follows graph) :
    ((query.runOn grounds store).after store).Follows graph := by
  have hreads := (query.follow_reads query.start []
    (Ground.offers_readable store.graph grounds)).map fun followed => followed.1.2
  rw [query.runOn_eq, Query.run_list]
  exact hreads.follows built.numbered h

/-- Whatever was done with a newly built graph, only roots were read. -/
theorem Store.Reached.follows (built : graph.Built) (reached : store.Reached graph) :
    store.Follows graph := by
  induction reached with
  | built => exact .of_built built []
  | read id _ ih => exact ih.crateRoot built.numbered id
  | resolve id name _ ih =>
    rw [after_resolveExternCrate]
    exact ih.runOn _ _ built
  | ask query grounds _ ih => exact ih.runOn query grounds built

end

/-! ### The crates behind offers -/

/-- All that is run for what scopes offer is to read roots. -/
theorem Query.exists_thunks_eq_map {σ : Type} (query : Query σ) {offers : List (Offer Entry)}
    (h : ∀ offer ∈ offers, Ground.FromScope offer) :
    ∃ ids : List CrateId, query.thunks offers = ids.map .crateRoot := by
  induction offers with
  | nil => exact ⟨[], rfl⟩
  | cons offer rest ih =>
    obtain ⟨hoffer, hrest⟩ := List.forall_mem_cons.mp h
    obtain ⟨others, hothers⟩ := ih hrest
    have hone : ∃ ids : List CrateId, query.thunks [offer] = ids.map .crateRoot := by
      cases hoffer with
      | boundary => exact ⟨[], rfl⟩
      | direct entry =>
        rw [thunks_candidate]
        exact ⟨[], ite_self []⟩
      | crate name id =>
        rw [thunks_candidate]
        cases query.asks (.ofCrate name id) with
        | true => exact ⟨[id], rfl⟩
        | false => exact ⟨[], rfl⟩
    obtain ⟨ids, hids⟩ := hone
    refine ⟨ids ++ others, ?_⟩
    rw [← List.singleton_append, thunks_append, hids, hothers, List.map_append]

/-- The last of these roots is read for the last offer. -/
theorem Query.exists_thunks_dropLast {σ : Type} (query : Query σ) {offers : List (Offer Entry)}
    (h : ∀ offer ∈ offers, Ground.FromScope offer) :
    ∃ (forced : List CrateId) (last : Option CrateId),
      query.thunks offers.dropLast = forced.map .crateRoot ∧
      query.thunks offers = (forced ++ last.toList).map .crateRoot := by
  obtain ⟨ids, hids⟩ := query.exists_thunks_eq_map h
  obtain ⟨last, hlast⟩ := query.exists_thunks_eq offers
  rw [hids] at hlast
  obtain ⟨forced, others, rfl, hforced, hothers⟩ := List.map_eq_append_iff.mp hlast
  cases last with
  | none =>
    obtain rfl : others = [] := List.map_eq_nil_iff.mp hothers
    exact ⟨forced, none, hforced.symm, hids⟩
  | some thunk =>
    obtain ⟨id, rfl, -⟩ := List.map_eq_singleton_iff.mp hothers
    exact ⟨forced, some id, hforced.symm, hids⟩

/-! ### A walk that breaks down -/

section

variable {σ : Type} (query : Query σ) (grounds : List Ground)

/-- The walk that starts from the store breaks down. It has read the roots of some crates, and then
the loader broke down on one that was not read before. Only root cells have changed. -/
structure Breakdown (graph : CrateGraph) (store : Store) (forced : List CrateId)
    (id : CrateId) : Prop where
  answer : ∃ crate failure, graph.crate? id = some crate ∧ graph.loader crate = .error failure ∧
    (store.graph.node? id).map (·.root) = some (.pending crate) ∧
    (query.runOn grounds store).answer store = .error failure
  /-- These are the crates of the candidates that were asked, in order. -/
  asked : query.thunks
      (query.record (fun _ _ => Ground.feedAll store.graph grounds) store).handed =
    (forced ++ [id]).map .crateRoot
  loader : ((query.runOn grounds store).after store).graph.loader = store.graph.loader
  node? : ∀ other, ((query.runOn grounds store).after store).graph.node? other =
    (store.graph.node? other).map fun node =>
      if other = id then { node with root := .spent }
      else if other ∈ forced then { node with root := .ready (graph.root? other) } else node
  isRootLoaded : ∀ other, ((query.runOn grounds store).after store).graph.isRootLoaded other =
    (store.graph.isRootLoaded other || forced.contains other && (graph.crate? other).isSome)
  unread : store.graph.isRootLoaded id = false ∧ id ∉ forced ∧
    ((query.runOn grounds store).after store).graph.isRootLoaded id = false

/-- The walk breaks down time and again on these crates, and then comes to its end from the store
`last`. -/
inductive Tries (graph : CrateGraph) : Store → List CrateId → Store → Prop where
  | ends {store : Store} {result : σ} :
      (query.runOn grounds store).answer store = .ok result → Tries graph store [] store
  | again {store last : Store} {forced ids : List CrateId} {id : CrateId} :
      Breakdown query grounds graph store forced id →
      Tries graph ((query.runOn grounds store).after store) ids last →
      Tries graph store (id :: ids) last

/-- What the driver does on the grounds is to read the roots of some crates one after another, and
only the last of these may break down. -/
theorem exists_asked (hquery : query.isCustom = false) (store : Store) :
    ∃ (forced : List CrateId) (last : Option CrateId),
      query.thunks (query.record (fun _ _ => Ground.feedAll store.graph grounds) store).handed =
        (forced ++ last.toList).map .crateRoot ∧
      ((query.runOn grounds store).answer store).map (fun _ => ()) =
        (Thunk.runAll ((forced ++ last.toList).map .crateRoot)).answer store ∧
      (query.runOn grounds store).after store =
        (Thunk.runAll ((forced ++ last.toList).map .crateRoot)).after store ∧
      (Thunk.runAll (forced.map .crateRoot)).answer store = .ok () := by
  let offers := grounds.flatMap (·.offers store.graph)
  have hrecord : query.record (fun _ _ => Ground.feedAll store.graph grounds) store =
      query.record (fun _ _ => Feed.ofList offers) store := by
    have hfeed : Ground.feedAll (m := StateT σ (Recorded Entry)) store.graph grounds =
        Feed.ofList offers := funext (Ground.feedAll_eq_ofList store.graph grounds)
    rw [Query.record, Query.record, hfeed]
  have hscope : ∀ offer ∈ query.reach offers query.start store, Ground.FromScope offer :=
    fun offer hoffer => Ground.offers_fromScope store.graph grounds offer
      ((query.reach_isPrefix offers query.start store).subset hoffer)
  obtain ⟨forced, last, hforced, hids⟩ := query.exists_thunks_dropLast hscope
  have hrun : (query.runOn grounds store).effect.run.run store =
      (Thunk.runAll ((forced ++ last.toList).map .crateRoot)).run.run store := by
    rw [query.runOn_eq, Query.run_eq_visit, Walk.effect_map, query.visit_effect hquery, hids]
  refine ⟨forced, last, ?_, ?_, ?_, ?_⟩
  · rw [hrecord, Query.record_ofList, hids]
  · rw [← Walk.answer_effect, Walk.answer_of_run hrun]
  · rw [← Walk.after_effect]
    exact congrArg Prod.snd hrun
  · rw [← hforced]
    exact query.answer_runAll_dropLast hquery offers query.start store

variable {query grounds} {graph : CrateGraph} {store : Store}

/-- When some roots were read and one cell was used up, just those crates are loaded besides that
were known. -/
theorem isRootLoaded_of_node? {next : CrateGraph} {forced : List CrateId} {id : CrateId}
    {crate : Crate} (h : store.Follows graph)
    (hpending : (store.graph.node? id).map (·.root) = some (.pending crate)) (hnew : id ∉ forced)
    (hnodes : ∀ other, next.node? other = (store.graph.node? other).map fun node =>
      if other = id then { node with root := .spent }
      else if other ∈ forced then { node with root := .ready (graph.root? other) } else node)
    (other : CrateId) : next.isRootLoaded other =
      (store.graph.isRootLoaded other || forced.contains other && (graph.crate? other).isSome) := by
  rw [CrateGraph.isRootLoaded, CrateGraph.isRootLoaded, hnodes, ← h.crates, CrateGraph.crate?]
  cases hnode : store.graph.node? other with
  | none => simp
  | some node =>
    by_cases hid : other = id
    · subst hid
      rw [hnode, Option.map_some, Option.some.injEq] at hpending
      simp [hpending, hnew, Memo.isComputed, Memo.peek]
    · by_cases hforced : other ∈ forced
      · simp [hid, hforced, Memo.isComputed, Memo.peek]
      · simp [hid, hforced]

/-- A root that is not read after a breakdown was not read before, and is not the one that the loader
broke down on. -/
theorem Breakdown.pending_of_after {forced : List CrateId} {id other : CrateId} {crate : Crate}
    (hbreak : Breakdown query grounds graph store forced id)
    (hnext : (((query.runOn grounds store).after store).graph.node? other).map (·.root) =
      some (.pending crate)) :
    other ≠ id ∧ (store.graph.node? other).map (·.root) = some (.pending crate) := by
  rw [hbreak.node?] at hnext
  obtain ⟨node, hnode, hroot⟩ := Option.map_eq_some_iff.mp hnext
  obtain ⟨old, hold, rfl⟩ := Option.map_eq_some_iff.mp hnode
  by_cases hid : other = id
  · rw [if_pos hid] at hroot
    cases hroot
  · by_cases hforced : other ∈ forced
    · rw [if_neg hid, if_pos hforced] at hroot
      cases hroot
    · rw [if_neg hid, if_neg hforced] at hroot
      exact ⟨hid, by rw [hold, Option.map_some, hroot]⟩

variable (built : graph.Built) (h : store.Follows graph) (hquery : query.isCustom = false)
include built h hquery

/-- A walk breaks down only because the loader does. -/
theorem exists_breakdown {failure : Failure}
    (herror : (query.runOn grounds store).answer store = .error failure) :
    ∃ forced id, Breakdown query grounds graph store forced id := by
  obtain ⟨forced, last, hasked, hanswer, hafter, hfirst⟩ := exists_asked query grounds hquery store
  rw [herror] at hanswer
  cases last with
  | none =>
    rw [Option.toList_none, List.append_nil, hfirst] at hanswer
    cases hanswer
  | some id =>
    obtain ⟨crate, hcrate, hload, hnew, hpending, hloader, hnodes⟩ :=
      h.node?_runAll_of_error built.numbered hfirst hanswer.symm
    rw [Option.toList_some] at hafter
    rw [← hafter] at hloader hnodes
    have hloaded := isRootLoaded_of_node? h hpending hnew hnodes
    have hunread : store.graph.isRootLoaded id = false := by
      obtain ⟨node, hnode, hroot⟩ := Option.map_eq_some_iff.mp hpending
      rw [CrateGraph.isRootLoaded, hnode, Option.any_some, hroot]
      rfl
    refine ⟨forced, id, ⟨crate, failure, hcrate, hload, hpending, herror⟩, hasked, hloader, hnodes, hloaded,
      hunread, hnew, ?_⟩
    rw [hloaded, hunread]
    simp [hnew]

variable (query grounds) in
/-- Trying again ends, and no crate is met twice: `left` has all crates that the loader may still break
down on, and becomes shorter each time. -/
theorem exists_tries (left : List CrateId)
    (hleft : ∀ {id crate}, (store.graph.node? id).map (·.root) = some (.pending crate) →
      id ∈ graph.faulty → id ∈ left) :
    ∃ ids last, Tries query grounds graph store ids last ∧ last.Follows graph ∧
      ids.Nodup ∧ ids ⊆ left ∧ ids.length ≤ left.length := by
  induction hlength : left.length using Nat.strongRecOn generalizing left store with
  | ind length ih =>
    cases hanswer : (query.runOn grounds store).answer store with
    | ok result => exact ⟨[], store, .ends hanswer, h, .nil, List.nil_subset _, Nat.zero_le _⟩
    | error failure =>
      obtain ⟨forced, id, hbreak⟩ := exists_breakdown built h hquery hanswer
      obtain ⟨crate, failure, hcrate, hload, hpending, -⟩ := hbreak.answer
      have hid : id ∈ left := hleft hpending (built.mem_faulty hcrate hload)
      -- the cell is used up, so the loader cannot break down on this crate again
      have hshorter : (left.filter (· ≠ id)).length < length := by
        rw [← hlength]
        exact List.length_filter_lt_length_iff_exists.mpr ⟨id, hid, by simp⟩
      obtain ⟨ids, last, htries, hlast, hnodup, hsubset, hle⟩ := ih _ hshorter
        (h.runOn query grounds built) (left.filter (· ≠ id))
        (fun hnext hfaulty => List.mem_filter.mpr
          ⟨hleft (hbreak.pending_of_after hnext).2 hfaulty,
            decide_eq_true (hbreak.pending_of_after hnext).1⟩) rfl
      have hnew : id ∉ ids := fun hmem => by simpa using hsubset hmem
      refine ⟨id :: ids, last, .again hbreak htries, hlast, List.nodup_cons.mpr ⟨hnew, hnodup⟩, ?_, ?_⟩
      · exact List.cons_subset.mpr ⟨hid, fun other hother => (List.mem_filter.mp (hsubset hother)).1⟩
      · rw [List.length_cons]
        omega

omit built h hquery in
theorem Tries.answer_ok {ids : List CrateId} {last : Store}
    (htries : Tries query grounds graph store ids last) :
    ∃ result, (query.runOn grounds last).answer last = .ok result := by
  induction htries with
  | ends hanswer => exact ⟨_, hanswer⟩
  | again _ _ ih => exact ih

omit hquery in
/-- A walk that comes to its end does what it does where the loader never breaks down. -/
theorem gives_of_answer {result : σ} (hanswer : (query.runOn grounds store).answer store = .ok result) :
    ∃ calls, query.Gives (fun _ _ => Ground.feedAll store.graph grounds) store result calls ∧
      query.Gives (fun _ _ => Ground.feedAll graph.forgiving grounds) ⟨graph.forgiving, []⟩ result
        calls := by
  let offers := grounds.flatMap (·.offers store.graph)
  have hcrates (id : CrateId) : graph.forgiving.crate? id = store.graph.crate? id :=
    (h.crates id).symm
  have hdependencies (id : CrateId) :
      graph.forgiving.dependencies id = store.graph.dependencies id := (h.dependencies id).symm
  have hoffers : grounds.flatMap (·.offers graph.forgiving) = offers :=
    congrArg grounds.flatMap (funext fun ground => ground.offers_eq hcrates hdependencies)
  rw [query.runOn_eq, Query.run_list, map_eq_pure_bind, Walk.answer_bind_pure] at hanswer
  cases hfollow : (query.follow offers query.start []).answer store with
  | error failure =>
    rw [hfollow] at hanswer
    cases hanswer
  | ok followed =>
    rw [hfollow] at hanswer
    cases hanswer
    have hreads := query.follow_reads query.start [] (Ground.offers_readable store.graph grounds)
    have hroots (id : CrateId) :
        (Walk.crateRoot id).answer ⟨graph.forgiving, []⟩ = .ok (graph.root? id) := by
      rw [← CrateGraph.root?_forgiving]
      exact Walk.answer_crateRoot_built built.forgiving CrateGraph.loads_forgiving id []
    have hforgiving := hreads.answer_eq built.numbered h hroots hfollow
    refine ⟨followed.2, Query.gives_of_follow hfollow _ ?_, Query.gives_of_follow hforgiving _ ?_⟩
    · intro m _ _ visit
      exact Ground.feedAll_eq_ofList store.graph grounds visit
    · intro m _ _ visit
      rw [Ground.feedAll_eq_ofList, hoffers]

end

/-- On a graph whose loader breaks down on some crates, a walk over scopes, lexical chains and the
crates that can be named breaks down a number of times, on a different one of these crates each time.
Each breakdown changes root cells only. Then the walk comes to its end, with the result and the calls
that it has on the new graph when no root is to be found in those crates. -/
theorem walks_recover {graph : CrateGraph} (built : graph.Built) {store : Store}
    (reached : store.Reached graph) {σ : Type} (query : Query σ) (hquery : query.isCustom = false)
    (grounds : List Ground) :
    ∃ ids last, Tries query grounds graph store ids last ∧
      ids.Nodup ∧ ids ⊆ graph.faulty ∧ ids.length ≤ graph.faulty.length ∧
      ∃ result calls,
        query.Gives (fun _ _ => Ground.feedAll last.graph grounds) last result calls ∧
        query.Gives (fun _ _ => Ground.feedAll graph.forgiving grounds) ⟨graph.forgiving, []⟩ result
          calls := by
  obtain ⟨ids, last, htries, hlast, hnodup, hsubset, hlength⟩ :=
    exists_tries query grounds built (reached.follows built) hquery graph.faulty
      fun _ hfaulty => hfaulty
  obtain ⟨result, hanswer⟩ := htries.answer_ok
  obtain ⟨calls, hgives⟩ := gives_of_answer built hlast hanswer
  exact ⟨ids, last, htries, hnodup, hsubset, hlength, result, calls, hgives⟩

/-- A graph with two crates of the same name, one of which cannot be loaded. -/
def sampleFaultyGraph : CrateGraph :=
  let loader : Loader := fun crate =>
    if crate.id = ⟨1⟩ then .error ⟨"loader failed on lib"⟩ else Loader.plain crate
  (((((CrateGraph.empty loader).addCrate ⟨"app"⟩ .workspace .empty).addCrate ⟨"lib"⟩ .dependency
    .empty).addCrate ⟨"lib"⟩ .dependency .empty).addDependency ⟨0⟩ ⟨"lib"⟩ ⟨1⟩).addDependency ⟨0⟩
    ⟨"lib"⟩ ⟨2⟩

/-- The walk breaks down once, on the first of the two crates, and then finds the second. -/
theorem walks_recover_sample :
    let graph := sampleFaultyGraph
    let query : Query (Option Element) := .pickFirst ⟨"lib"⟩
    let grounds : List Ground := [.externCrates ⟨0⟩ false false]
    graph.Built ∧ query.isCustom = false ∧ graph.faulty = [⟨1⟩] ∧
      ∃ last calls, Tries query grounds graph ⟨graph, []⟩ [⟨1⟩] last ∧
        query.Gives (fun _ _ => Ground.feedAll last.graph grounds) last (graph.root? ⟨2⟩) calls := by
  intro graph query grounds
  have built : graph.Built :=
    .addDependency _ _ _ (.addDependency _ _ _
      (.addCrate _ _ _ (.addCrate _ _ _ (.addCrate _ _ _ (.empty _)))))
  have hfaulty : graph.faulty = [⟨1⟩] := by rfl
  obtain ⟨ids, last, htries, -, hsubset, hlength, result, calls, hlast, hforgiving⟩ :=
    walks_recover built .built query rfl grounds
  have hresult : result = graph.root? ⟨2⟩ := Except.ok.inj (hforgiving.answer.symm.trans (by rfl))
  subst hresult
  rw [hfaulty] at hsubset hlength
  refine ⟨built, rfl, hfaulty, last, calls, ?_, hlast⟩
  cases htries with
  | ends hanswer => cases hanswer
  | @again _ _ _ ids id hbreak hagain =>
    obtain rfl : ids = [] := List.length_eq_zero_iff.mp (by simpa using hlength)
    obtain rfl : id = ⟨1⟩ := by simpa using hsubset
    exact .again hbreak hagain

end ScopeWalk
