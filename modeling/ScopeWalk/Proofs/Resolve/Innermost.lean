import ScopeWalk.Proofs.Resolve.Agreement
import ScopeWalk.Proofs.Resolve.Hiding
import ScopeWalk.Proofs.Scope.Imports

/-!
# The innermost candidate is picked

Whatever a chain binds is bound at a spot of one of its layers, and spots shadow each other: those
further in shadow those further out, and in a layer it depends on what kind of layer it is.
Candidates are offered in that order, so of all that can be picked the one that shadows all others
is.
-/
namespace ScopeWalk

open Candidate

/-! ### What is bound where -/

/-- Where in a layer a candidate is bound. -/
inductive Spot where
  /-- By what the layer lists itself at `index`. -/
  | own (index : Nat)
  /-- By the binding at `index` of the scope at `place`, which a glob import brings in. -/
  | imported (place index : Nat)

/-- A layer binds a candidate at a spot. Declarations without a name are bound nowhere, and neither
is what a glob import leaves out. -/
inductive Layer.Binds (graph : ScopeGraph) : Layer → Spot → Entry → Prop where
  | localBinding {elements : List Element} {index : Nat} {element : Element} {name : Name} :
      elements[index]? = some element → element.name = some name →
      Binds graph (.bindings elements) (.own index) (.direct ⟨name, element, .empty⟩)
  | explicit {scope : ItemScope} {index : Nat} {binding : Binding} {entry : Entry} :
      scope.bindings[index]? = some binding → binding.StandsFor entry →
      Binds graph (.items scope) (.own index) entry
  | imported {scope : ItemScope} {place index : Nat} {binding : Binding} {entry : Entry} :
      graph.Imports scope place index binding → binding.StandsFor entry →
      Binds graph (.items scope) (.imported place index) entry

/-- What is bound at one spot of a layer shadows what is bound at another. -/
inductive Layer.Shadows (graph : ScopeGraph) : Layer → Spot → Spot → Prop where
  /-- Of local bindings the one declared last comes first. -/
  | redeclared {elements : List Element} {later earlier : Nat} : earlier < later →
      Shadows graph (.bindings elements) (.own later) (.own earlier)
  /-- Explicit bindings come in order. -/
  | listed {scope : ItemScope} {first second : Nat} : first < second →
      Shadows graph (.items scope) (.own first) (.own second)
  /-- They all come before glob imports. -/
  | explicit {scope : ItemScope} {index place other : Nat} :
      Shadows graph (.items scope) (.own index) (.imported place other)
  /-- Of imported scopes the one comes first that the walk in depth comes to first. -/
  | visited {scope : ItemScope} {place index other index' : Nat} :
      graph.VisitedBefore scope place other →
      Shadows graph (.items scope) (.imported place index) (.imported other index')
  /-- What one scope binds comes in order. -/
  | listedThere {scope : ItemScope} {place first second : Nat} : first < second →
      Shadows graph (.items scope) (.imported place first) (.imported place second)

/-- A chain binds a candidate at a spot of the layer with this number. -/
inductive BoundAt (graph : ScopeGraph) (layers : List Layer) : Nat × Spot → Entry → Prop where
  | inLayer {number : Nat} {layer : Layer} {spot : Spot} {entry : Entry} :
      layers[number]? = some layer → layer.Binds graph spot entry →
      BoundAt graph layers (number, spot) entry

/-- What a chain binds at one spot shadows what it binds at another. -/
inductive Shadows (graph : ScopeGraph) (layers : List Layer) : Nat × Spot → Nat × Spot → Prop where
  /-- Layers with smaller numbers are further in. -/
  | furtherIn {inner outer : Nat} {spot other : Spot} : inner < outer →
      Shadows graph layers (inner, spot) (outer, other)
  | inLayer {number : Nat} {layer : Layer} {spot other : Spot} : layers[number]? = some layer →
      layer.Shadows graph spot other → Shadows graph layers (number, spot) (number, other)

section Order

variable {graph : ScopeGraph} {layers : List Layer}

theorem Layer.Shadows.asymm {layer : Layer} {spot other : Spot}
    (h : layer.Shadows graph spot other) : ¬ layer.Shadows graph other spot := by
  intro hback
  cases h with
  | redeclared hlt =>
    cases hback with
    | redeclared hgt => exact Nat.lt_asymm hlt hgt
  | listed hlt =>
    cases hback with
    | listed hgt => exact Nat.lt_asymm hlt hgt
  | explicit => cases hback
  | visited hlt =>
    cases hback with
    | visited hgt => exact Nat.lt_asymm hlt hgt
    | listedThere => exact Nat.lt_irrefl _ hlt
  | listedThere hlt =>
    cases hback with
    | visited hgt => exact Nat.lt_irrefl _ hgt
    | listedThere hgt => exact Nat.lt_asymm hlt hgt

theorem Shadows.asymm {spot other : Nat × Spot} (h : Shadows graph layers spot other) :
    ¬ Shadows graph layers other spot := by
  intro hback
  cases h with
  | furtherIn hlt =>
    cases hback with
    | furtherIn hgt => exact Nat.lt_asymm hlt hgt
    | inLayer => exact Nat.lt_irrefl _ hlt
  | inLayer hlayer hspot =>
    cases hback with
    | furtherIn hgt => exact Nat.lt_irrefl _ hgt
    | inLayer hlayer' hspot' =>
      rw [hlayer] at hlayer'
      cases hlayer'
      exact hspot.asymm hspot'

end Order

/-! ### Candidates in order -/

section Listing

variable (graph : ScopeGraph)

/-- The candidate for an imported binding, with its spot. -/
def Spot.ofImport (place index : Nat) (binding : Binding) : Option (Spot × Entry) :=
  binding.entry?.map (.imported place index, ·)

/-- The candidates that a layer binds, each with its spot, in the order in which they are offered.
-/
def Layer.bound : Layer → List (Spot × Entry)
  | .bindings elements =>
    (numbered (Entry.named? .empty) elements).reverse.map fun found => (.own found.1, found.2)
  | .items scope =>
    ((numbered Binding.entry? scope.bindings).map fun found => (.own found.1, found.2)) ++
      (graph.imports scope).filterMap fun found => Spot.ofImport found.1.1 found.1.2 found.2

/-- The candidates that a chain binds. -/
def boundIn (layers : List Layer) : List ((Nat × Spot) × Entry) :=
  layers.zipIdx.flatMap fun member =>
    (member.1.bound graph).map fun found => ((member.2, found.1), found.2)

variable {graph}

theorem Layer.mem_bound {layer : Layer} {spot : Spot} {entry : Entry} :
    (spot, entry) ∈ layer.bound graph ↔ layer.Binds graph spot entry := by
  cases layer with
  | bindings elements =>
    rw [bound, List.mem_map]
    constructor
    · rintro ⟨⟨index, _⟩, hfound, heq⟩
      cases heq
      obtain ⟨element, hget, hnamed⟩ := (mem_numbered _ _).mp (List.mem_reverse.mp hfound)
      obtain ⟨hname⟩ := Binding.named?_eq_some_iff.mp hnamed
      exact .localBinding hget hname
    · rintro ⟨hget, hname⟩
      have hnamed := Binding.named?_eq_some_iff.mpr (.item hname)
      exact ⟨_, List.mem_reverse.mpr ((mem_numbered _ _).mpr ⟨_, hget, hnamed⟩), rfl⟩
  | items scope =>
    rw [bound, List.mem_append, List.mem_map, List.mem_filterMap]
    constructor
    · rintro (⟨⟨index, _⟩, hfound, heq⟩ | ⟨⟨⟨place, index⟩, binding⟩, hfound, hentry⟩)
      · cases heq
        obtain ⟨binding, hget, hentry⟩ := (mem_numbered _ _).mp hfound
        exact .explicit hget (Binding.entry?_eq_some_iff.mp hentry)
      · obtain ⟨_, hentry, heq⟩ := Option.map_eq_some_iff.mp hentry
        cases heq
        exact .imported (ScopeGraph.mem_imports.mp hfound) (Binding.entry?_eq_some_iff.mp hentry)
    · rintro (_ | ⟨hget, hstands⟩ | ⟨himports, hstands⟩)
      · have hentry := Binding.entry?_eq_some_iff.mpr hstands
        exact .inl ⟨_, (mem_numbered _ _).mpr ⟨_, hget, hentry⟩, rfl⟩
      · have hentry := Binding.entry?_eq_some_iff.mpr hstands
        exact .inr ⟨_, ScopeGraph.mem_imports.mpr himports, by rw [Spot.ofImport, hentry]; rfl⟩

theorem Layer.map_snd_bound (layer : Layer) :
    (layer.bound graph).map Prod.snd = layer.entries graph := by
  cases layer with
  | bindings elements =>
    rw [bound, entries, explicitEntries, globEntries, List.append_nil, List.map_map,
      List.filterMap_reverse, ← map_snd_numbered, List.map_reverse]
    rfl
  | items scope =>
    have himported : ((graph.imports scope).filterMap fun found =>
        Spot.ofImport found.1.1 found.1.2 found.2).map Prod.snd =
        ((graph.imports scope).map Prod.snd).filterMap Binding.entry? := by
      rw [List.map_filterMap, List.filterMap_map]
      refine congrArg (List.filterMap · _) (funext fun found => ?_)
      rw [Spot.ofImport, Option.map_map]
      exact Option.map_id'
    rw [bound, entries, explicitEntries, globEntries, List.map_append, List.map_map,
      himported, ScopeGraph.filterMap_imports, ItemScope.explicitEntries, ← map_snd_numbered]
    rfl

theorem Layer.pairwise_bound (layer : Layer) :
    (layer.bound graph).Pairwise fun a b => layer.Shadows graph a.1 b.1 := by
  cases layer with
  | bindings elements =>
    rw [bound, List.pairwise_map, List.pairwise_reverse]
    exact (pairwise_numbered _ _).imp fun hlt => .redeclared hlt
  | items scope =>
    rw [bound, List.pairwise_append, List.pairwise_map, List.pairwise_filterMap]
    refine ⟨(pairwise_numbered _ _).imp fun hlt => .listed hlt, ?_, ?_⟩
    · refine ScopeGraph.pairwise_imports.imp fun {a b} hbefore x hx y hy => ?_
      obtain ⟨_, -, rfl⟩ := Option.map_eq_some_iff.mp hx
      obtain ⟨_, -, rfl⟩ := Option.map_eq_some_iff.mp hy
      obtain hvisited | ⟨hplace, hlt⟩ := hbefore
      · exact .visited hvisited
      · rw [hplace]
        exact .listedThere hlt
    · intro x hx y hy
      obtain ⟨_, -, rfl⟩ := List.mem_map.mp hx
      obtain ⟨_, -, hy⟩ := List.mem_filterMap.mp hy
      obtain ⟨_, -, rfl⟩ := Option.map_eq_some_iff.mp hy
      exact .explicit

theorem mem_boundIn {layers : List Layer} {spot : Nat × Spot} {entry : Entry} :
    (spot, entry) ∈ boundIn graph layers ↔ BoundAt graph layers spot entry := by
  rw [boundIn, List.mem_flatMap]
  constructor
  · rintro ⟨⟨layer, number⟩, hmember, hlisted⟩
    obtain ⟨⟨spot, _⟩, hfound, heq⟩ := List.mem_map.mp hlisted
    cases heq
    exact .inLayer (List.mem_zipIdx_iff_getElem?.mp hmember) (Layer.mem_bound.mp hfound)
  · rintro ⟨hlayer, hbinds⟩
    exact ⟨(_, _), List.mem_zipIdx_iff_getElem?.mpr hlayer,
      List.mem_map.mpr ⟨(_, _), Layer.mem_bound.mpr hbinds, rfl⟩⟩

theorem map_snd_boundIn (layers : List Layer) :
    (boundIn graph layers).map Prod.snd = candidatesOf (lexicalOffers graph layers) := by
  have hoffers : candidatesOf (lexicalOffers graph layers) = layers.flatMap (·.entries graph) :=
    candidatesOf_visiblePart graph none layers
  have hmember (member : Layer × Nat) :
      ((member.1.bound graph).map fun found => ((member.2, found.1), found.2)).map Prod.snd =
        member.1.entries graph := by
    rw [List.map_map, ← Layer.map_snd_bound]
    rfl
  rw [boundIn, List.map_flatMap, hoffers, funext hmember, ← List.flatMap_map, List.zipIdx_map_fst]

theorem pairwise_boundIn (layers : List Layer) :
    (boundIn graph layers).Pairwise fun a b => Shadows graph layers a.1 b.1 := by
  rw [boundIn, List.pairwise_flatMap]
  constructor
  · intro member hmember
    rw [List.pairwise_map]
    have hlayer := List.mem_zipIdx_iff_getElem?.mp hmember
    exact (Layer.pairwise_bound member.1).imp fun hshadows => .inLayer hlayer hshadows
  · refine (pairwise_zipIdx layers).imp fun hlt x hx y hy => ?_
    obtain ⟨_, -, rfl⟩ := List.mem_map.mp hx
    obtain ⟨_, -, rfl⟩ := List.mem_map.mp hy
    exact .furtherIn hlt

end Listing

/-- If of things in a list, each with a key, every one comes before those after it, then the first
with which something comes of `f` is the one that comes before all others with which something comes
of it. -/
theorem findSome?_eq_some_iff_first {r : κ → κ → Prop} {list : List (κ × α)}
    (sorted : list.Pairwise fun a b => r a.1 b.1) (asymm : ∀ {a b}, r a b → ¬ r b a)
    {f : α → Option β} {b : β} :
    (list.map Prod.snd).findSome? f = some b ↔ ∃ key a, (key, a) ∈ list ∧ f a = some b ∧
      ∀ other c, (other, c) ∈ list → (f c).isSome → other = key ∨ r key other := by
  rw [List.findSome?_map, List.findSome?_eq_some_iff]
  constructor
  · rintro ⟨before, ⟨key, a⟩, after, rfl, ha, hbefore⟩
    obtain ⟨-, hafter, -⟩ := List.pairwise_append.mp sorted
    refine ⟨key, a, by simp, ha, fun other c hother hsome => ?_⟩
    obtain hmem | hmem := List.mem_append.mp hother
    · have hnone : f c = none := hbefore (other, c) hmem
      rw [hnone] at hsome
      cases hsome
    · obtain heq | hmem := List.mem_cons.mp hmem
      · exact .inl (congrArg Prod.fst heq)
      · exact .inr ((List.pairwise_cons.mp hafter).1 _ hmem)
  · rintro ⟨key, a, hmem, ha, hfirst⟩
    obtain ⟨before, after, rfl⟩ := List.append_of_mem hmem
    refine ⟨before, (key, a), after, rfl, ha, fun ⟨other, c⟩ hother => ?_⟩
    obtain ⟨-, -, hbefore⟩ := List.pairwise_append.mp sorted
    have hr : r other key := hbefore (other, c) hother (key, a) List.mem_cons_self
    show f c = none
    rw [← Option.not_isSome_iff_eq_none]
    intro hsome
    obtain rfl | hback := hfirst other c (List.mem_append_left _ hother) hsome
    · exact asymm hr hr
    · exact asymm hr hback

/-! ### What is picked -/

section Picked

variable (name : Name) (store : Store) (graph : ScopeGraph) (layers : List Layer)

/-- Of all candidates with which picking can end, the one that is bound at this spot comes first. -/
def ComesFirst (spot : Nat × Spot) : Prop :=
  ∀ other entry, BoundAt graph layers other entry → Entry.endsPick name store entry →
    other = spot ∨ Shadows graph layers spot other

theorem verdictOf?_eq_some_iff {verdict : Except Failure Element} :
    verdictOf? name store (candidatesOf (lexicalOffers graph layers)) = some verdict ↔
      ∃ spot entry, BoundAt graph layers spot entry ∧ entry.verdict? name store = some verdict ∧
        ComesFirst name store graph layers spot := by
  rw [← map_snd_boundIn, verdictOf?,
    findSome?_eq_some_iff_first (pairwise_boundIn layers) Shadows.asymm]
  simp only [mem_boundIn, Entry.isSome_verdict?, ComesFirst]

theorem verdictOf?_eq_none_iff :
    verdictOf? name store (candidatesOf (lexicalOffers graph layers)) = none ↔
      ∀ spot entry, BoundAt graph layers spot entry → entry.endsPick name store = false := by
  have hnone (entry : Entry) :
      entry.verdict? name store = none ↔ entry.endsPick name store = false := by
    rw [← Entry.isSome_verdict?, Option.isSome_eq_false_iff, Option.isNone_iff_eq_none]
  rw [← map_snd_boundIn, verdictOf?, List.findSome?_map, List.findSome?_eq_none_iff]
  constructor
  · intro h spot entry hbound
    exact (hnone entry).mp (h _ (mem_boundIn.mpr hbound))
  · intro h found hfound
    exact (hnone found.2).mpr (h _ _ (mem_boundIn.mp hfound))

end Picked

/-- Of all candidates of a chain with which picking can end, be it because they are accepted or
because they break down, the one that shadows all others decides: if it is accepted its element is
picked. Nothing is picked just if there is none of them in any layer. -/
theorem innermost_picked (graph : ScopeGraph) (layers : List Layer) (name : Name) (store : Store) :
    let picked := (pickFirst (n := Walk) name (lexicalFeed graph layers)).answer store
    (∀ element, picked = .ok (some element) ↔ ∃ spot entry, BoundAt graph layers spot entry ∧
      (entry.name = name ∧ elementIn store entry = some element ∧ element.isEnabled = true) ∧
        ComesFirst name store graph layers spot) ∧
    (∀ failure, picked = .error failure ↔ ∃ spot entry, BoundAt graph layers spot entry ∧
      (entry.name = name ∧ failureIn? store entry = some failure) ∧
        ComesFirst name store graph layers spot) ∧
    (picked = .ok none ↔
      ∀ spot entry, BoundAt graph layers spot entry → entry.endsPick name store = false) := by
  intro picked
  have hpicked : picked =
      (verdictOf? name store (candidatesOf (lexicalOffers graph layers))).elim (.ok none)
        (·.map some) :=
    answer_pickFirst_of_offers (fun visit => lexicalFeed_eq_ofList graph layers visit) name store
  simp only [← Entry.verdict?_eq_ok_iff, ← Entry.verdict?_eq_error_iff,
    ← verdictOf?_eq_some_iff, ← verdictOf?_eq_none_iff, hpicked]
  cases verdictOf? name store (candidatesOf (lexicalOffers graph layers)) with
  | none => simp
  | some verdict => cases verdict <;> simp [Except.map]

/-- What a disabled candidate leaves open, a glob import further in fills. Of local bindings the
last one is picked, and a name that is kept private is not found at all. -/
theorem innermost_picked_sample :
    let store : Store := ⟨.empty .plain, []⟩
    let picked (name : Name) (layers : List Layer) :=
      (pickFirst (n := Walk) name (lexicalFeed sampleDiamond layers)).answer store
    picked ⟨"x"⟩ sampleChain = .ok (some (sampleItem 0 (some ⟨"x"⟩))) ∧
      picked ⟨"x"⟩ (sampleChain.drop 2) = .ok (some (sampleItem 4 (some ⟨"x"⟩))) ∧
      picked ⟨"x"⟩ (sampleChain.drop 3) = .ok (some (sampleItem 6 (some ⟨"x"⟩))) ∧
      picked ⟨"z"⟩ (sampleChain.take 2) = .ok none ∧
      (∃ spot entry, BoundAt sampleDiamond sampleChain spot entry ∧
        (entry.name = ⟨"x"⟩ ∧ elementIn store entry = some (sampleItem 0 (some ⟨"x"⟩)) ∧
          (sampleItem 0 (some ⟨"x"⟩)).isEnabled = true) ∧
        ComesFirst ⟨"x"⟩ store sampleDiamond sampleChain spot) ∧
      ∀ spot entry, BoundAt sampleDiamond (sampleChain.take 2) spot entry →
        entry.endsPick ⟨"z"⟩ store = false := by
  intro store picked
  have hpicked (name : Name) (layers : List Layer) :
      picked name layers = (verdictOf? name store
        (candidatesOf (lexicalOffers sampleDiamond layers))).elim (.ok none) (·.map some) :=
    answer_pickFirst_of_offers (fun visit => lexicalFeed_eq_ofList sampleDiamond layers visit) name
      store
  have hchain : picked ⟨"x"⟩ sampleChain = .ok (some (sampleItem 0 (some ⟨"x"⟩))) := by
    rw [hpicked, lexicalOffers, ← List.take_append_drop 2 sampleChain, List.flatMap_append,
      ← lexicalOffers, lexicalOffers_take_sampleChain]
    rfl
  have hprivate : picked ⟨"z"⟩ (sampleChain.take 2) = .ok none := by
    rw [hpicked, lexicalOffers_take_sampleChain]
    rfl
  have hfound := innermost_picked sampleDiamond sampleChain ⟨"x"⟩ store
  have hnone := innermost_picked sampleDiamond (sampleChain.take 2) ⟨"z"⟩ store
  refine ⟨hchain, ?_, ?_, hprivate, (hfound.1 _).mp hchain, hnone.2.2.mp hprivate⟩
  · rw [hpicked]
    rfl
  · rw [hpicked]
    rfl

end ScopeWalk
