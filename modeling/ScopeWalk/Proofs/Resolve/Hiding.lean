import ScopeWalk.Proofs.Resolve.Collecting
import ScopeWalk.Proofs.Scope.Imports
import ScopeWalk.Proofs.Scope.LexicalOffers

/-!
# Explicit bindings hide glob imports

In a chain of layers, glob imports are hidden as soon as something was accepted before them: an
explicit binding of the same layer, or anything in a layer further in. The first layer whose glob
imports are hidden is the last one that is looked at.
-/
namespace ScopeWalk

open Candidate

namespace Layer

/-- The candidates written in the layer itself, in the order they are offered. -/
def explicitEntries : Layer → List Entry
  | .bindings elements => elements.reverse.filterMap (Entry.named? .empty)
  | .items scope => scope.explicitEntries

/-- The candidates behind the glob imports of the layer. -/
def globEntries (graph : ScopeGraph) : Layer → List Entry
  | .bindings _ => []
  | .items scope => graph.globEntries scope

/-- All candidates of the layer. -/
def entries (graph : ScopeGraph) (layer : Layer) : List Entry :=
  layer.explicitEntries ++ layer.globEntries graph

def hasGlobs : Layer → Bool
  | .bindings _ => false
  | .items scope => !scope.globs.isEmpty

/-- What is written in a layer stands for these candidates. Of local bindings the one declared last
comes first, so that it shadows those before it. -/
inductive Writes : Layer → List Entry → Prop where
  | bindings {elements : List Element} {entries : List Entry} :
      Gathers (fun element entry => (Binding.item element).StandsFor entry) elements.reverse
        entries →
      Writes (.bindings elements) entries
  | items {scope : ItemScope} {entries : List Entry} :
      Gathers Binding.StandsFor scope.bindings entries → Writes (.items scope) entries

/-- The glob imports of a layer bring in these candidates. Local bindings are never imported. -/
inductive BringsIn (graph : ScopeGraph) : Layer → List Entry → Prop where
  | bindings {elements : List Element} : BringsIn graph (.bindings elements) []
  | items {scope : ItemScope} {entries : List Entry} : graph.BringIn scope entries →
      BringsIn graph (.items scope) entries

/-- What a layer consists of, and how it is offered. -/
structure Consists (graph : ScopeGraph) (layer : Layer) (explicit behind : List Entry)
    (offers : List (Offer Entry)) : Prop where
  writes : layer.Writes explicit
  bringsIn : layer.BringsIn graph behind
  /-- A boundary is announced only if there are glob imports. -/
  offers_eq : offers = explicit.map .candidate ++
    if layer.hasGlobs then .globBoundary :: behind.map .candidate else []

theorem offers_eq (graph : ScopeGraph) (layer : Layer) :
    layer.offers graph = layer.explicitEntries.map .candidate ++
      if layer.hasGlobs then .globBoundary :: (layer.globEntries graph).map .candidate else [] := by
  cases layer with
  | bindings elements => simp [offers, explicitEntries, hasGlobs]
  | items scope =>
    cases hglobs : scope.globs.isEmpty <;>
      simp [offers, explicitEntries, globEntries, hasGlobs, ScopeGraph.scopeOffers, hglobs]

theorem writes_explicitEntries (layer : Layer) : layer.Writes layer.explicitEntries := by
  cases layer with
  | bindings elements =>
    exact .bindings ((gathers_iff fun _ _ => Binding.named?_eq_some_iff).mpr rfl)
  | items scope => exact .items (gathers_standsFor_iff.mpr rfl)

theorem bringsIn_globEntries (graph : ScopeGraph) (layer : Layer) :
    layer.BringsIn graph (layer.globEntries graph) := by
  cases layer with
  | bindings elements => exact .bindings
  | items scope => exact .items (graph.bringIn_globEntries scope)

theorem consists (graph : ScopeGraph) (layer : Layer) :
    layer.Consists graph layer.explicitEntries (layer.globEntries graph) (layer.offers graph) where
  writes := layer.writes_explicitEntries
  bringsIn := layer.bringsIn_globEntries graph
  offers_eq := layer.offers_eq graph

theorem globEntries_eq_nil {graph : ScopeGraph} {layer : Layer} (h : layer.hasGlobs = false) :
    layer.globEntries graph = [] := by
  cases layer with
  | bindings elements => rfl
  | items scope =>
    have hglobs : scope.globs = [] := by simpa [hasGlobs] using h
    simp [globEntries, ScopeGraph.globEntries, ScopeGraph.globOrder, ScopeGraph.globTour, hglobs]

theorem candidatesOf_offers (graph : ScopeGraph) (layer : Layer) :
    candidatesOf (layer.offers graph) = layer.entries graph := by
  rw [offers_eq, entries]
  cases hglobs : layer.hasGlobs with
  | true => simp
  | false => simp [globEntries_eq_nil hglobs]

end Layer

/-- The first layer whose glob imports are hidden: it has some, and there is a match among all
candidates of the layers before it and its own explicit ones. If `armed`, there was a match
before all of these layers already. -/
def hidingLayer? (graph : ScopeGraph) (isMatch : Entry → Bool) (armed : Bool)
    (layers : List Layer) : Option Nat :=
  firstWith (fun before layer => layer.hasGlobs &&
    (armed || (before.flatMap (·.entries graph) ++ layer.explicitEntries).any isMatch)) layers

/-- What is left of a chain that ends with the explicit part of a layer. -/
def visiblePart (all explicit : Layer → List α) (last : Option Nat) (layers : List Layer) :
    List α :=
  match last with
  | none => layers.flatMap all
  | some place => (layers.take place).flatMap all ++ (layers[place]?).elim [] explicit

section VisiblePart

variable (all explicit : Layer → List α)

theorem visiblePart_here (layer : Layer) (rest : List Layer) :
    visiblePart all explicit (some 0) (layer :: rest) = explicit layer := rfl

theorem visiblePart_later (last : Option Nat) (layer : Layer) (rest : List Layer) :
    visiblePart all explicit (last.map (· + 1)) (layer :: rest) =
      all layer ++ visiblePart all explicit last rest := by
  cases last with
  | none => simp [visiblePart]
  | some place => simp [visiblePart]

end VisiblePart

/-! ### What is heard of a chain -/

section Heard

variable (graph : ScopeGraph) (isMatch : Entry → Bool) (armed : Bool)

theorem hidingLayer?_cons (layer : Layer) (rest : List Layer) :
    hidingLayer? graph isMatch armed (layer :: rest) =
      if layer.hasGlobs && (armed || layer.explicitEntries.any isMatch) then some 0 else
        (hidingLayer? graph isMatch (armed || (layer.entries graph).any isMatch) rest).map
          (· + 1) := by
  simp [hidingLayer?, firstWith_cons, Bool.or_assoc]

theorem callsUpToCut_layer (layer : Layer) (rest : List (Offer Entry)) :
    callsUpToCut isMatch armed (layer.offers graph ++ rest) =
      if layer.hasGlobs && (armed || layer.explicitEntries.any isMatch) then
        callsThrough (layer.explicitEntries.map .candidate) true
      else
        (layer.offers graph).map (·, false) ++
          callsUpToCut isMatch (armed || (layer.entries graph).any isMatch) rest := by
  rw [Layer.offers_eq, List.append_assoc, callsUpToCut_candidates, Layer.entries, List.any_append,
    ← Bool.or_assoc]
  cases hglobs : layer.hasGlobs with
  | false => simp [Layer.globEntries_eq_nil hglobs]
  | true =>
    cases harmed : armed || layer.explicitEntries.any isMatch with
    | true => simp [callsUpToCut_boundary, callsThrough]
    | false => simp [callsUpToCut_boundary, callsUpToCut_candidates]

theorem callsUpToCut_lexicalOffers (layers : List Layer) :
    callsUpToCut isMatch armed (lexicalOffers graph layers) =
      callsThrough (visiblePart (·.offers graph) (·.explicitEntries.map .candidate)
        (hidingLayer? graph isMatch armed layers) layers)
        (hidingLayer? graph isMatch armed layers).isSome := by
  induction layers generalizing armed with
  | nil => rfl
  | cons layer rest ih =>
    simp only [lexicalOffers, List.flatMap_cons] at ih ⊢
    rw [callsUpToCut_layer, hidingLayer?_cons, ih]
    split
    · rw [visiblePart_here, Option.isSome_some]
    · rw [visiblePart_later, Option.isSome_map, callsThrough_append]

theorem candidatesOf_visiblePart (last : Option Nat) (layers : List Layer) :
    candidatesOf (visiblePart (·.offers graph) (·.explicitEntries.map .candidate) last layers) =
      visiblePart (·.entries graph) Layer.explicitEntries last layers := by
  have hall (layers : List Layer) : candidatesOf (layers.flatMap (·.offers graph)) =
      layers.flatMap (·.entries graph) := by
    rw [candidatesOf, List.filterMap_flatMap]
    exact congrArg layers.flatMap (funext (Layer.candidatesOf_offers graph))
  cases last with
  | none => exact hall layers
  | some place =>
    simp only [visiblePart, candidatesOf_append, hall]
    cases layers[place]? with
    | none => rfl
    | some layer => simp

theorem visiblePart_singleton (layer : Layer) :
    visiblePart (·.entries graph) Layer.explicitEntries (hidingLayer? graph isMatch false [layer])
        [layer] =
      if layer.explicitEntries.any isMatch then layer.explicitEntries else layer.entries graph := by
  rw [hidingLayer?_cons, Bool.false_or]
  cases hmatch : layer.explicitEntries.any isMatch with
  | false =>
    rw [Bool.and_false, if_neg Bool.false_ne_true, visiblePart_later]
    exact List.append_nil _
  | true =>
    cases hglobs : layer.hasGlobs with
    | true => rfl
    | false =>
      rw [Bool.and_true, if_neg Bool.false_ne_true, visiblePart_later, if_pos rfl, Layer.entries,
        Layer.globEntries_eq_nil hglobs]
      simp [visiblePart, hidingLayer?]

end Heard

section Collecting

variable (graph : ScopeGraph) (layers : List Layer) (name : Name) (store : Store)

theorem candidatesOf_heard_lexicalOffers :
    candidatesOf (heard (isAccepted name store) false (lexicalOffers graph layers)) =
      visiblePart (·.entries graph) Layer.explicitEntries
        (hidingLayer? graph (isAccepted name store) false layers) layers := by
  rw [candidatesOf_heard, callsUpToCut_lexicalOffers, candidatesOf_callsThrough,
    candidatesOf_visiblePart]

theorem collect_lexicalFeed_finds :
    let last := hidingLayer? graph (isAccepted name store) false layers
    let visible := visiblePart (·.entries graph) Layer.explicitEntries last layers
    Driver.Finds (fun _ _ _ => collect name) (fun _ _ => lexicalFeed graph layers) store
      (outcome name store visible ((acceptedOf name store visible).map fun hit => hit.2))
      (callsThrough (visiblePart (·.offers graph) (·.explicitEntries.map .candidate) last layers)
        last.isSome) := by
  intro last visible
  have hfinds := collectWith_finds name (fun (_ : Entry) element => element)
    (lexicalOffers graph layers) store (fun _ _ => lexicalFeed graph layers)
    fun _ _ _ visit => lexicalFeed_eq_ofList graph layers visit
  rw [candidatesOf_heard_lexicalOffers, callsUpToCut_lexicalOffers] at hfinds
  exact hfinds

/-- Collecting from a chain leaves the same store behind as collecting from its visible part. -/
theorem collect_lexicalFeed_run :
    (collect (n := Walk) name (lexicalFeed graph layers)).run.run store =
      (collect (n := Walk) name (Feed.entries (visiblePart (·.entries graph) Layer.explicitEntries
        (hidingLayer? graph (isAccepted name store) false layers) layers))).run.run store := by
  have hfeed : lexicalFeed (m := StateT (List Element) Walk) graph layers =
      Feed.ofList (lexicalOffers graph layers) :=
    funext fun visit => lexicalFeed_eq_ofList graph layers visit
  rw [collect, hfeed, collectWith_candidates_run, candidatesOf_heard_lexicalOffers]
  rfl

theorem collect_feed_answer (scope : ItemScope) :
    (collect (n := Walk) name (graph.feed scope)).answer store =
      if scope.explicitEntries.any (isAccepted name store) then
        outcome name store scope.explicitEntries
          ((acceptedOf name store scope.explicitEntries).map fun hit => hit.2)
      else
        outcome name store (scope.explicitEntries ++ graph.globEntries scope)
          ((acceptedOf name store (graph.globEntries scope)).map fun hit => hit.2) := by
  have hfeed : graph.feed (m := StateT (List Element) Walk) scope =
      lexicalFeed graph [.items scope] := by
    funext visit
    rw [graph.feed_eq_ofList, lexicalFeed_eq_ofList]
    simp [lexicalOffers, Layer.offers]
  have hexplicit : (Layer.items scope).explicitEntries = scope.explicitEntries := rfl
  have hentries : (Layer.items scope).entries graph =
      scope.explicitEntries ++ graph.globEntries scope := rfl
  rw [hfeed, (collect_lexicalFeed_finds graph [.items scope] name store).answer,
    visiblePart_singleton, hexplicit, hentries]
  cases haccepted : scope.explicitEntries.any (isAccepted name store) with
  | true => rfl
  | false =>
    rw [if_neg Bool.false_ne_true, if_neg Bool.false_ne_true, acceptedOf_append,
      acceptedOf_eq_nil haccepted, List.nil_append]

end Collecting

/-- A layer offers what is written in it, then what its glob imports bring in. Of a chain, all
layers are collected from up to the first one with glob imports before which something is accepted,
be it in the layers further in or among its own explicit bindings. Of that layer the explicit
bindings are still offered, then the walk is stopped: nothing behind its glob imports and nothing of
the layers further out is offered, and no element there is asked for. A scope alone gives its
accepted explicit bindings, or if there are none, those that it imports. -/
theorem explicit_hides_globs (graph : ScopeGraph) (layers : List Layer) (name : Name)
    (store : Store) :
    (∀ layer : Layer,
      layer.Consists graph layer.explicitEntries (layer.globEntries graph) (layer.offers graph)) ∧
    (let last := hidingLayer? graph (isAccepted name store) false layers
      let visible := visiblePart (·.entries graph) Layer.explicitEntries last layers
      Driver.Finds (fun _ _ _ => collect name) (fun _ _ => lexicalFeed graph layers) store
          (outcome name store visible ((acceptedOf name store visible).map fun hit => hit.2))
          (callsThrough
            (visiblePart (·.offers graph) (·.explicitEntries.map .candidate) last layers)
            last.isSome) ∧
        (collect (n := Walk) name (lexicalFeed graph layers)).run.run store =
          (collect (n := Walk) name (Feed.entries visible)).run.run store) ∧
      ∀ scope : ItemScope, (collect (n := Walk) name (graph.feed scope)).answer store =
        if scope.explicitEntries.any (isAccepted name store) then
          outcome name store scope.explicitEntries
            ((acceptedOf name store scope.explicitEntries).map fun hit => hit.2)
        else
          outcome name store (scope.explicitEntries ++ graph.globEntries scope)
            ((acceptedOf name store (graph.globEntries scope)).map fun hit => hit.2) := by
  refine ⟨Layer.consists graph, ⟨?_, ?_⟩, ?_⟩
  · exact collect_lexicalFeed_finds graph layers name store
  · exact collect_lexicalFeed_run graph layers name store
  · exact collect_feed_answer graph name store

/-- A module that only has a name for something that is left out of the build; around it one whose
glob imports bring in an `x`, then one that also has an `x` itself, and outside local bindings. -/
def sampleChain : List Layer :=
  [.items ⟨.root sampleCrate,
      [.alias ⟨"x"⟩ (sampleConst 3 [.cfg (.flag ⟨"off"⟩)]) .inherited], []⟩,
    .items sampleImporter,
    .items { sampleImporter with bindings := [.item (sampleItem 4 (some ⟨"x"⟩))] },
    .bindings [sampleItem 5 (some ⟨"x"⟩), sampleItem 6 (some ⟨"x"⟩)]]

theorem lexicalOffers_take_sampleChain : lexicalOffers sampleDiamond (sampleChain.take 2) =
    .candidate (.direct ⟨⟨"x"⟩, sampleConst 3 [.cfg (.flag ⟨"off"⟩)], .empty⟩) ::
      sampleImporterOffers := by
  have horder : sampleDiamond.globOrder sampleImporter = [2, 1, 0] := by decide +kernel
  rw [sampleChain, List.take_succ_cons, List.take_succ_cons, List.take_zero, lexicalOffers,
    List.flatMap_cons, List.flatMap_singleton, Layer.offers, Layer.offers, ScopeGraph.scopeOffers,
    ScopeGraph.scopeOffers, ScopeGraph.globEntries, ScopeGraph.globEntries, horder]
  rfl

/-- What is found among the glob imports of one layer closes those of the next. Alone, that next
layer is closed by what it has itself. -/
theorem explicit_hides_globs_sample :
    let store : Store := ⟨.empty .plain, []⟩
    let disabled : Entry := .direct ⟨⟨"x"⟩, sampleConst 3 [.cfg (.flag ⟨"off"⟩)], .empty⟩
    let explicit : Entry := .direct ⟨⟨"x"⟩, sampleItem 4 (some ⟨"x"⟩), .empty⟩
    let offers : List (Offer Entry) :=
      .candidate disabled :: sampleImporterOffers ++ [.candidate explicit]
    hidingLayer? sampleDiamond (isAccepted ⟨"x"⟩ store) false sampleChain = some 2 ∧
      Driver.Finds (fun _ _ _ => collect ⟨"x"⟩) (fun _ _ => lexicalFeed sampleDiamond sampleChain)
        store (.ok [sampleItem 0 (some ⟨"x"⟩), sampleItem 4 (some ⟨"x"⟩)])
        (offers.map (·, false) ++ [(.globBoundary, true)]) ∧
      (collect (n := Walk) ⟨"x"⟩ (sampleDiamond.feed
        { sampleImporter with bindings := [.item (sampleItem 4 (some ⟨"x"⟩))] })).answer store =
          .ok [sampleItem 4 (some ⟨"x"⟩)] := by
  intro store disabled explicit offers
  have hlast : hidingLayer? sampleDiamond (isAccepted ⟨"x"⟩ store) false sampleChain = some 2 := by
    decide +kernel
  have hoffers : visiblePart (·.offers sampleDiamond) (·.explicitEntries.map .candidate) (some 2)
      sampleChain = offers := by
    show lexicalOffers sampleDiamond (sampleChain.take 2) ++ _ = _
    rw [lexicalOffers_take_sampleChain]
    rfl
  obtain ⟨-, ⟨hfinds, -⟩, halone⟩ := explicit_hides_globs sampleDiamond sampleChain ⟨"x"⟩ store
  simp only [hlast, ← candidatesOf_visiblePart, hoffers] at hfinds
  exact ⟨hlast, hfinds, halone _⟩

end ScopeWalk
