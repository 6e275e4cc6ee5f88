import Mathlib.Data.List.Perm.Basic
import ScopeWalk.Proofs.Resolve.Membership

/-!
# The methods of a receiver

A method call on a value also reaches the methods of what the value refers to. References are
stripped off the type of the receiver one by one, and for each type on the way the providers of just
this type are asked. No type comes up twice on the way, so no provider is asked twice, and it is
asked when as many references are gone as there are between the receiver and its own type.
-/
namespace ScopeWalk

/-! ### Stripping references -/

namespace Ty

/-- The first type without `count` of its outermost references is the second. -/
inductive Strips : Ty → Nat → Ty → Prop where
  | none (t : Ty) : Strips t 0 t
  | more (isMut : Bool) {inner t : Ty} {count : Nat} :
    Strips inner count t → Strips (.ref isMut inner) (count + 1) t

/-- Number of references around something that is none. -/
def layers : Ty → Nat
  | .ref _ inner => inner.layers + 1
  | _ => 0

theorem Strips.layers_eq {receiver t : Ty} {count : Nat} (h : receiver.Strips count t) :
    receiver.layers = count + t.layers := by
  induction h with
  | none t => rw [Nat.zero_add]
  | more isMut _ ih =>
    rw [layers, ih]
    omega

/-- With every strip there are fewer references left, so it never leads to the same type again. -/
theorem Strips.unique {receiver t : Ty} {first second : Nat} (h : receiver.Strips first t)
    (h' : receiver.Strips second t) : first = second := by
  have hfirst := h.layers_eq
  have hsecond := h'.layers_eq
  omega

/-- What a receiver leads to by as many strips as it takes is one type. -/
theorem Strips.eq_of_layers {receiver t u : Ty} {first second : Nat} (h : receiver.Strips first t)
    (h' : receiver.Strips second u) (hlayers : t.layers = u.layers) : t = u := by
  induction h generalizing second with
  | none t =>
    have hcount := h'.layers_eq
    obtain rfl : second = 0 := by omega
    cases h'
    rfl
  | more isMut hinner ih =>
    cases h' with
    | none =>
      have hcount := hinner.layers_eq
      rw [layers] at hlayers
      omega
    | more _ hother => exact ih hother hlayers

theorem strips_zero_iff {receiver t : Ty} : receiver.Strips 0 t ↔ t = receiver := by
  constructor
  · rintro (_ | _)
    rfl
  · rintro rfl
    exact .none t

theorem strips_ref_succ_iff {isMut : Bool} {inner t : Ty} {count : Nat} :
    (ref isMut inner).Strips (count + 1) t ↔ inner.Strips count t := by
  constructor
  · rintro (_ | ⟨_, hinner⟩)
    exact hinner
  · exact .more isMut

theorem not_strips_succ {receiver t : Ty} {count : Nat}
    (h : ∀ isMut inner, receiver = ref isMut inner → False) : ¬receiver.Strips (count + 1) t := by
  rintro (_ | ⟨isMut, _⟩)
  exact h _ _ rfl

theorem exists_strips_iff_eq {receiver t : Ty}
    (h : ∀ isMut inner, receiver = ref isMut inner → False) :
    (∃ count, receiver.Strips count t) ↔ t = receiver := by
  constructor
  · rintro ⟨_ | count, hstrips⟩
    · exact strips_zero_iff.mp hstrips
    · exact absurd hstrips (not_strips_succ h)
  · rintro rfl
    exact ⟨0, .none _⟩

theorem exists_strips_ref_iff {isMut : Bool} {inner t : Ty} :
    (∃ count, (ref isMut inner).Strips count t) ↔
      t = ref isMut inner ∨ ∃ count, inner.Strips count t := by
  constructor
  · rintro ⟨count, _ | ⟨_, hinner⟩⟩
    · exact .inl rfl
    · exact .inr ⟨_, hinner⟩
  · rintro (rfl | ⟨count, hinner⟩)
    · exact ⟨0, .none _⟩
    · exact ⟨count + 1, .more isMut hinner⟩

theorem not_exists_strips_ref (isMut : Bool) (inner : Ty) :
    ¬∃ count, inner.Strips count (ref isMut inner) := by
  rintro ⟨count, h⟩
  have hlayers := h.layers_eq
  rw [layers] at hlayers
  omega

/-- Whoever follows `deref` until there is nothing more to follow strips all references. -/
theorem exists_strips_layers (receiver : Ty) :
    ∃ bottom, receiver.Strips receiver.layers bottom ∧ bottom.deref = none := by
  induction receiver using layers.induct with
  | case1 isMut inner ih =>
    obtain ⟨bottom, hstrips, hbottom⟩ := ih
    exact ⟨bottom, .more isMut hstrips, hbottom⟩
  | case2 receiver hother =>
    refine ⟨receiver, ?_, ?_⟩
    · rw [layers]
      · exact .none receiver
      · exact hother
    · rw [deref]
      exact hother

theorem strips_iff {receiver t : Ty} {count : Nat} :
    receiver.Strips count t ↔ receiver.derefChain[count]? = some t := by
  induction receiver using derefChain.induct generalizing count with
  | case1 isMut inner ih =>
    cases count with
    | zero => rw [strips_zero_iff, derefChain, List.getElem?_cons_zero, Option.some.injEq, eq_comm]
    | succ count => rw [strips_ref_succ_iff, derefChain, List.getElem?_cons_succ, ih]
  | case2 receiver hother =>
    rw [derefChain]
    · cases count with
      | zero => rw [strips_zero_iff, List.getElem?_cons_zero, Option.some.injEq, eq_comm]
      | succ count => simp [not_strips_succ hother]
    · exact hother

instance (receiver t : Ty) (count : Nat) : Decidable (receiver.Strips count t) :=
  decidable_of_iff _ strips_iff.symm

instance (receiver t : Ty) : Decidable (∃ count, receiver.Strips count t) :=
  decidable_of_iff (t ∈ receiver.derefChain) (by simp only [strips_iff, List.mem_iff_getElem?])

end Ty

/-! ### Providers for a receiver -/

/-- What has one of two properties that exclude each other, first with the one and then with the
other. -/
theorem filter_or_perm {p q : α → Bool} (h : ∀ a, p a → q a = false) (list : List α) :
    (list.filter p ++ list.filter q).Perm (list.filter fun a => p a || q a) := by
  have hcut := List.filter_append_perm p (list.filter fun a => p a || q a)
  have hfirst (a : α) : (p a && (p a || q a)) = p a := by cases p a <;> simp
  have hsecond (a : α) : (!p a && (p a || q a)) = q a := by
    cases hp : p a
    · simp
    · simp [h a hp]
  simpa only [List.filter_filter, hfirst, hsecond] using hcut

/-- The methods of a provider, for a receiver that lost `derefs` references. -/
def Provider.methods (provider : Provider) (derefs : Nat) : List MethodEntry :=
  (provider.offered.filter (·.element.kind = .function true)).map
    fun entry => { entry with derefs := derefs }

/-- The providers of just this type, in the order in which they are asked. -/
def providersOf (providers : List Provider) (ty : Ty) : List Provider :=
  inherentFirst (providers.filter (·.selfTy = ty))

/-- The providers that are asked for the methods of a receiver, each with the number of references
that the receiver has lost then. -/
def askedFor (providers : List Provider) : Ty → List (Provider × Nat)
  | .ref isMut inner => (providersOf providers (.ref isMut inner)).map (·, 0) ++
      (askedFor providers inner).map fun asked => (asked.1, asked.2 + 1)
  | t => (providersOf providers t).map (·, 0)

section Providers

variable (providers : List Provider)

theorem methodEntries_filter (ty : Ty) (derefs : Nat) :
    methodEntries (providers.filter (·.selfTy = ty)) derefs =
      (providersOf providers ty).flatMap (·.methods derefs) := by
  rw [methodEntries_eq, offeredMembers, List.filter_flatMap, List.map_flatMap]
  rfl

theorem flatMap_derefChain (receiver : Ty) (before : Nat) :
    (receiver.derefChain.zipIdx before).flatMap (fun (ty, derefs) =>
        methodEntries (providers.filter (·.selfTy = ty)) derefs) =
      (askedFor providers receiver).flatMap fun asked => asked.1.methods (before + asked.2) := by
  simp only [methodEntries_filter]
  induction receiver using Ty.derefChain.induct generalizing before with
  | case1 isMut inner ih =>
    rw [Ty.derefChain, List.zipIdx_cons, List.flatMap_cons, ih, askedFor, List.flatMap_append,
      List.flatMap_map, List.flatMap_map]
    simp only [Nat.add_zero, Nat.add_assoc, Nat.add_comm 1]
  | case2 receiver hother =>
    rw [Ty.derefChain, askedFor, List.flatMap_map]
    · simp
    · exact hother
    · exact hother

theorem receiverEntries_eq (receiver : Ty) :
    receiverEntries receiver providers =
      (askedFor providers receiver).flatMap fun asked => asked.1.methods asked.2 := by
  have hfrom := flatMap_derefChain providers receiver 0
  simp only [Nat.zero_add] at hfrom
  exact hfrom

/-- What is asked after `count` strips are the providers of the type that these lead to. -/
theorem filter_askedFor (receiver : Ty) (count : Nat) :
    ((askedFor providers receiver).filter (·.2 = count)).map Prod.fst =
      inherentFirst (providers.filter (receiver.Strips count ·.selfTy)) := by
  induction receiver using askedFor.induct generalizing count with
  | case1 isMut inner ih =>
    cases count with
    | zero =>
      simp [askedFor, Ty.strips_zero_iff, providersOf, List.filter_map, Function.comp_def]
    | succ count =>
      simp [askedFor, Ty.strips_ref_succ_iff, List.filter_map, Function.comp_def, ← ih]
  | case2 receiver hother =>
    rw [askedFor]
    · cases count with
      | zero => simp [Ty.strips_zero_iff, providersOf, List.filter_map, Function.comp_def]
      | succ count => simp [Ty.not_strips_succ hother, inherentFirst]
    · exact hother

theorem pairwise_inherentFirst : (inherentFirst providers).Pairwise fun first second =>
    second.source.isInherent → first.source.isInherent := by
  refine List.pairwise_append.mpr ⟨?_, ?_, ?_⟩
  · refine List.pairwise_of_forall_mem_list fun first hfirst _ _ _ => ?_
    exact (List.mem_filter.mp hfirst).2
  · refine List.pairwise_of_forall_mem_list fun _ _ second hsecond hinherent => ?_
    exact absurd hinherent (by simpa using (List.mem_filter.mp hsecond).2)
  · intro first hfirst _ _ _
    exact (List.mem_filter.mp hfirst).2

theorem inherentFirst_perm : (inherentFirst providers).Perm providers :=
  List.filter_append_perm (fun provider : Provider => provider.source.isInherent) providers

/-- With fewer references gone, and with as many inherent ones first. -/
def AskedInOrder (first second : Provider × Nat) : Prop :=
  first.2 ≤ second.2 ∧
    (first.2 = second.2 → second.1.source.isInherent → first.1.source.isInherent)

theorem pairwise_askedFor (receiver : Ty) :
    (askedFor providers receiver).Pairwise AskedInOrder := by
  have hhere (ty : Ty) : ((providersOf providers ty).map (·, 0)).Pairwise AskedInOrder := by
    rw [List.pairwise_map]
    exact (pairwise_inherentFirst _).imp fun hinherent => ⟨Nat.le_refl 0, fun _ => hinherent⟩
  induction receiver using askedFor.induct with
  | case1 isMut inner ih =>
    refine List.pairwise_append.mpr ⟨hhere _, List.pairwise_map.mpr (ih.imp ?_), ?_⟩
    · intro first second hpair
      exact ⟨Nat.succ_le_succ hpair.1, fun h => hpair.2 (Nat.succ.inj h)⟩
    · intro first hfirst second hsecond
      obtain ⟨_, -, rfl⟩ := List.mem_map.mp hfirst
      obtain ⟨_, -, rfl⟩ := List.mem_map.mp hsecond
      exact ⟨Nat.zero_le _, fun h => absurd h (Nat.succ_ne_zero _).symm⟩
  | case2 receiver hother =>
    rw [askedFor]
    · exact hhere receiver
    · exact hother

/-- Each provider is asked once if the receiver leads to its type, and not at all otherwise. -/
theorem askedFor_perm (receiver : Ty) :
    ((askedFor providers receiver).map Prod.fst).Perm
      (providers.filter fun provider => ∃ count, receiver.Strips count provider.selfTy) := by
  have hhere (ty : Ty) : (((providersOf providers ty).map (·, 0)).map Prod.fst).Perm
      (providers.filter (·.selfTy = ty)) := by
    rw [List.map_map]
    exact (List.map_id _).symm ▸ inherentFirst_perm _
  induction receiver using askedFor.induct with
  | case1 isMut inner ih =>
    have hdeeper : ((askedFor providers inner).map fun asked => (asked.1, asked.2 + 1)).map
        Prod.fst = (askedFor providers inner).map Prod.fst := List.map_map
    rw [askedFor, List.map_append, hdeeper]
    simp only [Ty.exists_strips_ref_iff, Bool.decide_or]
    refine ((hhere _).append ih).trans (filter_or_perm (fun provider hprovider => ?_) providers)
    rw [of_decide_eq_true hprovider]
    exact decide_eq_false (Ty.not_exists_strips_ref isMut inner)
  | case2 receiver hother =>
    rw [askedFor]
    · simp only [Ty.exists_strips_iff_eq hother]
      exact hhere receiver
    · exact hother

end Providers

/-! ### Methods -/

/-- What is said to come from a provider is inherent just if the provider is. -/
theorem Provider.isInherent_of_mem_tagged {provider : Provider} {member : Element}
    {source : MemberSource} (h : (member, source) ∈ provider.tagged) :
    source.isInherent = provider.source.isInherent := by
  rw [tagged, List.mem_append] at h
  rcases h with hwritten | hinherited
  · obtain ⟨_, -, heq⟩ := List.mem_map.mp hwritten
    cases heq
    rfl
  · cases hsource : provider.source with
    | written impl trait =>
      rw [hsource] at hinherited
      obtain ⟨_, -, heq⟩ := List.mem_map.mp hinherited
      cases heq
      rfl
    | inherent impl => simp [hsource] at hinherited
    | inheritedFrom impl trait => simp [hsource] at hinherited
    | bound trait => simp [hsource] at hinherited

theorem Provider.of_mem_methods {provider : Provider} {derefs : Nat} {entry : MethodEntry}
    (h : entry ∈ provider.methods derefs) :
    entry.derefs = derefs ∧ entry.source.isInherent = provider.source.isInherent := by
  obtain ⟨found, hfound, rfl⟩ := List.mem_map.mp h
  obtain ⟨⟨member, source⟩, hlisted, hnamed⟩ := List.mem_filterMap.mp (List.mem_filter.mp hfound).1
  obtain ⟨name, -, rfl⟩ := Option.map_eq_some_iff.mp hnamed
  exact ⟨rfl, isInherent_of_mem_tagged (List.mem_filter.mp hlisted).1⟩

/-- The methods of providers that are asked in order come in order. -/
theorem pairwise_methods {asked : List (Provider × Nat)} (h : asked.Pairwise AskedInOrder) :
    (asked.flatMap fun (provider, derefs) => provider.methods derefs).Pairwise
      fun first second => first.derefs ≤ second.derefs ∧
        (first.derefs = second.derefs → second.source.isInherent → first.source.isInherent) := by
  refine List.pairwise_flatMap.mpr ⟨?_, h.imp ?_⟩
  · rintro ⟨provider, derefs⟩ -
    refine List.pairwise_of_forall_mem_list fun first hfirst second hsecond => ?_
    obtain ⟨hderefs, hinherent⟩ := Provider.of_mem_methods hfirst
    obtain ⟨hderefs', hinherent'⟩ := Provider.of_mem_methods hsecond
    rw [hderefs, hderefs', hinherent, hinherent']
    exact ⟨Nat.le_refl derefs, fun _ => id⟩
  · intro earlier later horder first hfirst second hsecond
    obtain ⟨hderefs, hinherent⟩ := Provider.of_mem_methods hfirst
    obtain ⟨hderefs', hinherent'⟩ := Provider.of_mem_methods hsecond
    rw [hderefs, hderefs', hinherent, hinherent']
    exact horder

/-- Stripping references off a receiver comes to an end and leads to each type at most once, so that
of two reference types which differ in being mutable it leads to one at most. A provider is asked
once if stripping leads to its type, with as many references gone as it takes, and is not asked
otherwise; with as many references gone, inherent providers are asked first, and otherwise in the
order in which they are given. What is offered are the methods of the providers that are asked, one
provider after another. So the number of references that are gone never falls, and as long as it is
the same, the methods of inherent providers come first. -/
theorem offers_receiverFeed (receiver : Ty) (providers : List Provider) :
    (∃ bottom, receiver.Strips receiver.layers bottom ∧ bottom.deref = none) ∧
    (∀ t first second, receiver.Strips first t → receiver.Strips second t → first = second) ∧
    (∀ isMut isMut' inner first second, receiver.Strips first (.ref isMut inner) →
      receiver.Strips second (.ref isMut' inner) → isMut = isMut') ∧
    ∃ (asked : List (Provider × Nat)) (entries : List MethodEntry),
      (receiverFeed receiver providers).offers = entries.map .candidate ∧
      entries = asked.flatMap (fun (provider, derefs) => provider.methods derefs) ∧
      (asked.map Prod.fst).Perm
        (providers.filter fun provider => ∃ derefs, receiver.Strips derefs provider.selfTy) ∧
      (∀ derefs, (asked.filter (·.2 = derefs)).map Prod.fst =
        inherentFirst (providers.filter (receiver.Strips derefs ·.selfTy))) ∧
      entries.Pairwise fun first second => first.derefs ≤ second.derefs ∧
        (first.derefs = second.derefs → second.source.isInherent → first.source.isInherent) := by
  refine ⟨receiver.exists_strips_layers, fun _ _ _ => Ty.Strips.unique, ?_,
    askedFor providers receiver, _, ?_, rfl, askedFor_perm providers receiver,
    filter_askedFor providers receiver, pairwise_methods (pairwise_askedFor providers receiver)⟩
  · intro isMut isMut' inner first second hfirst hsecond
    have hsame := hfirst.eq_of_layers hsecond rfl
    injection hsame
  · refine Feed.offers_eq fun visit => ?_
    rw [receiverFeed_eq_entries, receiverEntries_eq]
    rfl

end ScopeWalk
