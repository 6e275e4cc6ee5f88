import Mathlib.Data.List.Flatten
import ScopeWalk.Proofs.Candidate.MemberOffers
import ScopeWalk.Proofs.Resolve.Collecting

/-!
# Members that are not in the build

Lookup among members keeps no member that is not in the build. Such a member is not invisible,
though: a provider looks only at names when it decides which members of the trait it inherits, so
a member that is left out of the build still stands in the way of the trait's own. This is the one
trace it leaves. Without the members that are not in the build lookup finds the same and possibly
more, and it finds more just if a default of the trait was hidden in this way.
-/
namespace ScopeWalk

open Candidate List

/-- Of candidates whose element is known from the start, lookup finds those that bear the name and
are in the build. -/
theorem answer_collectEntries {ε : Type} [Candidate ε] [LawfulCandidate ε] {element : ε → Element}
    (hforce : ∀ entry, force entry = pure (some (element entry), entry)) (name : Name)
    (entries : List ε) (store : Store) :
    (collectEntries (n := Walk) name (Feed.entries entries)).answer store =
      .ok (entries.filter fun entry =>
        Candidate.name entry = name && (element entry).isEnabled) := by
  have hfound := answer_collectWith_known name (fun (entry : ε) _ => entry) store hforce entries
  rw [List.map_id', List.map_id'] at hfound
  exact hfound

/-- The member bears the name and is in the build. -/
def MemberEntry.isFound (name : Name) (entry : MemberEntry) : Bool :=
  entry.name = name && entry.element.isEnabled

namespace Provider

/-! ### What a provider contributes -/

section Found

variable (provider : Provider) (accept : Element → Bool) (name : Name)

/-- The members of the provider that lookup finds. -/
def found : List MemberEntry := (provider.acceptedEntries accept).filter (·.isFound name)

/-- The candidate for a listed member, if lookup finds it. -/
def found? (member : Element) (source : MemberSource) : Option MemberEntry :=
  (provider.entry? accept member source).filter (·.isFound name)

/-- The provider writes a member of this name. -/
def writes : Bool := provider.members.any (·.name == some name)

/-- What lookup finds among the members that the provider writes. -/
def foundWritten : List MemberEntry :=
  provider.members.filterMap (provider.found? accept name · provider.source)

/-- What lookup would find among the members of the trait, if all of them were inherited. -/
def foundInTrait : List MemberEntry :=
  match provider.source with
  | .written impl trait =>
    provider.traitMembers.filterMap (provider.found? accept name · (.inheritedFrom impl trait))
  | _ => []

variable {provider accept name} {member : Element} {source : MemberSource}

theorem element_of_entry? {entry : MemberEntry}
    (h : provider.entry? accept member source = some entry) :
    member.name = some entry.name ∧ entry.element = member := by
  unfold entry? at h
  split at h
  · obtain ⟨name, hname, rfl⟩ := Option.map_eq_some_iff.mp h
    exact ⟨hname, rfl⟩
  · cases h

theorem isSome_found?_iff : (provider.found? accept name member source).isSome ↔
    member.name = some name ∧ member.isEnabled ∧
      (provider.entry? accept member source).isSome := by
  rw [found?]
  cases hentry : provider.entry? accept member source with
  | none => simp
  | some entry =>
    obtain ⟨hname, helement⟩ := element_of_entry? hentry
    simp [Option.filter, MemberEntry.isFound, hname, helement]

/-- Everything of a name in the trait is inherited, or nothing is. -/
theorem found_eq (provider : Provider) (accept : Element → Bool) (name : Name) :
    provider.found accept name = provider.foundWritten accept name ++
      if provider.writes name then [] else provider.foundInTrait accept name := by
  have hlisted : provider.found accept name =
      provider.listed.filterMap fun offered =>
        provider.found? accept name offered.1 offered.2 := by
    rw [found, acceptedEntries, filter_filterMap]
    rfl
  have hkept (impl trait : Element) (member : Element) :
      (if (!provider.overrides member) = true then
          provider.found? accept name member (.inheritedFrom impl trait) else none) =
        if provider.writes name then none else
          provider.found? accept name member (.inheritedFrom impl trait) := by
    cases hfound : provider.found? accept name member (.inheritedFrom impl trait) with
    | none => simp
    | some entry =>
      obtain ⟨hname, -⟩ := isSome_found?_iff.mp (Option.isSome_of_eq_some hfound)
      have hoverrides : provider.overrides member = provider.writes name := by
        simp only [overrides, hname, writes]
      cases hwrites : provider.writes name <;> simp [hoverrides, hwrites]
  rw [hlisted, listed, filterMap_append, filterMap_map]
  refine congrArg _ ?_
  unfold defaults foundInTrait
  cases provider.source with
  | written impl trait =>
    simp only [filterMap_map, filterMap_filter, Function.comp_def, hkept]
    cases provider.writes name <;> simp
  | inherent impl => simp
  | inheritedFrom impl trait => simp
  | bound trait => simp

end Found

/-! ### Without the members that are not in the build -/

/-- The provider without the members that are not in the build of their crate. -/
def dropDisabled (provider : Provider) : Provider :=
  { provider with
    members := provider.members.filter (·.isEnabled)
    traitMembers := provider.traitMembers.filter (·.isEnabled) }

/-- A default of the trait is hidden by members that are not in the build: all members of the name
that the provider writes are left out of the build, while the trait has one that is not, and that
could have been offered. -/
structure HidesDefault (provider : Provider) (accept : Element → Bool) (name : Name) : Prop where
  written : ∃ member ∈ provider.members, member.name = some name
  disabled : ∀ member ∈ provider.members, member.name = some name → member.isEnabled = false
  inheritable : ∃ impl trait, provider.source = .written impl trait ∧
    ∃ member ∈ provider.traitMembers, member.name = some name ∧ member.isEnabled ∧
      (provider.entry? accept member (.inheritedFrom impl trait)).isSome

section DropDisabled

variable (provider : Provider) (accept : Element → Bool) (name : Name)

/-- Members that are not in the build are not found anyway. -/
theorem filterMap_found?_filter (source : MemberSource) (members : List Element) :
    (members.filter (·.isEnabled)).filterMap (provider.found? accept name · source) =
      members.filterMap (provider.found? accept name · source) := by
  rw [filterMap_filter]
  refine congrArg (filterMap · members) (funext fun member => ?_)
  cases hfound : provider.found? accept name member source with
  | none => simp
  | some entry =>
    obtain ⟨-, henabled, -⟩ := isSome_found?_iff.mp (Option.isSome_of_eq_some hfound)
    rw [if_pos henabled]

theorem foundWritten_dropDisabled : provider.dropDisabled.foundWritten accept name =
    provider.foundWritten accept name :=
  provider.filterMap_found?_filter accept name provider.source provider.members

theorem foundInTrait_dropDisabled : provider.dropDisabled.foundInTrait accept name =
    provider.foundInTrait accept name := by
  have htrait (source : MemberSource) :=
    provider.filterMap_found?_filter accept name source provider.traitMembers
  unfold foundInTrait
  rw [show provider.dropDisabled.source = provider.source from rfl]
  cases provider.source with
  | written impl trait => exact htrait _
  | inherent impl => rfl
  | inheritedFrom impl trait => rfl
  | bound trait => rfl

theorem writes_dropDisabled_iff : provider.dropDisabled.writes name ↔
    ∃ member ∈ provider.members, member.isEnabled ∧ member.name = some name := by
  simp [writes, dropDisabled]

theorem foundInTrait_ne_nil_iff : provider.foundInTrait accept name ≠ [] ↔
    ∃ impl trait, provider.source = .written impl trait ∧
      ∃ member ∈ provider.traitMembers, member.name = some name ∧ member.isEnabled ∧
        (provider.entry? accept member (.inheritedFrom impl trait)).isSome := by
  unfold foundInTrait
  cases hsource : provider.source with
  | written impl trait =>
    simp only [ne_eq, filterMap_eq_nil_iff, Classical.not_forall, MemberSource.written.injEq,
      ← isSome_found?_iff, exists_prop, ← Option.isSome_iff_ne_none]
    constructor
    · rintro ⟨member, hmember, hfound⟩
      exact ⟨impl, trait, ⟨rfl, rfl⟩, member, hmember, hfound⟩
    · rintro ⟨_, _, ⟨rfl, rfl⟩, member, hmember, hfound⟩
      exact ⟨member, hmember, hfound⟩
  | inherent impl => simp
  | inheritedFrom impl trait => simp
  | bound trait => simp

theorem hidesDefault_iff : provider.HidesDefault accept name ↔
    provider.writes name ∧ ¬provider.dropDisabled.writes name ∧
      provider.foundInTrait accept name ≠ [] := by
  rw [writes_dropDisabled_iff, foundInTrait_ne_nil_iff]
  constructor
  · rintro ⟨hwritten, hdisabled, hinheritable⟩
    refine ⟨by simpa [writes] using hwritten, ?_, hinheritable⟩
    rintro ⟨member, hmember, henabled, hname⟩
    exact absurd henabled (by simp [hdisabled member hmember hname])
  · rintro ⟨hwritten, hdisabled, hinheritable⟩
    refine ⟨by simpa [writes] using hwritten, ?_, hinheritable⟩
    intro member hmember hname
    exact Bool.eq_false_iff.mpr fun henabled => hdisabled ⟨member, hmember, henabled, hname⟩

theorem writes_of_dropDisabled (h : provider.dropDisabled.writes name) : provider.writes name := by
  obtain ⟨member, hmember, -, hname⟩ := (provider.writes_dropDisabled_iff name).mp h
  simpa [writes] using ⟨member, hmember, hname⟩

theorem found_dropDisabled : provider.dropDisabled.found accept name =
    provider.foundWritten accept name ++
      if provider.dropDisabled.writes name then [] else provider.foundInTrait accept name := by
  rw [found_eq, foundWritten_dropDisabled, foundInTrait_dropDisabled]

theorem found_sublist_dropDisabled :
    provider.found accept name <+ provider.dropDisabled.found accept name := by
  rw [found_eq, found_dropDisabled]
  refine Sublist.append (.refl _) ?_
  cases hkept : provider.dropDisabled.writes name with
  | true => simp [provider.writes_of_dropDisabled name hkept]
  | false => cases provider.writes name <;> simp

theorem found_eq_dropDisabled_iff :
    provider.found accept name = provider.dropDisabled.found accept name ↔
      ¬provider.HidesDefault accept name := by
  have hwrites := provider.writes_of_dropDisabled name
  rw [found_eq, found_dropDisabled, hidesDefault_iff, append_cancel_left_eq]
  cases hkept : provider.dropDisabled.writes name with
  | true => simp [hwrites hkept]
  | false => cases provider.writes name <;> simp [eq_comm (a := [])]

end DropDisabled

end Provider

/-! ### Lookup among providers -/

/-- If pieces can only grow, then the whole stays the same just if every piece does. -/
theorem flatMap_eq_flatMap_iff {pieces : List α} {f g : α → List β}
    (h : ∀ piece ∈ pieces, f piece <+ g piece) :
    pieces.flatMap f = pieces.flatMap g ↔ ∀ piece ∈ pieces, f piece = g piece := by
  induction pieces with
  | nil => simp
  | cons piece rest ih =>
    obtain ⟨hpiece, hrest⟩ := forall_mem_cons.mp h
    have hgrows := (Sublist.flatMap_right rest hrest).length_le
    rw [flatMap_cons, flatMap_cons, forall_mem_cons, ← ih hrest]
    constructor
    · intro heq
      have hlength := congrArg length heq
      simp only [length_append] at hlength
      have hfirst := hpiece.eq_of_length (by have := hpiece.length_le; omega)
      rw [hfirst] at heq
      exact ⟨hfirst, append_cancel_left heq⟩
    · rintro ⟨hfirst, hothers⟩
      rw [hfirst, hothers]

section Lookup

variable (accept : Element → Bool) (name : Name) (providers : List Provider)

/-- The members of some providers that lookup finds. -/
def foundMembers : List MemberEntry := (acceptedMembers accept providers).filter (·.isFound name)

/-- The methods of a receiver that lookup finds. -/
def foundMethods (receiver : Ty) : List MethodEntry :=
  (receiverEntries receiver providers).filter (·.toMemberEntry.isFound name)

theorem mem_inherentFirst {provider : Provider} :
    provider ∈ inherentFirst providers ↔ provider ∈ providers := by
  simp only [inherentFirst, mem_append, mem_filter]
  cases provider.source.isInherent <;> simp

theorem foundMembers_eq :
    foundMembers accept name providers =
      (inherentFirst providers).flatMap (·.found accept name) :=
  filter_flatMap

theorem foundMembers_dropDisabled_eq :
    foundMembers accept name (providers.map (·.dropDisabled)) =
      (inherentFirst providers).flatMap (·.dropDisabled.found accept name) := by
  have hfirst : inherentFirst (providers.map (·.dropDisabled)) =
      (inherentFirst providers).map (·.dropDisabled) := by
    simp only [inherentFirst, filter_map, map_append]
    rfl
  rw [foundMembers_eq, hfirst, flatMap_map]

theorem foundMembers_sublist_dropDisabled :
    foundMembers accept name providers <+
      foundMembers accept name (providers.map (·.dropDisabled)) := by
  rw [foundMembers_eq, foundMembers_dropDisabled_eq]
  exact .flatMap_right _ fun provider _ => provider.found_sublist_dropDisabled accept name

theorem foundMembers_eq_dropDisabled_iff :
    foundMembers accept name providers =
        foundMembers accept name (providers.map (·.dropDisabled)) ↔
      ∀ provider ∈ providers, ¬provider.HidesDefault accept name := by
  rw [foundMembers_eq, foundMembers_dropDisabled_eq, flatMap_eq_flatMap_iff
    fun provider _ => provider.found_sublist_dropDisabled accept name]
  simp only [Provider.found_eq_dropDisabled_iff, mem_inherentFirst]

theorem foundMethods_eq (receiver : Ty) :
    foundMethods name providers receiver = receiver.derefChain.zipIdx.flatMap fun (ty, derefs) =>
      (foundMembers (·.kind.isMethod) name (providers.filter (·.selfTy = ty))).map
        fun entry => { entry with derefs := derefs } := by
  rw [foundMethods, receiverEntries, filter_flatMap]
  refine congrArg (flatMap · _) (funext fun (ty, derefs) => ?_)
  simp only [methodEntries, filter_map]
  rfl

theorem filter_dropDisabled (ty : Ty) :
    (providers.map (·.dropDisabled)).filter (·.selfTy = ty) =
      (providers.filter (·.selfTy = ty)).map (·.dropDisabled) := by
  rw [filter_map]
  rfl

theorem foundMethods_sublist_dropDisabled (receiver : Ty) :
    foundMethods name providers receiver <+
      foundMethods name (providers.map (·.dropDisabled)) receiver := by
  simp only [foundMethods_eq, filter_dropDisabled]
  exact .flatMap_right _ fun (ty, derefs) _ => (foundMembers_sublist_dropDisabled _ _ _).map _

theorem foundMethods_eq_dropDisabled_iff (receiver : Ty) :
    foundMethods name providers receiver =
        foundMethods name (providers.map (·.dropDisabled)) receiver ↔
      ∀ provider ∈ providers, provider.selfTy ∈ receiver.derefChain →
        ¬provider.HidesDefault (·.kind.isMethod) name := by
  have hmap (derefs : Nat) (found kept : List MemberEntry) :
      found.map (fun entry => ({ entry with derefs := derefs } : MethodEntry)) =
        kept.map (fun entry => { entry with derefs := derefs }) ↔ found = kept :=
    map_inj_right fun _ _ h => congrArg MethodEntry.toMemberEntry h
  have hchain (p : Ty → Prop) :
      (∀ step ∈ receiver.derefChain.zipIdx, p step.1) ↔ ∀ ty ∈ receiver.derefChain, p ty := by
    have hfst := forall_mem_map (l := receiver.derefChain.zipIdx) (f := Prod.fst) (P := p)
    rw [zipIdx_map_fst] at hfst
    exact hfst.symm
  simp only [foundMethods_eq, filter_dropDisabled]
  rw [flatMap_eq_flatMap_iff fun (ty, derefs) _ =>
    (foundMembers_sublist_dropDisabled _ _ _).map _]
  simp only [hmap, foundMembers_eq_dropDisabled_iff, mem_filter, decide_eq_true_eq]
  rw [hchain fun ty => ∀ provider, provider ∈ providers ∧ provider.selfTy = ty →
    ¬provider.HidesDefault (·.kind.isMethod) name]
  constructor
  · intro h provider hprovider hty
    exact h provider.selfTy hty provider ⟨hprovider, rfl⟩
  · rintro h _ hty provider ⟨hprovider, rfl⟩
    exact h provider hprovider hty

variable (store : Store)

theorem answer_lookup_members :
    (collectEntries (n := Walk) name (memberFeed providers)).answer store =
      .ok (foundMembers (fun _ => true) name providers) := by
  have hfeed : memberFeed (m := StateT (List MemberEntry) Walk) providers =
      Feed.entries (acceptedMembers (fun _ => true) providers) :=
    funext (memberFeed_eq_entries providers)
  rw [hfeed]
  exact answer_collectEntries (fun _ => rfl) name _ store

theorem answer_lookup_methods (receiver : Ty) :
    (collectEntries (n := Walk) name (receiverFeed receiver providers)).answer store =
      .ok (foundMethods name providers receiver) := by
  have hfeed : receiverFeed (m := StateT (List MethodEntry) Walk) receiver providers =
      Feed.entries (receiverEntries receiver providers) :=
    funext (receiverFeed_eq_entries receiver providers)
  rw [hfeed]
  exact answer_collectEntries (fun _ => rfl) name _ store

/-- Lookup among members, and among the methods of any receiver, never breaks down. Without the
members that are not in the build it finds all that it finds with them, in the same order, and
possibly more. It finds the same just if none of the providers that apply hides a default of its
trait by members that are not in the build. -/
theorem lookup_dropDisabled :
    (∃ found kept : List MemberEntry,
      (collectEntries (n := Walk) name (memberFeed providers)).answer store = .ok found ∧
      (collectEntries (n := Walk) name (memberFeed (providers.map (·.dropDisabled)))).answer
        store = .ok kept ∧
      found <+ kept ∧
      (found = kept ↔ ∀ provider ∈ providers, ¬provider.HidesDefault (fun _ => true) name)) ∧
    ∀ receiver : Ty, ∃ found kept : List MethodEntry,
      (collectEntries (n := Walk) name (receiverFeed receiver providers)).answer store =
        .ok found ∧
      (collectEntries (n := Walk) name (receiverFeed receiver
        (providers.map (·.dropDisabled)))).answer store = .ok kept ∧
      found <+ kept ∧
      (found = kept ↔ ∀ provider ∈ providers, provider.selfTy ∈ receiver.derefChain →
        ¬provider.HidesDefault (·.kind.isMethod) name) := by
  constructor
  · exact ⟨_, _, answer_lookup_members name providers store, answer_lookup_members name _ store,
      foundMembers_sublist_dropDisabled _ name providers,
      foundMembers_eq_dropDisabled_iff _ name providers⟩
  · intro receiver
    exact ⟨_, _, answer_lookup_methods name providers store receiver,
      answer_lookup_methods name _ store receiver,
      foundMethods_sublist_dropDisabled name providers receiver,
      foundMethods_eq_dropDisabled_iff name providers receiver⟩

end Lookup

/-- A declaration at the root of a crate that is built for Unix. -/
def unixElement (index : Nat) (kind : DeclKind) (name : Option Name) (attributes : Attributes)
    (owner : Option Owner) : Element :=
  let crate : Crate := ⟨⟨0⟩, ⟨"app"⟩, .workspace, .ofList [.flag ⟨"unix"⟩]⟩
  { Decl.ofKind kind (.root crate) with
    name := name, attributes := some attributes, owner := owner, id := .declared index }

/-- An implementation of `Read` for `Buffer`. -/
def readImpl : Element := unixElement 0 .impl none [] none

def readTrait : Element := unixElement 1 .trait (some ⟨"Read"⟩) [] none

/-- The method `read` of the trait. -/
def readDefault : Element :=
  unixElement 3 (.function true) (some ⟨"read"⟩) [] (some (.trait readTrait.id))

/-- The implementation writes a `read` of its own, for Windows only. -/
def windowsReader : Provider :=
  .traitImpl (.adt ⟨"Buffer"⟩ []) readImpl readTrait
    [unixElement 2 (.function true) (some ⟨"read"⟩) [.cfg (.flag ⟨"windows"⟩)]
      (some (.impl readImpl.id))]
    [readDefault] .empty

/-- On Unix the trait's `read` is not found, neither among the members of `Buffer` nor as a method
of `&Buffer`, though it is the only one. -/
theorem windowsReader_hides_default :
    let store : Store := ⟨.empty .plain, []⟩
    let receiver : Ty := .ref false windowsReader.selfTy
    let inherited : MemberEntry :=
      ⟨⟨"read"⟩, readDefault, .empty, windowsReader.selfTy, .inheritedFrom readImpl readTrait⟩
    (collectEntries (n := Walk) ⟨"read"⟩ (memberFeed [windowsReader])).answer store = .ok [] ∧
      (collectEntries (n := Walk) ⟨"read"⟩ (memberFeed [windowsReader.dropDisabled])).answer
        store = .ok [inherited] ∧
      (collectEntries (n := Walk) ⟨"read"⟩ (receiverFeed receiver [windowsReader])).answer
        store = .ok [] ∧
      (collectEntries (n := Walk) ⟨"read"⟩ (receiverFeed receiver
        [windowsReader.dropDisabled])).answer store = .ok [{ inherited with derefs := 1 }] := by
  intro store receiver inherited
  rw [answer_lookup_members, answer_lookup_members, answer_lookup_methods, answer_lookup_methods]
  exact ⟨rfl, rfl, rfl, rfl⟩

end ScopeWalk
