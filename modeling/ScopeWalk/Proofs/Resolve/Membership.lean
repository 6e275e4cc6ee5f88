import ScopeWalk.Proofs.Resolve.DisabledMembers

/-!
# The members of providers

Members are offered by three walks: as such, as candidates of an ordinary scope, and as methods.
What they offer is one list, which is made without regard to who asks: of each provider the members
that are written there and those that it inherits, each with the way it got there, and of these the
ones that are written where this way leads.
-/
namespace ScopeWalk

open Candidate

/-- Where members with this source are written: in the `impl` block itself, or in the trait. -/
def MemberSource.home : MemberSource → Owner
  | .inherent impl | .written impl _ => .impl impl.id
  | .inheritedFrom _ trait | .bound trait => .trait trait.id

/-- A member is accepted if it is written at home, or nobody knows where. -/
theorem MemberSource.accepts_eq (source : MemberSource) (owner : Option Owner) :
    source.accepts owner = owner.all (· = source.home) := by
  have hid (element : Element) (id : ElementId) :
      (element.id == id) = decide (id = element.id) := by
    by_cases h : id = element.id
    · simp [h]
    · simp [h, Ne.symm h]
  cases owner with
  | none => rfl
  | some owner =>
    cases owner with
    | impl id => cases source <;> simp [accepts, isWrittenInImpl, impl?, home, hid]
    | trait id => cases source <;> simp [accepts, isWrittenInImpl, trait?, home, hid]

namespace Provider

variable (provider : Provider)

/-- Members of the trait whose name no member of the `impl` block bears. -/
def unwritten : List Element :=
  provider.traitMembers.filter fun member => member.name ∉ provider.members.map (·.name)

/-- The members that are written there, and behind them those of the trait that an `impl` block
inherits. -/
def tagged : List (Element × MemberSource) :=
  provider.members.map (·, provider.source) ++
    match provider.source with
    | .written impl trait => provider.unwritten.map (·, .inheritedFrom impl trait)
    | _ => []

/-- Of all these members the ones that are offered. -/
def offered : List MemberEntry :=
  (provider.tagged.filter fun (member, source) =>
    member.isAbstractable && member.owner.all (· = source.home)).filterMap fun (member, source) =>
      member.name.map fun name => ⟨name, member, provider.subst, provider.selfTy, source⟩

/-- A trait member with a name is inherited just if the name is not written. -/
theorem overrides_eq {member : Element} {name : Name} (h : member.name = some name) :
    provider.overrides member = decide (member.name ∈ provider.members.map (·.name)) := by
  simp only [overrides, h, List.mem_map, List.any_eq, beq_iff_eq]

/-- What is listed, and what is said to be written or inherited, differ in members without a name,
and those are not offered. -/
theorem filterMap_listed (accept : Element → Bool) :
    (provider.listed.filterMap fun (member, source) => provider.entry? accept member source) =
      provider.tagged.filterMap fun (member, source) => provider.entry? accept member source := by
  rw [listed, tagged, List.filterMap_append, List.filterMap_append]
  refine congrArg _ ?_
  unfold defaults
  cases provider.source with
  | inherent impl => rfl
  | inheritedFrom impl trait => rfl
  | bound trait => rfl
  | written impl trait =>
    dsimp only
    rw [List.filterMap_map, List.filterMap_map, unwritten, List.filterMap_filter,
      List.filterMap_filter]
    refine congrArg (List.filterMap · _) (funext fun member => ?_)
    cases hname : member.name with
    | none => simp [hname, entry?]
    | some name =>
      rw [provider.overrides_eq hname, hname]
      simp

theorem acceptedEntries_eq (accept : Element → Bool) :
    provider.acceptedEntries accept = provider.offered.filter (accept ·.element) := by
  rw [acceptedEntries, filterMap_listed, offered, List.filterMap_filter, List.filter_filterMap]
  refine congrArg (List.filterMap · _) (funext fun tag => ?_)
  obtain ⟨member, source⟩ := tag
  dsimp only
  unfold entry?
  rw [MemberSource.accepts_eq]
  cases member.name with
  | none => simp
  | some name =>
    by_cases hkept : member.isAbstractable && member.owner.all (· = source.home)
    · by_cases haccept : accept member
      · rw [if_pos hkept, if_pos (by simpa [haccept] using hkept)]
        simp [haccept, Option.filter]
      · rw [if_pos hkept, if_neg (by simp [haccept])]
        simp [haccept, Option.filter]
    · rw [if_neg hkept, if_neg fun h => hkept (by simp_all)]
      rfl

end Provider

/-! ### All providers -/

section Providers

variable (providers : List Provider)

/-- The members that providers offer, those written for the type itself first. -/
def offeredMembers : List MemberEntry :=
  (providers.filter (·.source.isInherent) ++ providers.filter (!·.source.isInherent)).flatMap
    (·.offered)

theorem acceptedMembers_eq (accept : Element → Bool) :
    acceptedMembers accept providers = (offeredMembers providers).filter (accept ·.element) := by
  simp only [acceptedMembers, Provider.acceptedEntries_eq, offeredMembers, List.filter_flatMap]
  rfl

theorem acceptedMembers_eq_offeredMembers :
    acceptedMembers (fun _ => true) providers = offeredMembers providers := by
  rw [acceptedMembers_eq]
  exact List.filter_eq_self.mpr fun _ _ => rfl

theorem methodEntries_eq (derefs : Nat) : methodEntries providers derefs =
    ((offeredMembers providers).filter (·.element.kind = .function true)).map
      fun entry => { entry with derefs := derefs } := by
  have hmethod (kind : DeclKind) : kind.isMethod = decide (kind = .function true) := by
    cases kind with
    | function takesSelf => cases takesSelf <;> rfl
    | _ => rfl
  simp only [methodEntries, acceptedMembers_eq, hmethod]

/-- What is offered is a member of one of the providers, under the member's name. -/
theorem of_mem_offeredMembers {entry : MemberEntry} (h : entry ∈ offeredMembers providers) :
    ∃ provider ∈ providers, entry.selfTy = provider.selfTy ∧ entry.subst = provider.subst ∧
      entry.element.name = some entry.name ∧ (entry.element, entry.source) ∈ provider.tagged := by
  obtain ⟨provider, hprovider, hentry⟩ := List.mem_flatMap.mp h
  have hmem : provider ∈ providers := by
    rcases List.mem_append.mp hprovider with hfirst | hother
    · exact (List.mem_filter.mp hfirst).1
    · exact (List.mem_filter.mp hother).1
  obtain ⟨⟨member, source⟩, htagged, hnamed⟩ := List.mem_filterMap.mp hentry
  obtain ⟨name, hname, rfl⟩ := Option.map_eq_some_iff.mp hnamed
  exact ⟨provider, hmem, rfl, rfl, hname, (List.mem_filter.mp htagged).1⟩

end Providers

/-- Whatever the visitor is and does, the members of providers are offered to it from one list,
inherent ones first and otherwise in the order of the providers; so are the same members as
candidates of an ordinary scope, and those among them that are methods. Each stands for a member of
a provider, with the type and the substitution of the provider, under the member's own name. To
collect a name from the candidates comes to the elements of the members that are collected
otherwise: those that bear the name and are in the build. -/
theorem member_walks_agree (providers : List Provider) :
    let members := offeredMembers providers
    (∀ (m : Type → Type) [Monad m] [LawfulMonad m],
      (∀ visit : Visitor m MemberEntry,
        memberFeed providers visit = Feed.entries members visit) ∧
      (∀ visit : Visitor m Entry,
        memberEntryFeed providers visit = Feed.entries (members.map .member) visit) ∧
      ∀ (derefs : Nat) (visit : Visitor m MethodEntry), methodFeed providers derefs visit =
        Feed.entries ((members.filter (·.element.kind = .function true)).map
          fun entry => { entry with derefs := derefs }) visit) ∧
    (∀ entry ∈ members, ∃ provider ∈ providers,
      entry.selfTy = provider.selfTy ∧ entry.subst = provider.subst ∧
      entry.element.name = some entry.name ∧ (entry.element, entry.source) ∈ provider.tagged) ∧
    ∀ (name : Name) (store : Store), ∃ found : List MemberEntry,
      found = members.filter (fun entry => entry.name = name && entry.element.isEnabled) ∧
      (collectEntries (n := Walk) name (memberFeed providers)).answer store = .ok found ∧
      (collect (n := Walk) name (memberEntryFeed providers)).answer store =
        .ok (found.map (·.element)) := by
  intro members
  have hmembers : acceptedMembers (fun _ => true) providers = members :=
    acceptedMembers_eq_offeredMembers providers
  refine ⟨fun m _ _ => ⟨fun visit => ?_, fun visit => ?_, fun derefs visit => ?_⟩,
    fun entry => of_mem_offeredMembers providers, fun name store => ⟨_, rfl, ?_, ?_⟩⟩
  · rw [memberFeed_eq_entries, hmembers]
  · rw [memberEntryFeed_eq_entries, hmembers]
  · rw [methodFeed_eq_entries, methodEntries_eq]
  · have hfeed : memberFeed (m := StateT (List MemberEntry) Walk) providers =
        Feed.entries (members.map id) := by
      funext visit
      rw [memberFeed_eq_entries, hmembers, List.map_id]
    rw [hfeed, collectEntries, answer_collectWith_known name _ store fun _ => rfl]
    exact congrArg Except.ok (List.map_id _)
  · have hfeed : memberEntryFeed (m := StateT (List Element) Walk) providers =
        Feed.entries (members.map .member) := by
      funext visit
      rw [memberEntryFeed_eq_entries, hmembers]
    rw [hfeed, collect, answer_collectWith_known name _ store fun _ => rfl]
    rfl

/-- An implementation of `Read` that writes nothing, and behind it a block of the type itself, in
which a constant is listed that is written elsewhere. -/
def sampleProviders : List Provider :=
  let buffer : Ty := .adt ⟨"Buffer"⟩ []
  let block := unixElement 4 .impl none [] none
  [.traitImpl buffer readImpl readTrait [] [readDefault] .empty,
    .inherent buffer block
      [unixElement 5 .const (some ⟨"SIZE"⟩) [] (some (.impl readImpl.id)),
        unixElement 6 (.function true) (some ⟨"len"⟩) [] (some (.impl block.id))]
      .empty]

/-- The method of the block comes first, then the one that is inherited. -/
theorem member_walks_agree_sample :
    let store : Store := ⟨.empty .plain, []⟩
    let members := offeredMembers sampleProviders
    members.map (·.name) = [⟨"len"⟩, ⟨"read"⟩] ∧
      (∀ visit : Visitor (StateM (List (Offer MemberEntry))) MemberEntry,
        memberFeed sampleProviders visit = Feed.entries members visit) ∧
      (∀ entry ∈ members, entry.selfTy = .adt ⟨"Buffer"⟩ []) ∧
      (collect (n := Walk) ⟨"read"⟩ (memberEntryFeed sampleProviders)).answer store =
        .ok [readDefault] := by
  intro store members
  obtain ⟨hwalks, hmembers, hcollect⟩ := member_walks_agree sampleProviders
  obtain ⟨found, rfl, -, hread⟩ := hcollect ⟨"read"⟩ store
  refine ⟨by rfl, (hwalks _).1, fun entry hentry => ?_, hread.trans (by rfl)⟩
  obtain ⟨provider, hprovider, hty, -⟩ := hmembers entry hentry
  simp only [sampleProviders, List.mem_cons, List.not_mem_nil, or_false] at hprovider
  rcases hprovider with rfl | rfl
  · exact hty
  · exact hty

end ScopeWalk
