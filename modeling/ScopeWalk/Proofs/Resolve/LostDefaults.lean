import ScopeWalk.Proofs.Resolve.Membership

/-!
# Defaults that are lost

A member that is listed where it does not belong is not offered. It still bears a name, though, and
an `impl` block inherits no member of its trait whose name is borne by anything that it lists. So the
default of a trait is lost if all that the block lists under its name is passed over: then nothing is
offered under the name at all. This is the only way in which a default can be lost.
-/
namespace ScopeWalk

/-- The member may be offered by those who are at home with this owner. -/
def Element.isAtHome (home : Owner) (member : Element) : Bool :=
  member.isAbstractable && member.owner.all (· = home)

namespace Provider

/-- The candidate for a member of the provider. -/
def entryFor (provider : Provider) (name : Name) (member : Element) (source : MemberSource) :
    MemberEntry :=
  ⟨name, member, provider.subst, provider.selfTy, source⟩

/-- Members of this name are listed as written, but they are all passed over. -/
structure Loses (provider : Provider) (name : Name) : Prop where
  written : ∃ member ∈ provider.members, member.name = some name
  passedOver : ∀ member ∈ provider.members, member.name = some name →
    member.isAtHome provider.source.home = false

section Offered

variable {provider : Provider} {name : Name} {member : Element}

theorem entryFor_mem_offered {source : MemberSource} :
    provider.entryFor name member source ∈ provider.offered ↔
      (member, source) ∈ provider.tagged ∧ member.isAtHome source.home ∧ member.name = some name := by
  simp only [offered, List.mem_filterMap, List.mem_filter, Option.map_eq_some_iff, Prod.exists]
  constructor
  · rintro ⟨_, _, ⟨htagged, hhome⟩, _, hname, heq⟩
    cases heq
    exact ⟨htagged, hhome, hname⟩
  · rintro ⟨htagged, hhome, hname⟩
    exact ⟨member, source, ⟨htagged, hhome⟩, name, hname, rfl⟩

variable {impl trait : Element} (hsource : provider.source = .written impl trait)
include hsource

theorem mem_tagged_written :
    (member, .written impl trait) ∈ provider.tagged ↔ member ∈ provider.members := by
  simp [tagged, hsource]

theorem mem_tagged_inherited : (member, .inheritedFrom impl trait) ∈ provider.tagged ↔
    member ∈ provider.traitMembers ∧ ∀ written ∈ provider.members, written.name ≠ member.name := by
  simp [tagged, hsource, unwritten]

/-- An `impl` block offers something under a name that it lists just if it does not lose it. -/
theorem exists_written_iff (hwritten : ∃ written ∈ provider.members, written.name = some name) :
    (∃ written ∈ provider.members,
        provider.entryFor name written (.written impl trait) ∈ provider.offered) ↔
      ¬provider.Loses name := by
  constructor
  · rintro ⟨written, hmem, hoffered⟩ hloses
    obtain ⟨-, hhome, hname⟩ := entryFor_mem_offered.mp hoffered
    have hpassed := hloses.passedOver written hmem hname
    rw [hsource, hhome] at hpassed
    cases hpassed
  · intro hkept
    refine Classical.byContradiction fun hnone => hkept ⟨hwritten, fun written hmem hname => ?_⟩
    rw [hsource]
    refine Bool.eq_false_iff.mpr fun hhome => hnone ⟨written, hmem, ?_⟩
    exact entryFor_mem_offered.mpr ⟨(mem_tagged_written hsource).mpr hmem, hhome, hname⟩

end Offered

end Provider

/-- What all providers offer is made of what each of them offers. Take a default that an `impl`
block could inherit from its trait. It is inherited just if the block lists nothing under its name.
So there is something offered under the name, be it written there or inherited, just if the block
does not lose the name. -/
theorem default_offered_iff (providers : List Provider) :
    (memberFeed providers).offers = (offeredMembers providers).map .candidate ∧
    ∀ provider ∈ providers, ∀ impl trait, provider.source = .written impl trait →
      ∀ member ∈ provider.traitMembers, member.isAtHome (.trait trait.id) →
        ∀ name, member.name = some name →
          let inherited := provider.entryFor name member (.inheritedFrom impl trait)
          (inherited ∈ provider.offered ↔ ∀ written ∈ provider.members, written.name ≠ some name) ∧
          ((inherited ∈ provider.offered ∨ ∃ written ∈ provider.members,
              provider.entryFor name written (.written impl trait) ∈ provider.offered) ↔
            ¬provider.Loses name) := by
  constructor
  · refine Feed.offers_eq fun visit => ?_
    rw [memberFeed_eq_entries, acceptedMembers_eq_offeredMembers]
    rfl
  · intro provider _ impl trait hsource member hmember hhome name hname inherited
    have hinherited : inherited ∈ provider.offered ↔
        ∀ written ∈ provider.members, written.name ≠ some name := by
      rw [Provider.entryFor_mem_offered, Provider.mem_tagged_inherited hsource, hname]
      exact ⟨fun h => h.1.2, fun h => ⟨⟨hmember, h⟩, hhome, rfl⟩⟩
    refine ⟨hinherited, ?_⟩
    by_cases hwritten : ∃ written ∈ provider.members, written.name = some name
    · have hnot : inherited ∉ provider.offered := by
        obtain ⟨written, hmem, hname⟩ := hwritten
        exact fun h => hinherited.mp h written hmem hname
      rw [or_iff_right hnot]
      exact Provider.exists_written_iff hsource hwritten
    · have hfree : ∀ written ∈ provider.members, written.name ≠ some name :=
        fun written hmem h => hwritten ⟨written, hmem, h⟩
      exact iff_of_true (.inl (hinherited.mpr hfree)) fun hloses => hwritten hloses.written

/-- An implementation of `Read` that lists a single member. -/
def readerWith (member : Element) : Provider :=
  .traitImpl (.adt ⟨"Buffer"⟩ []) readImpl readTrait [member] [readDefault] .empty

/-- The trait's `read` is offered behind a member of another name. -/
theorem default_offered_iff_sample :
    let close := unixElement 4 (.function true) (some ⟨"close"⟩) [] (some (.impl readImpl.id))
    let provider := readerWith close
    (memberFeed [provider]).offers =
        [.candidate ⟨⟨"close"⟩, close, .empty, .adt ⟨"Buffer"⟩ [], .written readImpl readTrait⟩,
          .candidate ⟨⟨"read"⟩, readDefault, .empty, .adt ⟨"Buffer"⟩ [],
            .inheritedFrom readImpl readTrait⟩] ∧
      provider.source = .written readImpl readTrait ∧ readDefault ∈ provider.traitMembers ∧
      readDefault.isAtHome (.trait readTrait.id) ∧ readDefault.name = some ⟨"read"⟩ ∧
      provider.entryFor ⟨"read"⟩ readDefault (.inheritedFrom readImpl readTrait) ∈
        provider.offered ∧
      ¬provider.Loses ⟨"read"⟩ := by
  intro close provider
  obtain ⟨hoffers, hdefaults⟩ := default_offered_iff [provider]
  obtain ⟨hinherited, hkept⟩ := hdefaults provider (.head _) readImpl readTrait rfl readDefault
    (.head _) rfl ⟨"read"⟩ rfl
  have hoffered := hinherited.mpr (by decide)
  exact ⟨hoffers, rfl, .head _, rfl, rfl, hoffered, hkept.mp (.inl hoffered)⟩

/-- The trait's `read` could be inherited, but nothing is offered if the block lists a `read` of
another block, one of the trait, or a struct of this name. -/
theorem readers_lose_default :
    let foreign := unixElement 4 (.function true) (some ⟨"read"⟩) [] (some (.impl (.declared 7)))
    let misplaced := unixElement 5 (.function true) (some ⟨"read"⟩) [] (some (.trait readTrait.id))
    let struct := unixElement 6 .struct (some ⟨"read"⟩) [] none
    readDefault.isAtHome (.trait readTrait.id) ∧ readDefault.name = some ⟨"read"⟩ ∧
      (memberFeed [readerWith foreign]).offers = [] ∧
      (memberFeed [readerWith misplaced]).offers = [] ∧
      (memberFeed [readerWith struct]).offers = [] := by
  intro foreign misplaced struct
  exact ⟨rfl, rfl, rfl, rfl, rfl⟩

end ScopeWalk
