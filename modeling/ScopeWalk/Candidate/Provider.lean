import ScopeWalk.Feed.Basic

/-!
# Members that a type provides

A provider is an `impl` block, or a trait bound, that is known to apply to a type. It lists the
members written there; an `impl` block of a trait also lists the members of the trait, of which
it inherits those that it does not write itself. `impl` blocks of the type itself are asked
first.

Only members that belong where they are listed are offered: one that is owned by another `impl`
block, or is listed as written but owned by a trait, is passed over.
-/
namespace ScopeWalk

structure Provider where
  /-- The type it applies to. -/
  selfTy : Ty
  subst : Substitution
  source : MemberSource
  /-- Members written in the `impl` block, or in the trait of a bound. -/
  members : List Element
  /-- Members of the trait that an `impl` block is for. -/
  traitMembers : List Element

/-- An `impl` block of a type itself. -/
def Provider.inherent (selfTy : Ty) (impl : Element) (members : List Element)
    (subst : Substitution) : Provider :=
  ⟨selfTy, subst, .inherent impl, members, []⟩

/-- An `impl` block of a trait. -/
def Provider.traitImpl (selfTy : Ty) (impl trait : Element) (members traitMembers : List Element)
    (subst : Substitution) : Provider :=
  ⟨selfTy, subst, .written impl trait, members, traitMembers⟩

namespace MemberSource

/-- A member with this owner can have come from here. A member without owner is trusted. -/
def accepts (source : MemberSource) : Option Owner → Bool
  | none => true
  | some (.impl owner) => source.isWrittenInImpl && source.impl?.any (·.id == owner)
  | some (.trait owner) => !source.isWrittenInImpl && source.trait?.any (·.id == owner)

end MemberSource

namespace Provider

/-- The provider writes a member of the same name itself. -/
def overrides (provider : Provider) (traitMember : Element) : Bool :=
  match traitMember.name with
  | none => false
  | some name => provider.members.any (·.name == some name)

/-- Trait members that an `impl` block inherits unchanged. -/
def defaults (provider : Provider) : List (Element × MemberSource) :=
  match provider.source with
  | .written impl trait =>
    (provider.traitMembers.filter (!provider.overrides ·)).map (·, .inheritedFrom impl trait)
  | _ => []

/-- Everything the provider lists: what is written there, then what is inherited. -/
def listed (provider : Provider) : List (Element × MemberSource) :=
  provider.members.map (·, provider.source) ++ provider.defaults

/-- The candidate for a listed member, if it is one that may be offered. -/
def entry? (provider : Provider) (accept : Element → Bool) (member : Element)
    (source : MemberSource) : Option MemberEntry :=
  if member.isAbstractable && accept member && source.accepts member.owner then
    member.name.map fun name => ⟨name, member, provider.subst, provider.selfTy, source⟩
  else none

end Provider

/-- Providers with `impl` blocks of the type itself moved to the front. -/
def inherentFirst (providers : List Provider) : List Provider :=
  providers.filter (·.source.isInherent) ++ providers.filter (!·.source.isInherent)

variable {m : Type → Type u} [Monad m]

/-- Offer the accepted members of all providers. -/
def acceptedMemberFeed (accept : Element → Bool) (providers : List Provider) : Feed m MemberEntry :=
  fun visit =>
    (inherentFirst providers).anyM fun provider =>
      provider.listed.anyM fun (member, source) =>
        Feed.optional (provider.entry? accept member source) visit

/-- Offer the members of all providers. -/
def memberFeed (providers : List Provider) : Feed m MemberEntry :=
  acceptedMemberFeed (fun _ => true) providers

/-- Offer the members of all providers as candidates of an ordinary scope. -/
def memberEntryFeed (providers : List Provider) : Feed m Entry :=
  (memberFeed providers).map .member

/-- Offer the members that are called on a value, for a receiver that lost `derefs` references.
-/
def methodFeed (providers : List Provider) (derefs : Nat) : Feed m MethodEntry :=
  (acceptedMemberFeed (·.kind.isMethod) providers).map fun entry => { entry with derefs := derefs }

/-- Offer the methods of a receiver: those of its own type, then those of each type that
stripping references leads to. -/
def receiverFeed (receiver : Ty) (providers : List Provider) : Feed m MethodEntry := fun visit =>
  receiver.derefChain.zipIdx.anyM fun (ty, derefs) =>
    methodFeed (providers.filter (·.selfTy = ty)) derefs visit

end ScopeWalk
