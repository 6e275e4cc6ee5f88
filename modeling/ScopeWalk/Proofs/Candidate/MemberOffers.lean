import ScopeWalk.Candidate.Provider
import ScopeWalk.Proofs.Feed.Offers

/-!
# The members that providers offer

The walks over providers go through lists that depend on the providers alone: the members that
may be offered, the methods among them, and the methods of each type in a receiver's chain of
references.
-/
namespace ScopeWalk

/-- The members of a provider that may be offered, in the order they are listed. -/
def Provider.acceptedEntries (provider : Provider) (accept : Element → Bool) : List MemberEntry :=
  provider.listed.filterMap fun (member, source) => provider.entry? accept member source

/-- The members of all providers that may be offered. -/
def acceptedMembers (accept : Element → Bool) (providers : List Provider) : List MemberEntry :=
  (inherentFirst providers).flatMap (·.acceptedEntries accept)

/-- The methods of all providers, for a receiver that lost `derefs` references. -/
def methodEntries (providers : List Provider) (derefs : Nat) : List MethodEntry :=
  (acceptedMembers (·.kind.isMethod) providers).map fun entry => { entry with derefs := derefs }

/-- The methods of a receiver, its own first. -/
def receiverEntries (receiver : Ty) (providers : List Provider) : List MethodEntry :=
  receiver.derefChain.zipIdx.flatMap fun (ty, derefs) =>
    methodEntries (providers.filter (·.selfTy = ty)) derefs

variable {m : Type → Type u} [Monad m] [LawfulMonad m]

theorem acceptedMemberFeed_eq_entries (accept : Element → Bool) (providers : List Provider)
    (visit : Visitor m MemberEntry) :
    acceptedMemberFeed accept providers visit =
      Feed.entries (acceptedMembers accept providers) visit := by
  simp only [acceptedMemberFeed, Feed.anyM_optional, Feed.anyM_entries]
  rfl

theorem memberFeed_eq_entries (providers : List Provider) (visit : Visitor m MemberEntry) :
    memberFeed providers visit =
      Feed.entries (acceptedMembers (fun _ => true) providers) visit :=
  acceptedMemberFeed_eq_entries _ providers visit

theorem memberEntryFeed_eq_entries (providers : List Provider) (visit : Visitor m Entry) :
    memberEntryFeed providers visit =
      Feed.entries ((acceptedMembers (fun _ => true) providers).map .member) visit := by
  rw [← Feed.map_entries]
  exact memberFeed_eq_entries providers _

theorem methodFeed_eq_entries (providers : List Provider) (derefs : Nat)
    (visit : Visitor m MethodEntry) :
    methodFeed providers derefs visit = Feed.entries (methodEntries providers derefs) visit := by
  rw [methodEntries, ← Feed.map_entries]
  exact acceptedMemberFeed_eq_entries _ providers _

theorem receiverFeed_eq_entries (receiver : Ty) (providers : List Provider)
    (visit : Visitor m MethodEntry) :
    receiverFeed receiver providers visit =
      Feed.entries (receiverEntries receiver providers) visit := by
  simp only [receiverFeed, methodFeed_eq_entries, Feed.anyM_entries]
  rfl

end ScopeWalk
