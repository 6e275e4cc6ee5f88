import ScopeWalk.Feed.Basic

/-!
# Leaving out what cannot be named

A visitor can be kept from seeing candidates that would be of no use in a module: those not
visible from there, and those hidden from documentation unless they are the module's own. A
declaration that has no visibility, or no attributes, passes. To decide, the element of every
candidate is asked for, deferred ones included.
-/
namespace ScopeWalk

/-- The declaration is worth offering in the module `importer`. -/
def Decl.isOfferedIn (decl : Decl) (importer : Module) : Bool :=
  decl.isVisibleFrom importer.path != some false &&
    !(decl.isDocHidden && !decl.module.same importer)

/-- The visitor that sees only what is of use in the module `importer`. -/
def Visitor.visibleFrom {m : Type → Type u} [Monad m] [MonadLiftT Walk m] (importer : Module)
    (visit : Visitor m Entry) : Visitor m Entry
  | .globBoundary => visit .globBoundary
  | .candidate entry => do
    let (found, entry) ← (entry.force : Walk _)
    if found.all (·.isOfferedIn importer) then visit (.candidate entry) else pure false

/-- The part of a feed that is of use in the module `importer`. -/
def Feed.visibleFrom {m : Type → Type u} [Monad m] [MonadLiftT Walk m] (importer : Module)
    (feed : Feed m Entry) : Feed m Entry :=
  fun visit => feed (visit.visibleFrom importer)

end ScopeWalk
