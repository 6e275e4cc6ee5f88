import ScopeWalk.Proofs.Feed.Offers

/-!
# What a visitor is called on

To say how a walk treats its visitor, the calls are written down: what was offered each time, and
what was answered. The visitor itself is none the wiser. The record is kept in a state of its own
beneath the effects that the visitor has already.
-/
namespace ScopeWalk

/-- A visitor's calls: what it was offered, and what it answered. -/
abbrev Calls (ε : Type) := List (Offer ε × Bool)

/-- The visitor as it is, with its calls written down. -/
def Visitor.traced {m : Type → Type u} [Monad m] [MonadStateOf (Calls ε) m] (visit : Visitor m ε) :
    Visitor m ε := fun offer => do
  let stop ← visit offer
  modifyThe (Calls ε) (· ++ [(offer, stop)])
  return stop

/-- The walk as it is, with all calls of its visitor written down. -/
def Feed.traced {m : Type → Type u} [Monad m] [MonadStateOf (Calls ε) m] (feed : Feed m ε) :
    Feed m ε := fun visit => feed visit.traced

/-- A walk that visitors of all kinds can follow. -/
abbrev Producer (ε : Type) := ∀ (m : Type → Type) [Monad m], Feed m ε

/-- What a walk offers when it is never stopped. -/
def Producer.offers (producer : Producer ε) : List (Offer ε) := (producer _).offers

theorem Visitor.traced_run {m : Type → Type u} [Monad m] [LawfulMonad m]
    (visit : Visitor (StateT (Calls ε) m) ε) (offer : Offer ε) (log : Calls ε) :
    (visit.traced offer).run log = (do
      let (stop, log) ← (visit offer).run log
      return (stop, log ++ [(offer, stop)])) := by
  have hwrite (stop : Bool) (log : Calls ε) :
      (modifyThe (Calls ε) (· ++ [(offer, stop)]) : StateT (Calls ε) m PUnit).run log =
        pure (⟨⟩, log ++ [(offer, stop)]) := rfl
  simp only [Visitor.traced, StateT.run_bind, hwrite, pure_bind, StateT.run_pure]

end ScopeWalk
