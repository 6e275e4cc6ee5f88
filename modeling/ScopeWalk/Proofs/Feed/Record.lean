import ScopeWalk.Proofs.Feed.Calls

/-!
# How far a walk came

A walk may also end because its visitor breaks down, and then nothing is left of the states that
the visitor kept. So that it can be said how far such a walk came, offers are written down before
the visitor sees them, in a record that lies below the breakdowns.
-/
namespace ScopeWalk

/-- How far a walk came. -/
structure Record (ε : Type) where
  /-- What the visitor was offered. -/
  handed : List (Offer ε)
  /-- Whether the visitor stopped the walk. Of a walk that broke down this is not known. -/
  stopped? : Option Bool

/-- Nothing was offered yet. -/
def Record.empty : Record ε := ⟨[], none⟩

/-- Computations on the store that may break down, with a record that remains if they do. -/
abbrev Recorded (ε : Type) := ExceptT Failure (StateT (Record ε) (StateM Store))

namespace Recorded

/-- A walk on the store leaves the record as it is. -/
def lift (walk : Walk α) : Recorded ε α := ExceptT.mk (StateT.lift walk.run)

theorem lift_run (walk : Walk α) (record : Record ε) :
    (lift walk).run.run record = walk.run >>= fun answer => pure (answer, record) := rfl

instance : MonadLift Walk (Recorded ε) := ⟨lift⟩

instance : LawfulMonadLift Walk (Recorded ε) where
  monadLift_pure _ := rfl
  monadLift_bind walk next := by
    refine ExceptT.ext (StateT.ext fun record => ?_)
    show (lift (walk >>= next)).run.run record = (lift walk >>= fun value => lift (next value)).run.run
      record
    rw [lift_run, ExceptT.run_bind, ExceptT.run_bind, StateT.run_bind, lift_run, bind_assoc,
      bind_assoc]
    refine bind_congr fun answer => ?_
    cases answer with
    | ok value => rfl
    | error failure => rfl

end Recorded

variable {m : Type → Type u} [Monad m] [MonadStateOf (Record ε) m]

/-- The visitor as it is, with its offers written down. -/
def Visitor.recorded (visit : Visitor m ε) : Visitor m ε := fun offer => do
  modifyThe (Record ε) fun record => { record with handed := record.handed ++ [offer] }
  visit offer

/-- The walk as it is, with a record of how far it comes. -/
def Feed.recorded (feed : Feed m ε) : Feed m ε := fun visit => do
  let stopped ← feed visit.recorded
  modifyThe (Record ε) fun record => { record with stopped? := some stopped }
  return stopped

end ScopeWalk
