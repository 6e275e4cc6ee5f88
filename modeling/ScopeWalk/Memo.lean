/-!
# Compute-once cells

A cell holds a computation that is run when the cell is first read, and from then on the value
it gave. The computation is taken out before it runs, so it never runs twice. If it breaks down,
the read fails and the cell is left without a computation; the next read then finds nothing to
run and settles on the default value.
-/
namespace ScopeWalk

/-- The message of a computation that broke down. -/
structure Failure where
  message : String
  deriving DecidableEq, Repr

/-- A cell for a value of type `α` that a computation of type `τ` gives. -/
inductive Memo (τ α : Type) where
  /-- Not read yet. -/
  | pending (thunk : τ)
  /-- The computation broke down. -/
  | spent
  | ready (value : α)
  deriving DecidableEq, Repr

namespace Memo

variable {τ α σ : Type}

/-- The value, if there is one already. -/
def peek : Memo τ α → Option α
  | .ready value => some value
  | _ => none

def isComputed (cell : Memo τ α) : Bool := cell.peek.isSome

/-- Read a cell, in a state that its computation may change. The answer comes with the state and
the cell as they are afterwards. -/
def force [Inhabited α] (run : τ → σ → Except Failure α × σ) (cell : Memo τ α) (state : σ) :
    (Except Failure α × σ) × Memo τ α :=
  match cell with
  | .ready value => ((.ok value, state), .ready value)
  | .spent => ((.ok default, state), .ready default)
  | .pending thunk =>
    match run thunk state with
    | (.ok value, state) => ((.ok value, state), .ready value)
    | (.error failure, state) => ((.error failure, state), .spent)

/-- The state of a cell in words, its value written by `value`. -/
def render (value : α → String) (cell : Memo τ α) : String :=
  "Memo(" ++ cell.peek.elim "<pending>" value ++ ")"

end Memo

end ScopeWalk
