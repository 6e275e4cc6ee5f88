import ScopeWalk.Cfg.Predicate
import ScopeWalk.Cfg.Token

/-!
# Reading predicates

A predicate is a flag, a key with a quoted value, or one of the operators `all`, `any` and `not`
with its operands in parentheses. Operands are separated by commas and may end with one. The
operator words are flags or keys where no parenthesis follows. Whether a word is an operator is
asked after its operands were read, so a fault inside the parentheses is reported first.
-/
namespace ScopeWalk.Cfg

namespace Predicate

/-- The predicate that an operator word makes of its operands. -/
def ofOperator (word : Name) (operands : List Predicate) : Except ReadError Predicate :=
  match word.text with
  | "all" => .ok (.all operands)
  | "any" => .ok (.any operands)
  | "not" =>
    match operands with
    | [operand] => .ok (.not operand)
    | _ => .error (.notArity operands.length)
  | _ => .error (.unknownOperator word)

mutual

/-- Read one predicate from the beginning of a text. -/
def read (size : Nat) (cs : List Char) : Except ReadError (Predicate × Rest cs) := do
  let (word, ⟨afterWord, hword⟩) ← readIdent size cs
  match eat '=' afterWord with
  | some ⟨afterEq, heq⟩ =>
    let (value, ⟨rest, hrest⟩) ← readString size afterEq
    return (.keyValue word value, ⟨rest, by omega⟩)
  | none =>
    match eat '(' afterWord with
    | none => return (.flag word, ⟨afterWord, hword⟩)
    | some ⟨inside, hinside⟩ =>
      let (operands, ⟨afterOperands, hoperands⟩) ← readOperands size inside
      let ⟨rest, hrest⟩ ← expect size ')' afterOperands
      let predicate ← ofOperator word operands
      return (predicate, ⟨rest, by omega⟩)
termination_by (cs.length, 0)

/-- Read predicates up to a closing parenthesis, which is left, or up to a missing comma. -/
def readOperands (size : Nat) (cs : List Char) :
    Except ReadError (List Predicate × { rest : List Char // rest.length ≤ cs.length }) := do
  if (eat ')' cs).isSome then
    return ([], ⟨cs, Nat.le_refl _⟩)
  let (operand, ⟨afterOperand, hoperand⟩) ← read size cs
  match eat ',' afterOperand with
  | none => return ([operand], ⟨afterOperand, Nat.le_of_lt hoperand⟩)
  | some ⟨afterComma, hcomma⟩ =>
    let (operands, ⟨rest, hrest⟩) ← readOperands size afterComma
    return (operand :: operands, ⟨rest, by omega⟩)
termination_by (cs.length, 1)

end

/-- The predicate that a whole text spells. -/
def parse (text : String) : Except ReadError Predicate := do
  let cs := text.toList
  let size := Text.byteLength cs
  let (predicate, rest) ← read size cs
  finish size rest.1
  return predicate

/-- Like `parse`, and unknown where the text is no predicate. -/
def ofText (text : String) : Predicate :=
  match parse text with
  | .ok predicate => predicate
  | .error _ => .unknown

end Predicate

end ScopeWalk.Cfg
