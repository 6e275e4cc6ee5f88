import ScopeWalk.Name

/-!
# What is wrong with a configuration text

Offsets are in bytes from the beginning of the text.
-/
namespace ScopeWalk.Cfg

inductive ReadError where
  | unexpectedEnd
  | unexpectedChar (found : Char) (offset : Nat)
  /-- No quote follows the one at `offset`. -/
  | unterminatedString (offset : Nat)
  | invalidIdent (word : Name)
  /-- A negation of `found` predicates. -/
  | notArity (found : Nat)
  | unknownOperator (word : Name)
  /-- A complete text goes on at `offset`. -/
  | trailingInput (offset : Nat)
  deriving DecidableEq, Repr

namespace ReadError

def message : ReadError → String
  | .unexpectedEnd => "unexpected end of cfg input"
  | .unexpectedChar found offset =>
    "unexpected character " ++ String.ofList (Text.quoteChar found) ++ " at offset " ++
      toString offset
  | .unterminatedString offset =>
    "unterminated string literal starting at offset " ++ toString offset
  | .invalidIdent word => "`" ++ word.text ++ "` is not a valid cfg identifier"
  | .notArity found => "`not` takes exactly one predicate, found " ++ toString found
  | .unknownOperator word => "unknown cfg operator `" ++ word.text ++ "`"
  | .trailingInput offset => "trailing input at offset " ++ toString offset

end ReadError

end ScopeWalk.Cfg
