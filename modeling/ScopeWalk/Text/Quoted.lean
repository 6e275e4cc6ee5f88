import ScopeWalk.Text.PrintTable

/-!
# Quoted text

A quoted text stands between two quotes and shows every character in one line of visible text. A
character that cannot be shown as itself is escaped by a backslash: five characters have a
letter of their own, the backslash and the enclosing quote are repeated after it, and all others
are given by their code point in lower-case hexadecimal digits.
-/
namespace ScopeWalk.Text

/-- The code point of `c` between braces. -/
def escapeCodePoint (c : Char) : List Char :=
  ['\\', 'u', '\x7b'] ++ Nat.toDigits 16 c.toNat ++ ['\x7d']

/-- How `c` is written between two marks `mark`. -/
def escape (mark c : Char) : List Char :=
  if c = '\x00' then ['\\', '0']
  else if c = '\t' then ['\\', 't']
  else if c = '\r' then ['\\', 'r']
  else if c = '\n' then ['\\', 'n']
  else if c = '\\' ∨ c = mark then ['\\', c]
  else if isCombining c || !isPrintable c then escapeCodePoint c
  else [c]

/-- A text between double quotes. -/
def quote (cs : List Char) : List Char :=
  '"' :: (cs.flatMap (escape '"') ++ ['"'])

/-- A character between single quotes. -/
def quoteChar (c : Char) : List Char :=
  '\'' :: (escape '\'' c ++ ['\''])

/-- Quoting leaves every character of the text as it is. -/
def isPlain (cs : List Char) : Bool :=
  cs.all fun c => escape '"' c = [c]

end ScopeWalk.Text
