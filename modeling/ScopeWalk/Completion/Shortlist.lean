import ScopeWalk.Completion.Suggestion

/-!
# Suggestions for what was typed so far

A shortlist keeps the suggestions whose label begins with the text typed so far. Upper and lower
case of the twenty-six basic letters do not matter; all other characters must agree. The
comparison is made on bytes: as many bytes of the label as were typed are cut off, which must
not divide a character.
-/
namespace ScopeWalk

namespace Text

/-- The UTF-8 form. -/
def bytes (cs : List Char) : List UInt8 := cs.flatMap String.utf8EncodeChar

/-- The first characters, `count` bytes in all, if there are characters of just that length. -/
def takeBytes : Nat → List Char → Option (List Char)
  | 0, _ => some []
  | _ + 1, [] => none
  | count + 1, c :: cs =>
    if c.utf8Size ≤ count + 1 then (c :: ·) <$> takeBytes (count + 1 - c.utf8Size) cs else none

/-- A byte with a capital letter made small. -/
def lowerByte (b : UInt8) : UInt8 := if 65 ≤ b && b ≤ 90 then b + 32 else b

/-- Two texts have the same bytes up to the case of letters. -/
def equalIgnoringCase (a b : List Char) : Bool :=
  (bytes a).map lowerByte = (bytes b).map lowerByte

end Text

structure Shortlist where
  /-- The text typed so far. -/
  typed : List Char
  /-- What was kept, in the order it came. -/
  suggestions : List Suggestion

namespace Shortlist

def empty (typed : List Char) : Shortlist := ⟨typed, []⟩

/-- A label begins with what was typed. -/
def accepts (typed label : List Char) : Bool :=
  (Text.takeBytes (Text.byteLength typed) label).any (Text.equalIgnoringCase · typed)

/-- Keep a suggestion if its label begins with what was typed. -/
def add (list : Shortlist) (suggestion : Suggestion) : Shortlist :=
  if accepts list.typed suggestion.label.chars then
    { list with suggestions := list.suggestions ++ [suggestion] }
  else list

/-- Lower priority first, then by label. -/
def precedes (a b : Suggestion) : Bool :=
  a.priority < b.priority || a.priority == b.priority && a.label.compare b.label != .gt

/-- What was kept, in the order in which it is shown. Equal suggestions stay in the order they
came. -/
def sorted (list : Shortlist) : List Suggestion := list.suggestions.mergeSort precedes

end Shortlist

end ScopeWalk
