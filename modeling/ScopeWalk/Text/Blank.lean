import ScopeWalk.Text.CodeRanges

/-!
# Blank characters and lines

Blank is White_Space. Blanks separate tokens and are dropped at both ends of a line. A line ends
at a line feed; a carriage return before it is blank, so trimming takes it along.
-/
namespace ScopeWalk.Text

/-- Characters of White_Space. -/
def blankRanges : CodeRanges := [
  (0x09, 0x0D), (0x20, 0x20), (0x85, 0x85), (0xA0, 0xA0), (0x1680, 0x1680), (0x2000, 0x200A),
  (0x2028, 0x2029), (0x202F, 0x202F), (0x205F, 0x205F), (0x3000, 0x3000)]

def isBlank (c : Char) : Bool := blankRanges.contains c

/-- The text from its first character that is not blank. -/
def skipBlank (cs : List Char) : List Char := cs.dropWhile isBlank

theorem skipBlank_length_le (cs : List Char) : (skipBlank cs).length ≤ cs.length :=
  (List.dropWhile_suffix isBlank).length_le

theorem skipBlank_suffix (cs : List Char) : skipBlank cs <:+ cs :=
  List.dropWhile_suffix isBlank

/-- The text without the blanks at its two ends. -/
def trim (cs : List Char) : List Char :=
  (skipBlank (skipBlank cs).reverse).reverse

/-- The pieces between line feeds. There is always at least one. -/
def lines : List Char → List (List Char)
  | [] => [[]]
  | c :: cs =>
    if c = '\n' then [] :: lines cs
    else match lines cs with
      | [] => [[c]]
      | line :: rest => (c :: line) :: rest

/-- The lines that say something, each without the blanks at its ends. -/
def trimmedLines (cs : List Char) : List (List Char) :=
  ((lines cs).map trim).filter fun line => !line.isEmpty

end ScopeWalk.Text
