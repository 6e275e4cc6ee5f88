import ScopeWalk.Text.IdentTable
import ScopeWalk.Text.Offset
import ScopeWalk.Text.Quoted

/-!
# Names

A name is the text under which a declaration can be found: an identifier as written, or an alias
given to it. Any text may serve as a name; `Name.isIdent` tells which of them can be written as
an identifier. Names are compared by their characters.
-/
namespace ScopeWalk

structure Name where
  text : String
  deriving DecidableEq, Inhabited, Repr

namespace Name

def chars (name : Name) : List Char := name.text.toList

def ofChars (cs : List Char) : Name := ⟨String.ofList cs⟩

@[simp] theorem chars_ofChars (cs : List Char) : (ofChars cs).chars = cs := by
  simp [chars, ofChars]

@[simp] theorem ofChars_chars (name : Name) : ofChars name.chars = name := by
  simp [chars, ofChars]

theorem chars_inj {a b : Name} : a.chars = b.chars ↔ a = b := by
  cases a; cases b; simp [chars, String.toList_inj]

/-- Names are ordered by code points. -/
def compare (a b : Name) : Ordering := compareOfLessAndEq a.text b.text

/-- Number of bytes of the name. -/
def size (name : Name) : Nat := Text.byteLength name.chars

/-- The name between double quotes. -/
def quoted (name : Name) : String := String.ofList (Text.quote name.chars)

end Name

namespace Text

/-- The text without the mark of a raw identifier. -/
def dropRawMark : List Char → List Char
  | 'r' :: '#' :: cs => cs
  | cs => cs

/-- An identifier begins with a letter or an underscore and goes on with identifier characters.
An underscore alone is a pattern and no identifier. -/
def isIdentBody : List Char → Bool
  | [] => false
  | c :: cs => (c = '_' && !cs.isEmpty || isIdentStart c) && cs.all isIdentContinue

/-- The text is an identifier, with or without the mark of a raw one. -/
def isIdent (cs : List Char) : Bool := isIdentBody (dropRawMark cs)

end Text

/-- The name can be written as an identifier. -/
def Name.isIdent (name : Name) : Bool := Text.isIdent name.chars

end ScopeWalk
