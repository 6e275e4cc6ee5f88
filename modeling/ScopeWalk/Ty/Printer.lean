import ScopeWalk.Ty.Basic

/-!
# Writing types

Types are written as in source: arguments between angle brackets, none for a type without
arguments; a reference sign before the type behind it; a tuple of one part with a comma after
the part.
-/
namespace ScopeWalk.Ty

mutual

/-- The characters of the written form. -/
def spell : Ty → List Char
  | .unknown => "\x7bunknown\x7d".toList
  | .primitive name => name.chars
  | .param name => name.chars
  | .adt name [] => name.chars
  | .adt name (arg :: args) => name.chars ++ '<' :: (arg.spell ++ spellMore args ++ ['>'])
  | .ref true inner => "&mut ".toList ++ inner.spell
  | .ref false inner => '&' :: inner.spell
  | .tuple [] => "()".toList
  | .tuple [part] => '(' :: (part.spell ++ ",)".toList)
  | .tuple (part :: next :: parts) =>
    '(' :: (part.spell ++ ", ".toList ++ next.spell ++ spellMore parts ++ [')'])

/-- The types after the first of a list. -/
def spellMore : List Ty → List Char
  | [] => []
  | t :: ts => ", ".toList ++ t.spell ++ spellMore ts

end

theorem spellMore_cons (t : Ty) (ts : List Ty) :
    spellMore (t :: ts) = ',' :: ' ' :: (t.spell ++ spellMore ts) := rfl

def render (t : Ty) : String := String.ofList t.spell

end ScopeWalk.Ty
