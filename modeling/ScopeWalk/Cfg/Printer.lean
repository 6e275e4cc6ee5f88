import ScopeWalk.Cfg.Predicate

/-!
# Writing predicates

Operands are separated by a comma and a space. Values are quoted, with escapes. An unknown
predicate has no text of its own and is written in a form that cannot be read.
-/
namespace ScopeWalk.Cfg.Predicate

mutual

/-- The characters of the written form. -/
def spell : Predicate → List Char
  | .flag name => name.chars
  | .keyValue key value => key.chars ++ " = ".toList ++ Text.quote value.chars
  | .all parts => "all(".toList ++ spellList parts ++ [')']
  | .any parts => "any(".toList ++ spellList parts ++ [')']
  | .not part => "not(".toList ++ part.spell ++ [')']
  | .unknown => "<invalid>".toList

def spellList : List Predicate → List Char
  | [] => []
  | part :: parts => part.spell ++ spellMore parts

/-- The operands after the first. -/
def spellMore : List Predicate → List Char
  | [] => []
  | part :: parts => ", ".toList ++ part.spell ++ spellMore parts

end

@[simp] theorem spell_flag (name : Name) : (flag name).spell = name.chars := rfl

@[simp] theorem spell_keyValue (key value : Name) :
    (keyValue key value).spell = key.chars ++ " = ".toList ++ Text.quote value.chars := rfl

@[simp] theorem spell_all (parts : List Predicate) :
    (all parts).spell = "all(".toList ++ spellList parts ++ [')'] := rfl

@[simp] theorem spell_any (parts : List Predicate) :
    (any parts).spell = "any(".toList ++ spellList parts ++ [')'] := rfl

@[simp] theorem spell_not (part : Predicate) :
    (not part).spell = "not(".toList ++ part.spell ++ [')'] := rfl

@[simp] theorem spellList_nil : spellList [] = [] := rfl

@[simp] theorem spellList_cons (part : Predicate) (parts : List Predicate) :
    spellList (part :: parts) = part.spell ++ spellMore parts := rfl

@[simp] theorem spellMore_nil : spellMore [] = [] := rfl

@[simp] theorem spellMore_cons (part : Predicate) (parts : List Predicate) :
    spellMore (part :: parts) = ", ".toList ++ part.spell ++ spellMore parts := rfl

def render (p : Predicate) : String := String.ofList p.spell

end ScopeWalk.Cfg.Predicate
