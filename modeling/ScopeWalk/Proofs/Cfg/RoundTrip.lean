import ScopeWalk.Cfg.Printer
import ScopeWalk.Proofs.Cfg.Grammar

/-!
# Predicates that can be read back

A written predicate is read back as itself just if its names are identifiers, its values are shown
without escapes, and no part of it is unknown. That such a predicate is read back follows from the
grammar. For the converse, backslashes are counted: reading takes values as they stand, so a text
has as many backslashes as the predicate that is read from it, but every escape that is written
adds one.
-/
namespace ScopeWalk

/-! ### Backslashes in quoted texts -/

namespace Text

/-- Whoever escapes a character writes one backslash more than there was. -/
theorem escape_eq_or_count_lt (c : Char) :
    escape '"' c = [c] ∨ [c].count '\\' < (escape '"' c).count '\\' := by
  unfold escape
  split_ifs with hnul htab hreturn hfeed hmark hhidden
  · subst hnul
    decide
  · subst htab
    decide
  · subst hreturn
    decide
  · subst hfeed
    decide
  · rcases hmark with rfl | rfl <;> decide
  · have hplain : c ≠ '\\' := fun h => hmark (.inl h)
    exact .inr (by simp [escapeCodePoint, hplain])
  · exact .inl rfl

theorem count_le_count_escapes (cs : List Char) :
    cs.count '\\' ≤ (cs.flatMap (escape '"')).count '\\' := by
  induction cs with
  | nil => simp
  | cons c cs ih =>
    rw [List.flatMap_cons, List.count_append, ← List.singleton_append, List.count_append]
    rcases escape_eq_or_count_lt c with hc | hc
    · rw [hc]
      omega
    · omega

theorem isPlain_of_count_escapes {cs : List Char}
    (h : (cs.flatMap (escape '"')).count '\\' ≤ cs.count '\\') : isPlain cs = true := by
  induction cs with
  | nil => rfl
  | cons c cs ih =>
    have hrest := count_le_count_escapes cs
    rw [List.flatMap_cons, List.count_append, ← List.singleton_append, List.count_append] at h
    rcases escape_eq_or_count_lt c with hc | hc
    · rw [hc] at h
      have hplain := ih (by omega)
      simp only [isPlain, List.all_cons, hc, decide_true, Bool.true_and] at hplain ⊢
      exact hplain
    · omega

theorem escapes_of_isPlain {cs : List Char} (h : isPlain cs = true) :
    cs.flatMap (escape '"') = cs := by
  induction cs with
  | nil => rfl
  | cons c cs ih =>
    simp only [isPlain, List.all_cons, Bool.and_eq_true, decide_eq_true_eq] at h ih
    rw [List.flatMap_cons, h.1, ih h.2, List.singleton_append]

theorem count_quote (cs : List Char) :
    (quote cs).count '\\' = (cs.flatMap (escape '"')).count '\\' := by
  simp [quote]

/-- Nothing is escaped just if the quoted text is the text between two quotes. -/
theorem isPlain_iff_quote {cs : List Char} :
    isPlain cs = true ↔ quote cs = '"' :: (cs ++ ['"']) := by
  constructor
  · intro h
    rw [quote, escapes_of_isPlain h]
  · intro h
    refine isPlain_of_count_escapes (le_of_eq ?_)
    rw [← count_quote, h]
    simp

theorem not_mem_of_isPlain {cs : List Char} (h : isPlain cs = true) : '"' ∉ cs := by
  intro hquote
  have hescape : escape '"' '"' = ['"'] := by simpa using List.all_eq_true.mp h _ hquote
  exact absurd hescape (by decide)

end Text

namespace Cfg

open Text

namespace Predicate

/-! ### Which predicates are readable -/

mutual

/-- No part is unknown, all flags and keys are identifiers, and all values are written as they
are, between quotes. -/
def isReadable : Predicate → Bool
  | .flag name => name.isIdent
  | .keyValue key value =>
    key.isIdent && Text.quote value.chars = '"' :: (value.chars ++ ['"'])
  | .all parts => areReadable parts
  | .any parts => areReadable parts
  | .not part => part.isReadable
  | .unknown => false

def areReadable : List Predicate → Bool
  | [] => true
  | part :: parts => part.isReadable && areReadable parts

end

/-! ### Readable predicates are read back -/

/-- The text of an operator with its operands. -/
theorem operation_text (word : String) (inside : List Char) :
    Name.chars ⟨word⟩ ++ ([] ++ '(' :: (inside ++ [')'])) =
      (word.toList ++ ['(']) ++ inside ++ [')'] := by
  simp [Name.chars]

theorem blank_space : Blank [' '] := by
  intro c hc
  obtain rfl := List.mem_singleton.mp hc
  decide +kernel

mutual

theorem spells_spell : (p : Predicate) → p.isReadable = true → Spells p.spell p
  | .flag name, h => by
    rw [isReadable, Name.isIdent_iff] at h
    exact .flag name h
  | .keyValue key value, h => by
    rw [isReadable, Bool.and_eq_true, decide_eq_true_eq, Name.isIdent_iff] at h
    have hvalue := not_mem_of_isPlain (isPlain_iff_quote.mpr h.2)
    have hspells := Spells.keyValue key value [' '] [' '] h.1 hvalue blank_space blank_space
    simpa [h.2] using hspells
  | .all parts, h => by
    rw [isReadable] at h
    have hparts := spellsOperands_spellList parts h .nil
    have hspells := Spells.operation _ parts _ [] _ (.all parts) .nil hparts
    rw [operation_text] at hspells
    exact hspells
  | .any parts, h => by
    rw [isReadable] at h
    have hparts := spellsOperands_spellList parts h .nil
    have hspells := Spells.operation _ parts _ [] _ (.any parts) .nil hparts
    rw [operation_text] at hspells
    exact hspells
  | .not part, h => by
    rw [isReadable] at h
    have hpart := SpellsOperands.last part [] part.spell [] .nil (spells_spell part h) .nil
    have hspells := Spells.operation _ [part] _ [] _ (.not part) .nil hpart
    rw [operation_text, List.append_nil] at hspells
    exact hspells
  | .unknown, h => by simp [isReadable] at h

theorem spellsOperands_spellList : (parts : List Predicate) → areReadable parts = true →
    {blanks : List Char} → Blank blanks → SpellsOperands (blanks ++ spellList parts) parts
  | [], _, blanks, hblanks => by
    simpa using SpellsOperands.none blanks hblanks
  | [part], h, blanks, hblanks => by
    rw [areReadable, Bool.and_eq_true] at h
    exact .last part blanks part.spell [] hblanks (spells_spell part h.1) .nil
  | part :: next :: parts, h, blanks, hblanks => by
    rw [areReadable, Bool.and_eq_true] at h
    have hrest := spellsOperands_spellList (next :: parts) h.2 blank_space
    exact .more part _ blanks part.spell [] _ hblanks (spells_spell part h.1) .nil hrest

end

/-! ### Counting backslashes -/

mutual

/-- Number of backslashes in the names and values. -/
def backslashes : Predicate → Nat
  | .flag name => name.chars.count '\\'
  | .keyValue key value => key.chars.count '\\' + value.chars.count '\\'
  | .all parts => backslashesOf parts
  | .any parts => backslashesOf parts
  | .not part => part.backslashes
  | .unknown => 0

def backslashesOf : List Predicate → Nat
  | [] => 0
  | part :: parts => part.backslashes + backslashesOf parts

end

theorem count_blank {blanks : List Char} (h : Blank blanks) : blanks.count '\\' = 0 := by
  refine List.count_eq_zero.mpr fun hmem => ?_
  exact absurd (h _ hmem) (by decide +kernel)

theorem count_operation {word : Name} {operands : List Predicate} {p : Predicate}
    (h : Operation word operands p) :
    word.chars.count '\\' = 0 ∧ p.backslashes = backslashesOf operands := by
  cases h with
  | all => exact ⟨by decide, by rw [backslashes]⟩
  | any => exact ⟨by decide, by rw [backslashes]⟩
  | not operand => exact ⟨by decide, by simp [backslashes, backslashesOf]⟩

mutual

/-- A written form has the backslashes of what it says and no others. -/
theorem count_of_spells {written : List Char} {p : Predicate} (h : Spells written p) :
    written.count '\\' = p.backslashes := by
  cases h with
  | flag name => rw [backslashes]
  | keyValue key value beforeEq afterEq hkey hvalue hbefore hafter =>
    simp [backslashes, count_blank hbefore, count_blank hafter]
  | operation word operands p blanks inside hword hblanks hinside =>
    have hcount := count_of_spellsOperands hinside
    simp [count_operation hword, count_blank hblanks, hcount]
termination_by 2 * written.length

theorem count_of_spellsOperands {inside : List Char} {operands : List Predicate}
    (h : SpellsOperands inside operands) : inside.count '\\' = backslashesOf operands := by
  cases h with
  | none blanks hblanks => rw [count_blank hblanks, backslashesOf]
  | last operand before written after hbefore hwritten hafter =>
    have hcount := count_of_spells hwritten
    simp [backslashesOf, count_blank hbefore, count_blank hafter, hcount]
  | more operand operands before written after rest hbefore hwritten hafter hrest =>
    have hcount := count_of_spells hwritten
    have hothers := count_of_spellsOperands hrest
    simp [backslashesOf, count_blank hbefore, count_blank hafter, hcount, hothers]
termination_by 2 * inside.length + 1
decreasing_by
  all_goals
    subst_vars
    simp only [List.length_append, List.length_cons]
    omega

end

theorem count_spellMore (parts : List Predicate) :
    (spellMore parts).count '\\' = (spellList parts).count '\\' := by
  cases parts <;> simp

mutual

/-- Escapes only add backslashes. -/
theorem backslashes_le_count_spell : (p : Predicate) → p.backslashes ≤ p.spell.count '\\'
  | .flag name => by simp [backslashes]
  | .keyValue key value => by
    have hvalue := count_le_count_escapes value.chars
    simpa [backslashes, count_quote] using hvalue
  | .all parts => by
    have hparts := backslashesOf_le_count_spellList parts
    simpa [backslashes] using hparts
  | .any parts => by
    have hparts := backslashesOf_le_count_spellList parts
    simpa [backslashes] using hparts
  | .not part => by
    have hpart := backslashes_le_count_spell part
    simpa [backslashes] using hpart
  | .unknown => by simp [backslashes]

theorem backslashesOf_le_count_spellList : (parts : List Predicate) →
    backslashesOf parts ≤ (spellList parts).count '\\'
  | [] => by simp [backslashesOf]
  | part :: parts => by
    have hpart := backslashes_le_count_spell part
    have hparts := backslashesOf_le_count_spellList parts
    rw [backslashesOf, spellList_cons, List.count_append, count_spellMore]
    omega

end

mutual

/-- What was read has identifiers for names. If writing it adds no backslash, all values in it
are plain, too. -/
theorem isReadable_of_spells {written : List Char} {p : Predicate} (h : Spells written p)
    (hcount : p.spell.count '\\' ≤ p.backslashes) : p.isReadable = true := by
  cases h with
  | flag name hname => rwa [isReadable, Name.isIdent_iff]
  | keyValue key value beforeEq afterEq hkey =>
    have hescapes : (value.chars.flatMap (escape '"')).count '\\' ≤ value.chars.count '\\' := by
      simpa [backslashes, count_quote] using hcount
    rw [isReadable, Bool.and_eq_true, decide_eq_true_eq, Name.isIdent_iff]
    exact ⟨hkey, isPlain_iff_quote.mp (isPlain_of_count_escapes hescapes)⟩
  | operation word operands p blanks inside hword hblanks hinside =>
    have hoperands (h : (spellList operands).count '\\' ≤ backslashesOf operands) :
        areReadable operands = true := areReadable_of_spellsOperands hinside h
    cases hword with
    | all =>
      rw [isReadable]
      exact hoperands (by simpa [backslashes] using hcount)
    | any =>
      rw [isReadable]
      exact hoperands (by simpa [backslashes] using hcount)
    | not operand =>
      have hoperand := hoperands (by simpa [backslashes, backslashesOf, areReadable] using hcount)
      simpa [isReadable, areReadable] using hoperand
termination_by 2 * written.length

theorem areReadable_of_spellsOperands {inside : List Char} {operands : List Predicate}
    (h : SpellsOperands inside operands)
    (hcount : (spellList operands).count '\\' ≤ backslashesOf operands) :
    areReadable operands = true := by
  cases h with
  | none => rw [areReadable]
  | last operand before written after hbefore hwritten =>
    have hoperand := isReadable_of_spells hwritten (by simpa [backslashesOf] using hcount)
    simp [areReadable, hoperand]
  | more operand operands before written after rest hbefore hwritten hafter hrest =>
    -- neither the first operand nor the others can have made up for an escape
    have hfirst := backslashes_le_count_spell operand
    have hothers := backslashesOf_le_count_spellList operands
    rw [backslashesOf, spellList_cons, List.count_append, count_spellMore] at hcount
    have hoperand := isReadable_of_spells hwritten (by omega)
    have hoperands := areReadable_of_spellsOperands hrest (by omega)
    rw [areReadable, hoperand, hoperands, Bool.and_self]
termination_by 2 * inside.length + 1
decreasing_by
  all_goals
    subst_vars
    simp only [List.length_append, List.length_cons]
    omega

end

/-! ### The round trip -/

/-- A predicate is read back from what is written for it just if it has no unknown part, its flags
and keys are identifiers, and its values are written without escapes. -/
theorem parse_render_iff (p : Predicate) : parse p.render = .ok p ↔ p.isReadable = true := by
  have hrender : p.render.toList = p.spell := by rw [render, String.toList_ofList]
  constructor
  · intro h
    obtain ⟨before, written, after, hbefore, hwritten, hafter, htext⟩ := exists_spells_of_parse h
    rw [hrender] at htext
    have hcount : p.spell.count '\\' = p.backslashes := by
      rw [htext, List.count_append, List.count_append, count_blank hbefore, count_blank hafter,
        count_of_spells hwritten]
      omega
    exact isReadable_of_spells hwritten (le_of_eq hcount)
  · intro h
    exact parse_of_spells .nil (spells_spell p h) .nil (by simp [hrender])

end Predicate

end Cfg

end ScopeWalk
