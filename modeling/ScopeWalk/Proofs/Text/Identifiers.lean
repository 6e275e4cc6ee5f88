import Mathlib.Data.List.TakeWhile
import ScopeWalk.Name
import ScopeWalk.Text.Blank

/-!
# Identifiers among other characters

Texts that contain identifiers can be taken apart only because no character that stands around
an identifier can be a part of it. Here this is read off the tables: identifier characters are
neither blanks nor any of the marks that separate names.
-/
namespace ScopeWalk

namespace Text

/-! ### The tables -/

namespace CodeRanges

/-- No range of one list meets a range of the other. -/
def disjoint (first second : CodeRanges) : Bool :=
  first.all fun a => second.all fun b => a.2 < b.1 || b.2 < a.1

theorem contains_eq_false_of_disjoint {first second : CodeRanges} {c : Char}
    (h : first.disjoint second = true) (hc : first.contains c = true) :
    second.contains c = false := by
  obtain ⟨a, ha, hlow, hhigh⟩ := contains_iff.mp hc
  rw [Bool.eq_false_iff]
  intro hsecond
  obtain ⟨b, hb, hlow', hhigh'⟩ := contains_iff.mp hsecond
  have hapart : a.2 < b.1 ∨ b.2 < a.1 := by
    simpa using List.all_eq_true.mp (List.all_eq_true.mp h a ha) b hb
  omega

end CodeRanges

/-- The marks between names, and the mark of a raw identifier. -/
def separators : List Char := ['=', '(', ')', ',', '"', '#', '&', '<', '>']

theorem isIdentContinue_eq_false_of_isBlank {c : Char} (h : isBlank c = true) :
    isIdentContinue c = false := by
  have hstart : identStartRanges.contains c = false :=
    CodeRanges.contains_eq_false_of_disjoint (by decide +kernel) h
  have hmark : identMarkRanges.contains c = false :=
    CodeRanges.contains_eq_false_of_disjoint (by decide +kernel) h
  rw [isIdentContinue, isIdentStart, hstart, hmark, Bool.or_false]

theorem eq_false_of_mem_separators {p : Char → Bool} (h : separators.any p = false) :
    ∀ c ∈ separators, p c = false := by
  simpa using h

theorem isIdentContinue_eq_false_of_mem_separators :
    ∀ c ∈ separators, isIdentContinue c = false :=
  eq_false_of_mem_separators (by decide +kernel)

theorem isBlank_eq_false_of_mem_separators : ∀ c ∈ separators, isBlank c = false :=
  eq_false_of_mem_separators (by decide +kernel)

/-! ### The form of an identifier -/

/-- An identifier, spelled out: perhaps the mark of a raw one, then a letter or an underscore,
then identifier characters. An underscore must not be all there is. -/
inductive Identifier : List Char → Prop where
  | mk (mark : List Char) (first : Char) (rest : List Char)
      (hmark : mark = [] ∨ mark = ['r', '#'])
      (hfirst : isIdentStart first = true ∨ first = '_' ∧ rest ≠ [])
      (hrest : ∀ c ∈ rest, isIdentContinue c = true) : Identifier (mark ++ first :: rest)

theorem isIdentBody_cons (first : Char) (rest : List Char) :
    isIdentBody (first :: rest) = true ↔
      (isIdentStart first = true ∨ first = '_' ∧ rest ≠ []) ∧
        ∀ c ∈ rest, isIdentContinue c = true := by
  simp only [isIdentBody, Bool.and_eq_true, Bool.or_eq_true, decide_eq_true_eq, Bool.not_eq_true',
    List.isEmpty_eq_false_iff, List.all_eq_true]
  rw [or_comm]

theorem dropRawMark_of_ne {first : Char} {rest : List Char}
    (h : ∀ rest', first = 'r' → rest ≠ '#' :: rest') :
    dropRawMark (first :: rest) = first :: rest := by
  unfold dropRawMark
  split
  · next cs heq =>
    cases heq
    exact absurd rfl (h cs rfl)
  · rfl

theorem isIdent_iff {cs : List Char} : isIdent cs = true ↔ Identifier cs := by
  constructor
  · intro h
    have hmarked : ∃ mark, (mark = [] ∨ mark = ['r', '#']) ∧ cs = mark ++ dropRawMark cs := by
      unfold dropRawMark
      split
      · next rest => exact ⟨['r', '#'], .inr rfl, rfl⟩
      · exact ⟨[], .inl rfl, rfl⟩
    obtain ⟨mark, hmark, hcs⟩ := hmarked
    rw [isIdent] at h
    cases hbody : dropRawMark cs with
    | nil => simp [hbody, isIdentBody] at h
    | cons first rest =>
      rw [hbody, isIdentBody_cons] at h
      rw [hcs, hbody]
      exact .mk mark first rest hmark h.1 h.2
  · rintro ⟨mark, first, rest, hmark | hmark, hfirst, hrest⟩
    · have hplain : dropRawMark (first :: rest) = first :: rest := by
        refine dropRawMark_of_ne fun rest' _ heq => ?_
        have hcontinue := hrest '#' (by simp [heq])
        have hseparator := isIdentContinue_eq_false_of_mem_separators '#' (by decide)
        simp [hseparator] at hcontinue
      rw [hmark, List.nil_append, isIdent, hplain, isIdentBody_cons]
      exact ⟨hfirst, hrest⟩
    · rw [hmark]
      exact (isIdentBody_cons first rest).mpr ⟨hfirst, hrest⟩

theorem Identifier.ne_nil {cs : List Char} (h : Identifier cs) : cs ≠ [] := by
  obtain ⟨mark, first, rest⟩ := h
  simp

end Text

theorem Name.isIdent_iff {name : Name} : name.isIdent = true ↔ Text.Identifier name.chars := by
  rw [Name.isIdent, Text.isIdent_iff]

end ScopeWalk
