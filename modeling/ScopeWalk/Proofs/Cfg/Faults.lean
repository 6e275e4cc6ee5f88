import ScopeWalk.Proofs.Cfg.Cursor
import ScopeWalk.Proofs.Cfg.Grammar

/-!
# What faults say of a text

A fault that the parser finds says something of the text, and this is true. If it names an offset,
then this is a place in the text, and what it tells of is found there. Each reader is handed the end
of the text that is still unread, so the places it tells of lie in the whole text.
-/
namespace ScopeWalk

theorem error_of_bind {ε α β : Type} {first : Except ε α} {next : α → Except ε β} {fault : ε}
    (h : (first >>= next) = .error fault) :
    first = .error fault ∨ ∃ value, first = .ok value ∧ next value = .error fault := by
  cases first with
  | error e =>
    cases h
    exact .inl rfl
  | ok value => exact .inr ⟨value, rfl, h⟩

namespace Cfg

open Text Predicate
open Cursor (At)

/-- What a fault says is true of the text. An unexpected end says nothing but that there is no
more text. -/
def ReadError.TrueOf (text : List Char) : ReadError → Prop
  | .unexpectedEnd => True
  | .unexpectedChar c offset => ∃ rest, At text offset (c :: rest) ∧ isBlank c = false
  | .unterminatedString offset => ∃ rest, At text offset ('"' :: rest) ∧ '"' ∉ rest
  | .invalidIdent word => word.chars ≠ [] ∧ word.chars <:+: text ∧
      (∀ c ∈ word.chars, isWordChar c = true) ∧ ¬ Identifier word.chars
  | .notArity found => found ≠ 1
  | .unknownOperator word => Identifier word.chars ∧
      word ∉ ([⟨"all"⟩, ⟨"any"⟩, ⟨"not"⟩] : List Name)
  | .trailingInput offset => ∃ before c rest, cutAt offset text = some (before, c :: rest) ∧
      isBlank c = false ∧ ∃ p, parse (String.ofList before) = .ok p

/-! ### What is left unread -/

variable {size : Nat} {text cs : List Char} {fault : ReadError}

theorem at_of_suffix (h : cs <:+ text) : At text (offsetOf (byteLength text) cs) cs := by
  obtain ⟨before, rfl⟩ := h
  exact ⟨before, by rw [offsetOf_append, cutAt_append]⟩

theorem suffix_of_skipBlank {front rest : List Char} (h : skipBlank cs = front ++ rest) :
    rest <:+ cs :=
  (List.suffix_append front rest).trans (h ▸ skipBlank_suffix cs)

theorem suffix_of_eat {mark : Char} {rest : Rest cs} (h : eat mark cs = some rest) :
    rest.1 <:+ cs := by
  have hskip := eat_eq_some_iff.mp h
  rw [← List.singleton_append] at hskip
  exact suffix_of_skipBlank hskip

theorem suffix_of_read {p : Predicate} {rest : Rest cs} (h : read size cs = .ok (p, rest)) :
    rest.1 <:+ cs := by
  obtain ⟨before, written, -, -, hcs⟩ := spells_of_read h
  exact ⟨before ++ written, by rw [List.append_assoc]; exact hcs.symm⟩

/-- Here the grammar is of no help: it tells of operands only once the parenthesis is closed. -/
theorem suffix_of_readOperands {cs : List Char} {operands : List Predicate}
    {rest : { rest : List Char // rest.length ≤ cs.length }}
    (h : readOperands size cs = .ok (operands, rest)) : rest.1 <:+ cs := by
  rw [readOperands] at h
  split at h
  · cases h
    exact List.suffix_rfl
  · obtain ⟨⟨operand, afterOperand⟩, hoperand, h⟩ := ok_of_bind h
    have hafter := suffix_of_read hoperand
    dsimp only at h
    split at h
    · cases h
      exact hafter
    · next afterComma hshorter heat =>
      obtain ⟨⟨others, left⟩, hothers, h⟩ := ok_of_bind h
      cases h
      exact (suffix_of_readOperands hothers).trans ((suffix_of_eat heat).trans hafter)
termination_by cs.length

/-! ### The faults of each reader -/

section Readers

variable (hcs : cs <:+ text)
include hcs

theorem trueOf_unexpectedChar {c : Char} {rest : List Char} (h : skipBlank cs = c :: rest) :
    (ReadError.unexpectedChar c (offsetOf (byteLength text) (c :: rest))).TrueOf text :=
  ⟨rest, at_of_suffix (h ▸ (skipBlank_suffix cs).trans hcs), isBlank_eq_false_of_skipBlank h⟩

theorem trueOf_of_readIdent (h : readIdent (byteLength text) cs = .error fault) :
    fault.TrueOf text := by
  unfold readIdent at h
  split at h
  · cases h
    exact trivial
  · next c tail hskip =>
    split at h
    · cases h
      exact trueOf_unexpectedChar hcs hskip
    · next hword =>
      split at h
      · cases h
      · next hident =>
        cases h
        have hne : (c :: tail).takeWhile isWordChar ≠ [] := by simpa using hword
        have hplace := (hskip ▸ skipBlank_suffix cs).trans hcs
        have hpart := (List.takeWhile_prefix isWordChar).isInfix.trans hplace.isInfix
        simp only [ReadError.TrueOf, Name.chars_ofChars]
        exact ⟨hne, hpart, fun c hc => List.mem_takeWhile_imp hc,
          fun h => hident (isIdent_iff.mpr h)⟩

theorem trueOf_of_expect {mark : Char} (h : expect (byteLength text) mark cs = .error fault) :
    fault.TrueOf text := by
  unfold expect at h
  split at h
  · cases h
  · split at h
    · cases h
      exact trivial
    · next c tail hskip =>
      cases h
      exact trueOf_unexpectedChar hcs hskip

theorem trueOf_of_readString (h : readString (byteLength text) cs = .error fault) :
    fault.TrueOf text := by
  rcases error_of_bind h with h | ⟨⟨body, hbody⟩, hopen, h⟩
  · exact trueOf_of_expect hcs h
  · dsimp only at h
    split at h
    · next hend =>
      cases h
      have hskip := expect_eq_ok_iff.mp hopen
      refine ⟨body, hskip ▸ at_of_suffix ((skipBlank_suffix cs).trans hcs), ?_⟩
      intro hquote
      simpa using List.dropWhile_eq_nil_iff.mp hend _ hquote
    · cases h

end Readers

theorem trueOf_of_ofOperator {word : Name} {operands : List Predicate}
    (hword : Identifier word.chars) (h : ofOperator word operands = .error fault) :
    fault.TrueOf text := by
  obtain ⟨text⟩ := word
  unfold ofOperator at h
  split at h
  · cases h
  · cases h
  · split at h
    · cases h
    · next hone =>
      cases h
      intro hlength
      obtain ⟨operand, rfl⟩ := List.length_eq_one_iff.mp hlength
      exact hone operand rfl
  · next hall hany hnot =>
    cases h
    refine ⟨hword, ?_⟩
    simp only [List.mem_cons, List.not_mem_nil, Name.mk.injEq, or_false, not_or]
    exact ⟨hall, hany, hnot⟩

mutual

theorem trueOf_of_read {cs : List Char} (hcs : cs <:+ text)
    (h : read (byteLength text) cs = .error fault) : fault.TrueOf text := by
  rw [Predicate.read] at h
  rcases error_of_bind h with h | ⟨⟨word, afterWord⟩, hword, h⟩
  · exact trueOf_of_readIdent hcs h
  · obtain ⟨hident, -, htext⟩ := readIdent_eq_ok_iff.mp hword
    have hafter := (suffix_of_skipBlank htext).trans hcs
    dsimp only at h
    split at h
    · next afterEq heq heat =>
      have hvalue := (suffix_of_eat heat).trans hafter
      rcases error_of_bind h with h | ⟨value, hstring, h⟩
      · exact trueOf_of_readString hvalue h
      · cases h
    · split at h
      · cases h
      · next inside hinside heat =>
        have hopen := (suffix_of_eat heat).trans hafter
        rcases error_of_bind h with h | ⟨⟨operands, afterOperands⟩, hoperands, h⟩
        · exact trueOf_of_readOperands hopen h
        · have hclose := (suffix_of_readOperands hoperands).trans hopen
          rcases error_of_bind h with h | ⟨rest, hexpect, h⟩
          · exact trueOf_of_expect hclose h
          · rcases error_of_bind h with h | ⟨made, hmade, h⟩
            · exact trueOf_of_ofOperator hident h
            · cases h
termination_by (cs.length, 0)

theorem trueOf_of_readOperands {cs : List Char} (hcs : cs <:+ text)
    (h : readOperands (byteLength text) cs = .error fault) : fault.TrueOf text := by
  rw [readOperands] at h
  split at h
  · cases h
  · rcases error_of_bind h with h | ⟨⟨operand, afterOperand⟩, hoperand, h⟩
    · exact trueOf_of_read hcs h
    · have hafter := (suffix_of_read hoperand).trans hcs
      dsimp only at h
      split at h
      · cases h
      · next afterComma hshorter heat =>
        have hcomma := (suffix_of_eat heat).trans hafter
        rcases error_of_bind h with h | ⟨others, hothers, h⟩
        · exact trueOf_of_readOperands hcomma h
        · cases h
termination_by (cs.length, 1)

end

/-! ### Whole texts -/

theorem trueOf_of_parse {text : String} (h : parse text = .error fault) :
    fault.TrueOf text.toList := by
  rcases error_of_bind h with h | ⟨⟨p, left⟩, hread, h⟩
  · exact trueOf_of_read List.suffix_rfl h
  · rcases error_of_bind h with hfinish | ⟨⟨⟩, -, h⟩
    · -- up to the fault the text is a written form between blanks, so it would have been accepted
      obtain ⟨before, written, hbefore, hwritten, htext⟩ := spells_of_read hread
      unfold finish at hfinish
      split at hfinish
      · cases hfinish
      · next c tail hskip =>
        cases hfinish
        obtain ⟨blanks, hblanks, hleft⟩ := exists_blank_of_skipBlank hskip
        have hcut : text.toList = before ++ (written ++ blanks) ++ c :: tail := by
          rw [htext, hleft]
          simp
        refine ⟨_, c, tail, ?_, isBlank_eq_false_of_skipBlank hskip, p,
          parse_of_spells hbefore hwritten hblanks String.toList_ofList⟩
        rw [hcut, offsetOf_append, cutAt_append]
    · cases h

/-- Reading a text by byte offsets comes to an end, with calls nested no deeper than about twice the
length of the text, and the text is never cut but where a character begins or the text ends. The
result is the predicate that the text spells, or a fault that is true of the text. -/
theorem parse_cuts_in_places (text : String) :
    (∀ depth, 2 * text.toList.length < depth → Cursor.parse depth text = some (parse text)) ∧
      ∀ fault, parse text = .error fault → fault.TrueOf text.toList :=
  ⟨fun _ => Cursor.parse_eq, fun _ => trueOf_of_parse⟩

/-- Behind a blank of two bytes and a word of as many, another word is too much. -/
theorem parse_cuts_in_places_sample :
    parse "\u00a0é clé" = .error (.trailingInput 5) ∧
      Cursor.parse 13 "\u00a0é clé" = some (.error (.trailingInput 5)) ∧
      (ReadError.trailingInput 5).TrueOf "\u00a0é clé".toList := by
  have hfault : parse "\u00a0é clé" = .error (.trailingInput 5) := by
    have hsize : byteLength "\u00a0é clé".toList = 9 := by decide +kernel
    have hword : readIdent 9 "\u00a0é clé".toList =
        .ok (⟨"é"⟩, ⟨[' ', 'c', 'l', 'é'], by decide⟩) := by
      decide +kernel
    rw [parse, hsize, Predicate.read, hword]
    decide +kernel
  obtain ⟨hruns, htrue⟩ := parse_cuts_in_places "\u00a0é clé"
  exact ⟨hfault, hfault ▸ hruns 13 (by decide), htrue _ hfault⟩

end Cfg

end ScopeWalk
