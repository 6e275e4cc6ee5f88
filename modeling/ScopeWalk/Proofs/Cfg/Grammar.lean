import ScopeWalk.Cfg.Parser
import ScopeWalk.Proofs.Cfg.Tokens

/-!
# The grammar of configuration predicates

`Spells` says which texts are written forms of a predicate, without saying how to read them. The
parser accepts just these texts, between blanks, and gives the predicate that was written. Both
directions follow the calls of the parser: what it has read is a written form, and from a written
form it reads the predicate and leaves what comes after. The second needs to know what comes
after, because a flag reaches as far as the text lets it.
-/
namespace ScopeWalk.Cfg

open Text Predicate

/-! ### Written forms -/

/-- What an operator word makes of its operands. A negation has exactly one. -/
inductive Operation : Name → List Predicate → Predicate → Prop where
  | all (operands : List Predicate) : Operation ⟨"all"⟩ operands (.all operands)
  | any (operands : List Predicate) : Operation ⟨"any"⟩ operands (.any operands)
  | not (operand : Predicate) : Operation ⟨"not"⟩ [operand] (.not operand)

mutual

/-- The text is a written form of the predicate: it begins with its first token and ends with its
last, and there may be blanks between any two. -/
inductive Spells : List Char → Predicate → Prop where
  | flag (name : Name) (hname : Identifier name.chars) : Spells name.chars (.flag name)
  | keyValue (key value : Name) (beforeEq afterEq : List Char) (hkey : Identifier key.chars)
      (hvalue : '"' ∉ value.chars) (hbefore : Blank beforeEq) (hafter : Blank afterEq) :
      Spells (key.chars ++ (beforeEq ++ '=' :: (afterEq ++ '"' :: (value.chars ++ ['"']))))
        (.keyValue key value)
  | operation (word : Name) (operands : List Predicate) (p : Predicate)
      (blanks inside : List Char) (hword : Operation word operands p) (hblanks : Blank blanks)
      (hinside : SpellsOperands inside operands) :
      Spells (word.chars ++ (blanks ++ '(' :: (inside ++ [')']))) p

/-- The text is what stands between the parentheses around the operands. They are separated by
commas, and the last one may have a comma, too. -/
inductive SpellsOperands : List Char → List Predicate → Prop where
  | none (blanks : List Char) (hblanks : Blank blanks) : SpellsOperands blanks []
  | last (operand : Predicate) (before written after : List Char) (hbefore : Blank before)
      (hwritten : Spells written operand) (hafter : Blank after) :
      SpellsOperands (before ++ (written ++ after)) [operand]
  | more (operand : Predicate) (operands : List Predicate) (before written after rest : List Char)
      (hbefore : Blank before) (hwritten : Spells written operand) (hafter : Blank after)
      (hrest : SpellsOperands rest operands) :
      SpellsOperands (before ++ (written ++ (after ++ ',' :: rest))) (operand :: operands)

end

theorem Operation.identifier {word : Name} {operands : List Predicate} {p : Predicate}
    (h : Operation word operands p) : Identifier word.chars := by
  cases h <;> exact isIdent_iff.mp (by decide +kernel)

theorem ofOperator_eq_ok_iff {word : Name} {operands : List Predicate} {p : Predicate} :
    ofOperator word operands = .ok p ↔ Operation word operands p := by
  constructor
  · intro h
    obtain ⟨text⟩ := word
    unfold ofOperator at h
    split at h
    · next htext =>
      cases h
      obtain rfl : text = "all" := htext
      exact .all operands
    · next htext =>
      cases h
      obtain rfl : text = "any" := htext
      exact .any operands
    · next htext =>
      obtain rfl : text = "not" := htext
      split at h
      · cases h
        exact .not _
      · cases h
    · cases h
  · intro h
    cases h <;> rfl

/-! ### What was read is a written form -/

mutual

theorem spells_of_read {size : Nat} {cs : List Char} {p : Predicate} {rest : Rest cs}
    (h : read size cs = .ok (p, rest)) :
    ∃ before written, Blank before ∧ Spells written p ∧ cs = before ++ (written ++ rest.1) := by
  rw [Predicate.read] at h
  obtain ⟨⟨word, afterWord⟩, hword, h⟩ := ok_of_bind h
  obtain ⟨hident, -, htext⟩ := readIdent_eq_ok_iff.mp hword
  obtain ⟨before, hbefore, hcs⟩ := exists_blank_of_skipBlank htext
  refine ⟨before, ?_⟩
  dsimp only at h
  split at h
  · next afterEq heq heat =>
    obtain ⟨⟨value, left⟩, hstring, h⟩ := ok_of_bind h
    cases h
    obtain ⟨beforeEq, hbeforeEq, hrest⟩ := exists_blank_of_skipBlank (eat_eq_some_iff.mp heat)
    obtain ⟨hvalue, hquoted⟩ := readString_eq_ok_iff.mp hstring
    obtain ⟨beforeValue, hbeforeValue, hquoted⟩ := exists_blank_of_skipBlank hquoted
    refine ⟨_, hbefore, .keyValue word value _ _ hident hvalue hbeforeEq hbeforeValue,
      hcs.trans ?_⟩
    simp [hrest, hquoted]
  · split at h
    · cases h
      exact ⟨word.chars, hbefore, .flag word hident, hcs⟩
    · next inside hinside heat =>
      obtain ⟨⟨operands, afterOperands⟩, hoperands, h⟩ := ok_of_bind h
      obtain ⟨left, hclose, h⟩ := ok_of_bind h
      obtain ⟨made, hmade, h⟩ := ok_of_bind h
      cases h
      obtain ⟨blanks, hblanks, hrest⟩ := exists_blank_of_skipBlank (eat_eq_some_iff.mp heat)
      have hwritten := spellsOperands_of_readOperands hoperands (expect_eq_ok_iff.mp hclose)
      obtain ⟨written, hwritten, hinside⟩ := hwritten
      have hword := ofOperator_eq_ok_iff.mp hmade
      refine ⟨_, hbefore, .operation word operands p blanks written hword hblanks hwritten,
        hcs.trans ?_⟩
      simp [hrest, hinside]
termination_by (cs.length, 0)

theorem spellsOperands_of_readOperands {size : Nat} {cs : List Char} {operands : List Predicate}
    {rest : { rest : List Char // rest.length ≤ cs.length }} {after : List Char}
    (h : readOperands size cs = .ok (operands, rest)) (hclose : skipBlank rest.1 = ')' :: after) :
    ∃ inside, SpellsOperands inside operands ∧ cs = inside ++ ')' :: after := by
  rw [readOperands] at h
  split at h
  · cases h
    obtain ⟨blanks, hblanks, hcs⟩ := exists_blank_of_skipBlank hclose
    exact ⟨blanks, .none blanks hblanks, hcs⟩
  · obtain ⟨⟨operand, afterOperand⟩, hoperand, h⟩ := ok_of_bind h
    obtain ⟨before, written, hbefore, hwritten, hcs⟩ := spells_of_read hoperand
    dsimp only at h
    split at h
    · cases h
      obtain ⟨blanks, hblanks, hrest⟩ := exists_blank_of_skipBlank hclose
      refine ⟨_, .last operand before written blanks hbefore hwritten hblanks,
        hcs.trans ?_⟩
      simpa using hrest
    · next afterComma hshorter heat =>
      obtain ⟨⟨others, left⟩, hothers, h⟩ := ok_of_bind h
      cases h
      obtain ⟨blanks, hblanks, hrest⟩ := exists_blank_of_skipBlank (eat_eq_some_iff.mp heat)
      obtain ⟨inside, hinside, hcomma⟩ := spellsOperands_of_readOperands hothers hclose
      refine ⟨_, .more operand others before written blanks inside hbefore hwritten hblanks
        hinside, hcs.trans ?_⟩
      simp [hrest, hcomma]
termination_by (cs.length, 1)

end

/-! ### Written forms are read -/

/-- What comes after a predicate: nothing, or a mark that ends an operand, behind blanks. -/
def EndsPredicate (rest : List Char) : Prop :=
  ∀ c ∈ (skipBlank rest).head?, c = ',' ∨ c = ')'

theorem EndsPredicate.of_blank {blanks : List Char} (h : Blank blanks) : EndsPredicate blanks := by
  simp [EndsPredicate, skipBlank_eq_nil_iff.mpr h]

theorem EndsPredicate.of_mark {blanks : List Char} {mark : Char} (h : Blank blanks)
    (hmark : mark = ',' ∨ mark = ')') (rest : List Char) :
    EndsPredicate (blanks ++ mark :: rest) := by
  have hseparator : mark ∈ separators := by rcases hmark with rfl | rfl <;> decide
  rw [EndsPredicate, h.skip_mark mark (isBlank_eq_false_of_mem_separators mark hseparator)]
  simpa using hmark

theorem EndsPredicate.endsWord {rest : List Char} (h : EndsPredicate rest) : EndsWord rest := by
  intro c hc
  cases hblank : isBlank c with
  | true => exact isWordChar_eq_false_of_isBlank hblank
  | false =>
    obtain ⟨tail, rfl⟩ := List.head?_eq_some_iff.mp hc
    have hmark := h c (by simp [skipBlank_cons hblank])
    rcases hmark with rfl | rfl <;> decide +kernel

theorem EndsPredicate.eat_eq_none {rest : List Char} (h : EndsPredicate rest) {mark : Char}
    (hmark : mark ≠ ',' ∧ mark ≠ ')') : eat mark rest = none := by
  rw [eat_eq_none_iff]
  intro hhead
  rcases h mark hhead with rfl | rfl
  · exact hmark.1 rfl
  · exact hmark.2 rfl

theorem endsWord_blank_append {blanks : List Char} (h : Blank blanks) (mark : Char)
    (hmark : isWordChar mark = false) (rest : List Char) : EndsWord (blanks ++ mark :: rest) := by
  cases blanks with
  | nil => simpa [EndsWord] using hmark
  | cons c blanks => simpa [EndsWord] using isWordChar_eq_false_of_isBlank (h c (by simp))

/-- Every written form begins with a word. -/
theorem Spells.exists_word {written : List Char} {p : Predicate} (h : Spells written p) :
    ∃ word rest, Identifier word ∧ written = word ++ rest := by
  cases h with
  | flag name hname => exact ⟨name.chars, [], hname, by simp⟩
  | keyValue key value beforeEq afterEq hkey => exact ⟨key.chars, _, hkey, rfl⟩
  | operation word operands p blanks inside hword => exact ⟨word.chars, _, hword.identifier, rfl⟩

/-- Where an operand begins, the list of operands does not end. -/
theorem Spells.eat_eq_none {before written rest : List Char} {p : Predicate}
    (h : Spells written p) (hbefore : Blank before) :
    eat ')' (before ++ (written ++ rest)) = none := by
  obtain ⟨word, tail, hword, rfl⟩ := h.exists_word
  obtain ⟨c, word, rfl⟩ := List.exists_cons_of_ne_nil hword.ne_nil
  have hchar := isWordChar_of_mem_identifier hword c (by simp)
  have hskip : skipBlank (before ++ ((c :: word ++ tail) ++ rest)) =
      c :: word ++ (tail ++ rest) := by
    rw [hbefore.skip, List.append_assoc, skipBlank_word hword]
  refine Cfg.eat_eq_none (by rw [hskip]; rfl) ?_
  rintro rfl
  exact absurd hchar (by decide +kernel)

mutual

theorem read_of_spells (size : Nat) {cs written : List Char} {p : Predicate}
    (h : Spells written p) {before rest : List Char} (hbefore : Blank before)
    (hrest : EndsPredicate rest) (hcs : cs = before ++ (written ++ rest)) :
    ∃ left, read size cs = .ok (p, left) ∧ left.1 = rest := by
  cases h with
  | flag name hname =>
    obtain ⟨hshorter, hword⟩ := readIdent_written size hbefore hname hrest.endsWord
    subst hcs
    rw [Predicate.read, hword]
    dsimp only [bind, Except.bind]
    rw [hrest.eat_eq_none (by decide), hrest.eat_eq_none (by decide)]
    exact ⟨_, rfl, rfl⟩
  | keyValue key value beforeEq afterEq hkey hvalue hbeforeEq hafterEq =>
    simp only [List.append_assoc, List.cons_append, List.nil_append] at hcs
    have hends := endsWord_blank_append hbeforeEq '=' (by decide +kernel)
      (afterEq ++ '"' :: (value.chars ++ '"' :: rest))
    have hmark := hbeforeEq.skip_mark '=' (by decide +kernel)
      (afterEq ++ '"' :: (value.chars ++ '"' :: rest))
    obtain ⟨hafterWord, hword⟩ := readIdent_written size hbefore hkey hends
    obtain ⟨hleft, hstring⟩ := readString_written size hafterEq hvalue rest
    subst hcs
    rw [Predicate.read, hword]
    dsimp only [bind, Except.bind]
    rw [eat_of_skipBlank hmark]
    dsimp only
    rw [hstring]
    exact ⟨_, rfl, rfl⟩
  | operation word operands p blanks inside hword hblanks hinside =>
    simp only [List.append_assoc, List.cons_append, List.nil_append] at hcs
    have hends := endsWord_blank_append hblanks '(' (by decide +kernel)
      (inside ++ ')' :: rest)
    have hmark := hblanks.skip_mark '(' (by decide +kernel) (inside ++ ')' :: rest)
    have hnoEq : eat '=' (blanks ++ '(' :: (inside ++ ')' :: rest)) = none :=
      Cfg.eat_eq_none (by rw [hmark]; rfl) (by decide)
    obtain ⟨hafterWord, hident⟩ :=
      readIdent_written size hbefore hword.identifier hends
    obtain ⟨afterOperands, hoperands, hclose⟩ :=
      readOperands_of_spells size hinside rest rfl
    subst hcs
    rw [Predicate.read, hident]
    dsimp only [bind, Except.bind]
    rw [hnoEq]
    dsimp only
    rw [eat_of_skipBlank hmark]
    dsimp only
    rw [hoperands]
    dsimp only
    rw [expect_of_skipBlank hclose]
    dsimp only
    rw [ofOperator_eq_ok_iff.mpr hword]
    exact ⟨_, rfl, rfl⟩
termination_by 2 * written.length

theorem readOperands_of_spells (size : Nat) {cs inside : List Char} {operands : List Predicate}
    (h : SpellsOperands inside operands) (after : List Char) (hcs : cs = inside ++ ')' :: after) :
    ∃ left, readOperands size cs = .ok (operands, left) ∧ skipBlank left.1 = ')' :: after := by
  cases h with
  | none blanks hblanks =>
    have hclose := hblanks.skip_mark ')' (by decide +kernel) after
    subst hcs
    rw [readOperands, if_pos (by rw [eat_of_skipBlank hclose]; rfl)]
    exact ⟨_, rfl, hclose⟩
  | last operand before written blanks hbefore hwritten hblanks =>
    simp only [List.append_assoc] at hcs
    have hclose := hblanks.skip_mark ')' (by decide +kernel) after
    obtain ⟨afterOperand, hoperand, hleft⟩ :=
      read_of_spells size hwritten hbefore (.of_mark hblanks (.inr rfl) after) hcs
    have hnoComma : eat ',' afterOperand.1 = none := by
      rw [hleft]
      exact Cfg.eat_eq_none (by rw [hclose]; rfl) (by decide)
    have hnoClose : eat ')' cs = none := hcs ▸ hwritten.eat_eq_none hbefore
    rw [readOperands, if_neg (by rw [hnoClose]; simp), hoperand]
    dsimp only [bind, Except.bind]
    rw [hnoComma]
    exact ⟨_, rfl, by rw [hleft]; exact hclose⟩
  | more operand operands before written blanks rest hbefore hwritten hblanks hrest =>
    simp only [List.append_assoc, List.cons_append] at hcs
    have hcomma := hblanks.skip_mark ',' (by decide +kernel) (rest ++ ')' :: after)
    obtain ⟨afterOperand, hoperand, hleft⟩ :=
      read_of_spells size hwritten hbefore (.of_mark hblanks (.inl rfl) _) hcs
    obtain ⟨left, hothers, hclose⟩ := readOperands_of_spells size hrest after rfl
    have hnoClose : eat ')' cs = none := hcs ▸ hwritten.eat_eq_none hbefore
    rw [← hleft] at hcomma
    rw [readOperands, if_neg (by rw [hnoClose]; simp), hoperand]
    dsimp only [bind, Except.bind]
    rw [eat_of_skipBlank hcomma]
    dsimp only
    rw [hothers]
    exact ⟨_, rfl, hclose⟩
termination_by 2 * inside.length + 1
decreasing_by
  all_goals
    subst_vars
    simp only [List.length_append, List.length_cons]
    omega

end

/-! ### Whole texts -/

/-- What a text was read as is written in it. -/
theorem exists_spells_of_parse {text : String} {p : Predicate} (h : parse text = .ok p) :
    ∃ before written after, Blank before ∧ Spells written p ∧ Blank after ∧
      text.toList = before ++ (written ++ after) := by
  obtain ⟨⟨found, rest⟩, hread, h⟩ := ok_of_bind h
  obtain ⟨_, hfinish, h⟩ := ok_of_bind h
  cases h
  obtain ⟨before, written, hbefore, hwritten, htext⟩ := spells_of_read hread
  exact ⟨before, written, rest.1, hbefore, hwritten, finish_eq_ok_iff.mp hfinish, htext⟩

theorem parse_of_spells {text : String} {p : Predicate} {before written after : List Char}
    (hbefore : Blank before) (hwritten : Spells written p) (hafter : Blank after)
    (htext : text.toList = before ++ (written ++ after)) : parse text = .ok p := by
  obtain ⟨left, hread, hleft⟩ :=
    read_of_spells (Text.byteLength text.toList) hwritten hbefore (.of_blank hafter) htext
  have hfinish : finish (Text.byteLength text.toList) left.1 = .ok () := by
    rw [hleft]
    exact finish_eq_ok_iff.mpr hafter
  unfold parse
  dsimp only [bind, Except.bind]
  rw [hread]
  dsimp only
  rw [hfinish]
  rfl

/-- A text is read as a predicate just if it is a written form of the predicate, with blanks
allowed at both ends. -/
theorem parse_eq_ok_iff (text : String) (p : Predicate) :
    parse text = .ok p ↔ ∃ before written after, Blank before ∧ Spells written p ∧ Blank after ∧
      text.toList = before ++ (written ++ after) := by
  constructor
  · exact exists_spells_of_parse
  · rintro ⟨before, written, after, hbefore, hwritten, hafter, htext⟩
    exact parse_of_spells hbefore hwritten hafter htext

end ScopeWalk.Cfg
