import ScopeWalk.Cfg.Token
import ScopeWalk.Proofs.Text.Identifiers

/-!
# What the token readers accept

Each reader is given by an equivalence: it returns a token and a rest just if the text, behind
its blanks, is the written form of the token followed by the rest. An identifier is read as a
word, and a word is as long as possible, so here the rest must not go on with a word character.
-/
namespace ScopeWalk

theorem ok_of_bind {ε α β : Type} {first : Except ε α} {next : α → Except ε β} {result : β}
    (h : (first >>= next) = .ok result) : ∃ value, first = .ok value ∧ next value = .ok result := by
  cases first with
  | error fault => cases h
  | ok value => exact ⟨value, rfl, h⟩

namespace Text

/-- Nothing but blanks. -/
def Blank (cs : List Char) : Prop := ∀ c ∈ cs, isBlank c = true

theorem Blank.nil : Blank [] := by simp [Blank]

theorem Blank.append {first second : List Char} (h : Blank first) (h' : Blank second) :
    Blank (first ++ second) := by
  intro c hc
  rcases List.mem_append.mp hc with hc | hc
  · exact h c hc
  · exact h' c hc

theorem Blank.skip {blanks : List Char} (h : Blank blanks) (rest : List Char) :
    skipBlank (blanks ++ rest) = skipBlank rest :=
  List.dropWhile_append_of_pos h

theorem skipBlank_cons {c : Char} (h : isBlank c = false) (rest : List Char) :
    skipBlank (c :: rest) = c :: rest := by
  simp [skipBlank, h]

theorem Blank.skip_mark {blanks : List Char} (h : Blank blanks) (mark : Char)
    (hmark : isBlank mark = false) (rest : List Char) :
    skipBlank (blanks ++ mark :: rest) = mark :: rest := by
  rw [h.skip, skipBlank_cons hmark]

theorem length_lt_of_skipBlank {cs rest : List Char} {c : Char} (h : skipBlank cs = c :: rest) :
    rest.length < cs.length := by
  have hle := skipBlank_length_le cs
  rw [h, List.length_cons] at hle
  omega

theorem skipBlank_eq_nil_iff {cs : List Char} : skipBlank cs = [] ↔ Blank cs := by
  simp [skipBlank, Blank, List.dropWhile_eq_nil_iff]

theorem isBlank_eq_false_of_skipBlank {cs rest : List Char} {c : Char}
    (h : skipBlank cs = c :: rest) : isBlank c = false := by
  have hhead := List.head?_dropWhile_not isBlank cs
  rw [← skipBlank, h] at hhead
  exact hhead

/-- What was skipped is blank. -/
theorem exists_blank_of_skipBlank {cs rest : List Char} (h : skipBlank cs = rest) :
    ∃ blanks, Blank blanks ∧ cs = blanks ++ rest := by
  refine ⟨cs.takeWhile isBlank, fun c hc => List.mem_takeWhile_imp hc, ?_⟩
  rw [← h]
  exact List.takeWhile_append_dropWhile.symm

end Text

namespace Cfg

open Text

/-! ### Words -/

/-- No word that ends where this text begins could have been longer. -/
def EndsWord (rest : List Char) : Prop := ∀ c ∈ rest.head?, isWordChar c = false

theorem isWordChar_eq_false_of_isBlank {c : Char} (h : isBlank c = true) :
    isWordChar c = false := by
  have hcontinue := isIdentContinue_eq_false_of_isBlank h
  have hunderscore : c ≠ '_' := by
    rintro rfl
    exact absurd h (by decide +kernel)
  have hmark : c ≠ '#' := by
    rintro rfl
    exact absurd h (by decide +kernel)
  simp [isWordChar, hcontinue, hunderscore, hmark]

theorem isWordChar_of_mem_identifier {word : List Char} (h : Identifier word) :
    ∀ c ∈ word, isWordChar c = true := by
  obtain ⟨mark, first, rest, hmark, hfirst, hrest⟩ := h
  intro c hc
  simp only [List.mem_append, List.mem_cons] at hc
  rcases hc with hc | rfl | hc
  · rcases hmark with rfl | rfl
    · cases hc
    · have hletter : isIdentStart 'r' = true := by decide +kernel
      rcases List.mem_cons.mp hc with rfl | hc
      · simp [isWordChar, isIdentContinue_of_isIdentStart hletter]
      · obtain rfl := List.mem_singleton.mp hc
        simp [isWordChar]
  · rcases hfirst with hstart | ⟨rfl, -⟩
    · simp [isWordChar, isIdentContinue_of_isIdentStart hstart]
    · simp [isWordChar]
  · simp [isWordChar, hrest c hc]

theorem takeWhile_word {word rest : List Char} (h : Identifier word) (hends : EndsWord rest) :
    (word ++ rest).takeWhile isWordChar = word := by
  rw [List.takeWhile_append_of_pos (isWordChar_of_mem_identifier h)]
  cases rest with
  | nil => simp
  | cons c rest => simp [hends c rfl]

theorem dropWhile_word {word rest : List Char} (h : Identifier word) (hends : EndsWord rest) :
    (word ++ rest).dropWhile isWordChar = rest := by
  rw [List.dropWhile_append_of_pos (isWordChar_of_mem_identifier h)]
  cases rest with
  | nil => simp
  | cons c rest => simp [hends c rfl]

theorem endsWord_dropWhile (cs : List Char) : EndsWord (cs.dropWhile isWordChar) := by
  intro c hc
  have hhead := List.head?_dropWhile_not isWordChar cs
  rw [Option.mem_def.mp hc] at hhead
  exact hhead

theorem isBlank_eq_false_of_mem_identifier {word : List Char} (h : Identifier word) :
    ∀ c ∈ word, isBlank c = false := by
  intro c hc
  rw [Bool.eq_false_iff]
  intro hblank
  have hword := isWordChar_of_mem_identifier h c hc
  simp [isWordChar_eq_false_of_isBlank hblank] at hword

theorem skipBlank_word {word : List Char} (h : Identifier word) (rest : List Char) :
    skipBlank (word ++ rest) = word ++ rest := by
  cases word with
  | nil => exact absurd rfl h.ne_nil
  | cons c word => exact skipBlank_cons (isBlank_eq_false_of_mem_identifier h c (by simp)) _

/-! ### The readers -/

variable {size : Nat} {cs : List Char}

theorem readIdent_eq_ok_iff {name : Name} {rest : Rest cs} :
    readIdent size cs = .ok (name, rest) ↔
      Identifier name.chars ∧ EndsWord rest.1 ∧ skipBlank cs = name.chars ++ rest.1 := by
  obtain ⟨rest, hrest⟩ := rest
  unfold readIdent
  split
  · next hskip =>
    simp only [reduceCtorEq, hskip, false_iff]
    rintro ⟨hname, -, hnil⟩
    exact hname.ne_nil (List.append_eq_nil_iff.mp hnil.symm).1
  · next c tail hskip =>
    constructor
    · intro h
      split at h
      · cases h
      · split at h
        · next hident =>
          cases h
          refine ⟨by simpa using isIdent_iff.mp hident, endsWord_dropWhile _, ?_⟩
          rw [hskip, Name.chars_ofChars]
          exact List.takeWhile_append_dropWhile.symm
        · cases h
    · rintro ⟨hname, hends, htext⟩
      have hword := takeWhile_word hname hends
      have hleft := dropWhile_word hname hends
      rw [← htext, hskip] at hword hleft
      simp [hword, hleft, hname.ne_nil, isIdent_iff.mpr hname]

theorem readIdent_written (size : Nat) {blanks rest : List Char} {name : Name}
    (hblanks : Blank blanks) (hname : Identifier name.chars) (hrest : EndsWord rest) :
    ∃ h, readIdent size (blanks ++ (name.chars ++ rest)) = .ok (name, ⟨rest, h⟩) := by
  have hlength := List.length_pos_iff.mpr hname.ne_nil
  refine ⟨by simp only [List.length_append]; omega, readIdent_eq_ok_iff.mpr ⟨hname, hrest, ?_⟩⟩
  rw [hblanks.skip, skipBlank_word hname]

section Marks

variable {mark : Char}

theorem eat_eq_some_iff {rest : Rest cs} :
    eat mark cs = some rest ↔ skipBlank cs = mark :: rest.1 := by
  obtain ⟨rest, hrest⟩ := rest
  unfold eat
  split
  · next h => simp [h]
  · next c tail h =>
    by_cases hmark : c = mark
    · simp [h, hmark]
    · simp [h, hmark]

theorem eat_of_skipBlank {rest : List Char} (h : skipBlank cs = mark :: rest) :
    eat mark cs = some ⟨rest, length_lt_of_skipBlank h⟩ :=
  eat_eq_some_iff.mpr h

theorem eat_eq_none_iff : eat mark cs = none ↔ (skipBlank cs).head? ≠ some mark := by
  rw [Option.eq_none_iff_forall_ne_some]
  constructor
  · intro h hhead
    obtain ⟨rest, hrest⟩ := List.head?_eq_some_iff.mp hhead
    exact h _ (eat_of_skipBlank hrest)
  · intro h rest heat
    exact h (by rw [eat_eq_some_iff.mp heat]; rfl)

theorem eat_eq_none {c : Char} (h : (skipBlank cs).head? = some c) (hne : c ≠ mark) :
    eat mark cs = none := by
  rw [eat_eq_none_iff, h]
  exact fun hsame => hne (Option.some.inj hsame)

theorem expect_eq_ok_iff {rest : Rest cs} :
    expect size mark cs = .ok rest ↔ skipBlank cs = mark :: rest.1 := by
  rw [← eat_eq_some_iff]
  unfold expect
  cases eat mark cs with
  | some found => simp
  | none => cases skipBlank cs <;> simp

theorem expect_of_skipBlank {rest : List Char} (h : skipBlank cs = mark :: rest) :
    expect size mark cs = .ok ⟨rest, length_lt_of_skipBlank h⟩ :=
  expect_eq_ok_iff.mpr h

end Marks

theorem eq_quote_of_dropWhile {body rest : List Char} {c : Char}
    (h : body.dropWhile (· != '"') = c :: rest) : c = '"' := by
  have hhead := List.head?_dropWhile_not (· != '"') body
  simpa [h] using hhead

/-- A text splits at its first quote in just one way. -/
theorem splits_at_quote_iff {body value rest : List Char} :
    body.takeWhile (· != '"') = value ∧ body.dropWhile (· != '"') = '"' :: rest ↔
      '"' ∉ value ∧ body = value ++ '"' :: rest := by
  constructor
  · rintro ⟨rfl, hrest⟩
    constructor
    · intro h
      simpa using List.mem_takeWhile_imp h
    · rw [← hrest]
      exact List.takeWhile_append_dropWhile.symm
  · rintro ⟨hvalue, rfl⟩
    have hplain : ∀ c ∈ value, (c != '"') = true := by
      intro c hc
      simp only [bne_iff_ne, ne_eq]
      rintro rfl
      exact hvalue hc
    rw [List.takeWhile_append_of_pos hplain, List.dropWhile_append_of_pos hplain]
    simp

theorem readString_eq_ok_iff {value : Name} {rest : Rest cs} :
    readString size cs = .ok (value, rest) ↔
      '"' ∉ value.chars ∧ skipBlank cs = '"' :: (value.chars ++ '"' :: rest.1) := by
  constructor
  · intro h
    obtain ⟨body, hbody, h⟩ := ok_of_bind h
    have hopen := expect_eq_ok_iff.mp hbody
    simp only at h
    split at h
    · cases h
    · next close left hleft =>
      cases h
      obtain rfl := eq_quote_of_dropWhile hleft
      obtain ⟨hvalue, hsplit⟩ := splits_at_quote_iff.mp ⟨rfl, hleft⟩
      rw [Name.chars_ofChars, hopen, ← hsplit]
      exact ⟨hvalue, rfl⟩
  · rintro ⟨hvalue, htext⟩
    obtain ⟨htake, hdrop⟩ := splits_at_quote_iff.mpr ⟨hvalue, rfl⟩
    unfold readString
    rw [expect_of_skipBlank htext]
    dsimp only [bind, Except.bind]
    split
    · next hnil => cases hnil.symm.trans hdrop
    · next close left hleft =>
      obtain ⟨rfl, hrest⟩ := List.cons.inj (hleft.symm.trans hdrop)
      simp [htake, hrest]

theorem readString_written (size : Nat) {blanks : List Char} {value : Name}
    (hblanks : Blank blanks) (hvalue : '"' ∉ value.chars) (rest : List Char) :
    ∃ h, readString size (blanks ++ '"' :: (value.chars ++ '"' :: rest)) =
      .ok (value, ⟨rest, h⟩) := by
  refine ⟨by simp only [List.length_append, List.length_cons]; omega,
    readString_eq_ok_iff.mpr ⟨hvalue, ?_⟩⟩
  exact hblanks.skip_mark '"' (by decide +kernel) _

theorem finish_eq_ok_iff : finish size cs = .ok () ↔ Blank cs := by
  rw [← skipBlank_eq_nil_iff]
  unfold finish
  cases skipBlank cs <;> simp

end Cfg

end ScopeWalk
