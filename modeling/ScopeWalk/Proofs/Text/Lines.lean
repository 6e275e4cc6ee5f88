import ScopeWalk.Proofs.Cfg.Tokens

/-!
# Lines that stand alone

A line that says something has a character, and the first and the last one are not blank. Such a
line is kept as it is when it is trimmed. So it is the only line of the text that it is itself, and
when such lines are joined by line feeds, the text has just these lines.
-/
namespace ScopeWalk.Text

variable {cs : List Char}

/-- The text is one line, and no blanks can be trimmed from it. -/
structure IsLine (cs : List Char) : Prop where
  ne_nil : cs ≠ []
  head_not_blank : ∀ c ∈ cs.head?, isBlank c = false
  last_not_blank : ∀ c ∈ cs.getLast?, isBlank c = false
  no_feed : '\n' ∉ cs

/-! ### Trimming -/

theorem head?_skipBlank_not (cs : List Char) : ∀ c ∈ (skipBlank cs).head?, isBlank c = false := by
  intro c hc
  obtain ⟨rest, hrest⟩ := List.head?_eq_some_iff.mp hc
  exact isBlank_eq_false_of_skipBlank hrest

theorem skipBlank_eq_self (h : ∀ c ∈ cs.head?, isBlank c = false) : skipBlank cs = cs := by
  cases cs with
  | nil => rfl
  | cons c cs => exact skipBlank_cons (h c rfl) cs

theorem trim_eq_self (hhead : ∀ c ∈ cs.head?, isBlank c = false)
    (hlast : ∀ c ∈ cs.getLast?, isBlank c = false) : trim cs = cs := by
  rw [trim, skipBlank_eq_self hhead, skipBlank_eq_self (by rwa [List.head?_reverse]),
    List.reverse_reverse]

theorem trim_isPrefix_skipBlank (cs : List Char) : trim cs <+: skipBlank cs := by
  have hback := List.reverse_prefix.mpr (skipBlank_suffix (skipBlank cs).reverse)
  rwa [List.reverse_reverse] at hback

theorem head?_trim_not (cs : List Char) : ∀ c ∈ (trim cs).head?, isBlank c = false := by
  intro c hc
  obtain ⟨rest, hrest⟩ := trim_isPrefix_skipBlank cs
  exact head?_skipBlank_not cs c (by rw [← hrest, List.head?_append, Option.mem_def.mp hc]; rfl)

theorem getLast?_trim_not (cs : List Char) : ∀ c ∈ (trim cs).getLast?, isBlank c = false := by
  rw [trim, List.getLast?_reverse]
  exact head?_skipBlank_not _

/-! ### Line feeds -/

theorem lines_eq_splitOn (cs : List Char) : lines cs = cs.splitOn '\n' := by
  induction cs with
  | nil => rfl
  | cons c cs ih =>
    rw [lines, List.splitOn_cons_eq_if_modifyHead, ih]
    simp only [beq_iff_eq]
    split
    · rfl
    · cases hlines : cs.splitOn '\n' with
      | nil => exact absurd hlines (List.splitOn_ne_nil _ _)
      | cons line rest => rfl

theorem not_mem_of_mem_lines {line : List Char} (h : line ∈ lines cs) : '\n' ∉ line := by
  induction cs generalizing line with
  | nil =>
    obtain rfl := List.mem_singleton.mp h
    exact List.not_mem_nil
  | cons c cs ih =>
    rw [lines] at h
    split at h
    · rcases List.mem_cons.mp h with rfl | h
      · exact List.not_mem_nil
      · exact ih h
    · next hc =>
      split at h
      · obtain rfl := List.mem_singleton.mp h
        simpa using Ne.symm hc
      · next first rest hlines =>
        rw [hlines] at ih
        rcases List.mem_cons.mp h with rfl | h
        · simpa [Ne.symm hc] using ih List.mem_cons_self
        · exact ih (List.mem_cons_of_mem _ h)

/-- A line feed at the end makes no line of its own. -/
theorem trimmedLines_concat_feed (cs : List Char) :
    trimmedLines (cs ++ ['\n']) = trimmedLines cs := by
  simp [trimmedLines, lines_eq_splitOn, List.splitOn_append_cons_self, trim, skipBlank]

theorem trimmedLines_intercalate {texts : List (List Char)} (h : ∀ line ∈ texts, IsLine line) :
    trimmedLines (['\n'].intercalate texts) = texts := by
  cases texts with
  | nil => rfl
  | cons text texts =>
    have hlines : lines (['\n'].intercalate (text :: texts)) = text :: texts := by
      rw [lines_eq_splitOn]
      exact List.splitOn_intercalate '\n' (fun line hline => (h line hline).no_feed) (by simp)
    have htrim : (text :: texts).map trim = text :: texts := by
      refine (List.map_congr_left fun line hline => ?_).trans (List.map_id' _)
      exact trim_eq_self (h line hline).head_not_blank (h line hline).last_not_blank
    rw [trimmedLines, hlines, htrim, List.filter_eq_self]
    intro line hline
    simpa using (h line hline).ne_nil

theorem IsLine.trimmedLines_eq (h : IsLine cs) : trimmedLines cs = [cs] := by
  have hlines : ∀ line ∈ [cs], IsLine line := by simpa using h
  simpa using trimmedLines_intercalate hlines

theorem isLine_of_mem_trimmedLines {line : List Char} (h : line ∈ trimmedLines cs) :
    IsLine line := by
  obtain ⟨hmem, hne⟩ := List.mem_filter.mp h
  obtain ⟨whole, hwhole, rfl⟩ := List.mem_map.mp hmem
  have hpart := (trim_isPrefix_skipBlank whole).isInfix.trans (skipBlank_suffix whole).isInfix
  exact
    { ne_nil := by simpa using hne
      head_not_blank := head?_trim_not whole
      last_not_blank := getLast?_trim_not whole
      no_feed := fun hfeed => not_mem_of_mem_lines hwhole (hpart.subset hfeed) }

theorem isLine_of_trimmedLines_eq {before after : List (List Char)} {line : List Char}
    (h : trimmedLines cs = before ++ line :: after) : IsLine line := by
  have hmem : line ∈ trimmedLines cs := by simp [h]
  exact isLine_of_mem_trimmedLines hmem

end ScopeWalk.Text
