import ScopeWalk.Cfg.Listing
import ScopeWalk.Proofs.Cfg.Faults
import ScopeWalk.Proofs.Text.Lines

/-!
# Listings of settings

Whether a line of a listing is a setting can be asked of the parser of predicates: it must find a
flag or a key with a value. The two readers go the same way until a parenthesis follows the first
word, where one ends and the other goes on to read operands. A listing is read if all its lines are
settings, and then it has these settings and no others.
-/
namespace ScopeWalk.Cfg

open Text
open Cursor (At)

/-! ### Lines as predicates -/

namespace Setting

/-- The predicate that asks for the setting. -/
def predicate : Setting → Predicate
  | .flag name => .flag name
  | .keyValue key value => .keyValue key value

/-- As a predicate, the line asks for the setting. -/
def SpelledBy (s : Setting) (line : List Char) : Prop :=
  Predicate.parse (String.ofList line) = .ok s.predicate

theorem predicate_inj {s t : Setting} : s.predicate = t.predicate ↔ s = t := by
  cases s <;> cases t <;> simp [predicate]

theorem SpelledBy.unique {s t : Setting} {line : List Char} (h : s.SpelledBy line)
    (h' : t.SpelledBy line) : s = t :=
  predicate_inj.mp (Except.ok.inj (h.symm.trans h'))

theorem eval_predicate {s : Setting} {settings : Settings} (h : s ∈ settings) :
    s.predicate.eval settings = some true := by
  cases s <;> simp [predicate, Predicate.eval, h]

theorem predicate_ne_of_operation {s : Setting} {word : Name} {operands : List Predicate}
    {p : Predicate} (h : Operation word operands p) : p ≠ s.predicate := by
  cases h <;> cases s <;> exact Predicate.noConfusion

/-- Both readers take the same tokens, one after another, as long as no operands are to be read. -/
theorem parse_of_no_operands {line : List Char}
    (h : ∀ word afterWord, readIdent (byteLength line) line = .ok (word, afterWord) →
      eat '=' afterWord.1 = none → eat '(' afterWord.1 = none) :
    Predicate.parse (String.ofList line) = predicate <$> parse line := by
  unfold Predicate.parse parse
  dsimp only
  rw [String.toList_ofList, Predicate.read]
  cases hword : readIdent (byteLength line) line with
  | error fault => rfl
  | ok found =>
    dsimp only [bind, Except.bind]
    cases heq : eat '=' found.2.1 with
    | some afterEq =>
      dsimp only
      cases readString (byteLength line) afterEq.1 with
      | error fault => rfl
      | ok found =>
        dsimp only [pure, Except.pure]
        cases finish (byteLength line) found.2.1 <;> rfl
    | none =>
      rw [h _ _ hword heq]
      dsimp only [pure, Except.pure]
      cases finish (byteLength line) found.2.1 <;> rfl

/-- Where operands begin, a line should have come to its end. A predicate goes on, and becomes an
operation. -/
theorem parse_of_operands {line : List Char} {word : Name} {afterWord : Rest line}
    {inside : Rest afterWord.1}
    (hword : readIdent (byteLength line) line = .ok (word, afterWord))
    (heq : eat '=' afterWord.1 = none) (hopen : eat '(' afterWord.1 = some inside) :
    parse line = .error (.trailingInput (offsetOf (byteLength line) ('(' :: inside.1))) ∧
      ∀ s : Setting, Predicate.parse (String.ofList line) ≠ .ok s.predicate := by
  constructor
  · unfold parse
    dsimp only
    rw [hword]
    dsimp only [bind, Except.bind]
    rw [heq, finish, eat_eq_some_iff.mp hopen]
  · intro s h
    unfold Predicate.parse at h
    dsimp only at h
    rw [String.toList_ofList] at h
    obtain ⟨⟨p, left⟩, hread, h⟩ := ok_of_bind h
    obtain ⟨_, -, h⟩ := ok_of_bind h
    cases h
    rw [Predicate.read] at hread
    obtain ⟨found, hfound, hread⟩ := ok_of_bind hread
    cases hword.symm.trans hfound
    dsimp only at hread
    rw [heq] at hread
    dsimp only at hread
    rw [hopen] at hread
    obtain ⟨⟨operands, afterOperands⟩, -, hread⟩ := ok_of_bind hread
    obtain ⟨rest, -, hread⟩ := ok_of_bind hread
    obtain ⟨made, hmade, hread⟩ := ok_of_bind hread
    cases hread
    exact predicate_ne_of_operation (ofOperator_eq_ok_iff.mp hmade) rfl

/-- A line is read as a setting in the same way as it is read as a predicate, unless there is a
parenthesis behind its first word. -/
theorem parse_cases (line : List Char) :
    Predicate.parse (String.ofList line) = predicate <$> parse line ∨
      ∃ offset rest, parse line = .error (.trailingInput offset) ∧ At line offset ('(' :: rest) ∧
        ∀ s : Setting, Predicate.parse (String.ofList line) ≠ .ok s.predicate := by
  by_cases h : ∀ word afterWord, readIdent (byteLength line) line = .ok (word, afterWord) →
      eat '=' afterWord.1 = none → eat '(' afterWord.1 = none
  · exact .inl (parse_of_no_operands h)
  · push Not at h
    obtain ⟨word, afterWord, hword, heq, hopen⟩ := h
    obtain ⟨inside, hinside⟩ := Option.ne_none_iff_exists'.mp hopen
    obtain ⟨hfault, hother⟩ := parse_of_operands hword heq hinside
    obtain ⟨-, -, htext⟩ := readIdent_eq_ok_iff.mp hword
    have hsuffix := (skipBlank_suffix afterWord.1).trans (suffix_of_skipBlank htext)
    rw [eat_eq_some_iff.mp hinside] at hsuffix
    exact .inr ⟨_, inside.1, hfault, at_of_suffix hsuffix, hother⟩

theorem parse_ok_iff_spelledBy {line : List Char} {s : Setting} :
    parse line = .ok s ↔ s.SpelledBy line := by
  unfold SpelledBy
  rcases parse_cases line with h | ⟨offset, rest, hfault, -, hother⟩
  · rw [h]
    cases parse line with
    | error fault => simp
    | ok t => simp [predicate_inj]
  · simp [hfault, hother s]

/-- What is wrong with a line as a setting is wrong with it as a predicate, or the line goes on with
a parenthesis. -/
theorem fault_cases {line : List Char} {fault : ReadError} (h : parse line = .error fault) :
    Predicate.parse (String.ofList line) = .error fault ∨
      ∃ offset rest, fault = .trailingInput offset ∧ At line offset ('(' :: rest) := by
  rcases parse_cases line with hsame | ⟨offset, rest, hfault, hplace, -⟩
  · rw [hsame, h]
    exact .inl rfl
  · cases h.symm.trans hfault
    exact .inr ⟨offset, rest, rfl, hplace⟩

/-- The setting as it is written in a listing. -/
def line : Setting → List Char
  | .flag name => name.chars
  | .keyValue key value => key.chars ++ ('=' :: '"' :: (value.chars ++ ['"']))

/-- The setting can be written in a line so that it can be read back. -/
inductive Listable : Setting → Prop where
  | flag (name : Name) (hname : Identifier name.chars) : Listable (.flag name)
  | keyValue (key value : Name) (hkey : Identifier key.chars) (hquote : '"' ∉ value.chars)
      (hfeed : '\n' ∉ value.chars) : Listable (.keyValue key value)

theorem Listable.isLine {s : Setting} (h : s.Listable) : IsLine s.line := by
  cases h with
  | flag name hname =>
    have hblank := isBlank_eq_false_of_mem_identifier hname
    exact
      { ne_nil := hname.ne_nil
        head_not_blank := fun c hc => hblank c (List.mem_of_mem_head? hc)
        last_not_blank := fun c hc => hblank c (List.mem_of_mem_getLast? hc)
        no_feed := fun hfeed => absurd (hblank _ hfeed) (by decide) }
  | keyValue key value hkey hquote hfeed =>
    have hblank := isBlank_eq_false_of_mem_identifier hkey
    have hkeyFeed : '\n' ∉ key.chars := fun hmem => absurd (hblank _ hmem) (by decide)
    exact
      { ne_nil := by simp [line]
        head_not_blank := by
          rw [line, List.head?_append_of_ne_nil _ hkey.ne_nil]
          exact fun c hc => hblank c (List.mem_of_mem_head? hc)
        last_not_blank := by
          intro c hc
          have hline : line (.keyValue key value) =
              (key.chars ++ ('=' :: '"' :: value.chars)) ++ ['"'] := by
            simp [line]
          rw [hline, List.getLast?_concat, Option.mem_some] at hc
          subst hc
          decide
        no_feed := by simp [line, hkeyFeed, hfeed] }

theorem Listable.spelledBy {s : Setting} (h : s.Listable) : s.SpelledBy s.line := by
  cases h with
  | flag name hname => exact parse_of_spells .nil (.flag name hname) .nil (by simp [line])
  | keyValue key value hkey hquote hfeed =>
    exact parse_of_spells .nil (.keyValue key value [] [] hkey hquote .nil .nil) .nil
      (by simp [line])

end Setting

/-! ### Listings line by line -/

namespace Settings

/-- The settings after one more line. -/
def addLine (settings : Settings) (line : List Char) : Except ReadError Settings :=
  settings.insert <$> Setting.parse line

theorem addLine_of_ok {settings : Settings} {line : List Char} {s : Setting}
    (h : Setting.parse line = .ok s) : settings.addLine line = .ok (settings.insert s) := by
  rw [addLine, h]
  rfl

theorem addLine_of_error {settings : Settings} {line : List Char} {fault : ReadError}
    (h : Setting.parse line = .error fault) : settings.addLine line = .error fault := by
  rw [addLine, h]
  rfl

/-- All lines that were passed over are settings, and these were added, and nothing else. -/
theorem mem_of_foldlM_addLine {lines : List (List Char)} {start read : Settings}
    (h : lines.foldlM addLine start = .ok read) :
    (∀ line ∈ lines, ∃ s, Setting.parse line = .ok s) ∧
      ∀ s, s ∈ read ↔ s ∈ start ∨ ∃ line ∈ lines, Setting.parse line = .ok s := by
  induction lines generalizing start with
  | nil =>
    cases h
    simp
  | cons line lines ih =>
    rw [List.foldlM_cons] at h
    obtain ⟨next, hnext, h⟩ := ok_of_bind h
    obtain ⟨hlines, hmem⟩ := ih h
    cases hline : Setting.parse line with
    | error fault =>
      rw [addLine_of_error hline] at hnext
      cases hnext
    | ok t =>
      rw [addLine_of_ok hline] at hnext
      cases hnext
      refine ⟨List.forall_mem_cons.mpr ⟨⟨t, hline⟩, hlines⟩, fun s => ?_⟩
      simp only [hmem, mem_insert, List.mem_cons, or_and_right, exists_or, exists_eq_left, hline,
        Except.ok.injEq, or_assoc, eq_comm (a := s)]

/-- If all lines are settings, then none of them ends the reading. -/
theorem exists_foldlM_addLine {lines : List (List Char)}
    (h : ∀ line ∈ lines, ∃ s, Setting.parse line = .ok s) (start : Settings) :
    ∃ read, lines.foldlM addLine start = .ok read := by
  induction lines generalizing start with
  | nil => exact ⟨start, rfl⟩
  | cons line lines ih =>
    obtain ⟨⟨s, hline⟩, hlines⟩ := List.forall_mem_cons.mp h
    rw [List.foldlM_cons, addLine_of_ok hline]
    exact ih hlines _

/-- The fault is that of the first line that is no setting. -/
theorem foldlM_addLine_eq_error_iff {lines : List (List Char)} {start : Settings}
    {fault : ReadError} :
    lines.foldlM addLine start = .error fault ↔ ∃ before line after,
      lines = before ++ line :: after ∧ (∀ earlier ∈ before, ∃ s, Setting.parse earlier = .ok s) ∧
        Setting.parse line = .error fault := by
  induction lines generalizing start with
  | nil => simp [pure, Except.pure]
  | cons line lines ih =>
    rw [List.foldlM_cons]
    cases hline : Setting.parse line with
    | error e =>
      rw [addLine_of_error hline]
      constructor
      · rintro ⟨⟩
        exact ⟨[], line, lines, rfl, by simp, hline⟩
      · rintro ⟨before, found, after, hsplit, hbefore, hfound⟩
        cases before with
        | nil =>
          obtain ⟨rfl, -⟩ := List.cons.inj hsplit
          cases hline.symm.trans hfound
          rfl
        | cons earlier before =>
          obtain ⟨rfl, -⟩ := List.cons.inj hsplit
          obtain ⟨s, hs⟩ := hbefore line List.mem_cons_self
          cases hline.symm.trans hs
    | ok s =>
      rw [addLine_of_ok hline]
      refine ih.trans ?_
      constructor
      · rintro ⟨before, found, after, rfl, hbefore, hfound⟩
        exact ⟨line :: before, found, after, rfl,
          List.forall_mem_cons.mpr ⟨⟨s, hline⟩, hbefore⟩, hfound⟩
      · rintro ⟨before, found, after, hsplit, hbefore, hfound⟩
        cases before with
        | nil =>
          obtain ⟨rfl, -⟩ := List.cons.inj hsplit
          cases hline.symm.trans hfound
        | cons earlier before =>
          obtain ⟨rfl, hrest⟩ := List.cons.inj hsplit
          exact ⟨before, found, after, hrest, (List.forall_mem_cons.mp hbefore).2, hfound⟩

variable {text : String} {read : Settings} {fault : ReadError}

theorem exists_ofListing_iff :
    (∃ read, ofListing text = .ok read) ↔
      ∀ line ∈ trimmedLines text.toList, ∃ s : Setting, s.SpelledBy line := by
  simp only [← Setting.parse_ok_iff_spelledBy]
  constructor
  · rintro ⟨read, h⟩
    exact (mem_of_foldlM_addLine h).1
  · exact fun h => exists_foldlM_addLine h empty

theorem mem_of_ofListing (h : ofListing text = .ok read) (s : Setting) :
    s ∈ read ↔ ∃ line ∈ trimmedLines text.toList, s.SpelledBy line := by
  simp only [← Setting.parse_ok_iff_spelledBy, (mem_of_foldlM_addLine h).2, not_mem_empty,
    false_or]

theorem eval_of_ofListing (h : ofListing text = .ok read) {line : List Char}
    (hline : line ∈ trimmedLines text.toList) :
    ∃ p, Predicate.parse (.ofList line) = .ok p ∧ p.eval read = some true := by
  obtain ⟨s, hs⟩ := exists_ofListing_iff.mp ⟨read, h⟩ line hline
  exact ⟨s.predicate, hs, Setting.eval_predicate ((mem_of_ofListing h s).mpr ⟨line, hline, hs⟩)⟩

theorem exists_same_of_same_lines (h : ofListing text = .ok read) {other : String}
    (hlines : ∀ line, line ∈ trimmedLines other.toList ↔ line ∈ trimmedLines text.toList) :
    ∃ again, ofListing other = .ok again ∧ again.same read = true := by
  obtain ⟨again, hagain⟩ := exists_ofListing_iff.mpr fun line hline =>
    exists_ofListing_iff.mp ⟨read, h⟩ line ((hlines line).mp hline)
  refine ⟨again, hagain, same_iff.mpr fun s => ?_⟩
  simp only [mem_of_ofListing hagain, mem_of_ofListing h, hlines]

theorem ofListing_line {line : List Char} (h : IsLine line) :
    ofListing (.ofList line) = empty.addLine line := by
  rw [ofListing, String.toList_ofList, h.trimmedLines_eq]
  exact bind_pure _

theorem ofListing_line_eq_error_iff {line : List Char} (h : IsLine line) :
    ofListing (.ofList line) = .error fault ↔ Setting.parse line = .error fault := by
  rw [ofListing_line h, addLine]
  cases Setting.parse line <;> simp

theorem ofListing_eq_error_iff :
    ofListing text = .error fault ↔ ∃ before line after,
      trimmedLines text.toList = before ++ line :: after ∧
      (∀ earlier ∈ before, ∃ s : Setting, s.SpelledBy earlier) ∧
      ofListing (.ofList line) = .error fault ∧
      (Predicate.parse (.ofList line) = .error fault ∨
        ∃ offset rest, fault = .trailingInput offset ∧ At line offset ('(' :: rest)) := by
  simp only [← Setting.parse_ok_iff_spelledBy]
  refine foldlM_addLine_eq_error_iff.trans ?_
  constructor
  · rintro ⟨before, line, after, hlines, hbefore, hline⟩
    have hisLine := isLine_of_trimmedLines_eq hlines
    exact ⟨before, line, after, hlines, hbefore, (ofListing_line_eq_error_iff hisLine).mpr hline,
      Setting.fault_cases hline⟩
  · rintro ⟨before, line, after, hlines, hbefore, hline, -⟩
    have hisLine := isLine_of_trimmedLines_eq hlines
    exact ⟨before, line, after, hlines, hbefore, (ofListing_line_eq_error_iff hisLine).mp hline⟩

theorem trimmedLines_written {order : List Setting} (h : ∀ s ∈ order, s.Listable)
    {ending : List Char} (hending : ending ∈ [[], ['\n']]) :
    trimmedLines (['\n'].intercalate (order.map Setting.line) ++ ending) =
      order.map Setting.line := by
  have hlines := trimmedLines_intercalate (List.forall_mem_map.mpr fun s hs => (h s hs).isLine)
  rcases List.mem_pair.mp hending with rfl | rfl
  · rw [List.append_nil, hlines]
  · rw [trimmedLines_concat_feed, hlines]

theorem exists_same_of_written {settings : Settings} {order : List Setting}
    (h : ∀ s ∈ order, s.Listable) (horder : ∀ s, s ∈ order ↔ s ∈ settings)
    (hlines : trimmedLines text.toList = order.map Setting.line) :
    ∃ read, ofListing text = .ok read ∧ read.same settings = true := by
  have hspelled : ∀ line ∈ trimmedLines text.toList, ∃ s : Setting, s.SpelledBy line := by
    rw [hlines, List.forall_mem_map]
    exact fun s hs => ⟨s, (h s hs).spelledBy⟩
  obtain ⟨read, hread⟩ := exists_ofListing_iff.mpr hspelled
  refine ⟨read, hread, same_iff.mpr fun s => ?_⟩
  rw [mem_of_ofListing hread, hlines, ← horder]
  constructor
  · rintro ⟨line, hline, hs⟩
    obtain ⟨t, ht, rfl⟩ := List.mem_map.mp hline
    rwa [hs.unique (h t ht).spelledBy]
  · exact fun hs => ⟨s.line, List.mem_map_of_mem hs, (h s hs).spelledBy⟩

/-- A listing is read just if each of its lines is a flag or a key with a value when it is parsed as
a predicate. Then these are the settings, and under them each line holds; it makes no difference in
which order the lines stand and how often. Otherwise the fault is that of the first other line,
read alone. This is its fault as a predicate, unless a parenthesis was the reason to stop there.
Settings that are written one in a line are read back, in whatever order they are written. -/
theorem ofListing_iff_lines :
    (∀ text : String,
      ((∃ read, ofListing text = .ok read) ↔
        ∀ line ∈ trimmedLines text.toList, ∃ s : Setting, s.SpelledBy line) ∧
      (∀ read, ofListing text = .ok read →
        (∀ s, s ∈ read ↔ ∃ line ∈ trimmedLines text.toList, s.SpelledBy line) ∧
        (∀ line ∈ trimmedLines text.toList,
          ∃ p, Predicate.parse (.ofList line) = .ok p ∧ p.eval read = some true) ∧
        ∀ other : String,
          (∀ line, line ∈ trimmedLines other.toList ↔ line ∈ trimmedLines text.toList) →
            ∃ again, ofListing other = .ok again ∧ again.same read = true) ∧
      ∀ fault, ofListing text = .error fault ↔ ∃ before line after,
        trimmedLines text.toList = before ++ line :: after ∧
        (∀ earlier ∈ before, ∃ s : Setting, s.SpelledBy earlier) ∧
        ofListing (.ofList line) = .error fault ∧
        (Predicate.parse (.ofList line) = .error fault ∨
          ∃ offset rest, fault = .trailingInput offset ∧ At line offset ('(' :: rest))) ∧
    ∀ settings : Settings, (∀ s ∈ settings, s.Listable) →
      ∀ order : List Setting, (∀ s, s ∈ order ↔ s ∈ settings) → ∀ ending ∈ [[], ['\n']],
        ∃ read, ofListing (.ofList (['\n'].intercalate (order.map Setting.line) ++ ending)) =
          .ok read ∧ read.same settings = true := by
  refine ⟨fun text => ⟨exists_ofListing_iff, fun read hread => ?_,
    fun fault => ofListing_eq_error_iff⟩, fun settings h order horder ending hending => ?_⟩
  · exact ⟨mem_of_ofListing hread, fun line => eval_of_ofListing hread,
      fun other => exists_same_of_same_lines hread⟩
  · have hlistable : ∀ s ∈ order, s.Listable := fun s hs => h s ((horder s).mp hs)
    refine exists_same_of_written hlistable horder ?_
    rw [String.toList_ofList, trimmedLines_written hlistable hending]

/-- Of three lines that say something, two say the same. In another listing the second line is no
setting, and the third, a predicate, is none either, but is not reached. -/
theorem ofListing_iff_lines_sample :
    let listing := "unix\n\n target_os=\"linux\"\nunix\n"
    let wrong := "unix\nfoo bar\nall(unix)"
    let settings : Settings := .ofList [.keyValue ⟨"target_os"⟩ ⟨"linux"⟩, .flag ⟨"unix"⟩]
    (∃ read, ofListing listing = .ok read ∧
      (∀ s, s ∈ read ↔ ∃ line ∈ trimmedLines listing.toList, s.SpelledBy line) ∧
      ∃ again, ofListing "target_os=\"linux\"\nunix" = .ok again ∧ again.same read = true) ∧
    (ofListing wrong = .error (.trailingInput 4) ∧ ∃ before line after,
      trimmedLines wrong.toList = before ++ line :: after ∧
        ofListing (.ofList line) = .error (.trailingInput 4)) ∧
    (∀ s ∈ settings, s.Listable) ∧
      ∃ read, ofListing "unix\ntarget_os=\"linux\"\n" = .ok read ∧
        read.same settings = true := by
  intro listing wrong settings
  obtain ⟨htexts, hback⟩ := ofListing_iff_lines
  have horder (s : Setting) :
      s ∈ [.flag ⟨"unix"⟩, .keyValue ⟨"target_os"⟩ ⟨"linux"⟩] ↔ s ∈ settings := by
    simp [settings, ofList, mem_insert, or_comm]
  have hlistable : ∀ s ∈ settings, s.Listable := by
    intro s hs
    rcases List.mem_pair.mp ((horder s).mpr hs) with rfl | rfl
    · exact .flag _ (isIdent_iff.mp (by decide +kernel))
    · exact .keyValue _ _ (isIdent_iff.mp (by decide +kernel)) (by decide) (by decide)
  refine ⟨?_, ?_, hlistable, ?_⟩
  · have hok : (ofListing listing).isOk = true := by decide +kernel
    cases hread : ofListing listing with
    | error fault =>
      rw [hread] at hok
      cases hok
    | ok read =>
      obtain ⟨hmem, -, hsame⟩ := (htexts listing).2.1 read hread
      refine ⟨read, rfl, hmem, hsame _ fun line => ?_⟩
      have hlines : trimmedLines listing.toList =
          ["unix".toList, "target_os=\"linux\"".toList, "unix".toList] := by
        decide +kernel
      have hother : trimmedLines "target_os=\"linux\"\nunix".toList =
          ["target_os=\"linux\"".toList, "unix".toList] := by
        decide +kernel
      rw [hlines, hother]
      simp only [List.mem_cons, List.not_mem_nil, or_false]
      tauto
  · have hfault : ofListing wrong = .error (.trailingInput 4) := by
      have hfound : (match ofListing wrong with
          | .ok _ => none
          | .error fault => some fault) = some (.trailingInput 4) := by
        decide +kernel
      split at hfound
      · cases hfound
      · next fault hfault =>
        cases hfound
        exact hfault
    obtain ⟨before, line, after, hlines, -, hline, -⟩ := ((htexts wrong).2.2 _).mp hfault
    exact ⟨hfault, before, line, after, hlines, hline⟩
  · exact hback settings hlistable _ horder ['\n'] (by simp)

end Settings

end ScopeWalk.Cfg
