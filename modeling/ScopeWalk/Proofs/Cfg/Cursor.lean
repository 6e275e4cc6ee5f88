import Mathlib.Data.List.DropRight
import ScopeWalk.Cfg.Parser
import ScopeWalk.Proofs.Cfg.Tokens
import ScopeWalk.Proofs.Text.Places

/-!
# Reading by byte offsets

A reader may keep the whole text, and an offset that it moves on. Whenever it looks at the text it
has to cut it, and then it must stand where the text can be cut. Here predicates are read in this
way. Such a reader has no result at all if it cuts in a wrong place, or if its calls are nested
deeper than they may be. It turns out that it always has one, if only the depth is enough for the
length of the text, and that it is the same as that of the reader that is handed what is left.
-/
namespace ScopeWalk.Cfg

open Text

/-- A reader that moves a byte offset. It may find a fault, or come to nothing. -/
abbrev Cursor := ExceptT ReadError (StateT Nat Option)

namespace Cursor

/-! ### The reader -/

section Reader

variable (text : List Char)

/-- What is left of the text at the offset. -/
def left : Cursor (List Char) := do
  let (_, left) ← cutAt (← get) text
  return left

def skipBlank : Cursor Unit := do
  let left ← left text
  modify (· + (byteLength left - byteLength (Text.skipBlank left)))

/-- The next character that is not blank, if there is one. The offset is moved to it. -/
def peek : Cursor (Option Char) := do
  skipBlank text
  return (← left text).head?

/-- Whether `mark` is the next character. If so, it is passed over. -/
def eat (mark : Char) : Cursor Bool := do
  if (← peek text) = some mark then
    modify (· + mark.utf8Size)
    return true
  else return false

def expect (mark : Char) : Cursor Unit := do
  match ← peek text with
  | none => throw .unexpectedEnd
  | some c =>
    if c = mark then modify (· + c.utf8Size) else throw (.unexpectedChar c (← get))

def ident : Cursor Name := do
  match ← peek text with
  | none => throw .unexpectedEnd
  | some _ =>
    let start ← get
    let left ← left text
    let length := (findByte (!isWordChar ·) left).getD (byteLength text - start)
    let (word, _) ← cutAt length left
    if word.isEmpty then
      match left.head? with
      | none => throw .unexpectedEnd
      | some c => throw (.unexpectedChar c start)
    else if isIdent word then
      set (start + length)
      return .ofChars word
    else throw (.invalidIdent (.ofChars word))

def string : Cursor Name := do
  skipBlank text
  let start ← get
  expect text '"'
  let left ← left text
  match findByte (· == '"') left with
  | none => throw (.unterminatedString start)
  | some length =>
    let (value, _) ← cutAt length left
    modify (· + (length + 1))
    return .ofChars value

def finish : Cursor Unit := do
  match ← peek text with
  | none => return
  | some _ => throw (.trailingInput (← get))

mutual

/-- One predicate. The calls inside may be nested to this depth. -/
def predicate : Nat → Cursor Predicate
  | 0 => liftM (none : Option Predicate)
  | depth + 1 => do
    let word ← ident text
    if ← eat text '=' then
      let value ← string text
      return .keyValue word value
    else if ← eat text '(' then
      let operands ← operands depth []
      expect text ')'
      Predicate.ofOperator word operands
    else return .flag word

/-- The operands up to a closing parenthesis or a missing comma, after those that were read. -/
def operands : Nat → List Predicate → Cursor (List Predicate)
  | 0, _ => liftM (none : Option (List Predicate))
  | depth + 1, done => do
    if (← peek text) = some ')' then
      return done
    else
      let operand ← predicate depth
      if ← eat text ',' then operands depth (done ++ [operand]) else return done ++ [operand]

end

end Reader

/-- The predicate that a whole text spells, or what is wrong with it. -/
def parse (depth : Nat) (text : String) : Option (Except ReadError Predicate) :=
  let reader : Cursor Predicate := do
    let read ← predicate text.toList depth
    finish text.toList
    return read
  Prod.fst <$> reader.run.run 0

/-! ### Where the reader stands -/

/-- The text can be cut at the offset, and this is what is left there. -/
def At (text : List Char) (offset : Nat) (rest : List Char) : Prop :=
  ∃ before, cutAt offset text = some (before, rest)

/-- What is left at the offset is this, but for blanks. -/
def Before (text : List Char) (offset : Nat) (cs : List Char) : Prop :=
  ∃ rest, At text offset rest ∧ Text.skipBlank rest = Text.skipBlank cs

variable {text cs rest front : List Char} {offset : Nat}

theorem At.offsetOf_eq (h : At text offset rest) : offsetOf (byteLength text) rest = offset := by
  obtain ⟨before, hcut⟩ := h
  obtain ⟨rfl, rfl⟩ := cutAt_eq_some_iff.mp hcut
  exact offsetOf_append before rest

theorem At.length_eq (h : At text offset rest) : byteLength text - offset = byteLength rest := by
  obtain ⟨before, hcut⟩ := h
  obtain ⟨rfl, rfl⟩ := cutAt_eq_some_iff.mp hcut
  simp

theorem At.pass (h : At text offset (front ++ rest)) :
    At text (offset + byteLength front) rest := by
  obtain ⟨before, hcut⟩ := h
  obtain ⟨rfl, rfl⟩ := cutAt_eq_some_iff.mp hcut
  exact ⟨before ++ front, cutAt_eq_some_iff.mpr ⟨by simp, by simp⟩⟩

theorem At.passMark {mark : Char} (h : At text offset (mark :: rest)) :
    At text (offset + mark.utf8Size) rest := by
  rw [← List.singleton_append] at h
  exact h.pass

theorem At.before (h : At text offset (Text.skipBlank cs)) : Before text offset cs :=
  ⟨_, h, List.dropWhile_idempotent _ _⟩

/-! ### What is left after each step -/

section Runs

variable {action : Cursor α} {next : α → Cursor β} {value : α} {moved : Nat}

theorem run_bind_ok (h : action.run.run offset = some (.ok value, moved)) :
    (action >>= next).run.run offset = (next value).run.run moved := by
  simp [ExceptT.run_bind, h]

theorem run_bind_error {fault : ReadError}
    (h : action.run.run offset = some (.error fault, moved)) :
    (action >>= next).run.run offset = some (.error fault, moved) := by
  simp [ExceptT.run_bind, h]

theorem get_run (offset : Nat) : (get : Cursor Nat).run.run offset = some (.ok offset, offset) :=
  rfl

theorem modify_run (f : Nat → Nat) (offset : Nat) :
    (modify f : Cursor PUnit).run.run offset = some (.ok ⟨⟩, f offset) := rfl

theorem cutAt_run {length : Nat} {parts : List Char × List Char}
    (h : cutAt length cs = some parts) :
    (liftM (cutAt length cs) : Cursor _).run.run offset = some (.ok parts, offset) := by
  rw [h]
  rfl

end Runs

theorem left_run (h : At text offset rest) :
    (left text).run.run offset = some (.ok rest, offset) := by
  obtain ⟨before, hcut⟩ := h
  rw [left, run_bind_ok (get_run offset), run_bind_ok (cutAt_run hcut)]
  rfl

theorem skipBlank_run (h : Before text offset cs) :
    ∃ moved, (skipBlank text).run.run offset = some (.ok ⟨⟩, moved) ∧
      At text moved (Text.skipBlank cs) := by
  obtain ⟨rest, hrest, hskip⟩ := h
  obtain ⟨blanks, -, hblanks⟩ := exists_blank_of_skipBlank hskip
  have hlength : byteLength rest - byteLength (Text.skipBlank rest) = byteLength blanks := by
    rw [hskip, hblanks, byteLength_append, Nat.add_sub_cancel]
  refine ⟨offset + byteLength blanks, ?_, (hblanks ▸ hrest).pass⟩
  rw [skipBlank, run_bind_ok (left_run hrest), hlength, modify_run]

theorem peek_run (h : Before text offset cs) :
    ∃ moved, (peek text).run.run offset = some (.ok (Text.skipBlank cs).head?, moved) ∧
      At text moved (Text.skipBlank cs) := by
  obtain ⟨moved, hskip, hmoved⟩ := skipBlank_run h
  refine ⟨moved, ?_, hmoved⟩
  rw [peek, run_bind_ok hskip, run_bind_ok (left_run hmoved)]
  rfl

section Tokens

variable {mark : Char}

theorem eat_run_of_some {left : Rest cs} (h : Before text offset cs)
    (heat : Cfg.eat mark cs = some left) :
    ∃ moved, (eat text mark).run.run offset = some (.ok true, moved) ∧
      Before text moved left.1 := by
  obtain ⟨moved, hpeek, hmoved⟩ := peek_run h
  have hskip := eat_eq_some_iff.mp heat
  rw [hskip] at hpeek hmoved
  refine ⟨moved + mark.utf8Size, ?_, left.1, hmoved.passMark, rfl⟩
  rw [eat, run_bind_ok hpeek, List.head?_cons, if_pos rfl, run_bind_ok (modify_run _ _)]
  rfl

theorem eat_run_of_none (h : Before text offset cs) (heat : Cfg.eat mark cs = none) :
    ∃ moved, (eat text mark).run.run offset = some (.ok false, moved) ∧
      At text moved (Text.skipBlank cs) := by
  obtain ⟨moved, hpeek, hmoved⟩ := peek_run h
  refine ⟨moved, ?_, hmoved⟩
  rw [eat, run_bind_ok hpeek, if_neg (eat_eq_none_iff.mp heat)]
  rfl

end Tokens

/-! ### The two readers side by side -/

/-- A run ends as the other reader does: either both have a result, and these are related, or both
have the same fault. -/
inductive Follows (related : Nat → α → β → Prop) :
    Option (Except ReadError α × Nat) → Except ReadError β → Prop where
  | result {moved : Nat} {value : α} {other : β} (h : related moved value other) :
      Follows related (some (.ok value, moved)) (.ok other)
  | fault (e : ReadError) (moved : Nat) : Follows related (some (.error e, moved)) (.error e)

theorem Follows.bind {related : Nat → α → β → Prop} {goal : Nat → γ → δ → Prop}
    {action : Cursor α} {next : α → Cursor γ} {told : Except ReadError β}
    {nextTold : β → Except ReadError δ} (h : Follows related (action.run.run offset) told)
    (hnext : ∀ moved value other, related moved value other →
      Follows goal ((next value).run.run moved) (nextTold other)) :
    Follows goal ((action >>= next).run.run offset) (told >>= nextTold) := by
  generalize hrun : action.run.run offset = run at h
  cases h with
  | result h =>
    rw [run_bind_ok hrun]
    exact hnext _ _ _ h
  | fault e moved =>
    rw [run_bind_error hrun]
    exact .fault e moved

/-- Both have read the same, and both stand in the same place. -/
def SameRead (text : List Char) {P : List Char → Prop} (moved : Nat) (value : α)
    (other : α × Subtype P) : Prop :=
  value = other.1 ∧ Before text moved other.2.1

theorem expect_follows (mark : Char) (h : Before text offset cs) :
    Follows (fun moved _ left => At text moved left.1) ((expect text mark).run.run offset)
      (Cfg.expect (byteLength text) mark cs) := by
  obtain ⟨moved, hpeek, hmoved⟩ := peek_run h
  rw [expect, run_bind_ok hpeek]
  cases hskip : Text.skipBlank cs with
  | nil =>
    rw [Cfg.expect, eat_eq_none_iff.mpr (by simp [hskip])]
    dsimp only
    rw [hskip]
    exact .fault _ _
  | cons c tail =>
    rw [hskip] at hmoved
    by_cases hc : c = mark
    · subst hc
      rw [expect_of_skipBlank hskip, List.head?_cons]
      dsimp only
      rw [if_pos rfl, modify_run]
      exact .result hmoved.passMark
    · rw [Cfg.expect, eat_eq_none (by rw [hskip]; rfl) hc]
      dsimp only
      rw [hskip, List.head?_cons]
      dsimp only
      rw [hmoved.offsetOf_eq, if_neg hc, run_bind_ok (get_run moved)]
      exact .fault _ _

theorem ident_follows (h : Before text offset cs) :
    Follows (SameRead text) ((ident text).run.run offset) (readIdent (byteLength text) cs) := by
  obtain ⟨moved, hpeek, hmoved⟩ := peek_run h
  unfold readIdent
  split
  · next hskip =>
    rw [ident, run_bind_ok hpeek, hskip]
    exact .fault _ _
  · next c tail hskip =>
    rw [hskip] at hpeek hmoved
    rw [ident, run_bind_ok hpeek]
    -- the word ends where another character begins, or with the text
    have hlength : (findByte (!isWordChar ·) (c :: tail)).getD (byteLength text - moved) =
        byteLength ((c :: tail).takeWhile isWordChar) := by
      rw [hmoved.length_eq, findByte_getD]
      simp only [Bool.not_not]
    have hcut := cutAt_append ((c :: tail).takeWhile isWordChar) ((c :: tail).dropWhile isWordChar)
    rw [List.takeWhile_append_dropWhile] at hcut
    have hpass := hmoved
    rw [← List.takeWhile_append_dropWhile (p := isWordChar) (l := c :: tail)] at hpass
    rw [List.head?_cons]
    dsimp only
    rw [run_bind_ok (get_run moved), run_bind_ok (left_run hmoved), hlength,
      run_bind_ok (cutAt_run hcut), hmoved.offsetOf_eq]
    dsimp only
    split
    · exact .fault _ _
    · split
      · exact .result ⟨rfl, _, hpass.pass, rfl⟩
      · exact .fault _ _

theorem string_follows (h : Before text offset cs) :
    Follows (SameRead text) ((string text).run.run offset) (readString (byteLength text) cs) := by
  obtain ⟨moved, hskip, hmoved⟩ := skipBlank_run h
  rw [string, run_bind_ok hskip, run_bind_ok (get_run moved), readString]
  refine (expect_follows '"' hmoved.before).bind ?_
  rintro closing ⟨⟩ ⟨body, hshorter⟩ hbody
  rw [run_bind_ok (left_run hbody)]
  cases hfind : findByte (· == '"') body with
  | none =>
    have hend := findByte_eq_none_iff.mp hfind
    dsimp only
    split
    · rw [hmoved.offsetOf_eq]
      exact .fault _ _
    · next hrest => cases hend.symm.trans hrest
  | some length =>
    have hlength : length = byteLength (body.takeWhile (· != '"')) := by
      have hbytes := findByte_getD (· == '"') body
      rwa [hfind] at hbytes
    dsimp only
    split
    · next hend => cases hfind.symm.trans (findByte_eq_none_iff.mpr hend)
    · next close rest hrest =>
      obtain rfl := eq_quote_of_dropWhile hrest
      obtain ⟨-, hsplit⟩ := splits_at_quote_iff.mp ⟨rfl, hrest⟩
      generalize body.takeWhile (· != '"') = value at hlength hsplit ⊢
      subst hlength hsplit
      have hclosed : At text (closing + byteLength value + '"'.utf8Size) rest :=
        hbody.pass.passMark
      rw [run_bind_ok (cutAt_run (cutAt_append _ _)), run_bind_ok (modify_run _ _)]
      exact .result ⟨rfl, rest, hclosed, rfl⟩

theorem finish_follows (h : Before text offset cs) :
    Follows (fun _ _ _ => True) ((finish text).run.run offset)
      (Cfg.finish (byteLength text) cs) := by
  obtain ⟨moved, hpeek, hmoved⟩ := peek_run h
  rw [finish, run_bind_ok hpeek, Cfg.finish]
  cases hskip : Text.skipBlank cs with
  | nil => exact .result trivial
  | cons c tail =>
    rw [hskip] at hmoved
    dsimp only [List.head?_cons]
    rw [run_bind_ok (get_run moved), hmoved.offsetOf_eq]
    exact .fault _ _

mutual

/-- From the same place both readers read the same predicate, and stop in the same place. -/
theorem predicate_follows {cs : List Char} {offset depth : Nat} (hdepth : 2 * cs.length < depth)
    (h : Before text offset cs) :
    Follows (SameRead text) ((predicate text depth).run.run offset)
      (Predicate.read (byteLength text) cs) := by
  obtain ⟨depth, rfl⟩ := Nat.exists_eq_add_one_of_ne_zero (Nat.ne_zero_of_lt hdepth)
  rw [predicate, Predicate.read]
  refine (ident_follows h).bind ?_
  rintro moved word ⟨_, afterWord, hshorter⟩ ⟨rfl, hword⟩
  dsimp only at hword ⊢
  cases heq : Cfg.eat '=' afterWord with
  | some afterEq =>
    obtain ⟨moved, heat, hmoved⟩ := eat_run_of_some hword heq
    rw [run_bind_ok heat, if_pos rfl]
    dsimp only
    refine (string_follows hmoved).bind ?_
    rintro moved value ⟨_, rest, hrest⟩ ⟨rfl, hleft⟩
    exact .result ⟨rfl, hleft⟩
  | none =>
    obtain ⟨moved, heat, hmoved⟩ := eat_run_of_none hword heq
    rw [run_bind_ok heat, if_neg (by simp)]
    dsimp only
    cases hopen : Cfg.eat '(' afterWord with
    | none =>
      obtain ⟨moved, heat, hmoved⟩ := eat_run_of_none hmoved.before hopen
      rw [run_bind_ok heat, if_neg (by simp)]
      exact .result ⟨rfl, hmoved.before⟩
    | some inside =>
      obtain ⟨moved, heat, hmoved⟩ := eat_run_of_some hmoved.before hopen
      rw [run_bind_ok heat, if_pos rfl]
      dsimp only
      refine (operands_follows [] (by omega) hmoved).bind ?_
      rintro moved operands ⟨others, afterOperands, hoperands⟩ ⟨rfl, hleft⟩
      dsimp only at hleft ⊢
      refine (expect_follows ')' hleft).bind ?_
      rintro moved ⟨⟩ ⟨rest, hrest⟩ hleft
      dsimp only
      cases Predicate.ofOperator word operands with
      | ok made => exact .result ⟨rfl, _, hleft, rfl⟩
      | error e => exact .fault _ _
termination_by (cs.length, 0)

/-- The operands that this reader has read before come first. The other one has them put in front
when it is done. -/
theorem operands_follows {cs : List Char} {offset depth : Nat} (done : List Predicate)
    (hdepth : 2 * cs.length + 1 < depth) (h : Before text offset cs) :
    Follows (fun moved value other => value = done ++ other.1 ∧ Before text moved other.2.1)
      ((operands text depth done).run.run offset)
      (Predicate.readOperands (byteLength text) cs) := by
  obtain ⟨depth, rfl⟩ := Nat.exists_eq_add_one_of_ne_zero (Nat.ne_zero_of_lt hdepth)
  obtain ⟨moved, hpeek, hmoved⟩ := peek_run h
  rw [operands, run_bind_ok hpeek, Predicate.readOperands]
  cases hclose : Cfg.eat ')' cs with
  | some after =>
    rw [if_pos (by rw [eat_eq_some_iff.mp hclose]; rfl), if_pos Option.isSome_some]
    exact .result ⟨(List.append_nil done).symm, hmoved.before⟩
  | none =>
    rw [if_neg (eat_eq_none_iff.mp hclose), if_neg (by simp)]
    refine (predicate_follows (by omega) hmoved.before).bind ?_
    rintro moved operand ⟨_, afterOperand, hshorter⟩ ⟨rfl, hafter⟩
    dsimp only at hafter ⊢
    cases hcomma : Cfg.eat ',' afterOperand with
    | none =>
      obtain ⟨moved, heat, hmoved⟩ := eat_run_of_none hafter hcomma
      rw [run_bind_ok heat, if_neg (by simp)]
      exact .result ⟨rfl, hmoved.before⟩
    | some afterComma =>
      obtain ⟨moved, heat, hmoved⟩ := eat_run_of_some hafter hcomma
      rw [run_bind_ok heat, if_pos rfl]
      dsimp only
      rw [← bind_pure (operands text depth (done ++ [operand]))]
      refine (operands_follows (done ++ [operand]) (by omega) hmoved).bind ?_
      rintro moved _ ⟨others, rest, hrest⟩ ⟨rfl, hleft⟩
      exact .result ⟨by rw [List.append_assoc, List.singleton_append], hleft⟩
termination_by (cs.length, 1)

end

theorem Follows.fst_eq {run : Option (Except ReadError α × Nat)} {told : Except ReadError α}
    (h : Follows (fun _ value other => value = other) run told) :
    Prod.fst <$> run = some told := by
  cases h with
  | result heq => rw [heq]; rfl
  | fault e moved => rfl

/-- The reader that moves an offset never cuts the text in a wrong place and comes to an end. What
it finds is what the reader without offsets finds. -/
theorem parse_eq {text : String} {depth : Nat} (hdepth : 2 * text.toList.length < depth) :
    parse depth text = some (Predicate.parse text) := by
  have hstart : Before text.toList 0 text.toList := ⟨_, ⟨[], cutAt_zero _⟩, rfl⟩
  refine Follows.fst_eq ((predicate_follows hdepth hstart).bind ?_)
  rintro moved _ ⟨read, left⟩ ⟨rfl, hleft⟩
  refine (finish_follows hleft).bind ?_
  rintro moved ⟨⟩ ⟨⟩ -
  exact .result rfl

end Cursor

end ScopeWalk.Cfg
