import ScopeWalk.Cfg.ReadError
import ScopeWalk.Text.Blank

/-!
# Tokens of configuration texts

A configuration text is made of identifiers, quoted values and four punctuation characters, with
blanks anywhere between them. Each reader skips blanks, reads one token and returns the rest,
which is shorter. `size` is the byte length of the whole text, from which the offset of a rest
is known.
-/
namespace ScopeWalk.Cfg

open Text

/-- What is left of `cs` after something was read from it. -/
abbrev Rest (cs : List Char) := { rest : List Char // rest.length < cs.length }

/-- Characters that belong to one word, identifier or not. -/
def isWordChar (c : Char) : Bool := c = '_' || c = '#' || isIdentContinue c

theorem dropWhile_length_lt {p : Char → Bool} {cs : List Char}
    (h : (cs.takeWhile p).isEmpty = false) : (cs.dropWhile p).length < cs.length := by
  have split := congrArg List.length (List.takeWhile_append_dropWhile (p := p) (l := cs))
  have pos : 0 < (cs.takeWhile p).length := by
    cases hw : cs.takeWhile p with
    | nil => simp [hw] at h
    | cons c w => simp
  rw [List.length_append] at split
  omega

/-- Read the longest word, which must be an identifier. -/
def readIdent (size : Nat) (cs : List Char) : Except ReadError (Name × Rest cs) :=
  match h : skipBlank cs with
  | [] => .error .unexpectedEnd
  | c :: tail =>
    if hw : ((c :: tail).takeWhile isWordChar).isEmpty then
      .error (.unexpectedChar c (offsetOf size (c :: tail)))
    else if isIdent ((c :: tail).takeWhile isWordChar) then
      .ok (.ofChars ((c :: tail).takeWhile isWordChar), ⟨(c :: tail).dropWhile isWordChar, by
        have le := skipBlank_length_le cs
        have lt := dropWhile_length_lt (Bool.not_eq_true _ ▸ hw)
        rw [h] at le
        omega⟩)
    else .error (.invalidIdent (.ofChars ((c :: tail).takeWhile isWordChar)))

/-- The rest after `mark`, if that is the next character. -/
def eat (mark : Char) (cs : List Char) : Option (Rest cs) :=
  match h : skipBlank cs with
  | [] => none
  | c :: tail =>
    if c = mark then
      some ⟨tail, by
        have le := skipBlank_length_le cs
        rw [h, List.length_cons] at le
        omega⟩
    else none

/-- The rest after `mark`, which must be the next character. -/
def expect (size : Nat) (mark : Char) (cs : List Char) : Except ReadError (Rest cs) :=
  match eat mark cs with
  | some rest => .ok rest
  | none =>
    match skipBlank cs with
    | [] => .error .unexpectedEnd
    | c :: tail => .error (.unexpectedChar c (offsetOf size (c :: tail)))

/-- Read a value between double quotes. It ends at the next quote and has no escapes. -/
def readString (size : Nat) (cs : List Char) : Except ReadError (Name × Rest cs) := do
  let ⟨body, hbody⟩ ← expect size '"' cs
  match h : body.dropWhile (· != '"') with
  | [] => .error (.unterminatedString (offsetOf size (skipBlank cs)))
  | _ :: rest =>
    .ok (.ofChars (body.takeWhile (· != '"')), ⟨rest, by
      have le := (List.dropWhile_suffix (l := body) (· != '"')).length_le
      rw [h, List.length_cons] at le
      omega⟩)

/-- Nothing but blanks may be left. -/
def finish (size : Nat) (cs : List Char) : Except ReadError Unit :=
  match skipBlank cs with
  | [] => .ok ()
  | c :: tail => .error (.trailingInput (offsetOf size (c :: tail)))

end ScopeWalk.Cfg
