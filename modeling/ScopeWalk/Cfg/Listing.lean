import ScopeWalk.Cfg.Predicate
import ScopeWalk.Cfg.Token

/-!
# Reading a listing of settings

A compiler lists the settings of a target one per line, a flag by its name and a pair as
`key="value"`. Blank lines say nothing. The first line that is no setting makes the whole
listing unreadable, and offsets in its fault count from the first character of that line that is
not blank.
-/
namespace ScopeWalk.Cfg

/-- The setting that a line without outer blanks spells. -/
def Setting.parse (line : List Char) : Except ReadError Setting := do
  let size := Text.byteLength line
  let (word, ⟨afterWord, _⟩) ← readIdent size line
  match eat '=' afterWord with
  | some ⟨afterEq, _⟩ =>
    let (value, ⟨rest, _⟩) ← readString size afterEq
    finish size rest
    return .keyValue word value
  | none =>
    finish size afterWord
    return .flag word

/-- The settings of a listing. -/
def Settings.ofListing (text : String) : Except ReadError Settings :=
  (Text.trimmedLines text.toList).foldlM
    (fun settings line => settings.insert <$> Setting.parse line) empty

end ScopeWalk.Cfg
