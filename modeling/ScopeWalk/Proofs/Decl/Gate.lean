import ScopeWalk.Decl.Basic
import ScopeWalk.Proofs.Cfg.Holding

/-!
# Which declarations stay in the build

The predicates over a declaration are written as texts, among other attributes. A text that can be
read says something that is true or false under the settings of the crate, and false is what takes
the declaration out of the build. A text that cannot be read says nothing. So the attributes come to
one predicate, the conjunction of all that is written.
-/
namespace ScopeWalk

open Cfg

/-- An attribute as it is written over a declaration. -/
inductive WrittenAttribute where
  /-- A configuration predicate, written as a text. -/
  | cfg (text : String)
  | docHidden
  | test
  | other (name : Name)

/-- The form in which the attribute is kept. -/
def WrittenAttribute.kept : WrittenAttribute → Attribute
  | .cfg text => .ofCfgText text
  | .docHidden => .docHidden
  | .test => .test
  | .other name => .other name

def Attributes.ofWritten (written : List WrittenAttribute) : Attributes := written.map (·.kept)

/-- The declaration with other attributes, which are written over it. -/
def Decl.under (decl : Decl) (written : List WrittenAttribute) : Decl :=
  { decl with attributes := some (.ofWritten written) }

namespace Cfg.Predicate

/-- A text stays unknown just if it cannot be read. -/
theorem ofText_eq_unknown_iff {text : String} :
    ofText text = .unknown ↔ ∃ fault, parse text = .error fault := by
  unfold ofText
  cases h : parse text with
  | error fault => simp
  | ok p =>
    have hknown := isKnown_of_parse h
    simp only [reduceCtorEq, exists_false, iff_false]
    rintro rfl
    simp [isKnown] at hknown

/-- What is read from a text is false just if the text can be read and does not hold. -/
theorem eval_ofText_eq_false_iff {settings : Settings} {text : String} :
    (ofText text).eval settings = some false ↔
      ∃ p, parse text = .ok p ∧ ¬ p.Holds settings := by
  unfold ofText
  cases h : parse text with
  | error fault => simp [eval]
  | ok p => simp [eval_iff_holds settings (isKnown_of_parse h)]

end Cfg.Predicate

namespace Attributes

theorem mem_predicates_ofWritten {written : List WrittenAttribute} {p : Predicate} :
    p ∈ (ofWritten written).predicates ↔ ∃ text, .cfg text ∈ written ∧ .ofText text = p := by
  rw [predicates, ofWritten, List.filterMap_map, List.mem_filterMap]
  constructor
  · rintro ⟨_ | _ | _ | _, hwritten, hp⟩ <;> cases hp
    exact ⟨_, hwritten, rfl⟩
  · rintro ⟨text, hwritten, rfl⟩
    exact ⟨_, hwritten, rfl⟩

theorem isEnabled_eq_false_iff {attributes : Attributes} {settings : Settings} :
    attributes.isEnabled settings = false ↔
      ∃ p ∈ attributes.predicates, p.eval settings = some false := by
  simp [isEnabled, Predicate.isEnabled]

/-- The predicates are one predicate, their conjunction. -/
theorem isEnabled_eq_all (attributes : Attributes) (settings : Settings) :
    attributes.isEnabled settings = (Predicate.all attributes.predicates).isEnabled settings := by
  rw [Bool.eq_iff_iff, ← not_iff_not, Bool.not_eq_true, Bool.not_eq_true, isEnabled_eq_false_iff,
    Predicate.isEnabled_eq_false_iff, Predicate.eval_all_eq_false_iff]

end Attributes

namespace Decl

theorem isEnabled_under (decl : Decl) (written : List WrittenAttribute) :
    (decl.under written).isEnabled =
      (Attributes.ofWritten written).isEnabled decl.module.crate.settings := rfl

/-- The declaration is out of the build just if a text over it can be read and does not hold. -/
theorem isEnabled_under_eq_false_iff {decl : Decl} {written : List WrittenAttribute} :
    (decl.under written).isEnabled = false ↔ ∃ text, .cfg text ∈ written ∧
      ∃ p, Predicate.parse text = .ok p ∧ ¬ p.Holds decl.module.crate.settings := by
  rw [isEnabled_under, Attributes.isEnabled_eq_false_iff]
  simp only [Attributes.mem_predicates_ofWritten, exists_exists_and_eq_and,
    Predicate.eval_ofText_eq_false_iff]

/-- Only the texts that can be read and do not hold make a difference. -/
theorem isEnabled_under_congr {decl : Decl} {written others : List WrittenAttribute}
    (h : ∀ text p, Predicate.parse text = .ok p → (.cfg text ∈ written ↔ .cfg text ∈ others)) :
    (decl.under written).isEnabled = (decl.under others).isEnabled := by
  rw [Bool.eq_iff_iff, ← not_iff_not, Bool.not_eq_true, Bool.not_eq_true,
    isEnabled_under_eq_false_iff, isEnabled_under_eq_false_iff]
  refine exists_congr fun text => ?_
  constructor
  · rintro ⟨hwritten, p, hp, hfalse⟩
    exact ⟨(h text p hp).mp hwritten, p, hp, hfalse⟩
  · rintro ⟨hwritten, p, hp, hfalse⟩
    exact ⟨(h text p hp).mpr hwritten, p, hp, hfalse⟩

theorem isEnabled_under_of_error {text : String} {fault : ReadError}
    (h : Predicate.parse text = .error fault) (decl : Decl) (before after : List WrittenAttribute) :
    (decl.under (before ++ .cfg text :: after)).isEnabled =
      (decl.under (before ++ after)).isEnabled := by
  refine isEnabled_under_congr fun other p hp => ?_
  have hother : other ≠ text := by
    rintro rfl
    rw [h] at hp
    cases hp
  simp [hother]

end Decl

/-- A declaration is out of the build just if one of the texts over it can be read and is false in
the plain sense of all, any and not. A text that cannot be read makes no difference, and one that
can be read has no unknown part and a known answer. It makes no difference either in which order the
texts stand, how often, and among which other attributes: together they are the one predicate that
is the conjunction of them all. -/
theorem Decl.gate_of_written (decl : Decl) (written : List WrittenAttribute) :
    let settings := decl.module.crate.settings
    ((decl.under written).isEnabled = false ↔ ∃ text, .cfg text ∈ written ∧
      ∃ p, Predicate.parse text = .ok p ∧ ¬ p.Holds settings) ∧
    (∀ text fault, Predicate.parse text = .error fault → ∀ before after,
      (decl.under (before ++ .cfg text :: after)).isEnabled =
        (decl.under (before ++ after)).isEnabled) ∧
    (∀ text p, Predicate.parse text = .ok p → p.isKnown = true ∧
      ∃ answer, p.eval settings = some answer ∧ (answer = true ↔ p.Holds settings)) ∧
    (∀ text, Predicate.ofText text = .unknown ↔ ∃ fault, Predicate.parse text = .error fault) ∧
    (∀ others : List WrittenAttribute, (∀ text, .cfg text ∈ written ↔ .cfg text ∈ others) →
      (decl.under written).isEnabled = (decl.under others).isEnabled) ∧
    (decl.under written).isEnabled =
      (Predicate.all (Attributes.ofWritten written).predicates).isEnabled settings := by
  intro settings
  refine ⟨isEnabled_under_eq_false_iff, ?_, ?_, fun text => Predicate.ofText_eq_unknown_iff, ?_, ?_⟩
  · intro text fault h before after
    exact isEnabled_under_of_error h decl before after
  · intro text p h
    have hknown := Predicate.isKnown_of_parse h
    exact ⟨hknown, Predicate.exists_eval_eq_some settings hknown⟩
  · intro others h
    exact isEnabled_under_congr fun text _ _ => h text
  · exact Attributes.isEnabled_eq_all _ settings

/-- On Unix a structure for Windows is out of the build, also if this is said twice and in the midst
of other attributes, and it does not matter what stands there that cannot be read. -/
theorem Decl.gate_of_written_sample :
    let crate : Crate := ⟨⟨0⟩, ⟨"app"⟩, .workspace, .ofList [.flag ⟨"unix"⟩]⟩
    let decl : Decl := .ofKind .struct (.root crate)
    let windows : WrittenAttribute := .cfg "windows"
    let broken : WrittenAttribute := .cfg "(unix"
    (decl.under [.test, windows, .docHidden]).isEnabled = false ∧
      Predicate.parse "(unix" = .error (.unexpectedChar '(' 0) ∧
      (decl.under [.test, broken, windows]).isEnabled = (decl.under [.test, windows]).isEnabled ∧
      Predicate.parse "windows" = .ok (.flag ⟨"windows"⟩) ∧
      (∃ answer, (Predicate.flag ⟨"windows"⟩).eval crate.settings = some answer ∧
        (answer = true ↔ (Predicate.flag ⟨"windows"⟩).Holds crate.settings)) ∧
      (decl.under [.test, windows, .docHidden]).isEnabled =
        (decl.under [windows, .docHidden, windows]).isEnabled := by
  intro crate decl windows broken
  have hwindows : Predicate.parse "windows" = .ok (.flag ⟨"windows"⟩) :=
    parse_of_spells .nil (.flag ⟨"windows"⟩ (Text.isIdent_iff.mp (by decide +kernel))) .nil
      (by rfl)
  have hbroken : Predicate.parse "(unix" = .error (.unexpectedChar '(' 0) := by
    have hword : readIdent 5 "(unix".toList = .error (.unexpectedChar '(' 0) := by decide +kernel
    have hsize : Text.byteLength "(unix".toList = 5 := by decide
    rw [Predicate.parse, hsize, Predicate.read, hword]
    rfl
  obtain ⟨hgate, hfault, hread, -, hsame, -⟩ :=
    gate_of_written decl [.test, windows, .docHidden]
  have hfalse : ¬ (Predicate.flag ⟨"windows"⟩).Holds crate.settings := by
    rw [Predicate.Holds]
    decide
  refine ⟨hgate.mpr ⟨"windows", by simp [windows], _, hwindows, hfalse⟩, hbroken,
    hfault _ _ hbroken [.test] [windows], hwindows, (hread _ _ hwindows).2, hsame _ fun text => ?_⟩
  simp [windows]

end ScopeWalk
