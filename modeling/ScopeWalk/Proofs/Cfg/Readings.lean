import Mathlib.Data.List.Forall2
import ScopeWalk.Cfg.Predicate

/-!
# What unknown parts leave open

An unknown part of a predicate could have meant anything. A reading of the predicate puts some
predicate in the place of each unknown part, another one each time if need be. A predicate is
answered just as far as its readings agree: the answer is known if all readings give it, and it is
unknown if there is a reading for either.
-/
namespace ScopeWalk.Cfg

/-! ### Many truth values at once -/

namespace Truth

/-- What truth values come to if `v` is the one that decides: `v` if it is among them, and otherwise
unknown if one of them is. -/
def decided (v : Bool) (truths : List Truth) : Truth :=
  if some v ∈ truths then some v else if none ∈ truths then none else some !v

variable {v b : Bool} {truths others : List Truth}

theorem and_decided (truth : Truth) (truths : List Truth) :
    truth.and (decided false truths) = decided false (truth :: truths) := by
  unfold decided
  rcases truth with _ | _ | _ <;> by_cases hfalse : some false ∈ truths <;>
    by_cases hunknown : none ∈ truths <;> simp [Truth.and, hfalse, hunknown]

theorem or_decided (truth : Truth) (truths : List Truth) :
    truth.or (decided true truths) = decided true (truth :: truths) := by
  unfold decided
  rcases truth with _ | _ | _ <;> by_cases htrue : some true ∈ truths <;>
    by_cases hunknown : none ∈ truths <;> simp [Truth.or, htrue, hunknown]

theorem decided_eq_some_iff : decided v truths = some v ↔ some v ∈ truths := by
  unfold decided
  split_ifs with hdecisive hunknown <;> simp [hdecisive]

theorem decided_eq_some_not_iff :
    decided v truths = some (!v) ↔ ∀ truth ∈ truths, truth = some !v := by
  unfold decided
  split_ifs with hdecisive hunknown
  · simp only [Option.some.injEq, Bool.eq_not_self, false_iff]
    intro hall
    simpa using hall _ hdecisive
  · simp only [false_iff]
    intro hall
    simpa using hall _ hunknown
  · simp only [true_iff]
    intro truth htruth
    rcases truth with _ | b
    · exact absurd htruth hunknown
    · have hb : b ≠ v := fun h => hdecisive (h ▸ htruth)
      rw [Bool.eq_not.mpr hb]

/-- It makes no difference in which order truth values stand, and how often. -/
theorem decided_congr (h : ∀ truth, truth ∈ truths ↔ truth ∈ others) :
    decided v truths = decided v others := by
  simp only [decided, h]

/-- What is known of some truth values stays so when more of them become known. -/
theorem decided_of_forall₂
    (h : List.Forall₂ (fun truth other => ∀ b, truth = some b → other = some b) truths others)
    (hdecided : decided v truths = some b) : decided v others = some b := by
  by_cases hb : b = v
  · subst hb
    rw [decided_eq_some_iff] at hdecided ⊢
    induction h with
    | nil => cases hdecided
    | cons hknown _ ih =>
      rcases List.mem_cons.mp hdecided with hfirst | hrest
      · exact List.mem_cons.mpr (.inl (hknown b hfirst.symm).symm)
      · exact List.mem_cons_of_mem _ (ih hrest)
  · obtain rfl : b = !v := Bool.eq_not.mpr hb
    rw [decided_eq_some_not_iff] at hdecided ⊢
    induction h with
    | nil => exact hdecided
    | cons hknown _ ih =>
      obtain ⟨hfirst, hrest⟩ := List.forall_mem_cons.mp hdecided
      exact List.forall_mem_cons.mpr ⟨hknown _ hfirst, ih hrest⟩

end Truth

namespace Predicate

/-! ### Answers by the answers of the parts -/

/-- What holds of a predicate if it holds of its parts holds of all predicates. -/
@[elab_as_elim]
theorem byParts {motive : Predicate → Prop} (flag : ∀ name, motive (.flag name))
    (keyValue : ∀ key value, motive (.keyValue key value))
    (all : ∀ parts, (∀ part ∈ parts, motive part) → motive (.all parts))
    (any : ∀ parts, (∀ part ∈ parts, motive part) → motive (.any parts))
    (not : ∀ part, motive part → motive (.not part)) (unknown : motive .unknown) :
    (p : Predicate) → motive p
  | .flag name => flag name
  | .keyValue key value => keyValue key value
  | .all parts => all parts fun part _ => byParts flag keyValue all any not unknown part
  | .any parts => any parts fun part _ => byParts flag keyValue all any not unknown part
  | .not part => not part (byParts flag keyValue all any not unknown part)
  | .unknown => unknown

variable (settings : Settings)

theorem eval_all (parts : List Predicate) :
    (all parts).eval settings = Truth.decided false (parts.map (·.eval settings)) := by
  rw [eval]
  induction parts with
  | nil => rfl
  | cons part parts ih => rw [evalAll, ih, Truth.and_decided, List.map_cons]

theorem eval_any (parts : List Predicate) :
    (any parts).eval settings = Truth.decided true (parts.map (·.eval settings)) := by
  rw [eval]
  induction parts with
  | nil => rfl
  | cons part parts ih => rw [evalAny, ih, Truth.or_decided, List.map_cons]

theorem eval_not (part : Predicate) :
    (not part).eval settings = (part.eval settings).map (!·) := by
  rw [eval, Truth.not]

/-! ### Readings -/

mutual

/-- No part is unknown. -/
def isKnown : Predicate → Bool
  | .flag _ => true
  | .keyValue _ _ => true
  | .all parts => areKnown parts
  | .any parts => areKnown parts
  | .not part => part.isKnown
  | .unknown => false

def areKnown : List Predicate → Bool
  | [] => true
  | part :: parts => part.isKnown && areKnown parts

end

/-- The second predicate is the first, with a predicate that has no unknown part in the place of each
of its unknown parts. -/
inductive Reading : Predicate → Predicate → Prop where
  | flag (name : Name) : Reading (.flag name) (.flag name)
  | keyValue (key value : Name) : Reading (.keyValue key value) (.keyValue key value)
  | all {parts others : List Predicate} :
    List.Forall₂ Reading parts others → Reading (.all parts) (.all others)
  | any {parts others : List Predicate} :
    List.Forall₂ Reading parts others → Reading (.any parts) (.any others)
  | not {part other : Predicate} : Reading part other → Reading (.not part) (.not other)
  | unknown {other : Predicate} : other.isKnown → Reading .unknown other

/-- What the parts of some predicate keep in all readings, many of them keep together. -/
theorem decided_of_readings {v b : Bool} {parts others : List Predicate}
    (kept : ∀ part ∈ parts, ∀ other, part.Reading other → ∀ b, part.eval settings = some b →
      other.eval settings = some b)
    (h : List.Forall₂ Reading parts others)
    (hdecided : Truth.decided v (parts.map (·.eval settings)) = some b) :
    Truth.decided v (others.map (·.eval settings)) = some b := by
  refine Truth.decided_of_forall₂ ?_ hdecided
  rw [List.forall₂_map_left_iff, List.forall₂_map_right_iff]
  refine ((List.forall₂_and_left _ _).mpr ⟨kept, h⟩).imp ?_
  intro part other hpart
  exact hpart.1 other hpart.2

/-- A known answer is the answer of every reading. -/
theorem eval_of_reading {p : Predicate} : ∀ q, p.Reading q → ∀ b, p.eval settings = some b →
    q.eval settings = some b := by
  induction p using byParts with
  | flag name =>
    rintro _ (_ | _) b hb
    exact hb
  | keyValue key value =>
    rintro _ (_ | _) b hb
    exact hb
  | all parts ih =>
    rintro _ (_ | _ | hparts) b hb
    rw [eval_all] at hb ⊢
    exact decided_of_readings settings ih hparts hb
  | any parts ih =>
    rintro _ (_ | _ | _ | hparts) b hb
    rw [eval_any] at hb ⊢
    exact decided_of_readings settings ih hparts hb
  | not part ih =>
    rintro _ (_ | _ | _ | _ | hpart) b hb
    rw [eval_not] at hb ⊢
    obtain ⟨answer, hanswer, rfl⟩ := Option.map_eq_some_iff.mp hb
    rw [ih _ hpart answer hanswer, Option.map_some]
  | unknown =>
    intro q _ b hb
    rw [eval] at hb
    cases hb

/-- A predicate without unknown parts that has the given answer under all settings. -/
def constant : Bool → Predicate
  | true => .all []
  | false => .any []

/-- The reading leans towards an answer: it gives this answer, unless the opposite one is known. -/
def LeansTo (b : Bool) (p q : Predicate) : Prop :=
  p.Reading q ∧ (p.eval settings ≠ some (!b) → q.eval settings = some b)

/-- If all parts can lean towards an answer, then they can do so at the same time, and the whole
leans towards it. -/
theorem exists_readings {b : Bool} {parts : List Predicate}
    (h : ∀ part ∈ parts, ∃ other, LeansTo settings b part other) (v : Bool) :
    ∃ others, List.Forall₂ Reading parts others ∧
      (Truth.decided v (parts.map (·.eval settings)) ≠ some (!b) →
        Truth.decided v (others.map (·.eval settings)) = some b) := by
  choose! other hother using h
  refine ⟨parts.map other, ?_, fun hopen => ?_⟩
  · rw [List.forall₂_map_right_iff, List.forall₂_same]
    exact fun part hpart => (hother part hpart).1
  · by_cases hb : b = v
    · subst hb
      rw [ne_eq, Truth.decided_eq_some_not_iff] at hopen
      push Not at hopen
      obtain ⟨truth, htruth, hne⟩ := hopen
      obtain ⟨part, hpart, rfl⟩ := List.mem_map.mp htruth
      rw [Truth.decided_eq_some_iff]
      refine List.mem_map.mpr ⟨other part, List.mem_map_of_mem hpart, ?_⟩
      exact (hother part hpart).2 hne
    · obtain rfl : b = !v := Bool.eq_not.mpr hb
      rw [Bool.not_not, ne_eq, Truth.decided_eq_some_iff] at hopen
      rw [Truth.decided_eq_some_not_iff, List.map_map, List.forall_mem_map]
      intro part hpart
      refine (hother part hpart).2 fun h => hopen ?_
      rw [Bool.not_not] at h
      exact List.mem_map.mpr ⟨part, hpart, h⟩

/-- Every predicate has a reading that leans towards an answer, be it the one or the other. -/
theorem exists_leansTo (p : Predicate) : ∀ b, ∃ q, LeansTo settings b p q := by
  induction p using byParts with
  | flag name =>
    intro b
    refine ⟨_, .flag name, fun hopen => ?_⟩
    rw [eval] at hopen ⊢
    simpa using hopen
  | keyValue key value =>
    intro b
    refine ⟨_, .keyValue key value, fun hopen => ?_⟩
    rw [eval] at hopen ⊢
    simpa using hopen
  | all parts ih =>
    intro b
    obtain ⟨others, hreading, hlean⟩ :=
      exists_readings settings (fun part hpart => ih part hpart b) false
    exact ⟨_, .all hreading, by rwa [eval_all, eval_all]⟩
  | any parts ih =>
    intro b
    obtain ⟨others, hreading, hlean⟩ :=
      exists_readings settings (fun part hpart => ih part hpart b) true
    exact ⟨_, .any hreading, by rwa [eval_any, eval_any]⟩
  | not part ih =>
    -- the part has to lean the other way
    intro b
    obtain ⟨other, hreading, hlean⟩ := ih !b
    refine ⟨_, .not hreading, fun hopen => ?_⟩
    rw [eval_not] at hopen ⊢
    rw [hlean fun h => hopen (by simp [h]), Option.map_some, Bool.not_not]
  | unknown =>
    intro b
    exact ⟨constant b, .unknown (by cases b <;> rfl), fun _ => by cases b <;> rfl⟩

/-- If an answer is not the opposite of what is known, then some reading gives it. -/
theorem exists_reading {p : Predicate} {b : Bool} (h : p.eval settings ≠ some !b) :
    ∃ q, p.Reading q ∧ q.eval settings = some b := by
  obtain ⟨q, hreading, hlean⟩ := exists_leansTo settings p b
  exact ⟨q, hreading, hlean h⟩

theorem eval_eq_some_iff {p : Predicate} {b : Bool} :
    p.eval settings = some b ↔ ∀ q, p.Reading q → q.eval settings = some b := by
  constructor
  · exact fun hb q hq => eval_of_reading settings q hq b hb
  · intro hall
    by_contra hne
    obtain ⟨q, hq, hopposite⟩ := exists_reading (b := !b) settings (by rwa [Bool.not_not])
    rw [hall q hq] at hopposite
    cases b <;> cases hopposite

theorem eval_eq_none_iff {p : Predicate} :
    p.eval settings = none ↔ (∃ q, p.Reading q ∧ q.eval settings = some true) ∧
      ∃ q, p.Reading q ∧ q.eval settings = some false := by
  constructor
  · intro hnone
    exact ⟨exists_reading settings (by simp [hnone]), exists_reading settings (by simp [hnone])⟩
  · rintro ⟨⟨q, hq, htrue⟩, ⟨r, hr, hfalse⟩⟩
    cases hp : p.eval settings with
    | none => rfl
    | some b =>
      rw [eval_of_reading settings q hq b hp] at htrue
      rw [eval_of_reading settings r hr b hp] at hfalse
      cases htrue
      cases hfalse

theorem isEnabled_eq_false_iff {p : Predicate} :
    p.isEnabled settings = false ↔ p.eval settings = some false := by
  simp [isEnabled]

/-- The answer to a predicate is known if all its readings give it, and is unknown if there is a
reading for either answer. So what the predicate guards is left out of the build just if no reading
would keep it. What parts come to, all of them or any of them, has nothing to do with their order,
nor with how often they are there. -/
theorem eval_iff_readings (p : Predicate) :
    (∀ b, p.eval settings = some b ↔ ∀ q, p.Reading q → q.eval settings = some b) ∧
    (p.eval settings = none ↔ (∃ q, p.Reading q ∧ q.eval settings = some true) ∧
      ∃ q, p.Reading q ∧ q.eval settings = some false) ∧
    (p.isEnabled settings = false ↔ ∀ q, p.Reading q → q.eval settings = some false) ∧
    ∀ parts others : List Predicate, (∀ part, part ∈ parts ↔ part ∈ others) →
      (all parts).eval settings = (all others).eval settings ∧
      (any parts).eval settings = (any others).eval settings := by
  refine ⟨fun b => eval_eq_some_iff settings, eval_eq_none_iff settings, ?_, ?_⟩
  · rw [isEnabled_eq_false_iff, eval_eq_some_iff]
  · intro parts others hsame
    have htruths (truth : Truth) :
        truth ∈ parts.map (·.eval settings) ↔ truth ∈ others.map (·.eval settings) := by
      simp only [List.mem_map, hsame]
    rw [eval_all, eval_all, eval_any, eval_any]
    exact ⟨Truth.decided_congr htruths, Truth.decided_congr htruths⟩

/-- What is not all of something unknown and `unix` may be there on Unix or not. Something unknown
and `windows` are not both there, however the former is read. -/
theorem eval_iff_readings_sample :
    let settings : Settings := .ofList [.flag ⟨"unix"⟩]
    let unix : Predicate := .flag ⟨"unix"⟩
    let left : Predicate := .not (.all [.unknown, unix])
    let gone : Predicate := .all [.unknown, .flag ⟨"windows"⟩]
    (∃ q, left.Reading q ∧ q.eval settings = some true) ∧
      (∃ q, left.Reading q ∧ q.eval settings = some false) ∧
      (∀ q, gone.Reading q → q.eval settings = some false) ∧
      (∀ part, part ∈ [unknown, unix] ↔ part ∈ [unix, .unknown, unix]) ∧
      (Predicate.any [.unknown, unix]).eval settings =
        (Predicate.any [unix, .unknown, unix]).eval settings := by
  intro settings unix left gone
  obtain ⟨-, hopen, -, hsame⟩ := eval_iff_readings settings left
  obtain ⟨-, -, hgone, -⟩ := eval_iff_readings settings gone
  obtain ⟨htrue, hfalse⟩ := hopen.mp (by rfl)
  have hparts : ∀ part, part ∈ [unknown, unix] ↔ part ∈ [unix, .unknown, unix] := by
    simp [or_comm]
  exact ⟨htrue, hfalse, hgone.mp (by rfl), hparts, (hsame _ _ hparts).2⟩

end Predicate

end ScopeWalk.Cfg
