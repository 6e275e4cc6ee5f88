import ScopeWalk.Text.Offset

/-!
# Places in a text

A byte offset is a place in a text if the bytes before it are whole characters. Only there can the
text be cut. So each place can be named by what comes before it, whose bytes are the offset, and as
well by what is left there.
-/
namespace ScopeWalk.Text

/-- A text cut in two at a byte offset. It cannot be cut behind its end or in the midst of a
character. -/
def cutAt (offset : Nat) (cs : List Char) : Option (List Char × List Char) :=
  if offset = 0 then some ([], cs)
  else match cs with
    | [] => none
    | c :: cs =>
      if c.utf8Size ≤ offset then
        (cutAt (offset - c.utf8Size) cs).map fun parts => (c :: parts.1, parts.2)
      else none

/-- Byte offset of the first character with a property. -/
def findByte (p : Char → Bool) : List Char → Option Nat
  | [] => none
  | c :: cs => if p c then some 0 else (findByte p cs).map (c.utf8Size + ·)

theorem byteLength_eq_zero_iff {cs : List Char} : byteLength cs = 0 ↔ cs = [] := by
  cases cs with
  | nil => simp
  | cons c cs =>
    have hsize := c.utf8Size_pos
    simp only [byteLength_cons, reduceCtorEq, iff_false]
    omega

theorem cutAt_zero (cs : List Char) : cutAt 0 cs = some ([], cs) := by
  cases cs <;> rw [cutAt, if_pos rfl]

/-- A text is cut where the bytes of a beginning end. -/
theorem cutAt_eq_some_iff {offset : Nat} {cs before rest : List Char} :
    cutAt offset cs = some (before, rest) ↔ cs = before ++ rest ∧ byteLength before = offset := by
  induction cs generalizing offset before with
  | nil =>
    rw [cutAt]
    split
    case isTrue hstart =>
      subst hstart
      rw [byteLength_eq_zero_iff]
      constructor
      · rintro ⟨⟩
        exact ⟨rfl, rfl⟩
      · rintro ⟨hcs, rfl⟩
        rw [hcs, List.nil_append]
    case isFalse hstart =>
      simp only [reduceCtorEq, false_iff, not_and]
      intro hcs hbefore
      rw [(List.append_eq_nil_iff.mp hcs.symm).1, byteLength_nil] at hbefore
      exact hstart hbefore.symm
  | cons c cs ih =>
    cases before with
    | nil =>
      by_cases hstart : offset = 0
      · subst hstart
        simp [cutAt_zero]
      · simp [cutAt, hstart, Ne.symm hstart]
    | cons b before =>
      constructor
      · intro h
        rw [cutAt] at h
        split at h
        · cases h
        · split at h
          · obtain ⟨⟨front, left⟩, hparts, hcons⟩ := Option.map_eq_some_iff.mp h
            obtain ⟨⟨rfl, rfl⟩, rfl⟩ : (c = b ∧ front = before) ∧ left = rest := by
              simpa using hcons
            obtain ⟨rfl, hlength⟩ := ih.mp hparts
            exact ⟨rfl, by rw [byteLength_cons]; omega⟩
          · cases h
      · rintro ⟨hcs, hlength⟩
        obtain ⟨rfl, rfl⟩ := List.cons.inj hcs
        have hsize := c.utf8Size_pos
        rw [byteLength_cons] at hlength
        rw [cutAt, if_neg (by omega), if_pos (by omega), ih.mpr ⟨rfl, by omega⟩, Option.map_some]

theorem cutAt_append (before rest : List Char) :
    cutAt (byteLength before) (before ++ rest) = some (before, rest) :=
  cutAt_eq_some_iff.mpr ⟨rfl, rfl⟩

/-- The first character with a property comes after those without it. -/
theorem findByte_getD (p : Char → Bool) (cs : List Char) :
    (findByte p cs).getD (byteLength cs) = byteLength (cs.takeWhile (!p ·)) := by
  induction cs with
  | nil => rfl
  | cons c cs ih =>
    cases hc : p c with
    | true => simp [findByte, hc]
    | false =>
      rw [List.takeWhile_cons_of_pos (by simp [hc]), byteLength_cons, byteLength_cons, ← ih]
      cases hfind : findByte p cs <;> simp [findByte, hc, hfind]

theorem findByte_eq_none_iff {p : Char → Bool} {cs : List Char} :
    findByte p cs = none ↔ cs.dropWhile (!p ·) = [] := by
  induction cs with
  | nil => simp [findByte]
  | cons c cs ih => cases hc : p c <;> simp [findByte, hc, ih]

end ScopeWalk.Text
