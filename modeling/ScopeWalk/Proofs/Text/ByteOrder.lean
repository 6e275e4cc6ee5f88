import Mathlib.Algebra.Group.Nat.Defs
import ScopeWalk.Completion.Shortlist

/-!
# The order of bytes

Names are compared by their characters, and that is how their UTF-8 bytes compare. The first byte of
a character is the greater the more bytes follow it. If equally many bytes follow, the first byte
holds the highest bits of the code point, and each of the others the next six.
-/
namespace ScopeWalk

namespace Text

/-- The last bytes of a code point, with six bits in each. -/
def trail : Nat → Nat → List UInt8
  | 0, _ => []
  | count + 1, code => .ofNat (code / 64 ^ count % 64 + 128) :: trail count code

/-- The first byte of a code point, and how many bytes follow it. -/
inductive Leads (code : Nat) : Nat → Nat → Prop where
  | one : code < 128 → Leads code code 0
  | two : 128 ≤ code → code < 2048 → Leads code (code / 64 + 192) 1
  | three : 2048 ≤ code → code < 65536 → Leads code (code / 64 ^ 2 + 224) 2
  | four : 65536 ≤ code → code < 1114112 → Leads code (code / 64 ^ 3 + 240) 3

theorem Leads.lt {code first count : Nat} (h : Leads code first count) : first < 256 := by
  cases h <;> omega

theorem exists_leads (c : Char) : ∃ first count, Leads c.val.toNat first count ∧
    String.utf8EncodeChar c = UInt8.ofNat first :: trail count c.val.toNat := by
  have hcode : c.val.toNat < 1114112 := by
    obtain h | h := c.valid
    · exact Nat.lt_trans h (by decide)
    · exact h.2
  rw [String.utf8EncodeChar.eq_1]
  generalize c.val.toNat = code at hcode
  -- in each case the mask for the first byte cuts nothing off
  split
  · exact ⟨_, _, .one (by omega), rfl⟩
  · split
    · refine ⟨_, _, .two (by omega) (by omega), ?_⟩
      rw [Nat.mod_eq_of_lt (by omega : code / 64 < 32), trail, Nat.pow_zero, Nat.div_one, trail]
    · split
      · refine ⟨_, _, .three (by omega) (by omega), ?_⟩
        rw [Nat.mod_eq_of_lt (by omega : code / 4096 < 16), trail, trail, trail]
        simp
      · refine ⟨_, _, .four (by omega) (by omega), ?_⟩
        rw [Nat.mod_eq_of_lt (by omega : code / 262144 < 8), trail, trail, trail, trail]
        simp

/-- Bytes are compared as numbers. -/
theorem ofNat_cons_lt {a b : Nat} (ha : a < 256) (hb : b < 256) {as bs : List UInt8} :
    UInt8.ofNat a :: as < UInt8.ofNat b :: bs ↔ a < b ∨ a = b ∧ as < bs := by
  have htoNat {n : Nat} (h : n < 256) : (UInt8.ofNat n).toNat = n := Nat.mod_eq_of_lt h
  rw [List.cons_lt_cons_iff, UInt8.lt_iff_toNat_lt, ← UInt8.toNat_inj, htoNat ha, htoNat hb]

/-- The lesser of two code points with the same first byte has the lesser bytes after it. The
induction is on the number of these. -/
theorem trail_lt {count a b : Nat} (hlead : a / 64 ^ count = b / 64 ^ count) (h : a < b)
    (as bs : List UInt8) : trail count a ++ as < trail count b ++ bs := by
  induction count with
  | zero =>
    rw [Nat.pow_zero, Nat.div_one, Nat.div_one] at hlead
    exact absurd hlead (Nat.ne_of_lt h)
  | succ count ih =>
    rw [trail, trail, List.cons_append, List.cons_append,
      ofNat_cons_lt (by omega) (by omega)]
    rw [Nat.pow_succ, ← Nat.div_div_eq_div_mul, ← Nat.div_div_eq_div_mul] at hlead
    have hle : a / 64 ^ count ≤ b / 64 ^ count := Nat.div_le_div_right (Nat.le_of_lt h)
    -- either the next six bits decide, or those after them do
    obtain hlt | heq := Nat.lt_or_eq_of_le hle
    · left
      omega
    · right
      exact ⟨by rw [heq], ih heq⟩

/-- The first byte is the lesser, or it is the same and what follows decides. -/
theorem Leads.cases_of_lt {a b first first' count count' : Nat} (ha : Leads a first count)
    (hb : Leads b first' count') (h : a < b) :
    first < first' ∨ first = first' ∧ count = count' ∧ a / 64 ^ count = b / 64 ^ count := by
  cases ha <;> cases hb <;> omega

theorem utf8EncodeChar_lt {c d : Char} (h : c < d) (cs ds : List UInt8) :
    String.utf8EncodeChar c ++ cs < String.utf8EncodeChar d ++ ds := by
  obtain ⟨first, count, hc, hcbytes⟩ := exists_leads c
  obtain ⟨first', count', hd, hdbytes⟩ := exists_leads d
  have hcode : c.val.toNat < d.val.toNat := UInt32.lt_iff_toNat_lt.mp h
  rw [hcbytes, hdbytes, List.cons_append, List.cons_append, ofNat_cons_lt hc.lt hd.lt]
  obtain hlt | ⟨rfl, rfl, hlead⟩ := hc.cases_of_lt hd hcode
  · exact .inl hlt
  · exact .inr ⟨rfl, trail_lt hlead hcode cs ds⟩

theorem bytes_cons (c : Char) (cs : List Char) :
    bytes (c :: cs) = String.utf8EncodeChar c ++ bytes cs := List.flatMap_cons

theorem bytes_lt_of_lt {cs ds : List Char} (h : cs < ds) : bytes cs < bytes ds := by
  induction cs generalizing ds with
  | nil =>
    cases ds with
    | nil => exact absurd h (List.lt_irrefl _)
    | cons d ds =>
      obtain ⟨first, count, -, hbytes⟩ := exists_leads d
      rw [bytes_cons, hbytes]
      exact List.nil_lt_cons _ _
  | cons c cs ih =>
    cases ds with
    | nil => exact absurd h (List.not_lt_nil _)
    | cons d ds =>
      rw [bytes_cons, bytes_cons]
      obtain hlt | ⟨rfl, hrest⟩ := List.cons_lt_cons_iff.mp h
      · exact utf8EncodeChar_lt hlt _ _
      · exact List.append_left_lt (ih hrest)

/-- The order of texts by their characters is the order of their bytes. -/
theorem bytes_lt_iff {cs ds : List Char} : bytes cs < bytes ds ↔ cs < ds := by
  refine ⟨fun h => Decidable.by_contra fun hlt => ?_, bytes_lt_of_lt⟩
  by_cases hgt : ds < cs
  · exact List.lt_asymm h (bytes_lt_of_lt hgt)
  · obtain rfl : cs = ds := List.le_antisymm (List.not_lt.mp hgt) (List.not_lt.mp hlt)
    exact List.lt_irrefl _ h

end Text

/-- One name comes after another if its bytes do. -/
theorem Name.compare_eq_gt_iff {a b : Name} :
    a.compare b = .gt ↔ Text.bytes b.chars < Text.bytes a.chars := by
  rw [Text.bytes_lt_iff]
  exact (compareOfLessAndEq_eq_gt String.le_antisymm String.le_total String.not_le _ _).trans
    String.lt_iff

end ScopeWalk
