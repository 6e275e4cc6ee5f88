import Mathlib.Data.List.Forall2
import ScopeWalk.Proofs.Text.ByteOrder
import ScopeWalk.Proofs.Text.Places

/-!
# Bytes of beginnings

Where the bytes of one text begin another text's bytes, the characters do. So it is safe to compare
texts by their bytes: bytes that agree belong to the same characters. The same holds if the case of
basic letters does not matter, as these are single bytes that occur in no other character.
-/
namespace ScopeWalk.Text

/-- The same character, or one basic letter in both cases. -/
def Alike (c d : Char) : Prop := c = d ∨ c.isAlpha ∧ d.isAlpha ∧ c.toLower = d.toLower

/-- A text begins with the characters of another, up to the case of basic letters. -/
def BeginsAlike (start text : List Char) : Prop :=
  ∃ head rest, text = head ++ rest ∧ List.Forall₂ Alike head start

/-! ### Bytes of whole characters -/

theorem length_bytes (cs : List Char) : (bytes cs).length = byteLength cs := by
  induction cs with
  | nil => rfl
  | cons c cs ih =>
    rw [bytes_cons, List.length_append, ih, String.length_utf8EncodeChar, byteLength_cons]

theorem bytes_append (cs ds : List Char) : bytes (cs ++ ds) = bytes cs ++ bytes ds :=
  List.flatMap_append

/-- Whatever follows, the first character can be told from the bytes. -/
theorem eq_of_utf8EncodeChar_append {c d : Char} {cs ds : List UInt8}
    (h : String.utf8EncodeChar c ++ cs = String.utf8EncodeChar d ++ ds) : c = d := by
  by_cases hlt : c < d
  · exact absurd (utf8EncodeChar_lt hlt cs ds) (h ▸ List.lt_irrefl _)
  · by_cases hgt : d < c
    · exact absurd (utf8EncodeChar_lt hgt ds cs) (h ▸ List.lt_irrefl _)
    · exact Char.le_antisymm (Char.not_lt.mp hgt) (Char.not_lt.mp hlt)

/-- The induction is on the characters of the beginning. -/
theorem bytes_prefix_iff {cs ds : List Char} : bytes cs <+: bytes ds ↔ cs <+: ds := by
  induction cs generalizing ds with
  | nil => simp [bytes]
  | cons c cs ih =>
    cases ds with
    | nil =>
      have hsize := c.utf8Size_pos
      have hnil : bytes [] = [] := rfl
      rw [hnil, List.prefix_nil, List.prefix_nil, ← List.length_eq_zero_iff, length_bytes,
        byteLength_cons]
      simp
      omega
    | cons d ds =>
      rw [bytes_cons, bytes_cons, List.cons_prefix_cons]
      constructor
      · rintro ⟨rest, h⟩
        rw [List.append_assoc] at h
        obtain rfl := eq_of_utf8EncodeChar_append h
        exact ⟨rfl, ih.mp ⟨rest, List.append_cancel_left h⟩⟩
      · rintro ⟨rfl, h⟩
        exact (List.prefix_append_right_inj _).mpr (ih.mpr h)

theorem bytes_inj {cs ds : List Char} : bytes cs = bytes ds ↔ cs = ds := by
  refine ⟨fun h => ?_, congrArg bytes⟩
  have hforth : cs <+: ds := bytes_prefix_iff.mp (h ▸ List.prefix_rfl)
  have hback : ds <+: cs := bytes_prefix_iff.mp (h ▸ List.prefix_rfl)
  exact hforth.eq_of_length_le hback.length_le

theorem takeBytes_eq_cutAt (count : Nat) (cs : List Char) :
    takeBytes count cs = (cutAt count cs).map Prod.fst := by
  induction cs generalizing count with
  | nil => cases count <;> rfl
  | cons c cs ih =>
    cases count with
    | zero => rfl
    | succ count =>
      rw [takeBytes, cutAt, if_neg (Nat.succ_ne_zero count), ih]
      split
      · rw [Option.map_map, Option.map_eq_map, Option.map_map]
        rfl
      · rfl

theorem takeBytes_append (head rest : List Char) :
    takeBytes (byteLength head) (head ++ rest) = some head := by
  rw [takeBytes_eq_cutAt, cutAt_append, Option.map_some]

theorem exists_of_takeBytes {count : Nat} {cs head : List Char}
    (h : takeBytes count cs = some head) :
    ∃ rest, cs = head ++ rest ∧ byteLength head = count := by
  rw [takeBytes_eq_cutAt] at h
  obtain ⟨⟨_, rest⟩, hcut, rfl⟩ := Option.map_eq_some_iff.mp h
  exact ⟨rest, cutAt_eq_some_iff.mp hcut⟩

/-- As many bytes of a text are cut off as asked for, if they are there and are whole characters. -/
theorem takeBytes_eq_some_iff {count : Nat} {cs head : List Char} :
    takeBytes count cs = some head ↔
      count ≤ (bytes cs).length ∧ bytes head = (bytes cs).take count := by
  constructor
  · intro h
    obtain ⟨rest, rfl, rfl⟩ := exists_of_takeBytes h
    rw [bytes_append, ← length_bytes, List.take_left, List.length_append]
    exact ⟨Nat.le_add_right _ _, rfl⟩
  · rintro ⟨hcount, hhead⟩
    have hlength : byteLength head = count := by
      rw [← length_bytes, hhead, List.length_take, Nat.min_eq_left hcount]
    obtain ⟨rest, rfl⟩ := bytes_prefix_iff.mp (hhead ▸ List.take_prefix count (bytes cs))
    rw [← hlength, takeBytes_append]

/-! ### The case of letters -/

/-- Capital letters are moved, and all other characters stay. -/
theorem val_toLower (c : Char) : c.toLower.val.toNat =
    if 65 ≤ c.val.toNat ∧ c.val.toNat ≤ 90 then c.val.toNat + 32 else c.val.toNat := by
  have hcapital : (c.val ≥ 'A'.val ∧ c.val ≤ 'Z'.val) ↔ 65 ≤ c.val.toNat ∧ c.val.toNat ≤ 90 := by
    rw [ge_iff_le, UInt32.le_iff_toNat_le, UInt32.le_iff_toNat_le]
    rfl
  unfold Char.toLower
  split
  case isTrue h =>
    have hmoved : (c.val + ('a'.val - 'A'.val)).toNat = (c.val.toNat + 32) % 2 ^ 32 := rfl
    rw [if_pos (hcapital.mp h), hmoved]
    have hle := (hcapital.mp h).2
    omega
  case isFalse h => rw [if_neg (mt hcapital.mpr h)]

theorem isAlpha_iff (c : Char) : c.isAlpha = true ↔
    65 ≤ c.val.toNat ∧ c.val.toNat ≤ 90 ∨ 97 ≤ c.val.toNat ∧ c.val.toNat ≤ 122 := by
  have hupper : c.isUpper = true ↔ 65 ≤ c.val.toNat ∧ c.val.toNat ≤ 90 := by
    show decide (65 ≤ c.val ∧ c.val ≤ 90) = true ↔ _
    simp only [decide_eq_true_iff, UInt32.le_iff_toNat_le]
    rfl
  have hlower : c.isLower = true ↔ 97 ≤ c.val.toNat ∧ c.val.toNat ≤ 122 := by
    show (decide (97 ≤ c.val) && decide (c.val ≤ 122)) = true ↔ _
    simp only [Bool.and_eq_true, decide_eq_true_iff, UInt32.le_iff_toNat_le]
    rfl
  show (c.isUpper || c.isLower) = true ↔ _
  rw [Bool.or_eq_true, hupper, hlower]

theorem alike_iff {c d : Char} : Alike c d ↔ c.toLower = d.toLower := by
  constructor
  · rintro (rfl | ⟨-, -, h⟩)
    · rfl
    · exact h
  · intro h
    by_cases hsame : c = d
    · exact .inl hsame
    · -- one of the two is a capital letter, and the other one the same in small
      have hcode : c.val.toNat ≠ d.val.toNat := fun hcode =>
        hsame (Char.ext (UInt32.toNat_inj.mp hcode))
      have hlower := congrArg (fun c : Char => c.val.toNat) h
      simp only [val_toLower] at hlower
      refine .inr ⟨(isAlpha_iff c).mpr ?_, (isAlpha_iff d).mpr ?_, h⟩ <;> split at hlower <;>
        split at hlower <;> omega

theorem lowerByte_ofNat {n : Nat} (h : n < 256) :
    lowerByte (.ofNat n) = .ofNat (if 65 ≤ n ∧ n ≤ 90 then n + 32 else n) := by
  have hcapital : (65 ≤ UInt8.ofNat n && UInt8.ofNat n ≤ 90) = decide (65 ≤ n ∧ n ≤ 90) := by
    have htoNat : (UInt8.ofNat n).toNat = n := Nat.mod_eq_of_lt h
    rw [Bool.decide_and]
    simp only [UInt8.le_iff_toNat_le, htoNat]
    rfl
  rw [lowerByte, hcapital]
  by_cases hn : 65 ≤ n ∧ n ≤ 90
  · rw [if_pos hn, decide_eq_true hn, if_pos rfl, UInt8.ofNat_add]
    rfl
  · rw [if_neg hn, decide_eq_false hn, if_neg Bool.false_ne_true]

/-- The bytes after the first one of a character are no letters. -/
theorem map_lowerByte_trail (count code : Nat) :
    (trail count code).map lowerByte = trail count code := by
  induction count with
  | zero => rfl
  | succ count ih =>
    rw [trail, List.map_cons, ih, lowerByte_ofNat (by omega), if_neg (by omega)]

theorem Leads.of_lt {code first count : Nat} (h : Leads code first count) (hsmall : code < 128) :
    first = code ∧ count = 0 := by
  cases h <;> omega

theorem Leads.le_first {code first count : Nat} (h : Leads code first count) (hlarge : 128 ≤ code) :
    192 ≤ first := by
  cases h <;> omega

theorem map_lowerByte_utf8EncodeChar (c : Char) :
    (String.utf8EncodeChar c).map lowerByte = String.utf8EncodeChar c.toLower := by
  obtain ⟨first, count, hleads, hbytes⟩ := exists_leads c
  rw [hbytes, List.map_cons, lowerByte_ofNat hleads.lt, map_lowerByte_trail]
  have hlower := val_toLower c
  by_cases hsmall : c.val.toNat < 128
  · -- a character of one byte stays one
    obtain ⟨first', count', hleads', hbytes'⟩ := exists_leads c.toLower
    have hsmall' : c.toLower.val.toNat < 128 := by split at hlower <;> omega
    obtain ⟨rfl, rfl⟩ := hleads.of_lt hsmall
    obtain ⟨rfl, rfl⟩ := hleads'.of_lt hsmall'
    rw [hbytes', hlower]
    rfl
  · have hfirst := hleads.le_first (Nat.le_of_not_lt hsmall)
    have hsame : c.toLower = c := by
      refine Char.ext (UInt32.toNat_inj.mp ?_)
      rw [hlower, if_neg (by omega)]
    rw [hsame, hbytes, if_neg (by omega)]

theorem map_lowerByte_bytes (cs : List Char) :
    (bytes cs).map lowerByte = bytes (cs.map Char.toLower) := by
  induction cs with
  | nil => rfl
  | cons c cs ih =>
    rw [bytes_cons, List.map_append, ih, map_lowerByte_utf8EncodeChar, List.map_cons, bytes_cons]

/-- Letters have equally many bytes in both cases. -/
theorem byteLength_map_toLower (cs : List Char) :
    byteLength (cs.map Char.toLower) = byteLength cs := by
  rw [← length_bytes, ← map_lowerByte_bytes, List.length_map, length_bytes]

theorem forall₂_alike_iff {cs ds : List Char} :
    List.Forall₂ Alike cs ds ↔ cs.map Char.toLower = ds.map Char.toLower := by
  rw [← List.forall₂_eq_eq_eq, List.forall₂_map_left_iff, List.forall₂_map_right_iff]
  exact ⟨fun h => h.imp fun _ _ => alike_iff.mp, fun h => h.imp fun _ _ => alike_iff.mpr⟩

theorem equalIgnoringCase_iff {cs ds : List Char} :
    equalIgnoringCase cs ds = true ↔ List.Forall₂ Alike cs ds := by
  rw [equalIgnoringCase, decide_eq_true_iff, map_lowerByte_bytes, map_lowerByte_bytes, bytes_inj,
    forall₂_alike_iff]

theorem beginsAlike_iff {start text : List Char} :
    BeginsAlike start text ↔ start.map Char.toLower <+: text.map Char.toLower := by
  constructor
  · rintro ⟨head, rest, rfl, halike⟩
    rw [← forall₂_alike_iff.mp halike, List.map_append]
    exact List.prefix_append _ _
  · rintro ⟨rest, h⟩
    obtain ⟨head, tail, rfl, hhead, -⟩ := List.map_eq_append_iff.mp h.symm
    exact ⟨head, tail, rfl, forall₂_alike_iff.mpr hhead⟩

end ScopeWalk.Text
