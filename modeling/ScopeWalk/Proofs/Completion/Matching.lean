import ScopeWalk.Proofs.Completion.Ranking
import ScopeWalk.Proofs.Text.Letters

/-!
# What begins with the text typed so far

A shortlist compares as many bytes of a label as were typed. That comes to comparing characters: the
label must begin with the characters typed, up to the case of basic letters. So nothing comes back
when more is typed.
-/
namespace ScopeWalk

namespace Text

instance (start text : List Char) : Decidable (BeginsAlike start text) :=
  decidable_of_iff _ beginsAlike_iff.symm

theorem beginsAlike_nil (text : List Char) : BeginsAlike [] text :=
  beginsAlike_iff.mpr List.nil_prefix

theorem beginsAlike_self (text : List Char) : BeginsAlike text text :=
  beginsAlike_iff.mpr List.prefix_rfl

theorem BeginsAlike.of_append {first second text : List Char}
    (h : BeginsAlike (first ++ second) text) : BeginsAlike first text := by
  rw [beginsAlike_iff, List.map_append] at h
  exact beginsAlike_iff.mpr ((List.prefix_append _ _).trans h)

end Text

namespace Shortlist

open Text

/-- What is kept of some suggestions that are added one after another. -/
def keptOf (typed : List Char) (items : List Suggestion) : List Suggestion :=
  (items.foldl add (.empty typed)).suggestions

theorem accepts_iff {typed label : List Char} :
    accepts typed label = true ↔ BeginsAlike typed label := by
  rw [accepts, Option.any_eq_true]
  constructor
  · rintro ⟨head, hhead, hequal⟩
    obtain ⟨rest, rfl, -⟩ := exists_of_takeBytes hhead
    exact ⟨head, rest, rfl, equalIgnoringCase_iff.mp hequal⟩
  · rintro ⟨head, rest, rfl, halike⟩
    -- alike texts have equally many bytes, so the label is cut behind `head`
    have hlength : byteLength head = byteLength typed := by
      rw [← byteLength_map_toLower head, forall₂_alike_iff.mp halike, byteLength_map_toLower]
    exact ⟨head, hlength ▸ takeBytes_append head rest, equalIgnoringCase_iff.mpr halike⟩

theorem keptOf_eq_filter (typed : List Char) (items : List Suggestion) :
    keptOf typed items = items.filter (BeginsAlike typed ·.label.chars) := by
  have hstart : (empty typed).suggestions ++ items.filter (accepts typed ·.label.chars) =
      items.filter (accepts typed ·.label.chars) := rfl
  rw [keptOf, foldl_add]
  refine hstart.trans (List.filter_congr fun item _ => ?_)
  rw [Bool.eq_iff_iff, accepts_iff, decide_eq_true_iff]

/-- A label is kept if it begins with the characters typed, where only the case of basic letters
does not matter. To ask whether its bytes begin with those typed is the same: bytes that agree are
whole characters of the label. The bytes to compare are cut off if there are so many and none belongs
to a character that is divided, and otherwise there is nothing to compare. When more is typed, what is
kept is a part of what was kept before. Every label is kept under itself and under nothing. -/
theorem labels_kept :
    (∀ typed label, accepts typed label = true ↔ BeginsAlike typed label) ∧
    (∀ typed label, (bytes typed).map lowerByte <+: (bytes label).map lowerByte ↔
      BeginsAlike typed label) ∧
    (∀ count label head, takeBytes count label = some head ↔
      count ≤ (bytes label).length ∧ bytes head = (bytes label).take count) ∧
    (∀ typed items, keptOf typed items = items.filter (BeginsAlike typed ·.label.chars)) ∧
    (∀ typed more items, (keptOf (typed ++ more) items).Sublist (keptOf typed items)) ∧
    ∀ items, keptOf [] items = items ∧ ∀ item ∈ items, item ∈ keptOf item.label.chars items := by
  refine ⟨fun typed label => accepts_iff, fun typed label => ?_,
    fun count label head => takeBytes_eq_some_iff, keptOf_eq_filter, fun typed more items => ?_,
    fun items => ⟨?_, fun item hitem => ?_⟩⟩
  · rw [map_lowerByte_bytes, map_lowerByte_bytes, bytes_prefix_iff, beginsAlike_iff]
  · rw [keptOf_eq_filter, keptOf_eq_filter]
    refine List.monotone_filter_right items fun item h => ?_
    rw [decide_eq_true_iff] at h ⊢
    exact h.of_append
  · rw [keptOf_eq_filter, List.filter_eq_self]
    exact fun item _ => decide_eq_true (beginsAlike_nil _)
  · rw [keptOf_eq_filter, List.mem_filter]
    exact ⟨hitem, decide_eq_true (beginsAlike_self _)⟩

end Shortlist

end ScopeWalk
