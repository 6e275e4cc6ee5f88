import ScopeWalk.Name

/-!
# Configuration settings

A crate is built under a set of settings: flags such as `unix`, and pairs of a key and a value
such as `target_os = "linux"`. A key may have several values at once. Two sets are the same when
they hold the same settings; the order in which settings were added does not matter.
-/
namespace ScopeWalk.Cfg

inductive Setting where
  | flag (name : Name)
  | keyValue (key value : Name)
  deriving DecidableEq, Repr

structure Settings where
  entries : List Setting
  nodup : entries.Nodup

namespace Settings

def empty : Settings := ⟨[], List.nodup_nil⟩

instance : Inhabited Settings := ⟨empty⟩

instance : Membership Setting Settings := ⟨fun settings s => s ∈ settings.entries⟩

theorem mem_def {s : Setting} {settings : Settings} : s ∈ settings ↔ s ∈ settings.entries := Iff.rfl

instance (s : Setting) (settings : Settings) : Decidable (s ∈ settings) :=
  inferInstanceAs (Decidable (s ∈ settings.entries))

/-- Switch a setting on. -/
def insert (settings : Settings) (s : Setting) : Settings :=
  if h : s ∈ settings.entries then settings
  else ⟨settings.entries ++ [s], by
    refine List.nodup_append.mpr ⟨settings.nodup, by simp, ?_⟩
    intro a ha b hb hab
    exact h (by simp_all)⟩

theorem mem_insert {settings : Settings} {s t : Setting} :
    t ∈ settings.insert s ↔ t ∈ settings ∨ t = s := by
  unfold insert
  split
  · constructor
    · exact Or.inl
    · rintro (h | rfl)
      · exact h
      · assumption
  · simp [mem_def]

@[simp] theorem not_mem_empty (s : Setting) : ¬ s ∈ empty := by simp [mem_def, empty]

def ofList (entries : List Setting) : Settings := entries.foldl insert empty

def size (settings : Settings) : Nat := settings.entries.length

def isEmpty (settings : Settings) : Bool := settings.entries.isEmpty

/-- The same settings are on. -/
def same (a b : Settings) : Bool :=
  a.entries.all (· ∈ b.entries) && b.entries.all (· ∈ a.entries)

theorem same_iff {a b : Settings} : a.same b = true ↔ ∀ s, s ∈ a ↔ s ∈ b := by
  simp only [same, Bool.and_eq_true, List.all_eq_true, decide_eq_true_eq, mem_def]
  exact ⟨fun h s => ⟨h.1 s, h.2 s⟩, fun h => ⟨fun s => (h s).1, fun s => (h s).2⟩⟩

end Settings

end ScopeWalk.Cfg
