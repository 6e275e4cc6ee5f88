import ScopeWalk.Candidate.Basic
import ScopeWalk.Proofs.Crates.Steady

/-!
# Which candidates are accepted

A candidate is accepted for a name if it bears the name, has an element, and the element is in
the build of its crate. That can be said of a candidate before it is asked for its element: the
answer is the same in every store that is reached without a breakdown.
-/
namespace ScopeWalk

/-- Kinds of candidates that can be asked for their element at any time. -/
class LawfulCandidate (ε : Type) [Candidate ε] : Prop where
  force_steady : ∀ entry : ε, (Candidate.force entry).Steady
  /-- What comes back is the same candidate, except that its element is known. -/
  settled : ∀ {entry settled : ε} {store : Store} {found : Option Element},
    (Candidate.force entry).answer store = .ok (found, settled) →
      Candidate.name settled = Candidate.name entry ∧
      Candidate.subst settled = Candidate.subst entry ∧
      Candidate.force settled = pure (found, settled)

/-! ### Asking for the element -/

theorem Thunk.run_steady (thunk : Thunk) : thunk.run.Steady := by
  induction thunk with
  | known found => exact Walk.steady_pure found
  | crateRoot crate => exact Walk.steady_crateRoot crate
  | failing message => exact Walk.steady_fail message
  | noting text next ih => exact (Walk.steady_note text).bind fun _ => ih

namespace LazyEntry

/-- How the element is found when it is asked for. -/
def lookup (entry : LazyEntry) : Walk (Option Element) :=
  match entry.cell with
  | .ready found => pure found
  | .spent => pure none
  | .pending thunk => thunk.run

/-- The entry when it is known what there is to be found. -/
def settle (entry : LazyEntry) (found : Option Element) : LazyEntry :=
  { entry with cell := .ready found }

theorem lookup_steady (entry : LazyEntry) : entry.lookup.Steady := by
  unfold lookup
  cases entry.cell with
  | ready found => exact Walk.steady_pure found
  | spent => exact Walk.steady_pure none
  | pending thunk => exact thunk.run_steady

theorem force_eq (entry : LazyEntry) :
    entry.force = entry.lookup >>= fun found => pure (found, entry.settle found) := by
  funext store
  let remember (found : Option Element) : Walk (Option Element × LazyEntry) :=
    pure (found, entry.settle found)
  obtain ⟨name, cell, isExternCrate⟩ := entry
  cases cell with
  | ready found => rfl
  | spent => rfl
  | pending thunk =>
    have hrun : thunk.run.run.run store =
      pure (thunk.run.answer store, thunk.run.after store) := rfl
    cases hanswer : thunk.run.answer store with
    | ok found =>
      rw [hanswer] at hrun
      have hread : (Memo.pending thunk).force (fun thunk => thunk.run.run) store =
        ((.ok found, thunk.run.after store), .ready found) := Memo.force_pending_ok hrun
      simp only [force, read, hread]
      exact (Walk.run_bind_ok remember hanswer).symm
    | error failure =>
      rw [hanswer] at hrun
      have hread : (Memo.pending thunk).force (fun thunk => thunk.run.run) store =
        ((.error failure, thunk.run.after store), .spent) := Memo.force_pending_error hrun
      simp only [force, read, hread]
      exact (Walk.run_bind_error remember hanswer).symm

theorem force_steady (entry : LazyEntry) : entry.force.Steady := by
  rw [force_eq]
  exact entry.lookup_steady.bind fun found => Walk.steady_pure (found, entry.settle found)

theorem settled_of_force {entry settled : LazyEntry} {store : Store} {found : Option Element}
    (h : entry.force.answer store = .ok (found, settled)) : settled = entry.settle found := by
  rw [force_eq] at h
  obtain ⟨value, hvalue⟩ := Walk.answer_bind_ok h
  cases hvalue.2
  rfl

end LazyEntry

instance : LawfulCandidate Entry where
  force_steady entry := by
    cases entry with
    | direct entry => exact Walk.steady_pure _
    | member entry => exact Walk.steady_pure _
    | deferred entry => exact entry.force_steady.bind fun _ => Walk.steady_pure _
  settled {entry settled store found} h := by
    cases entry with
    | direct entry =>
      cases h
      exact ⟨rfl, rfl, rfl⟩
    | member entry =>
      cases h
      exact ⟨rfl, rfl, rfl⟩
    | deferred entry =>
      obtain ⟨⟨value, next⟩, hforce, hpure⟩ := Walk.answer_bind_ok h
      cases hpure
      rw [LazyEntry.settled_of_force hforce]
      exact ⟨rfl, rfl, rfl⟩

instance : LawfulCandidate MemberEntry where
  force_steady _ := Walk.steady_pure _
  settled h := by
    cases h
    exact ⟨rfl, rfl, rfl⟩

instance : LawfulCandidate MethodEntry where
  force_steady _ := Walk.steady_pure _
  settled h := by
    cases h
    exact ⟨rfl, rfl, rfl⟩

/-! ### Acceptance -/

namespace Candidate

variable {ε : Type} [Candidate ε]

/-- The element that is found if the candidate is asked for it in this store. -/
def elementIn (store : Store) (entry : ε) : Option Element :=
  match (force entry).answer store with
  | .ok (found, _) => found
  | .error _ => none

/-- The candidate as it is once it was asked for its element in this store. -/
def settledIn (store : Store) (entry : ε) : ε :=
  match (force entry).answer store with
  | .ok (_, settled) => settled
  | .error _ => entry

/-- What goes wrong if the candidate is asked for its element in this store. -/
def failureIn? (store : Store) (entry : ε) : Option Failure :=
  match (force entry).answer store with
  | .ok _ => none
  | .error failure => some failure

/-- A candidate that is accepted for a name, with its element: it bears the name, and has an
element, which is in the build. -/
def accepted? (name : Name) (store : Store) (entry : ε) : Option (ε × Element) :=
  if Candidate.name entry = name then
    ((elementIn store entry).filter (·.isEnabled)).map (entry, ·)
  else none

def isAccepted (name : Name) (store : Store) (entry : ε) : Bool :=
  (accepted? name store entry).isSome

/-- Of some candidates those that are accepted, each with its element. -/
def acceptedOf (name : Name) (store : Store) (entries : List ε) : List (ε × Element) :=
  entries.filterMap (accepted? name store)

/-- What goes wrong if the candidate is judged for a name. Only a candidate that bears the name is
asked for its element. -/
def failure? (name : Name) (store : Store) (entry : ε) : Option Failure :=
  if Candidate.name entry = name then failureIn? store entry else none

/-- What goes wrong first if candidates are judged for a name one after another. -/
def failureOf? (name : Name) (store : Store) (entries : List ε) : Option Failure :=
  entries.findSome? (failure? name store)

/-- What was found among some candidates, unless judging them breaks down. -/
def outcome (name : Name) (store : Store) (entries : List ε) (found : α) : Except Failure α :=
  (failureOf? name store entries).elim (.ok found) .error

theorem outcome_map (name : Name) (store : Store) (entries : List ε) (found : α) (f : α → β) :
    (outcome name store entries found).map f = outcome name store entries (f found) := by
  unfold outcome
  cases failureOf? name store entries <;> rfl

theorem answer_force (store : Store) (entry : ε) :
    (force entry).answer store =
      (failureIn? store entry).elim (.ok (elementIn store entry, settledIn store entry))
        .error := by
  unfold failureIn? elementIn settledIn
  cases (force entry).answer store with
  | ok result => rfl
  | error failure => rfl

theorem answer_force_of_unbroken {store : Store} {entry : ε}
    (unbroken : failureIn? store entry = none) :
    (force entry).answer store = .ok (elementIn store entry, settledIn store entry) := by
  rw [answer_force, unbroken, Option.elim_none]

theorem failureIn?_of_elementIn {store : Store} {entry : ε} {element : Element}
    (h : elementIn store entry = some element) : failureIn? store entry = none := by
  unfold elementIn at h
  unfold failureIn?
  cases hanswer : (force entry).answer store with
  | ok result => rfl
  | error failure =>
    rw [hanswer] at h
    cases h

/-- What acceptance says. -/
theorem of_accepted {name : Name} {store : Store} {entry : ε} {hit : ε × Element}
    (h : accepted? name store entry = some hit) :
    hit.1 = entry ∧ Candidate.name entry = name ∧ elementIn store entry = some hit.2 ∧
      hit.2.isEnabled = true := by
  unfold accepted? at h
  split at h
  case isTrue hname =>
    obtain ⟨element, helement, rfl⟩ := Option.map_eq_some_iff.mp h
    obtain ⟨hfound, henabled⟩ := Option.filter_eq_some_iff.mp helement
    exact ⟨rfl, hname, hfound, henabled⟩
  case isFalse => cases h

/-- The element for which a candidate is accepted. -/
theorem map_snd_accepted? (name : Name) (store : Store) (entry : ε) :
    (accepted? name store entry).map Prod.snd =
      if Candidate.name entry = name then (elementIn store entry).filter (·.isEnabled)
      else none := by
  rw [accepted?]
  split
  · rw [Option.map_map, Function.comp_def, Option.map_id']
  · rfl

theorem acceptedOf_append (name : Name) (store : Store) (first second : List ε) :
    acceptedOf name store (first ++ second) =
      acceptedOf name store first ++ acceptedOf name store second :=
  List.filterMap_append

theorem acceptedOf_eq_nil {name : Name} {store : Store} {entries : List ε}
    (h : entries.any (isAccepted name store) = false) : acceptedOf name store entries = [] := by
  rw [acceptedOf, List.filterMap_eq_nil_iff]
  intro entry hentry
  have hnot := List.any_eq_false.mp h entry hentry
  exact Option.not_isSome_iff_eq_none.mp hnot

section Congr

variable [LawfulCandidate ε] {store other : Store}

theorem elementIn_congr (h : store.SameRoots other) (entry : ε) :
    elementIn store entry = elementIn other entry := by
  simp only [elementIn, (LawfulCandidate.force_steady entry).answer_congr h]

theorem settledIn_congr (h : store.SameRoots other) :
    settledIn (ε := ε) store = settledIn other := by
  funext entry
  simp only [settledIn, (LawfulCandidate.force_steady entry).answer_congr h]

theorem failureIn?_congr (h : store.SameRoots other) (entry : ε) :
    failureIn? store entry = failureIn? other entry := by
  simp only [failureIn?, (LawfulCandidate.force_steady entry).answer_congr h]

theorem accepted?_congr (h : store.SameRoots other) (name : Name) :
    accepted? (ε := ε) name store = accepted? name other := by
  funext entry
  simp only [accepted?, elementIn_congr h]

theorem isAccepted_congr (h : store.SameRoots other) (name : Name) :
    isAccepted (ε := ε) name store = isAccepted name other := by
  funext entry
  simp only [isAccepted, accepted?_congr h]

theorem failure?_congr (h : store.SameRoots other) (name : Name) :
    failure? (ε := ε) name store = failure? name other := by
  funext entry
  simp only [failure?, failureIn?_congr h]

end Congr

/-- The settled form of a candidate is the same candidate with its element known. -/
theorem settledIn_spec [LawfulCandidate ε] {store : Store} {entry : ε}
    (h : failureIn? store entry = none) :
    Candidate.name (settledIn store entry) = Candidate.name entry ∧
      Candidate.subst (settledIn store entry) = Candidate.subst entry ∧
      force (settledIn store entry) = pure (elementIn store entry, settledIn store entry) :=
  LawfulCandidate.settled (answer_force_of_unbroken h)

theorem elementIn_settledIn [LawfulCandidate ε] {store : Store} {entry : ε}
    (unbroken : failureIn? store entry = none) :
    elementIn store (settledIn store entry) = elementIn store entry := by
  obtain ⟨-, -, hforce⟩ := settledIn_spec unbroken
  rw [elementIn, hforce]
  rfl

theorem failureIn?_settledIn [LawfulCandidate ε] {store : Store} {entry : ε}
    (unbroken : failureIn? store entry = none) :
    failureIn? store (settledIn store entry) = none := by
  obtain ⟨-, -, hforce⟩ := settledIn_spec unbroken
  rw [failureIn?, hforce]
  rfl

/-- An accepted candidate that was asked for its element gives it again, and nothing is done for it.
-/
theorem settled_of_accepted [LawfulCandidate ε] {name : Name} {store : Store} {entry : ε}
    {hit : ε × Element} (h : accepted? name store entry = some hit)
    (unbroken : failure? name store entry = none) :
    Candidate.name (settledIn store hit.1) = name ∧
      force (settledIn store hit.1) = pure (some hit.2, settledIn store hit.1) := by
  obtain ⟨hentry, hname, helement, -⟩ := of_accepted h
  rw [failure?, if_pos hname] at unbroken
  obtain ⟨hsettled, -, hforce⟩ := settledIn_spec unbroken
  rw [hentry, hsettled, hforce, helement]
  exact ⟨hname, rfl⟩

theorem subst_settledIn [LawfulCandidate ε] (store : Store) (entry : ε) :
    Candidate.subst (settledIn store entry) = Candidate.subst entry := by
  cases h : failureIn? store entry with
  | none => exact (settledIn_spec h).2.1
  | some failure =>
    have hanswer := answer_force store entry
    rw [h, Option.elim_some] at hanswer
    simp only [settledIn, hanswer]

end Candidate

end ScopeWalk
