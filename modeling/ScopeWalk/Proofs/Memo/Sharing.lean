import ScopeWalk.Proofs.Memo

/-!
# Cells that threads share

Any number of threads may read a cell, or look at it without reading. Of the reads one at a time is
let in to compute. It takes what the cell holds, so that meanwhile the cell has neither a value nor
a computation, and then leaves the cell as a read alone would (`Memo.force`). The other reads wait
until there is a value. If the one inside breaks down, another one may be let in.

Whatever threads do and in whatever order, little can happen to the cell itself: its computation
runs, and if that broke down, one more read is let in and settles on the default value. All that can
be said about runs is read off this history.
-/
namespace ScopeWalk.Memo

/-- A read: the thread that makes it, and how many it has made before. -/
structure Call (ι : Type) where
  thread : ι
  number : Nat

/-- What is done with a shared cell. -/
inductive Act (ι τ α : Type) where
  /-- A read begins. -/
  | asked (call : Call ι)
  /-- The read is let in and takes what the cell holds. -/
  | entered (call : Call ι) (held : Memo τ α)
  /-- The read puts a value into the cell. -/
  | stored (call : Call ι) (value : α)
  /-- The read ends because the computation broke down. -/
  | failed (call : Call ι) (failure : Failure)
  /-- The read ends with a value. -/
  | returned (call : Call ι) (value : α)
  | peeked (found : Option α)
  | checked (computed : Bool)

namespace Act

variable {ι τ α : Type}

/-- The computation runs. -/
def runs : Act ι τ α → Bool
  | .entered _ (.pending _) => true
  | _ => false

def fails : Act ι τ α → Bool
  | .failed _ _ => true
  | _ => false

def stored? : Act ι τ α → Option α
  | .stored _ value => some value
  | _ => none

/-- The act has to do with the cell. The others leave it as it is. -/
def isMilestone : Act ι τ α → Bool
  | .entered _ _ => true
  | .stored _ _ => true
  | .failed _ _ => true
  | _ => false

theorem isMilestone_of_runs {act : Act ι τ α} (h : act.runs = true) : act.isMilestone = true := by
  cases act with
  | entered => rfl
  | _ => cases h

theorem isMilestone_of_fails {act : Act ι τ α} (h : act.fails = true) : act.isMilestone = true := by
  cases act with
  | failed => rfl
  | _ => cases h

theorem stored?_eq_none {act : Act ι τ α} (h : act.isMilestone = false) : act.stored? = none := by
  cases act with
  | stored => cases h
  | _ => rfl

end Act

/-- A thread that uses a cell. -/
structure Reader where
  reading : Bool
  /-- How many of its reads are over. -/
  reads : Nat

/-- A cell and the threads that use it. -/
structure Shared (ι τ α : Type) where
  cell : Memo τ α
  /-- The read that was let in, with what it took. -/
  inside : Option (Call ι × Memo τ α)
  readers : ι → Reader

namespace Shared

variable {ι τ α : Type}

/-- No thread has used the cell yet. -/
def start (cell : Memo τ α) : Shared ι τ α := ⟨cell, none, fun _ => ⟨false, 0⟩⟩

/-- The read that a thread makes, or makes next. -/
def call (shared : Shared ι τ α) (thread : ι) : Call ι := ⟨thread, (shared.readers thread).reads⟩

/-- A read goes out again and leaves the cell behind. -/
def leave (shared : Shared ι τ α) (cell : Memo τ α) : Shared ι τ α :=
  { shared with cell := cell, inside := none }

variable [DecidableEq ι] (shared : Shared ι τ α)

def setReader (thread : ι) (reader : Reader) : Shared ι τ α :=
  { shared with readers := fun other => if other = thread then reader else shared.readers other }

/-- A read begins. -/
def ask (thread : ι) : Shared ι τ α :=
  shared.setReader thread ⟨true, (shared.readers thread).reads⟩

/-- A read is over. -/
def finish (call : Call ι) : Shared ι τ α :=
  shared.setReader call.thread ⟨false, call.number + 1⟩

theorem readers_ask_ne {thread other : ι} (h : other ≠ thread) :
    (shared.ask thread).readers other = shared.readers other := by
  simp [ask, setReader, h]

/-- The read is the one that the thread was to make next. -/
theorem call_ask (thread other : ι) : (shared.ask thread).call other = shared.call other := by
  by_cases h : other = thread
  · subst h
    simp [call, ask, setReader]
  · rw [call, readers_ask_ne shared h, call]

theorem readers_finish_ne {call : Call ι} {other : ι} (h : other ≠ call.thread) :
    (shared.finish call).readers other = shared.readers other := by
  simp [finish, setReader, h]

theorem reading_finish (call : Call ι) :
    ((shared.finish call).readers call.thread).reading = false := by
  simp [finish, setReader]

end Shared

/-- What is left of a cell when its computation is taken out. -/
def taken {τ α : Type} : Memo τ α → Memo τ α
  | .pending _ => .spent
  | cell => cell

/-! ### The history of a cell -/

section Acts

variable {ι τ α : Type}

/-- The acts that have to do with the cell. -/
def milestones (acts : List (Act ι τ α)) : List (Act ι τ α) := acts.filter Act.isMilestone

/-- The value of a cell after some acts: the one it had, or the first that was put into it. -/
def valueAfter (first : Memo τ α) (acts : List (Act ι τ α)) : Option α :=
  first.peek.or (acts.findSome? Act.stored?)

theorem milestones_append (acts : List (Act ι τ α)) (act : Act ι τ α) :
    milestones (acts ++ [act]) = if act.isMilestone then milestones acts ++ [act] else
      milestones acts := by
  cases h : act.isMilestone <;> simp [milestones, h]

theorem mem_milestones {acts : List (Act ι τ α)} {act : Act ι τ α} (h : act.isMilestone = true) :
    act ∈ milestones acts ↔ act ∈ acts := by
  simp [milestones, h]

theorem countP_milestones {p : Act ι τ α → Bool} (hp : ∀ act, p act = true → act.isMilestone = true)
    (acts : List (Act ι τ α)) : (milestones acts).countP p = acts.countP p := by
  rw [milestones, List.countP_filter]
  refine List.countP_congr fun act _ => ?_
  simpa using hp act

theorem valueAfter_append (first : Memo τ α) (before after : List (Act ι τ α)) :
    valueAfter first (before ++ after) =
      (valueAfter first before).or (after.findSome? Act.stored?) := by
  rw [valueAfter, valueAfter, List.findSome?_append, Option.or_assoc]

/-- A value was there from the start, or some read put it into the cell. -/
theorem eq_ready_or_stored {first : Memo τ α} {acts : List (Act ι τ α)} {value : α}
    (h : valueAfter first acts = some value) :
    first = .ready value ∨ ∃ call, Act.stored call value ∈ acts := by
  obtain hfirst | ⟨-, hacts⟩ := Option.or_eq_some_iff.mp h
  · exact .inl (peek_eq_some_iff.mp hfirst)
  · obtain ⟨act, hact, hstored⟩ := List.exists_of_findSome?_eq_some hacts
    cases act with
    | stored call found =>
      cases hstored
      exact .inr ⟨call, hact⟩
    | _ => cases hstored

theorem valueAfter_milestones (first : Memo τ α) (acts : List (Act ι τ α)) :
    valueAfter first (milestones acts) = valueAfter first acts := by
  unfold valueAfter milestones
  congr 1
  induction acts with
  | nil => rfl
  | cons act rest ih =>
    cases hact : act.isMilestone with
    | true => rw [List.filter_cons_of_pos hact, List.findSome?_cons, List.findSome?_cons, ih]
    | false =>
      have hstored : act.stored? = none := Act.stored?_eq_none hact
      rw [List.filter_cons_of_neg (by simp [hact]), List.findSome?_cons, hstored, ih]

end Acts

section Abandoned

variable {ι σ τ α : Type} {run : τ → σ → Except Failure α × σ} {first : Memo τ α}
  {acts : List (Act ι τ α)}

/-- The cell has no computation left: it was made without one, or its computation broke down. -/
inductive Abandoned (run : τ → σ → Except Failure α × σ) :
    Memo τ α → List (Act ι τ α) → Prop where
  | never : Abandoned run .spent []
  | broken {thunk : τ} {state : σ} {failure : Failure} (call : Call ι) :
      (run thunk state).1 = .error failure →
      Abandoned run (.pending thunk) [.entered call (.pending thunk), .failed call failure]

namespace Abandoned

theorem valueAfter_eq (h : Abandoned run first acts) : valueAfter first acts = none := by
  cases h <;> rfl

theorem countP_runs_le (h : Abandoned run first acts) : acts.countP Act.runs ≤ 1 := by
  cases h <;> simp [List.countP_cons, Act.runs]

theorem countP_fails_le (h : Abandoned run first acts) : acts.countP Act.fails ≤ 1 := by
  cases h <;> simp [Act.fails]

theorem first_of_entered (h : Abandoned run first acts) {call : Call ι} {held : Memo τ α}
    (hentered : .entered call held ∈ acts) : first = held := by
  cases h <;> simp_all

/-- Only the read that runs the computation breaks down, and it breaks down as the computation
does. -/
theorem of_failed (h : Abandoned run first acts) {call : Call ι} {failure : Failure}
    (hfailed : .failed call failure ∈ acts) :
    ∃ thunk state, .entered call (.pending thunk) ∈ acts ∧ (run thunk state).1 = .error failure := by
  cases h with
  | never => simp at hfailed
  | @broken thunk state _ _ hrun =>
    obtain ⟨rfl, rfl⟩ : _ ∧ _ := by simpa using hfailed
    exact ⟨thunk, state, by simp, hrun⟩

theorem exists_failed (h : Abandoned run first acts) :
    first = .spent ∨ ∃ call failure, .failed call failure ∈ acts := by
  cases h with
  | never => exact .inl rfl
  | @broken thunk state failure call => exact .inr ⟨call, failure, by simp⟩

theorem stored_not_mem (h : Abandoned run first acts) (call : Call ι) (value : α) :
    Act.stored call value ∉ acts := by
  cases h <;> simp

end Abandoned

end Abandoned

section History

variable {ι σ τ α : Type} [Inhabited α]

/-- What can happen to a cell: the acts that have to do with it, how they leave it, and who is
inside then. -/
inductive History (run : τ → σ → Except Failure α × σ) :
    Memo τ α → List (Act ι τ α) → Memo τ α → Option (Call ι × Memo τ α) → Prop where
  | untouched (cell : Memo τ α) : History run cell [] cell none
  | running (thunk : τ) (call : Call ι) :
      History run (.pending thunk) [.entered call (.pending thunk)] .spent
        (some (call, .pending thunk))
  | computed {thunk : τ} {state : σ} {value : α} (call : Call ι) :
      (run thunk state).1 = .ok value →
      History run (.pending thunk) [.entered call (.pending thunk), .stored call value]
        (.ready value) none
  | abandoned {first : Memo τ α} {acts : List (Act ι τ α)} :
      Abandoned run first acts → History run first acts .spent none
  | settling {first : Memo τ α} {acts : List (Act ι τ α)} (call : Call ι) :
      Abandoned run first acts →
      History run first (acts ++ [.entered call .spent]) .spent (some (call, .spent))
  | settled {first : Memo τ α} {acts : List (Act ι τ α)} (call : Call ι) :
      Abandoned run first acts →
      History run first (acts ++ [.entered call .spent, .stored call default]) (.ready default) none

namespace History

variable {run : τ → σ → Except Failure α × σ} {first cell : Memo τ α} {acts : List (Act ι τ α)}
  {inside : Option (Call ι × Memo τ α)}

theorem of_pending {thunk : τ} (h : History run first acts (.pending thunk) inside) :
    first = .pending thunk ∧ acts = [] := by
  cases h
  exact ⟨rfl, rfl⟩

theorem of_spent (h : History run first acts .spent none) : Abandoned run first acts := by
  cases h with
  | untouched => exact .never
  | abandoned h => exact h

/-- While a read is inside there is no value. -/
theorem of_inside {call : Call ι} {held : Memo τ α}
    (h : History run first acts cell (some (call, held))) : cell = .spent := by
  cases h <;> rfl

/-- The cell shows the value that was put into it. -/
theorem peek_eq (h : History run first acts cell inside) : cell.peek = valueAfter first acts := by
  cases h with
  | untouched => simp [valueAfter]
  | running => rfl
  | computed => rfl
  | abandoned h =>
    rw [h.valueAfter_eq]
    rfl
  | settling call h =>
    rw [valueAfter_append, h.valueAfter_eq]
    rfl
  | settled call h =>
    rw [valueAfter_append, h.valueAfter_eq]
    rfl

theorem countP_runs_le (h : History run first acts cell inside) : acts.countP Act.runs ≤ 1 := by
  cases h with
  | untouched => simp
  | running => exact List.countP_le_length
  | computed => simp [List.countP_cons, Act.runs]
  | abandoned h => exact h.countP_runs_le
  | settling call h => simpa [Act.runs] using h.countP_runs_le
  | settled call h => simpa [Act.runs] using h.countP_runs_le

theorem countP_fails_le (h : History run first acts cell inside) : acts.countP Act.fails ≤ 1 := by
  cases h with
  | untouched => simp
  | running => exact List.countP_le_length
  | computed => simp [Act.fails]
  | abandoned h => exact h.countP_fails_le
  | settling call h => simpa [Act.fails] using h.countP_fails_le
  | settled call h => simpa [Act.fails] using h.countP_fails_le

/-- It is the cell's own computation that runs. -/
theorem first_of_entered (h : History run first acts cell inside) {call : Call ι} {thunk : τ}
    (hentered : .entered call (.pending thunk) ∈ acts) : first = .pending thunk := by
  cases h with
  | untouched => simp at hentered
  | running => simp_all
  | computed => simp_all
  | abandoned h => exact h.first_of_entered hentered
  | settling call h => exact h.first_of_entered (by simpa using hentered)
  | settled call h => exact h.first_of_entered (by simpa using hentered)

theorem of_failed (h : History run first acts cell inside) {call : Call ι} {failure : Failure}
    (hfailed : .failed call failure ∈ acts) :
    ∃ thunk state, .entered call (.pending thunk) ∈ acts ∧ (run thunk state).1 = .error failure := by
  cases h with
  | untouched => simp at hfailed
  | running => simp at hfailed
  | computed => simp at hfailed
  | abandoned h => exact h.of_failed hfailed
  | settling _ h =>
    obtain ⟨thunk, state, hentered, hrun⟩ := h.of_failed (by simpa using hfailed)
    exact ⟨thunk, state, List.mem_append_left _ hentered, hrun⟩
  | settled _ h =>
    obtain ⟨thunk, state, hentered, hrun⟩ := h.of_failed (by simpa using hfailed)
    exact ⟨thunk, state, List.mem_append_left _ hentered, hrun⟩

/-- Who puts a value into the cell was let in. -/
theorem entered_of_stored (h : History run first acts cell inside) {call : Call ι} {value : α}
    (hstored : .stored call value ∈ acts) : ∃ held, .entered call held ∈ acts := by
  cases h with
  | untouched => simp at hstored
  | running => simp at hstored
  | computed => simp_all
  | abandoned h => exact absurd hstored (h.stored_not_mem call value)
  | @settling _ acts _ h =>
    have hbefore : .stored call value ∈ acts := by simpa using hstored
    exact absurd hbefore (h.stored_not_mem call value)
  | settled other h =>
    obtain hbefore | ⟨rfl, -⟩ : _ ∨ _ ∧ _ := by simpa using hstored
    · exact absurd hbefore (h.stored_not_mem call value)
    · exact ⟨.spent, by simp⟩

/-- What is put into the cell is what the computation gave, or it is the default value, and then
there was no computation or it broke down. -/
theorem of_stored (h : History run first acts cell inside) {call : Call ι} {value : α}
    (hstored : .stored call value ∈ acts) :
    (∃ thunk state, .entered call (.pending thunk) ∈ acts ∧ (run thunk state).1 = .ok value ∧
        ∀ other failure, .failed other failure ∉ acts) ∨
      value = default ∧ (first = .spent ∨ ∃ call failure, .failed call failure ∈ acts) := by
  cases h with
  | untouched => simp at hstored
  | running => simp at hstored
  | @computed thunk state given other hrun =>
    have hact : call = other ∧ value = given := by simpa using hstored
    obtain ⟨rfl, rfl⟩ := hact
    exact .inl ⟨thunk, state, by simp, hrun, by simp⟩
  | abandoned h => exact absurd hstored (h.stored_not_mem call value)
  | @settling _ acts _ h =>
    have hbefore : .stored call value ∈ acts := by simpa using hstored
    exact absurd hbefore (h.stored_not_mem call value)
  | settled other h =>
    obtain hbefore | ⟨rfl, rfl⟩ : _ ∨ _ ∧ _ := by simpa using hstored
    · exact absurd hbefore (h.stored_not_mem call value)
    · refine .inr ⟨rfl, ?_⟩
      obtain hfirst | ⟨other, failure, hfailed⟩ := h.exists_failed
      · exact .inl hfirst
      · exact .inr ⟨other, failure, List.mem_append_left _ hfailed⟩

end History

end History

/-! ### Runs -/

section Runs

variable {ι σ τ α : Type} [DecidableEq ι] [Inhabited α]

/-- One act. Every thread may begin a read if it is not in one. Who reads may be let in if nobody
is inside and there is no value, and goes on with what was taken as a read alone would. The state in
which a computation runs is up to the rest of the world. -/
inductive Step (run : τ → σ → Except Failure α × σ) :
    Shared ι τ α → Act ι τ α → Shared ι τ α → Prop where
  | ask {shared : Shared ι τ α} (thread : ι) : (shared.readers thread).reading = false →
      Step run shared (.asked (shared.call thread)) (shared.ask thread)
  | enter {shared : Shared ι τ α} (thread : ι) : (shared.readers thread).reading = true →
      shared.inside = none → shared.cell.isComputed = false →
      Step run shared (.entered (shared.call thread) shared.cell)
        { shared with cell := shared.cell.taken, inside := some (shared.call thread, shared.cell) }
  | store {shared : Shared ι τ α} {call : Call ι} {held : Memo τ α} {value : α} (state : σ) :
      shared.inside = some (call, held) → (held.force run state).1.1 = .ok value →
      Step run shared (.stored call value) (shared.leave (held.force run state).2)
  | fail {shared : Shared ι τ α} {call : Call ι} {held : Memo τ α} {failure : Failure} (state : σ) :
      shared.inside = some (call, held) → (held.force run state).1.1 = .error failure →
      Step run shared (.failed call failure)
        ((shared.leave (held.force run state).2).finish call)
  | find {shared : Shared ι τ α} {value : α} (thread : ι) :
      (shared.readers thread).reading = true → shared.cell.peek = some value →
      Step run shared (.returned (shared.call thread) value) (shared.finish (shared.call thread))
  | peek {shared : Shared ι τ α} : Step run shared (.peeked shared.cell.peek) shared
  | check {shared : Shared ι τ α} : Step run shared (.checked shared.cell.isComputed) shared

/-- Any number of acts, oldest first. -/
inductive Run (run : τ → σ → Except Failure α × σ) (first : Shared ι τ α) :
    List (Act ι τ α) → Shared ι τ α → Prop where
  | nil : Run run first [] first
  | snoc {acts : List (Act ι τ α)} {shared last : Shared ι τ α} {act : Act ι τ α} :
      Run run first acts shared → Step run shared act last → Run run first (acts ++ [act]) last

variable {run : τ → σ → Except Failure α × σ}

/-- Only the read that is inside breaks down. -/
theorem Step.inside_of_failed {shared next : Shared ι τ α} {call : Call ι} {failure : Failure}
    (h : Step run shared (.failed call failure) next) :
    ∃ held, shared.inside = some (call, held) := by
  cases h with
  | fail state hinside => exact ⟨_, hinside⟩

/-- A run that is cut at one of its acts. -/
theorem Run.split {first last : Shared ι τ α} {before after : List (Act ι τ α)} {act : Act ι τ α}
    (h : Run run first (before ++ act :: after) last) :
    ∃ shared next, Run run first before shared ∧ Step run shared act next := by
  generalize hacts : before ++ act :: after = acts at h
  induction h generalizing after with
  | nil => simp at hacts
  | @snoc acts shared last final hrun hstep ih =>
    rcases List.eq_nil_or_concat after with rfl | ⟨rest, other, rfl⟩
    · obtain ⟨rfl, hact⟩ := List.append_inj' hacts rfl
      cases hact
      exact ⟨shared, last, hrun, hstep⟩
    · have hsplit : before ++ act :: rest ++ [other] = acts ++ [final] := by
        rw [← hacts]
        simp
      exact ih (List.append_inj' hsplit rfl).1

/-- One act takes the history of the cell one step further, if it has to do with the cell. -/
theorem History.step {first : Memo τ α} {acts : List (Act ι τ α)} {shared next : Shared ι τ α}
    {act : Act ι τ α} (h : History run first (milestones acts) shared.cell shared.inside)
    (hstep : Step run shared act next) :
    History run first (milestones (acts ++ [act])) next.cell next.inside := by
  rw [milestones_append]
  cases hstep with
  | ask => exact h
  | find => exact h
  | peek => exact h
  | check => exact h
  | enter thread _ hinside hcell =>
    rw [hinside] at h
    cases hheld : shared.cell with
    | pending thunk =>
      -- a computation is only there as long as nobody was let in
      rw [hheld] at h
      obtain ⟨rfl, hnone⟩ := h.of_pending
      rw [hnone]
      exact .running thunk _
    | spent =>
      rw [hheld] at h
      exact .settling _ h.of_spent
    | ready value =>
      rw [hheld] at hcell
      cases hcell
  | @store call held value state hinside hok =>
    have hready : (held.force run state).2 = .ready value := force_of_ok hok
    rw [hinside] at h
    show History run first (milestones acts ++ [.stored call value]) (held.force run state).2 none
    rw [hready]
    generalize milestones acts = history at h
    generalize shared.cell = cell at h
    cases h with
    | running thunk call =>
      rw [force_pending_answer] at hok
      exact .computed call hok
    | settling call h =>
      rw [force_spent] at hok
      cases hok
      rw [List.append_assoc]
      exact .settled call h
  | @fail call held failure state hinside herror =>
    obtain ⟨hspent, thunk, rfl, hrun⟩ := force_of_error herror
    rw [hinside] at h
    show History run first (milestones acts ++ [.failed call failure])
      ((Memo.pending thunk).force run state).2 none
    rw [hspent]
    generalize milestones acts = history at h
    generalize shared.cell = cell at h
    cases h with
    | running thunk call => exact .abandoned (.broken call hrun)

theorem Run.history {first : Memo τ α} {acts : List (Act ι τ α)} {last : Shared ι τ α}
    (h : Run run (.start first) acts last) :
    History run first (milestones acts) last.cell last.inside := by
  induction h with
  | nil => exact .untouched first
  | snoc _ hstep ih => exact ih.step hstep

theorem Run.peek_eq {first : Memo τ α} {acts : List (Act ι τ α)} {last : Shared ι τ α}
    (h : Run run (.start first) acts last) : last.cell.peek = valueAfter first acts := by
  rw [h.history.peek_eq, valueAfter_milestones]

/-- When a read breaks down there is no value yet. -/
theorem Run.valueAfter_of_failed {first : Memo τ α} {before after : List (Act ι τ α)}
    {last : Shared ι τ α} {call : Call ι} {failure : Failure}
    (h : Run run (.start first) (before ++ .failed call failure :: after) last) :
    valueAfter first before = none := by
  obtain ⟨shared, next, hbefore, hstep⟩ := h.split
  obtain ⟨held, hinside⟩ := hstep.inside_of_failed
  have hhistory := hbefore.history
  rw [hinside] at hhistory
  rw [← hbefore.peek_eq, hhistory.of_inside]
  rfl

/-- Threads that read have asked to. -/
theorem Run.asked_of_reading {first : Memo τ α} {acts : List (Act ι τ α)} {last : Shared ι τ α}
    (h : Run run (.start first) acts last) {thread : ι}
    (hreading : (last.readers thread).reading = true) : .asked (last.call thread) ∈ acts := by
  have hfinish (shared : Shared ι τ α) (call : Call ι)
      (h : ((shared.finish call).readers thread).reading = true) :
      (shared.readers thread).reading = true ∧
        (shared.finish call).call thread = shared.call thread := by
    have hthread : thread ≠ call.thread := by
      rintro rfl
      rw [shared.reading_finish] at h
      cases h
    rw [shared.readers_finish_ne hthread] at h
    refine ⟨h, ?_⟩
    rw [Shared.call, shared.readers_finish_ne hthread, Shared.call]
  induction h with
  | nil => cases hreading
  | @snoc acts shared last act _ hstep ih =>
    cases hstep with
    | ask asking =>
      rw [shared.call_ask]
      by_cases hthread : thread = asking
      · subst hthread
        exact List.mem_append_right _ (List.mem_singleton_self _)
      · rw [shared.readers_ask_ne hthread] at hreading
        exact List.mem_append_left _ (ih hreading)
    | enter => exact List.mem_append_left _ (ih hreading)
    | store => exact List.mem_append_left _ (ih hreading)
    | fail =>
      obtain ⟨hbefore, hcall⟩ := hfinish _ _ hreading
      rw [hcall]
      exact List.mem_append_left _ (ih hbefore)
    | find =>
      obtain ⟨hbefore, hcall⟩ := hfinish _ _ hreading
      rw [hcall]
      exact List.mem_append_left _ (ih hbefore)
    | peek => exact List.mem_append_left _ (ih hreading)
    | check => exact List.mem_append_left _ (ih hreading)

/-- Who is let in has asked to read. -/
theorem Run.asked_of_entered {first : Memo τ α} {acts : List (Act ι τ α)} {last : Shared ι τ α}
    (h : Run run (.start first) acts last) {call : Call ι} {held : Memo τ α}
    (hentered : .entered call held ∈ acts) : .asked call ∈ acts := by
  obtain ⟨before, after, rfl⟩ := List.mem_iff_append.mp hentered
  obtain ⟨shared, next, hbefore, hstep⟩ := h.split
  cases hstep with
  | enter _ hreading => exact List.mem_append_left _ (hbefore.asked_of_reading hreading)

/-- What can be said of a cell and what was done with it. -/
structure Account (run : τ → σ → Except Failure α × σ) (first : Memo τ α)
    (acts : List (Act ι τ α)) (last : Memo τ α) : Prop where
  /-- The computation runs at most once. -/
  runs_once : acts.countP Act.runs ≤ 1
  /-- It is the cell's own, and only a read runs it. -/
  runs_in_read : ∀ {call thunk}, .entered call (.pending thunk) ∈ acts →
    first = .pending thunk ∧ .asked call ∈ acts
  /-- All reads that return do so with the one value of the cell. -/
  returned_eq : ∀ {call value}, .returned call value ∈ acts → valueAfter first acts = some value
  /-- The cell had this value from the start, or it is what the computation gave, or it is the default
  value, and then there was no computation or it broke down. -/
  value_eq : ∀ {value}, valueAfter first acts = some value →
    first = .ready value ∨
      (∃ call thunk state, .entered call (.pending thunk) ∈ acts ∧
        (run thunk state).1 = .ok value ∧ ∀ other failure, .failed other failure ∉ acts) ∨
      value = default ∧ (first = .spent ∨ ∃ call failure, .failed call failure ∈ acts)
  /-- At most one read breaks down. -/
  fails_once : acts.countP Act.fails ≤ 1
  /-- It is the one that ran the computation. -/
  failed_ran : ∀ {call failure}, .failed call failure ∈ acts →
    ∃ thunk state, .entered call (.pending thunk) ∈ acts ∧ (run thunk state).1 = .error failure
  /-- Only reads put values into the cell. -/
  stored_in_read : ∀ {call value}, .stored call value ∈ acts → .asked call ∈ acts
  /-- After a breakdown there is no value until a read puts one into the cell. -/
  failed_pending : ∀ {before after call failure}, acts = before ++ .failed call failure :: after →
    (∀ call value, .stored call value ∉ after) → last.isComputed = false
  peeked_eq : ∀ {before after found}, acts = before ++ .peeked found :: after →
    found = valueAfter first before
  checked_eq : ∀ {before after computed}, acts = before ++ .checked computed :: after →
    computed = (valueAfter first before).isSome
  /-- Once there is a value, it stays. -/
  ready : ∀ {before after value}, acts = before ++ after → valueAfter first before = some value →
    last = .ready value

/-- Whatever threads do with a cell, in whatever order: its computation runs at most once and in a
read, all reads that return have the same value, and at most one of them breaks down, the one that
ran the computation. -/
theorem account_of_run {first : Memo τ α} {acts : List (Act ι τ α)} {last : Shared ι τ α}
    (h : Run run (.start first) acts last) : Account run first acts last.cell where
  runs_once := by
    rw [← countP_milestones fun _ => Act.isMilestone_of_runs]
    exact h.history.countP_runs_le
  runs_in_read hentered :=
    ⟨h.history.first_of_entered ((mem_milestones rfl).mpr hentered), h.asked_of_entered hentered⟩
  returned_eq {call value} hreturned := by
    obtain ⟨before, after, rfl⟩ := List.mem_iff_append.mp hreturned
    obtain ⟨shared, next, hbefore, hstep⟩ := h.split
    cases hstep with
    | find thread _ hpeek =>
      rw [hbefore.peek_eq] at hpeek
      rw [valueAfter_append, hpeek, Option.some_or]
  value_eq {value} hvalue := by
    rw [← valueAfter_milestones] at hvalue
    obtain hfirst | ⟨call, hstored⟩ := eq_ready_or_stored hvalue
    · exact .inl hfirst
    obtain ⟨thunk, state, hentered, hrun, hnever⟩ | ⟨rfl, hfirst | ⟨call, failure, hfailed⟩⟩ :=
      h.history.of_stored hstored
    · refine .inr (.inl ⟨call, thunk, state, (mem_milestones rfl).mp hentered, hrun, ?_⟩)
      intro other failure hother
      exact hnever other failure ((mem_milestones rfl).mpr hother)
    · exact .inr (.inr ⟨rfl, .inl hfirst⟩)
    · exact .inr (.inr ⟨rfl, .inr ⟨call, failure, (mem_milestones rfl).mp hfailed⟩⟩)
  fails_once := by
    rw [← countP_milestones fun _ => Act.isMilestone_of_fails]
    exact h.history.countP_fails_le
  failed_ran hfailed := by
    obtain ⟨thunk, state, hentered, hrun⟩ := h.history.of_failed ((mem_milestones rfl).mpr hfailed)
    exact ⟨thunk, state, (mem_milestones rfl).mp hentered, hrun⟩
  stored_in_read hstored := by
    obtain ⟨held, hentered⟩ := h.history.entered_of_stored ((mem_milestones rfl).mpr hstored)
    exact h.asked_of_entered ((mem_milestones rfl).mp hentered)
  failed_pending := by
    rintro before after call failure rfl hafter
    have hnone : valueAfter first before = none := h.valueAfter_of_failed
    have hnever : after.findSome? Act.stored? = none := by
      refine List.findSome?_eq_none_iff.mpr fun act hact => ?_
      cases act with
      | stored call value => exact absurd hact (hafter call value)
      | _ => rfl
    rw [isComputed, h.peek_eq, valueAfter_append, hnone, Option.none_or, List.findSome?_cons, hnever]
    rfl
  peeked_eq := by
    rintro before after found rfl
    obtain ⟨shared, next, hbefore, hstep⟩ := h.split
    cases hstep with
    | peek => exact hbefore.peek_eq
  checked_eq := by
    rintro before after found rfl
    obtain ⟨shared, next, hbefore, hstep⟩ := h.split
    cases hstep with
    | check => rw [isComputed, hbefore.peek_eq]
  ready := by
    rintro before after value rfl hvalue
    have hpeek := h.peek_eq
    rw [valueAfter_append, hvalue, Option.some_or] at hpeek
    exact peek_eq_some_iff.mp hpeek

/-- A read that no other thread comes between does what `force` does. -/
theorem exists_run_force {shared : Shared ι τ α} {thread : ι} (state : σ)
    (hthread : (shared.readers thread).reading = false) (hinside : shared.inside = none) :
    ∃ acts act last, Run run shared (acts ++ [act]) last ∧
      last.cell = (shared.cell.force run state).2 ∧
      act = match (shared.cell.force run state).1.1 with
        | .ok value => .returned (shared.call thread) value
        | .error failure => .failed (shared.call thread) failure := by
  have hasked : Run run shared ([] ++ [.asked (shared.call thread)]) (shared.ask thread) :=
    .snoc .nil (.ask thread hthread)
  have hreading : ((shared.ask thread).readers thread).reading = true := by
    simp [Shared.ask, Shared.setReader]
  have hcall : (shared.ask thread).call thread = shared.call thread := shared.call_ask thread thread
  cases hcomputed : shared.cell.isComputed with
  | true =>
    obtain ⟨value, hpeek⟩ := Option.isSome_iff_exists.mp hcomputed
    have hready : shared.cell = .ready value := peek_eq_some_iff.mp hpeek
    have hfound := hasked.snoc (.find thread hreading hpeek)
    rw [hready, force_ready]
    exact ⟨_, _, _, hfound, hready, by rw [hcall]⟩
  | false =>
    have hentered := hasked.snoc (.enter thread hreading hinside hcomputed)
    cases hanswer : (shared.cell.force run state).1.1 with
    | ok value =>
      have hstored := hentered.snoc (.store state rfl hanswer)
      have hpeek : (shared.cell.force run state).2.peek = some value :=
        peek_eq_some_iff.mpr (force_of_ok hanswer)
      have hreturned := hstored.snoc (.find thread hreading hpeek)
      refine ⟨_, _, _, hreturned, rfl, ?_⟩
      rw [← hcall]
      rfl
    | error failure =>
      have hfailed := hentered.snoc (.fail state rfl hanswer)
      exact ⟨_, _, _, hfailed, rfl, by rw [hcall]⟩

end Runs

/-- Two threads read a cell whose computation breaks down. The first runs it and fails. The second
waits, is let in then and finds the default value, which stays. -/
theorem account_of_run_sample :
    let run (_ : Unit) (_ : Unit) : Except Failure Nat × Unit := (.error ⟨"boom"⟩, ())
    let acts : List (Act Nat Unit Nat) :=
      [.asked ⟨0, 0⟩, .asked ⟨1, 0⟩, .entered ⟨0, 0⟩ (.pending ()), .peeked none,
        .failed ⟨0, 0⟩ ⟨"boom"⟩, .checked false, .entered ⟨1, 0⟩ .spent, .asked ⟨0, 1⟩,
        .stored ⟨1, 0⟩ 0, .returned ⟨0, 1⟩ 0, .returned ⟨1, 0⟩ 0]
    ∃ last, Run run (.start (.pending ())) acts last ∧
      Account run (.pending ()) acts last.cell ∧ last.cell = .ready 0 := by
  intro run acts
  have hstart : Run run (.start (.pending ()) : Shared Nat Unit Nat) [] _ := .nil
  have hasked := (hstart.snoc (.ask 0 rfl)).snoc (.ask 1 rfl)
  have hfailed := ((hasked.snoc (.enter 0 rfl rfl rfl)).snoc .peek).snoc (.fail () rfl rfl)
  have hentered := ((hfailed.snoc .check).snoc (.enter 1 rfl rfl rfl)).snoc (.ask 0 rfl)
  have hreturned := ((hentered.snoc (.store () rfl rfl)).snoc (.find 0 rfl rfl)).snoc
    (.find 1 rfl rfl)
  exact ⟨_, hreturned, account_of_run hreturned, rfl⟩

end ScopeWalk.Memo
