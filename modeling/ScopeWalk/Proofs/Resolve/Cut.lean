import ScopeWalk.Proofs.Feed.Calls

/-!
# Where collecting stops

Collecting stops at the first boundary with an accepted candidate somewhere before it, and
nowhere else. The accepted candidates before this cut are what is collected.

Whether a boundary is the cut depends on what was collected so far. The invariant of a run is
that something was collected just if something accepted came before, so it is enough to follow
that one bit.
-/
namespace ScopeWalk

/-! ### The first place -/

/-- The first place whose element has a property, given the elements before it. -/
def firstWith (p : List α → α → Bool) (list : List α) : Option Nat :=
  (List.range list.length).find? fun place => list[place]?.any (p (list.take place))

/-- The elements before a place, or all of them. -/
def upTo (place : Option Nat) (list : List α) : List α := list.take (place.getD list.length)

@[simp] theorem firstWith_nil (p : List α → α → Bool) : firstWith p [] = none := rfl

theorem firstWith_cons (p : List α → α → Bool) (first : α) (rest : List α) :
    firstWith p (first :: rest) =
      if p [] first then some 0 else
        (firstWith (fun before => p (first :: before)) rest).map (· + 1) := by
  have hlater : (fun place => (first :: rest)[place]?.any (p ((first :: rest).take place))) ∘
      Nat.succ = fun place => rest[place]?.any (p (first :: rest.take place)) := by
    funext place
    simp
  simp only [firstWith, List.length_cons, List.range_succ_eq_map, List.find?_cons, List.find?_map,
    hlater]
  cases hfirst : p [] first with
  | true => simp [hfirst]
  | false => simp [hfirst]

@[simp] theorem upTo_none (list : List α) : upTo none list = list := List.take_length

@[simp] theorem upTo_zero (list : List α) : upTo (some 0) list = [] := rfl

@[simp] theorem upTo_succ (place : Option Nat) (first : α) (rest : List α) :
    upTo (place.map (· + 1)) (first :: rest) = first :: upTo place rest := by
  cases place with
  | none => simp
  | some place => rfl

/-! ### The cut -/

/-- The first boundary with a match before it. If `armed`, there was a match before all of these
offers already. -/
def cut? (isMatch : ε → Bool) (armed : Bool) (offers : List (Offer ε)) : Option Nat :=
  firstWith (fun before offer =>
    offer.isGlobBoundary && (armed || before.any (·.candidate?.any isMatch))) offers

/-- The offers before the cut. -/
def heard (isMatch : ε → Bool) (armed : Bool) (offers : List (Offer ε)) : List (Offer ε) :=
  upTo (cut? isMatch armed offers) offers

/-- The calls of a visitor that lets all of `offers` pass, and then may stop at a boundary. -/
def callsThrough (offers : List (Offer ε)) (stopped : Bool) : Calls ε :=
  offers.map (·, false) ++ if stopped then [(.globBoundary, true)] else []

/-- The calls of a visitor that stops at the cut and never before. -/
def callsUpToCut (isMatch : ε → Bool) (armed : Bool) (offers : List (Offer ε)) : Calls ε :=
  callsThrough (heard isMatch armed offers) (cut? isMatch armed offers).isSome

/-- The candidates among some offers. -/
def candidatesOf (offers : List (Offer ε)) : List ε := offers.filterMap Offer.candidate?

section Candidates

variable (first second : List (Offer ε))

@[simp] theorem candidatesOf_nil : candidatesOf ([] : List (Offer ε)) = [] := rfl

@[simp] theorem candidatesOf_boundary :
    candidatesOf (.globBoundary :: first) = candidatesOf first := rfl

@[simp] theorem candidatesOf_candidate (entry : ε) :
    candidatesOf (.candidate entry :: first) = entry :: candidatesOf first := rfl

@[simp] theorem candidatesOf_append :
    candidatesOf (first ++ second) = candidatesOf first ++ candidatesOf second :=
  List.filterMap_append

@[simp] theorem candidatesOf_map_candidate (entries : List ε) :
    candidatesOf (entries.map .candidate) = entries := by
  induction entries with
  | nil => rfl
  | cons entry rest ih => rw [List.map_cons, candidatesOf_candidate, ih]

theorem callsThrough_append (stopped : Bool) :
    callsThrough (first ++ second) stopped =
      first.map (·, false) ++ callsThrough second stopped := by
  simp [callsThrough]

theorem candidatesOf_callsThrough (stopped : Bool) :
    candidatesOf ((callsThrough first stopped).map Prod.fst) = candidatesOf first := by
  have hfirst : (first.map (·, false)).map Prod.fst = first := by simp [Function.comp_def]
  rw [callsThrough, List.map_append, candidatesOf_append, hfirst]
  cases stopped <;> simp

end Candidates

section Cut

variable (isMatch : ε → Bool) (armed : Bool) (rest : List (Offer ε))

theorem cut?_nil : cut? isMatch armed [] = none := rfl

theorem cut?_boundary : cut? isMatch armed (.globBoundary :: rest) =
    if armed then some 0 else (cut? isMatch armed rest).map (· + 1) := by
  simp [cut?, firstWith_cons, Offer.isGlobBoundary, Offer.candidate?]

theorem cut?_candidate (entry : ε) : cut? isMatch armed (.candidate entry :: rest) =
    (cut? isMatch (armed || isMatch entry) rest).map (· + 1) := by
  simp [cut?, firstWith_cons, Offer.isGlobBoundary, Offer.candidate?, Bool.or_assoc]

theorem heard_nil : heard isMatch armed [] = [] := rfl

theorem heard_boundary : heard isMatch armed (.globBoundary :: rest) =
    if armed then [] else .globBoundary :: heard isMatch armed rest := by
  cases armed <;> simp [heard, cut?_boundary]

theorem heard_candidate (entry : ε) : heard isMatch armed (.candidate entry :: rest) =
    .candidate entry :: heard isMatch (armed || isMatch entry) rest := by
  simp [heard, cut?_candidate]

theorem callsUpToCut_nil : callsUpToCut isMatch armed [] = [] := rfl

theorem callsUpToCut_boundary : callsUpToCut isMatch armed (.globBoundary :: rest) =
    if armed then [(.globBoundary, true)] else
      (.globBoundary, false) :: callsUpToCut isMatch armed rest := by
  cases armed <;> simp [callsUpToCut, callsThrough, heard_boundary, cut?_boundary]

theorem callsUpToCut_candidate (entry : ε) : callsUpToCut isMatch armed (.candidate entry :: rest) =
    (.candidate entry, false) :: callsUpToCut isMatch (armed || isMatch entry) rest := by
  simp [callsUpToCut, callsThrough, heard_candidate, cut?_candidate]

/-- Candidates alone are never cut off. -/
theorem callsUpToCut_candidates (entries : List ε) :
    callsUpToCut isMatch armed (entries.map .candidate ++ rest) =
      (entries.map .candidate).map (·, false) ++
        callsUpToCut isMatch (armed || entries.any isMatch) rest := by
  induction entries generalizing armed with
  | nil => simp
  | cons entry entries ih =>
    rw [List.map_cons, List.cons_append, callsUpToCut_candidate, ih]
    simp [Bool.or_assoc]

/-- The candidates before the cut are those in the calls. -/
theorem candidatesOf_heard (offers : List (Offer ε)) :
    candidatesOf (heard isMatch armed offers) =
      candidatesOf ((callsUpToCut isMatch armed offers).map Prod.fst) :=
  (candidatesOf_callsThrough _ _).symm

theorem candidatesOf_heard_map_candidate (entries : List ε) :
    candidatesOf (heard isMatch armed (entries.map .candidate)) = entries := by
  have hcalls := callsUpToCut_candidates isMatch armed [] entries
  rw [List.append_nil, callsUpToCut_nil, List.append_nil] at hcalls
  rw [candidatesOf_heard, hcalls]
  simp [Function.comp_def]

theorem candidatesOf_heard_subset (offers : List (Offer ε)) :
    candidatesOf (heard isMatch armed offers) ⊆ candidatesOf offers := by
  intro entry hentry
  obtain ⟨offer, hoffer, hcandidate⟩ := List.mem_filterMap.mp hentry
  exact List.mem_filterMap.mpr ⟨offer, List.mem_of_mem_take hoffer, hcandidate⟩

end Cut

end ScopeWalk
