import Mathlib.Data.List.Nodup
import ScopeWalk.Proofs.Completion.Suggesting
import ScopeWalk.Proofs.Text.ByteOrder

/-!
# What is shown to someone typing

What is of use in a module, worth suggesting, and begins with what was typed is shown in order: by
how urgent it is, then by label, and otherwise as it was offered. If no two suggestions agree in
urgency and label, it does not matter in which order the candidates are offered.
-/
namespace ScopeWalk

open Candidate

/-! ### Sorting -/

section Sorting

variable {α : Type} {le : α → α → Bool} (trans : ∀ a b c, le a b → le b c → le a c)
  (total : ∀ a b, le a b || le b a)
include trans total

/-- What is as good as each other stays in the order in which it is. -/
theorem filter_mergeSort {p : α → Bool} (alike : ∀ a b, p a → p b → le a b) (list : List α) :
    (list.mergeSort le).filter p = list.filter p := by
  have hpairwise : (list.filter p).Pairwise fun a b => le a b := by
    refine List.pairwise_of_forall_mem_list fun a ha b hb => ?_
    exact alike a b (List.mem_filter.mp ha).2 (List.mem_filter.mp hb).2
  -- a part that is in order already is still there after sorting
  have hsublist := (List.sublist_mergeSort trans total hpairwise List.filter_sublist).filter p
  simp only [List.filter_filter, Bool.and_self] at hsublist
  have hlength := ((List.mergeSort_perm list le).filter p).length_eq
  exact (hsublist.eq_of_length hlength.symm).symm

/-- If no two are as good as each other, the order in which they are makes no difference. -/
theorem mergeSort_eq_of_perm {list other : List α} (hperm : list.Perm other)
    (distinct : ∀ a ∈ list, ∀ b ∈ list, le a b → le b a → a = b) :
    list.mergeSort le = other.mergeSort le := by
  have hlist := List.mergeSort_perm list le
  have hother := List.mergeSort_perm other le
  refine List.Perm.eq_of_pairwise (fun a b ha hb => ?_) (List.pairwise_mergeSort trans total list)
    (List.pairwise_mergeSort trans total other) (hlist.trans (hperm.trans hother.symm))
  exact distinct a (hlist.subset ha) b (hperm.symm.subset (hother.subset hb))

end Sorting

/-! ### The order of suggestions -/

namespace Shortlist

theorem precedes_iff {a b : Suggestion} : precedes a b ↔ a.priority < b.priority ∨
    a.priority = b.priority ∧ ¬ Text.bytes b.label.chars < Text.bytes a.label.chars := by
  simp [precedes, ← Name.compare_eq_gt_iff]

theorem precedes_total (a b : Suggestion) : precedes a b || precedes b a := by
  rw [Bool.or_eq_true, precedes_iff, precedes_iff]
  obtain h | h | h := Nat.lt_trichotomy a.priority b.priority
  · exact .inl (.inl h)
  · by_cases hlabel : Text.bytes b.label.chars < Text.bytes a.label.chars
    · exact .inr (.inr ⟨h.symm, List.lt_asymm hlabel⟩)
    · exact .inl (.inr ⟨h, hlabel⟩)
  · exact .inr (.inl h)

theorem precedes_trans (a b c : Suggestion) (hab : precedes a b) (hbc : precedes b c) :
    precedes a c := by
  rw [precedes_iff] at *
  obtain hlt | ⟨heq, hlabel⟩ := hab
  · obtain hlt' | ⟨heq', -⟩ := hbc <;> exact .inl (by omega)
  · obtain hlt' | ⟨heq', hlabel'⟩ := hbc
    · exact .inl (by omega)
    · refine .inr ⟨heq.trans heq', ?_⟩
      rw [List.not_lt] at *
      exact List.le_trans hlabel hlabel'

/-- Only suggestions of equal priority and with equal labels precede each other. -/
theorem eq_of_precedes {a b : Suggestion} (hab : precedes a b) (hba : precedes b a) :
    a.priority = b.priority ∧ a.label = b.label := by
  rw [precedes_iff, Text.bytes_lt_iff] at hab hba
  obtain hlt | ⟨hpriority, hlabel⟩ := hab
  · omega
  · obtain hlt | ⟨-, hlabel'⟩ := hba
    · omega
    · rw [List.not_lt] at hlabel hlabel'
      exact ⟨hpriority, Name.chars_inj.mp (List.le_antisymm hlabel hlabel')⟩

theorem precedes_of_eq {a b : Suggestion} (hpriority : a.priority = b.priority)
    (hlabel : a.label = b.label) : precedes a b := by
  rw [precedes_iff, hlabel]
  exact .inr ⟨hpriority, List.lt_irrefl _⟩

/-- If no two suggestions agree in priority and label, sorting them does not depend on the order in
which they came. -/
theorem mergeSort_precedes_eq_of_perm {items others : List Suggestion} (hperm : items.Perm others)
    (distinct :
      ((items.mergeSort precedes).map fun item => (item.priority, item.label)).Nodup) :
    items.mergeSort precedes = others.mergeSort precedes := by
  have hsorted := List.mergeSort_perm items precedes
  refine mergeSort_eq_of_perm precedes_trans precedes_total hperm fun a ha b hb hab hba => ?_
  obtain ⟨hpriority, hlabel⟩ := eq_of_precedes hab hba
  exact List.inj_on_of_nodup_map distinct (hsorted.mem_iff.mpr ha) (hsorted.mem_iff.mpr hb)
    (Prod.ext hpriority hlabel)

theorem foldl_add (list : Shortlist) (items : List Suggestion) :
    items.foldl add list = { list with
      suggestions := list.suggestions ++ items.filter (accepts list.typed ·.label.chars) } := by
  induction items generalizing list with
  | nil => simp
  | cons item rest ih =>
    rw [List.foldl_cons, ih, add]
    split <;> simp [*]

end Shortlist

/-- Locals are the most urgent, then what the module itself declares, then what is of the kind
expected. -/
theorem CompletionSite.of_priority_le {site : CompletionSite} {a b : Decl}
    (h : site.priority a ≤ site.priority b) :
    (b.visibility.isNone → a.visibility.isNone) ∧
    (b.module.same site.module → a.visibility.isNone ∨ a.module.same site.module) ∧
    (site.expected = some (.ofDecl b.kind) → a.visibility.isNone ∨ a.module.same site.module ∨
      site.expected = some (.ofDecl a.kind)) := by
  simp only [priority, Priority.localBinding, Priority.sameModule, Priority.expectedKind,
    Priority.other] at h
  refine ⟨fun hb => ?_, fun hb => ?_, fun hb => ?_⟩ <;> grind

/-! ### Breakdowns -/

namespace Query

variable {σ : Type} (add : σ → Suggestion → σ) (start : σ) (site : CompletionSite)
  (importer : Module)

theorem exists_answer_step_within {entry : Entry} {store : Store}
    (unbroken : failureIn? store entry = none) (kept : σ) :
    ∃ next, (Step.within (some importer) (suggest add start site).step (.candidate entry)
      kept).answer store = .ok (false, next) := by
  cases hoffered : (elementIn store entry).all (·.isOfferedIn importer) with
  | false =>
    exact ⟨_, congrArg Prod.fst (Step.within_run_of_hidden importer _ kept unbroken hoffered)⟩
  | true =>
    rw [Step.answer_within_of_offered importer _ kept unbroken
      (suggest_step_steady add start site _ kept) hoffered]
    exact ⟨_, answer_step_suggest add start site (failureIn?_settledIn unbroken) kept⟩

/-- Completion within a module breaks down as the first candidate does that breaks down. The
induction is on the offers. -/
theorem answer_visit_suggest_within_error {offers : List (Offer Entry)} {store : Store}
    {failure : Failure} (h : (candidatesOf offers).findSome? (failureIn? store) = some failure)
    (kept : σ) :
    (Step.visit (Step.within (some importer) (suggest add start site).step) offers kept).answer
      store = .error failure := by
  induction offers generalizing kept store with
  | nil => cases h
  | cons offer rest ih =>
    cases offer with
    | globBoundary => exact (Step.answer_visit_next rfl).trans (ih h kept)
    | candidate entry =>
      rw [candidatesOf_candidate, List.findSome?_cons] at h
      cases hentry : failureIn? store entry with
      | some first =>
        -- the filter asks for the element, even if the suggestion would be left out
        rw [hentry] at h
        cases h
        have hforce := answer_force store entry
        rw [hentry, Option.elim_some] at hforce
        have hstep : (Step.within (some importer) (suggest add start site).step (.candidate entry)
            kept).answer store = .error failure :=
          congrArg Prod.fst (Walk.run_bind_error _ hforce)
        exact congrArg Prod.fst (Step.visit_run_error hstep)
      | none =>
        rw [hentry] at h
        obtain ⟨next, hstep⟩ := exists_answer_step_within add start site importer hentry kept
        have hroots := (Step.within_steady (suggest_step_steady add start site) (some importer) _
          kept).sameRoots hstep
        rw [Step.answer_visit_next hstep]
        have hfailures := funext fun entry : Entry => failureIn?_congr hroots entry
        exact ih (hfailures ▸ h) next

end Query

/-! ### From the feed to the list -/

/-- The declaration is suggested in a module: it is visible there or has no visibility, is the
module's own if it is hidden from documentation, is in the build and is no test. -/
def Decl.isShownIn (importer : Module) (decl : Decl) : Bool :=
  (decl.isVisibleFrom importer.path).getD true && (!decl.isDocHidden || decl.module.same importer) &&
    decl.isEnabled && !decl.isTestFunction

/-- It passes the filter of the module, and then completion does not leave it out. -/
theorem Decl.isShownIn_eq (importer : Module) (decl : Decl) : decl.isShownIn importer =
    (decl.isOfferedWithin (some importer) && decl.isSuggested) := by
  have hvisible (visible? : Option Bool) : visible?.getD true = (visible? != some false) := by
    obtain _ | _ | _ := visible? <;> rfl
  simp [isShownIn, hvisible, isOfferedWithin, isOfferedIn, isSuggested, Bool.and_assoc,
    Bool.and_left_comm, Bool.and_comm]

namespace Shortlist

/-- What is shown to someone who typed some text, of a feed that is kept to what is of use in a
module. -/
def shown (importer : Module) (site : CompletionSite) (typed : List Char)
    (feed : Feed (StateT Shortlist Walk) Entry) : Walk (List Suggestion) :=
  sorted <$> suggest add (.empty typed) site (feed.visibleFrom importer)

/-- The candidates that are suggested in a module and whose names begin with what was typed, each
with its element. -/
def hits (importer : Module) (typed : List Char) (store : Store) (entries : List Entry) :
    List (Entry × Element) :=
  (hitsOf (·.isShownIn importer) store entries).filter fun hit => accepts typed hit.1.name.chars

section Shown

variable (importer : Module) (site : CompletionSite) (typed : List Char)
  (offers : List (Offer Entry)) (store : Store)

theorem hits_perm {entries others : List Entry} (h : entries.Perm others) :
    (hits importer typed store entries).Perm (hits importer typed store others) :=
  (h.filterMap _).filter _

theorem hits_congr {store other : Store} (h : store.SameRoots other) :
    hits importer typed store = hits importer typed other := by
  funext entries
  rw [hits, hits, hitsOf_congr h]

/-- What is shown are the suggestions for the hits, sorted, unless a candidate breaks down. -/
theorem answer_shown : (shown importer site typed (.ofList offers)).answer store =
    ((candidatesOf offers).findSome? (failureIn? store)).elim
      (.ok (((hits importer typed store (candidatesOf offers)).map fun hit =>
        Suggestion.ofEntry site hit.1 hit.2.toDecl).mergeSort precedes)) .error := by
  let query : Query Shortlist := .suggest add (.empty typed) site
  have hshown : shown importer site typed (.ofList offers) =
      (fun result => sorted result.2) <$>
        Step.visit (Step.within (some importer) query.step) offers (.empty typed) := by
    show sorted <$> query.run Walk ((Feed.ofList offers).within (some importer)) = _
    rw [query.run_within, Functor.map_map]
    rfl
  rw [hshown, map_eq_pure_bind, Walk.answer_bind_pure]
  cases hfailure : (candidatesOf offers).findSome? (failureIn? store) with
  | some failure =>
    rw [Query.answer_visit_suggest_within_error add (.empty typed) site importer hfailure]
    rfl
  | none =>
    have hunbroken := List.findSome?_eq_none_iff.mp hfailure
    rw [answer_visit_suggest_within (some importer) hunbroken add, foldl_add, List.filter_map]
    simp only [← Decl.isShownIn_eq]
    rfl

variable {importer site typed offers store}

/-- If no two of the suggestions shown agree in priority and label, the order of the offers makes no
difference, nor do boundaries and what was known of the candidates before. -/
theorem answer_shown_of_perm {others : List (Offer Entry)} {other : Store}
    {items : List Suggestion} (hperm : (candidatesOf offers).Perm (candidatesOf others))
    (hroots : store.SameRoots other)
    (hitems : (shown importer site typed (.ofList offers)).answer store = .ok items)
    (distinct : (items.map fun item => (item.priority, item.label)).Nodup) :
    (shown importer site typed (.ofList others)).answer other = .ok items := by
  rw [answer_shown] at hitems ⊢
  cases hfailure : (candidatesOf offers).findSome? (failureIn? store) with
  | some failure =>
    rw [hfailure] at hitems
    cases hitems
  | none =>
    rw [hfailure] at hitems
    cases hitems
    have hunbroken : (candidatesOf others).findSome? (failureIn? other) = none := by
      refine List.findSome?_eq_none_iff.mpr fun entry hentry => ?_
      rw [← failureIn?_congr hroots]
      exact List.findSome?_eq_none_iff.mp hfailure entry (hperm.mem_iff.mpr hentry)
    rw [hunbroken, ← hits_congr importer typed hroots]
    have hsuggestions := (hits_perm importer typed store hperm).map fun hit =>
      Suggestion.ofEntry site hit.1 hit.2.toDecl
    exact congrArg Except.ok (mergeSort_precedes_eq_of_perm hsuggestions distinct).symm

end Shown

end Shortlist

/-- The suggestion for a hit. -/
def Suggestion.ofHit (site : CompletionSite) (hit : Entry × Element) : Suggestion :=
  .ofEntry site hit.1 hit.2.toDecl

namespace CompletionSite

/-- Hits in the order in which their suggestions are shown, the most urgent first. -/
structure Ranks (site : CompletionSite) (hits ranked : List (Entry × Element)) : Prop where
  perm : ranked.Perm hits
  sorted : (ranked.map (Suggestion.ofHit site)).Pairwise fun a b => a.priority < b.priority ∨
    a.priority = b.priority ∧ ¬ Text.bytes b.label.chars < Text.bytes a.label.chars
  /-- Those that agree in priority and label stay in the order they were offered. -/
  stable : ∀ priority label,
    let isAlike hit :=
      (Suggestion.ofHit site hit).priority = priority ∧ (Suggestion.ofHit site hit).label = label
    ranked.filter (isAlike ·) = hits.filter (isAlike ·)
  local_first : ranked.Pairwise fun a b => b.2.visibility.isNone → a.2.visibility.isNone
  own_next : ranked.Pairwise fun a b => b.2.module.same site.module →
    a.2.visibility.isNone ∨ a.2.module.same site.module
  expected_next : ranked.Pairwise fun a b => site.expected = some (.ofDecl b.2.kind) →
    a.2.visibility.isNone ∨ a.2.module.same site.module ∨
      site.expected = some (.ofDecl a.2.kind)

/-- The order in which suggestions are shown, on the hits they are for. -/
def isBefore (site : CompletionSite) (a b : Entry × Element) : Bool :=
  Shortlist.precedes (.ofHit site a) (.ofHit site b)

theorem priority_le_of_isBefore {site : CompletionSite} {a b : Entry × Element}
    (h : site.isBefore a b) : site.priority a.2.toDecl ≤ site.priority b.2.toDecl := by
  obtain hlt | ⟨heq, -⟩ := Shortlist.precedes_iff.mp h
  · exact Nat.le_of_lt hlt
  · exact Nat.le_of_eq heq

theorem ranks_mergeSort (site : CompletionSite) (hits : List (Entry × Element)) :
    site.Ranks hits (hits.mergeSort site.isBefore) := by
  have htrans (a b c : Entry × Element) :
      site.isBefore a b → site.isBefore b c → site.isBefore a c := Shortlist.precedes_trans _ _ _
  have htotal (a b : Entry × Element) : site.isBefore a b || site.isBefore b a :=
    Shortlist.precedes_total _ _
  have hpairwise := List.pairwise_mergeSort htrans htotal hits
  have hurgent := hpairwise.imp fun h => of_priority_le (priority_le_of_isBefore h)
  refine ⟨List.mergeSort_perm hits site.isBefore, ?_, ?_, ?_, ?_, ?_⟩
  · rw [List.pairwise_map]
    exact hpairwise.imp Shortlist.precedes_iff.mp
  · intro priority label isAlike
    refine filter_mergeSort htrans htotal (fun a b ha hb => ?_) hits
    obtain ⟨hpriority, hlabel⟩ := of_decide_eq_true ha
    obtain ⟨hpriority', hlabel'⟩ := of_decide_eq_true hb
    exact Shortlist.precedes_of_eq (hpriority.trans hpriority'.symm) (hlabel.trans hlabel'.symm)
  · exact hurgent.imp fun h => h.1
  · exact hurgent.imp fun h => h.2.1
  · exact hurgent.imp fun h => h.2.2

end CompletionSite

/-- Completion on a walk that is kept to what is of use in a module breaks down as the first
candidate does that breaks down. Otherwise it shows one suggestion for each hit: the lower priority
comes first, of equal priorities the lesser label in the order of bytes, and of equal labels what was
offered first. So locals come before what is the module's own, this before what is of the kind
expected, and this before the rest. If no two of the suggestions agree in priority and label, the
order in which the candidates were offered is not to be seen in the list. -/
theorem shown_ranked (importer : Module) (site : CompletionSite) (typed : List Char)
    (offers : List (Offer Entry)) (store : Store) :
    let shown (offers : List (Offer Entry)) := Shortlist.shown importer site typed (.ofList offers)
    let hits := Shortlist.hits importer typed store (candidatesOf offers)
    (∃ ranked : List (Entry × Element), site.Ranks hits ranked ∧
      (shown offers).answer store = ((candidatesOf offers).findSome? (failureIn? store)).elim
        (.ok (ranked.map (.ofHit site))) .error) ∧
    ∀ (others : List (Offer Entry)) (other : Store) (items : List Suggestion),
      (candidatesOf offers).Perm (candidatesOf others) → store.SameRoots other →
      (shown offers).answer store = .ok items →
      (items.map fun item => (item.priority, item.label)).Nodup →
        (shown others).answer other = .ok items := by
  intro shown hits
  refine ⟨⟨hits.mergeSort site.isBefore, site.ranks_mergeSort hits, ?_⟩, ?_⟩
  · have hmap : (hits.mergeSort site.isBefore).map (.ofHit site) =
        (hits.map (.ofHit site)).mergeSort Shortlist.precedes :=
      List.map_mergeSort fun _ _ _ _ => rfl
    rw [hmap]
    exact Shortlist.answer_shown importer site typed offers store
  · intro others other items hperm hroots hitems distinct
    exact Shortlist.answer_shown_of_perm hperm hroots hitems distinct

/-- Three constants, the last one deferred. -/
def sampleLabels : List (Offer Entry) :=
  [.candidate (.ofElement ⟨"ab"⟩ (sampleConst 0 []) .empty),
    .globBoundary,
    .candidate (.ofElement ⟨"b"⟩ (sampleConst 1 []) .empty),
    .candidate (.deferred (.ofThunk ⟨"aa"⟩ (.known (some (sampleConst 2 []))) false))]

/-- Two of the constants begin with what was typed. They are shown by label, also if they are offered
the other way round. -/
theorem shown_ranked_sample :
    let store : Store := ⟨.empty .plain, []⟩
    let module : Module := .root ⟨⟨0⟩, ⟨"main"⟩, .workspace, .empty⟩
    let shown (offers : List (Offer Entry)) :=
      Shortlist.shown module ⟨module, none⟩ ['A'] (.ofList offers)
    let item (label : Name) : Suggestion := ⟨label, .constant, some "const", none, 10⟩
    let items := [item ⟨"aa"⟩, item ⟨"ab"⟩]
    (shown sampleLabels).answer store = .ok items ∧
      (shown sampleLabels.reverse).answer store = .ok items := by
  intro store module shown item items
  have hhits : (Shortlist.hits module ['A'] store (candidatesOf sampleLabels)).map
      (fun hit => Suggestion.ofEntry ⟨module, none⟩ hit.1 hit.2.toDecl) =
        [item ⟨"ab"⟩, item ⟨"aa"⟩] := rfl
  have hprecedes : Shortlist.precedes (item ⟨"ab"⟩) (item ⟨"aa"⟩) = false := by decide +kernel
  have hitems : [item ⟨"ab"⟩, item ⟨"aa"⟩].mergeSort Shortlist.precedes = items := by
    simp [List.mergeSort, hprecedes, items]
  have hshown : (shown sampleLabels).answer store = .ok _ :=
    Shortlist.answer_shown module ⟨module, none⟩ ['A'] sampleLabels store
  rw [hhits, hitems] at hshown
  obtain ⟨-, horder⟩ :=
    shown_ranked module ⟨module, none⟩ ['A'] sampleLabels store
  have hperm : (candidatesOf sampleLabels).Perm (candidatesOf sampleLabels.reverse) :=
    (List.reverse_perm _).symm.filterMap _
  exact ⟨hshown, horder _ store items hperm (.refl store) hshown (by decide)⟩

end ScopeWalk
