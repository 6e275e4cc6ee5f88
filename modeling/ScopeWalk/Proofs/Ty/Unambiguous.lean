import ScopeWalk.Completion.Suggestion
import ScopeWalk.Proofs.Cfg.Tokens
import ScopeWalk.Proofs.Ty.Parameters

/-!
# Written types are unambiguous

A written type says which type it is, as long as all names in it are identifiers; only what kind of
thing a name without arguments stands for, it does not say. The proof compares two texts that begin
with a written type. The first character tells references, tuples and unknown types from each other
and from names, a name is as long a word as possible, and what stands behind a type within another
is never a part of it. So both types are the same, and what is left of the texts is the same as well.
-/
namespace ScopeWalk

open Text Cfg

/-- Texts that begin with a name and do not go on with a word character have the same name, and are
the same behind it. -/
theorem Name.append_inj {first second : Name} (hfirst : first.isIdent) (hsecond : second.isIdent)
    {rest rest' : List Char} (hrest : EndsWord rest) (hrest' : EndsWord rest')
    (h : first.chars ++ rest = second.chars ++ rest') : first = second ∧ rest = rest' := by
  rw [isIdent_iff] at hfirst hsecond
  constructor
  · rw [← chars_inj, ← takeWhile_word hfirst hrest, h, takeWhile_word hsecond hrest']
  · rw [← dropWhile_word hfirst hrest, h, dropWhile_word hsecond hrest']

namespace Ty

/-! ### Names, kinds, and the parts of a written type -/

mutual

/-- All names in the type are identifiers. -/
def isWritable : Ty → Bool
  | .unknown => true
  | .primitive name => name.isIdent
  | .param name => name.isIdent
  | .adt name args => name.isIdent && areWritable args
  | .ref _ inner => inner.isWritable
  | .tuple parts => areWritable parts

def areWritable : List Ty → Bool
  | [] => true
  | t :: ts => t.isWritable && areWritable ts

end

mutual

/-- The type with each name that stands alone taken for a type without arguments, whatever kind of
thing it was the name of. -/
def nominal : Ty → Ty
  | .unknown => .unknown
  | .primitive name => .adt name []
  | .param name => .adt name []
  | .adt name args => .adt name (nominalAll args)
  | .ref isMut inner => .ref isMut inner.nominal
  | .tuple parts => .tuple (nominalAll parts)

def nominalAll : List Ty → List Ty
  | [] => []
  | t :: ts => t.nominal :: nominalAll ts

end

theorem areWritable_iff {ts : List Ty} : areWritable ts ↔ ∀ t ∈ ts, t.isWritable := by
  induction ts with
  | nil => simp [areWritable]
  | cons t ts ih => simp [areWritable, ih]

theorem nominalAll_eq_map (ts : List Ty) : nominalAll ts = ts.map nominal := by
  induction ts with
  | nil => rfl
  | cons t ts ih => rw [nominalAll, ih, List.map_cons]

/-- The type is a name with arguments, perhaps with none. -/
inductive Applies (name : Name) : List Ty → Ty → Prop where
  | primitive : Applies name [] (.primitive name)
  | param : Applies name [] (.param name)
  | adt (args : List Ty) : Applies name args (.adt name args)

/-- The written form of arguments. -/
def spellArgs : List Ty → List Char
  | [] => []
  | arg :: args => '<' :: (arg.spell ++ spellMore args ++ ['>'])

/-- What is written in a tuple behind its first part. -/
def spellClosing : List Ty → List Char
  | [] => [',', ')']
  | part :: parts => spellMore (part :: parts) ++ [')']

/-- What is written between the sign of a reference and the type behind it. -/
def spellMut (isMut : Bool) : List Char := if isMut then "mut ".toList else []

namespace Applies

variable {name : Name} {args : List Ty} {t : Ty}

theorem spell_eq (h : Applies name args t) : t.spell = name.chars ++ spellArgs args := by
  cases h with
  | primitive => exact (List.append_nil _).symm
  | param => exact (List.append_nil _).symm
  | adt args =>
    cases args with
    | nil => exact (List.append_nil _).symm
    | cons arg args => rfl

theorem nominal_eq (h : Applies name args t) : t.nominal = .adt name (args.map nominal) := by
  cases h <;> simp [nominal, nominalAll_eq_map]

theorem isWritable_iff (h : Applies name args t) :
    t.isWritable ↔ name.isIdent ∧ ∀ arg ∈ args, arg.isWritable := by
  cases h <;> simp [isWritable, areWritable_iff]

end Applies

theorem spell_ref (isMut : Bool) (t : Ty) :
    (ref isMut t).spell = '&' :: (spellMut isMut ++ t.spell) := by
  cases isMut <;> rfl

theorem spell_tuple_cons (part : Ty) (parts : List Ty) :
    (tuple (part :: parts)).spell = '(' :: (part.spell ++ spellClosing parts) := by
  cases parts with
  | nil => rfl
  | cons next parts =>
    have hspell : (tuple (part :: next :: parts)).spell =
        '(' :: (part.spell ++ ", ".toList ++ next.spell ++ spellMore parts ++ [')']) := rfl
    rw [hspell, spellClosing, spellMore_cons]
    simp

/-! ### Kinds are not written -/

theorem spellMore_map_nominal {ts : List Ty} (h : ∀ t ∈ ts, t.nominal.spell = t.spell) :
    spellMore (ts.map nominal) = spellMore ts := by
  induction ts with
  | nil => rfl
  | cons t ts ih =>
    obtain ⟨ht, hts⟩ := List.forall_mem_cons.mp h
    rw [List.map_cons, spellMore_cons, spellMore_cons, ht, ih hts]

theorem Applies.spell_nominal {name : Name} {args : List Ty} {t : Ty} (h : Applies name args t)
    (hargs : ∀ arg ∈ args, arg.nominal.spell = arg.spell) : t.nominal.spell = t.spell := by
  rw [h.nominal_eq, h.spell_eq, (Applies.adt (args.map nominal)).spell_eq]
  cases args with
  | nil => rfl
  | cons arg args =>
    obtain ⟨harg, hmore⟩ := List.forall_mem_cons.mp hargs
    rw [List.map_cons, spellArgs, spellArgs, harg, spellMore_map_nominal hmore]

/-- A type and what it is without kinds have the same written form. -/
theorem spell_nominal (t : Ty) : t.nominal.spell = t.spell := by
  induction t using byParts with
  | unknown => rw [nominal]
  | primitive name => exact Applies.primitive.spell_nominal (by simp)
  | param name => exact Applies.param.spell_nominal (by simp)
  | adt name args ih => exact (Applies.adt args).spell_nominal ih
  | ref isMut t ih => rw [nominal, spell_ref, spell_ref, ih]
  | tuple parts ih =>
    rw [nominal, nominalAll_eq_map]
    cases parts with
    | nil => rfl
    | cons part parts =>
      obtain ⟨hpart, hparts⟩ := List.forall_mem_cons.mp ih
      rw [List.map_cons, spell_tuple_cons, spell_tuple_cons, hpart]
      cases parts with
      | nil => rfl
      | cons next parts =>
        rw [List.map_cons, spellClosing, spellClosing, ← List.map_cons,
          spellMore_map_nominal hparts]

/-! ### What stands behind a type -/

/-- The text is at its end, or goes on with a mark that stands behind a type within another. -/
def EndsType (rest : List Char) : Prop := ∀ c ∈ rest.head?, c ∈ [',', '>', ')']

theorem endsType_cons {mark : Char} (h : mark ∈ [',', '>', ')']) (rest : List Char) :
    EndsType (mark :: rest) := by
  simpa [EndsType] using h

theorem endsType_more {mark : Char} (h : mark ∈ ['>', ')']) (ts : List Ty) (rest : List Char) :
    EndsType (spellMore ts ++ mark :: rest) := by
  cases ts with
  | nil => exact endsType_cons (List.mem_cons_of_mem _ h) rest
  | cons t ts =>
    rw [spellMore_cons]
    exact endsType_cons (by simp) _

theorem endsType_closing (parts : List Ty) (rest : List Char) :
    EndsType (spellClosing parts ++ rest) := by
  cases parts with
  | nil => exact endsType_cons (by simp) _
  | cons part parts =>
    rw [spellClosing, List.append_assoc]
    exact endsType_more (by simp) _ _

/-- Behind a name stand its arguments, or what stands behind a type. -/
theorem head?_args {rest : List Char} (h : EndsType rest) (args : List Ty) :
    ∀ c ∈ (spellArgs args ++ rest).head?, c ∈ ['<', ',', '>', ')'] := by
  cases args with
  | nil => exact fun c hc => List.mem_cons_of_mem _ (h c hc)
  | cons arg args =>
    intro c hc
    cases hc
    exact List.mem_cons_self

theorem isWordChar_eq_false_of_mem_marks :
    ∀ c ∈ ['{', '&', '(', '<', ',', '>', ')'], isWordChar c = false := by
  have hnone : ['{', '&', '(', '<', ',', '>', ')'].any isWordChar = false := by decide +kernel
  intro c hc
  simpa using List.any_eq_false.mp hnone c hc

theorem endsWord_args {rest : List Char} (h : EndsType rest) (args : List Ty) :
    EndsWord (spellArgs args ++ rest) := by
  intro c hc
  refine isWordChar_eq_false_of_mem_marks c ?_
  exact List.mem_append_right ['{', '&', '('] (head?_args h args c hc)

/-! ### The first character -/

/-- The mark with which the written form begins, unless it begins with a name. -/
def openingMark : Ty → Option Char
  | .unknown => some '{'
  | .ref _ _ => some '&'
  | .tuple _ => some '('
  | .primitive _ | .param _ | .adt _ _ => none

theorem Applies.openingMark_eq_none {name : Name} {args : List Ty} {t : Ty}
    (h : Applies name args t) : t.openingMark = none := by
  cases h <;> rfl

theorem exists_applies {t : Ty} (h : t.openingMark = none) : ∃ name args, Applies name args t := by
  cases t with
  | unknown => cases h
  | primitive name => exact ⟨name, [], .primitive⟩
  | param name => exact ⟨name, [], .param⟩
  | adt name args => exact ⟨name, args, .adt args⟩
  | ref isMut t => cases h
  | tuple parts => cases h

theorem spell_of_openingMark {t : Ty} {mark : Char} (h : t.openingMark = some mark) :
    mark ∈ ['{', '&', '('] ∧ ∃ more, t.spell = mark :: more := by
  cases t with
  | unknown => cases h; exact ⟨by simp, _, rfl⟩
  | primitive name => cases h
  | param name => cases h
  | adt name args => cases h
  | ref isMut t => cases h; exact ⟨by simp, _, spell_ref isMut t⟩
  | tuple parts =>
    cases h
    cases parts with
    | nil => exact ⟨by simp, _, rfl⟩
    | cons part parts => exact ⟨by simp, _, spell_tuple_cons part parts⟩

/-- The text says whether the type begins with a mark, and with which one. -/
theorem openingMark_eq {t : Ty} (ht : t.isWritable) (rest : List Char) :
    t.openingMark = (t.spell ++ rest).head?.filter fun c => !isWordChar c := by
  cases hopening : t.openingMark with
  | none =>
    obtain ⟨name, args, happlies⟩ := exists_applies hopening
    have hname := Name.isIdent_iff.mp (happlies.isWritable_iff.mp ht).1
    obtain ⟨c, cs, hchars⟩ := List.exists_cons_of_ne_nil hname.ne_nil
    have hword := isWordChar_of_mem_identifier hname c (by simp [hchars])
    simp [happlies.spell_eq, hchars, hword, Option.filter]
  | some mark =>
    obtain ⟨hmem, more, hspell⟩ := spell_of_openingMark hopening
    have hword := isWordChar_eq_false_of_mem_marks mark (List.mem_append_left _ hmem)
    simp [hspell, hword, Option.filter]

theorem openingMark_congr {s t : Ty} (hs : s.isWritable) (ht : t.isWritable)
    {rest rest' : List Char} (h : s.spell ++ rest = t.spell ++ rest') :
    s.openingMark = t.openingMark := by
  rw [openingMark_eq hs rest, h, ← openingMark_eq ht rest']

/-- No type begins with the mark that closes a tuple. -/
theorem spell_append_ne_close {t : Ty} (ht : t.isWritable) (rest more : List Char) :
    t.spell ++ rest ≠ ')' :: more := by
  intro h
  have hword : isWordChar ')' = false := isWordChar_eq_false_of_mem_marks _ (by simp)
  have hopening : t.openingMark = some ')' := by
    rw [openingMark_eq ht rest, h]
    simp [hword]
  obtain ⟨hmem, -⟩ := spell_of_openingMark hopening
  simp at hmem

/-- The sign of a mutable reference goes on as no type does, not even as one with the name `mut`. -/
theorem spell_append_ne_mut {t : Ty} (ht : t.isWritable) {rest : List Char} (hrest : EndsType rest)
    (more : List Char) : t.spell ++ rest ≠ spellMut true ++ more := by
  intro h
  have hletter : isWordChar 'm' = true := by decide +kernel
  have hopening : t.openingMark = none := by
    rw [openingMark_eq ht rest, h]
    simp [spellMut, hletter]
  obtain ⟨name, args, happlies⟩ := exists_applies hopening
  have hname := (happlies.isWritable_iff.mp ht).1
  have hspace : EndsWord (' ' :: more) := by
    intro c hc
    cases hc
    decide +kernel
  have htext : name.chars ++ (spellArgs args ++ rest) = Name.chars ⟨"mut"⟩ ++ ' ' :: more := by
    rw [← List.append_assoc, ← happlies.spell_eq, h]
    rfl
  obtain ⟨-, hbehind⟩ :=
    Name.append_inj hname (by decide +kernel) (endsWord_args hrest args) hspace htext
  have hhead := head?_args hrest args ' ' (by rw [hbehind]; rfl)
  simp at hhead

/-! ### Reading -/

/-- Where the type is written, every type that is written there is the same but for kinds, and ends
at the same place. -/
def Legible (s : Ty) : Prop :=
  ∀ t : Ty, t.isWritable → ∀ rest rest' : List Char, EndsType rest → EndsType rest' →
    s.spell ++ rest = t.spell ++ rest' → s.nominal = t.nominal ∧ rest = rest'

section Lists

variable {ss ts : List Ty} (hs : ∀ s ∈ ss, s.Legible) (ht : ∀ t ∈ ts, t.isWritable)
  {rest rest' : List Char}
include hs ht

/-- Lists that end with the same mark are read part by part. -/
theorem spellMore_inj {mark : Char} (hmark : mark ∈ ['>', ')'])
    (h : spellMore ss ++ mark :: rest = spellMore ts ++ mark :: rest') :
    ss.map nominal = ts.map nominal ∧ rest = rest' := by
  have hcomma : mark ≠ ',' := by rintro rfl; simp at hmark
  induction ss generalizing ts with
  | nil =>
    cases ts with
    | nil => exact ⟨rfl, (List.cons.inj h).2⟩
    | cons t ts => exact absurd (List.cons.inj h).1 hcomma
  | cons s ss ih =>
    cases ts with
    | nil => exact absurd (List.cons.inj h).1.symm hcomma
    | cons t ts =>
      obtain ⟨hsFirst, hsMore⟩ := List.forall_mem_cons.mp hs
      obtain ⟨htFirst, htMore⟩ := List.forall_mem_cons.mp ht
      simp only [spellMore_cons, List.cons_append, List.append_assoc, List.cons.injEq,
        true_and] at h
      obtain ⟨hfirst, hmore⟩ :=
        hsFirst t htFirst _ _ (endsType_more hmark ss rest) (endsType_more hmark ts rest') h
      obtain ⟨hmap, hrest⟩ := ih hsMore htMore hmore
      exact ⟨by rw [List.map_cons, List.map_cons, hfirst, hmap], hrest⟩

theorem spellArgs_inj (hrest : EndsType rest) (hrest' : EndsType rest')
    (h : spellArgs ss ++ rest = spellArgs ts ++ rest') :
    ss.map nominal = ts.map nominal ∧ rest = rest' := by
  -- arguments open with a mark that does not stand behind a type
  have hopen (rest more : List Char) (hends : EndsType rest) : rest ≠ '<' :: more := by
    rintro rfl
    simpa using hends '<' rfl
  cases ss with
  | nil =>
    cases ts with
    | nil => exact ⟨rfl, h⟩
    | cons t ts => exact absurd h (hopen rest _ hrest)
  | cons s ss =>
    cases ts with
    | nil => exact absurd h.symm (hopen rest' _ hrest')
    | cons t ts =>
      refine spellMore_inj hs ht (by simp : '>' ∈ ['>', ')']) ?_
      simpa [spellArgs, spellMore_cons] using h

theorem spellClosing_inj (h : spellClosing ss ++ rest = spellClosing ts ++ rest') :
    ss.map nominal = ts.map nominal ∧ rest = rest' := by
  cases ss with
  | nil =>
    cases ts with
    | nil => exact ⟨rfl, by simpa [spellClosing] using h⟩
    | cons t ts => simp [spellClosing, spellMore_cons] at h
  | cons s ss =>
    cases ts with
    | nil => simp [spellClosing, spellMore_cons] at h
    | cons t ts =>
      refine spellMore_inj hs ht (by simp : ')' ∈ ['>', ')']) ?_
      simpa [spellClosing] using h

end Lists

theorem Applies.legible {name : Name} {args : List Ty} {s : Ty} (hs : Applies name args s)
    (hwritable : s.isWritable) (hargs : ∀ arg ∈ args, arg.Legible) : s.Legible := by
  intro t ht rest rest' hrest hrest' h
  have hopening := openingMark_congr hwritable ht h
  rw [hs.openingMark_eq_none] at hopening
  obtain ⟨other, others, hother⟩ := exists_applies hopening.symm
  obtain ⟨hname, -⟩ := hs.isWritable_iff.mp hwritable
  obtain ⟨hname', hothers⟩ := hother.isWritable_iff.mp ht
  rw [hs.spell_eq, hother.spell_eq, List.append_assoc, List.append_assoc] at h
  obtain ⟨rfl, hbehind⟩ := Name.append_inj hname hname' (endsWord_args hrest args)
    (endsWord_args hrest' others) h
  obtain ⟨hmap, hsame⟩ := spellArgs_inj hargs hothers hrest hrest' hbehind
  exact ⟨by rw [hs.nominal_eq, hother.nominal_eq, hmap], hsame⟩

theorem legible_ref {isMut : Bool} {inner : Ty} (hwritable : inner.isWritable)
    (hinner : inner.Legible) : (ref isMut inner).Legible := by
  intro t ht rest rest' hrest hrest' h
  have hopening := openingMark_congr (s := ref isMut inner) hwritable ht h
  cases t with
  | ref isMut' inner' =>
    rw [isWritable] at ht
    rw [spell_ref, spell_ref, List.cons_append, List.cons_append, List.append_assoc,
      List.append_assoc] at h
    have hbehind := (List.cons.inj h).2
    -- of two signs that differ, one goes on with `mut ` and the other with a type
    cases isMut <;> cases isMut'
    case false.true => exact absurd hbehind (spell_append_ne_mut hwritable hrest _)
    case true.false => exact absurd hbehind.symm (spell_append_ne_mut ht hrest' _)
    all_goals
      obtain ⟨hsame, hrests⟩ :=
        hinner inner' ht rest rest' hrest hrest' (List.append_cancel_left hbehind)
      exact ⟨by rw [nominal, nominal, hsame], hrests⟩
  | _ => cases hopening

theorem legible_tuple {parts : List Ty} (hwritable : ∀ part ∈ parts, part.isWritable)
    (hparts : ∀ part ∈ parts, part.Legible) : (tuple parts).Legible := by
  intro t ht rest rest' hrest hrest' h
  have hopening := openingMark_congr (s := tuple parts) (areWritable_iff.mpr hwritable) ht h
  cases t with
  | tuple parts' =>
    rw [isWritable, areWritable_iff] at ht
    rw [nominal, nominal, nominalAll_eq_map, nominalAll_eq_map]
    cases parts with
    | nil =>
      cases parts' with
      | nil => exact ⟨rfl, List.append_cancel_left h⟩
      | cons part' parts' =>
        obtain ⟨hpart', -⟩ := List.forall_mem_cons.mp ht
        rw [spell_tuple_cons, List.cons_append, List.append_assoc] at h
        exact absurd (List.cons.inj h).2.symm (spell_append_ne_close hpart' _ _)
    | cons part parts =>
      obtain ⟨hfirst, hmore⟩ := List.forall_mem_cons.mp hparts
      cases parts' with
      | nil =>
        obtain ⟨hpart, -⟩ := List.forall_mem_cons.mp hwritable
        rw [spell_tuple_cons, List.cons_append, List.append_assoc] at h
        exact absurd (List.cons.inj h).2 (spell_append_ne_close hpart _ _)
      | cons part' parts' =>
        obtain ⟨hpart', hparts'⟩ := List.forall_mem_cons.mp ht
        rw [spell_tuple_cons, spell_tuple_cons, List.cons_append, List.cons_append,
          List.append_assoc, List.append_assoc] at h
        -- whether there is only one part shows behind the first
        obtain ⟨hsame, hclosing⟩ := hfirst part' hpart' _ _ (endsType_closing parts rest)
          (endsType_closing parts' rest') (List.cons.inj h).2
        obtain ⟨hmap, hrests⟩ := spellClosing_inj hmore hparts' hclosing
        exact ⟨by rw [List.map_cons, List.map_cons, hsame, hmap], hrests⟩
  | _ => cases hopening

/-- The induction is on the type, and over all texts behind it. -/
theorem legible_of_isWritable (s : Ty) (hs : s.isWritable) : s.Legible := by
  induction s using byParts with
  | unknown =>
    intro t ht rest rest' _ _ h
    have hopening := openingMark_congr (s := unknown) rfl ht h
    cases t with
    | unknown => exact ⟨rfl, List.append_cancel_left h⟩
    | _ => cases hopening
  | primitive name => exact Applies.primitive.legible hs (by simp)
  | param name => exact Applies.param.legible hs (by simp)
  | adt name args ih =>
    have hargs := ((Applies.adt args).isWritable_iff.mp hs).2
    exact (Applies.adt args).legible hs fun arg harg => ih arg harg (hargs arg harg)
  | ref isMut inner ih => exact legible_ref hs (ih hs)
  | tuple parts ih =>
    have hparts := areWritable_iff.mp hs
    exact legible_tuple hparts fun part hpart => ih part hpart (hparts part hpart)

theorem render_eq_iff {s t : Ty} (hs : s.isWritable) (ht : t.isWritable) :
    s.render = t.render ↔ s.nominal = t.nominal := by
  rw [render, render, String.ofList_inj]
  constructor
  · intro h
    refine (legible_of_isWritable s hs t ht [] [] ?_ ?_ (by rw [h])).1 <;> simp [EndsType]
  · intro h
    rw [← spell_nominal s, h, spell_nominal]

/-- Two types whose names are identifiers have the same written form just if they are the same once
each name that stands alone is taken for a type without arguments. So what is shown after the labels
of two members is the same just if the types they are offered for are. -/
theorem written_types_unambiguous (s t : Ty) (hs : s.isWritable) (ht : t.isWritable) :
    (s.render = t.render ↔ s.nominal = t.nominal) ∧
    ∀ (site site' : CompletionSite) (found found' : MemberEntry) (decl decl' : Decl),
      found.selfTy = s → found'.selfTy = t →
        ((Suggestion.ofEntry site (.member found) decl).detail =
          (Suggestion.ofEntry site' (.member found') decl').detail ↔ s.nominal = t.nominal) := by
  have hrender := render_eq_iff hs ht
  refine ⟨hrender, ?_⟩
  rintro site site' found found' decl decl' rfl rfl
  exact Option.some_inj.trans hrender

/-- A reference to a type with the name `mut` is no mutable reference, and of the argument only the
name is seen. -/
theorem written_types_unambiguous_sample :
    let first : Ty := .tuple [.ref false (.adt ⟨"mut"⟩ [.param ⟨"T"⟩])]
    let second : Ty := .tuple [.ref false (.adt ⟨"mut"⟩ [.primitive ⟨"T"⟩])]
    let third : Ty := .tuple [.ref true (.adt ⟨"T"⟩ [])]
    let module : Module := .root ⟨⟨0⟩, ⟨"app"⟩, .workspace, .empty⟩
    let method : Element := { Decl.ofKind (.function true) module with id := .declared 0 }
    let detail (selfTy : Ty) : Option String := (Suggestion.ofEntry ⟨module, none⟩
      (.member ⟨⟨"read"⟩, method, .empty, selfTy, .bound method⟩) method.toDecl).detail
    (first.isWritable ∧ second.isWritable ∧ third.isWritable) ∧
      first.render = second.render ∧ detail first = detail second ∧
      first.render ≠ third.render ∧ detail first ≠ detail third := by
  intro first second third module method detail
  have hfirst : first.isWritable := by decide +kernel
  have hsecond : second.isWritable := by decide +kernel
  have hthird : third.isWritable := by decide +kernel
  have hsame : first.nominal = second.nominal := by decide
  have hdiffers : first.nominal ≠ third.nominal := by decide
  obtain ⟨hrender, hdetail⟩ := written_types_unambiguous first second hfirst hsecond
  obtain ⟨hrender', hdetail'⟩ := written_types_unambiguous first third hfirst hthird
  refine ⟨⟨hfirst, hsecond, hthird⟩, hrender.mpr hsame, ?_, ?_, ?_⟩
  · exact (hdetail _ _ _ _ _ _ rfl rfl).mpr hsame
  · exact fun h => hdiffers (hrender'.mp h)
  · exact fun h => hdiffers ((hdetail' _ _ _ _ _ _ rfl rfl).mp h)

end Ty

end ScopeWalk
