import Mathlib.Data.List.DropRight
import ActionGateway.Text.Basic

/-!
# Cutting lists

A list is cut at a separator, or members at its ends are cut off. What comes of either is told
without saying how it is found: `Text.Trims` says what is left of a list when its ends are cut off,
and there is one such rest (`Text.trims_iff`); the pieces between separators are those that hold no
separator and give the list back when they are put together (`Text.splitOn_eq_iff`).
-/

namespace ActionGateway

namespace Text

/-! ## Before and after a separator

The first separator of a list is the end of the longest beginning without one. So a list that is put
together from a beginning without separators, a separator and anything else comes apart in one way,
and the two halves can be read off an equation between such lists. -/

section

variable {α : Type} {before : List α}

section

variable {p : α → Bool} {stop : α}

/-- Taking members that satisfy `p` ends where one does not. -/
theorem takeWhile_append_stop (h : ∀ a ∈ before, p a = true) (hstop : p stop = false)
    (after : List α) : (before ++ stop :: after).takeWhile p = before := by
  rw [List.takeWhile_append_of_pos h, List.takeWhile_cons_of_neg (Bool.eq_false_iff.mp hstop),
    List.append_nil]

/-- So does dropping them, which leaves that one in front. -/
theorem dropWhile_append_stop (h : ∀ a ∈ before, p a = true) (hstop : p stop = false)
    (after : List α) : (before ++ stop :: after).dropWhile p = stop :: after := by
  rw [List.dropWhile_append_of_pos h, List.dropWhile_cons_of_neg (Bool.eq_false_iff.mp hstop)]

end

variable [DecidableEq α] {separator : α}

/-- What stands before the first separator is taken. -/
theorem takeWhile_ne_append (h : separator ∉ before) (after : List α) :
    (before ++ separator :: after).takeWhile (· ≠ separator) = before :=
  takeWhile_append_stop (fun _ ha => decide_eq_true (ne_of_mem_of_not_mem ha h))
    (decide_eq_false (not_not_intro rfl)) after

/-- What is left then begins with the separator. -/
theorem dropWhile_ne_append (h : separator ∉ before) (after : List α) :
    (before ++ separator :: after).dropWhile (· ≠ separator) = separator :: after :=
  dropWhile_append_stop (fun _ ha => decide_eq_true (ne_of_mem_of_not_mem ha h))
    (decide_eq_false (not_not_intro rfl)) after

/-- What stands before the first separator, and what stands after it, are the same in two ways of
writing one list. -/
theorem eq_of_append_separator {other after rest : List α} (h : separator ∉ before)
    (hother : separator ∉ other) (heq : before ++ separator :: after = other ++ separator :: rest) :
    before = other ∧ after = rest := by
  have hbefore : before = other := by
    rw [← takeWhile_ne_append h after, heq, takeWhile_ne_append hother]
  rw [hbefore, List.append_cancel_left_eq, List.cons.injEq] at heq
  exact ⟨hbefore, heq.2⟩

end

variable {chars before after : List Char} {separator : Char}

/-- The first separator is the one before which there is none. -/
theorem splitFirst?_append (h : separator ∉ before) (after : List Char) :
    splitFirst? separator (before ++ separator :: after) = some (before, after) := by
  rw [splitFirst?, dropWhile_ne_append h, takeWhile_ne_append h]

/-- Without a separator nothing is found. -/
theorem splitFirst?_of_not_mem (h : separator ∉ chars) : splitFirst? separator chars = none := by
  have hall : ∀ c ∈ chars, decide (c ≠ separator) = true := fun c hc =>
    decide_eq_true (ne_of_mem_of_not_mem hc h)
  rw [splitFirst?, List.dropWhile_eq_nil_iff.mpr hall]

/-- **What is found are the parts before and after the first separator.** From left to right a list
with a separator is written with its first one; there is no other way to find what was found. -/
theorem splitFirst?_eq_some_iff :
    splitFirst? separator chars = some (before, after) ↔
      chars = before ++ separator :: after ∧ separator ∉ before := by
  constructor
  · intro h
    by_cases hmem : separator ∈ chars
    · obtain ⟨front, back, rfl, hfront⟩ := List.eq_append_cons_of_mem hmem
      rw [splitFirst?_append hfront] at h
      obtain ⟨rfl, rfl⟩ := Prod.mk.inj (Option.some.inj h)
      exact ⟨rfl, hfront⟩
    · rw [splitFirst?_of_not_mem hmem] at h
      cases h
  · rintro ⟨rfl, hbefore⟩
    exact splitFirst?_append hbefore after

/-- Nothing is found exactly if there is no separator. -/
theorem splitFirst?_eq_none_iff : splitFirst? separator chars = none ↔ separator ∉ chars := by
  refine ⟨fun h hmem => ?_, splitFirst?_of_not_mem⟩
  obtain ⟨front, back, rfl, hfront⟩ := List.eq_append_cons_of_mem hmem
  rw [splitFirst?_append hfront] at h
  cases h

/-! ## Pieces between separators

Cutting at every separator and putting separators between pieces undo each other: the first as long
as there is a piece at all, the second as long as no piece holds a separator. The list of pieces is
determined by these two conditions, which is what `splitOn_eq_iff` says. -/

/-- The pieces are those of the library function on lists, which puts the rest of its work into a
function of its own. -/
theorem splitOn_eq_splitOn (separator : Char) (chars : List Char) :
    splitOn separator chars = chars.splitOn separator := by
  induction chars with
  | nil => rfl
  | cons c rest ih =>
    rw [List.splitOn_eq_splitOnP, List.splitOnP_cons_eq_if_modifyHead,
      ← List.splitOn_eq_splitOnP, ← ih, splitOn]
    by_cases hc : c = separator
    · rw [if_pos hc, if_pos (beq_iff_eq.mpr hc)]
    · rw [if_neg hc, if_neg (mt beq_iff_eq.mp hc)]
      rcases hsplit : splitOn separator rest with _ | ⟨piece, pieces⟩
      · exact absurd (ih.symm.trans hsplit) (List.splitOn_ne_nil separator rest)
      · rfl

/-- A piece holds no separator. By induction on the list; a character that is no separator goes to
the front of the first piece. -/
theorem not_mem_of_mem_splitOn {piece : List Char} (h : piece ∈ splitOn separator chars) :
    separator ∉ piece := by
  induction chars generalizing piece with
  | nil =>
    rw [List.mem_singleton.mp h]
    exact List.not_mem_nil
  | cons c rest ih =>
    rw [splitOn] at h
    split at h
    next =>
      rcases List.mem_cons.mp h with rfl | hrest
      · exact List.not_mem_nil
      · exact ih hrest
    next hc =>
      split at h
      next =>
        rw [List.mem_singleton.mp h, List.mem_singleton]
        exact Ne.symm hc
      -- the piece is the first one, with the character before it, or one of the others
      next first pieces hpieces =>
        rw [hpieces] at ih
        rcases List.mem_cons.mp h with rfl | hrest
        · rw [List.mem_cons, not_or]
          exact ⟨Ne.symm hc, ih List.mem_cons_self⟩
        · exact ih (List.mem_cons_of_mem _ hrest)

/-- **The pieces hold no separator, and make up the text with separators between them.** There is
only one such list of pieces, so this says what cutting is without saying how it is done. -/
theorem splitOn_eq_iff {pieces : List (List Char)} :
    splitOn separator chars = pieces ↔
      pieces ≠ [] ∧ (∀ piece ∈ pieces, separator ∉ piece) ∧
        [separator].intercalate pieces = chars := by
  rw [splitOn_eq_splitOn]
  constructor
  · rintro rfl
    refine ⟨List.splitOn_ne_nil _ _, fun piece hpiece => ?_, List.intercalate_splitOn separator⟩
    rw [← splitOn_eq_splitOn] at hpiece
    exact not_mem_of_mem_splitOn hpiece
  · rintro ⟨hne, hfree, rfl⟩
    exact List.splitOn_intercalate separator hfree hne

/-! ## Members at the ends

Cutting off at both ends is done by dropping at the front, turning the list round, and dropping
again. What comes of it is better said by where it stands in the list: between two runs of members
that can be cut off, and with ends that cannot. That determines it, also where nothing is left. -/

/-- What is left of a list when members that satisfy `p` are cut off at both ends. -/
structure Trims {α : Type} (p : α → Bool) (whole core : List α) : Prop where
  /-- it stands in the list, and on both sides of it there are only members that satisfy `p` -/
  cut : ∃ left right, whole = left ++ (core ++ right) ∧
    (∀ a ∈ left, p a = true) ∧ ∀ a ∈ right, p a = true
  /-- its first member stays -/
  first : ∀ a ∈ core.head?, p a = false
  /-- its last member stays -/
  last : ∀ a ∈ core.getLast?, p a = false

section

variable {α : Type} {p : α → Bool} {whole core : List α}

/-- Nothing is dropped from a list whose first member stays. -/
theorem dropWhile_of_head? (h : ∀ a ∈ core.head?, p a = false) : core.dropWhile p = core := by
  cases core with
  | nil => rfl
  | cons a core => exact List.dropWhile_cons_of_neg (Bool.eq_false_iff.mp (h a rfl))

/-- What is cut off at the ends does not matter: of any list that trims to a core, the core is what
cutting leaves. If the core is empty, the whole list goes already at the front. -/
theorem Trims.trimList_eq (h : Trims p whole core) : trimList p whole = core := by
  obtain ⟨⟨left, right, rfl, hleft, hright⟩, hfirst, hlast⟩ := h
  have hreverse : ∀ a ∈ right.reverse, p a = true := fun a ha => hright a (List.mem_reverse.mp ha)
  rw [trimList, List.dropWhile_append_of_pos hleft]
  cases core with
  | nil =>
    rw [List.nil_append, List.dropWhile_eq_nil_iff.mpr hright]
    rfl
  | cons a core =>
    have hfront : (a :: core ++ right).dropWhile p = a :: core ++ right := dropWhile_of_head? hfirst
    rw [hfront, List.reverse_append, List.dropWhile_append_of_pos hreverse,
      dropWhile_of_head? (by rwa [List.head?_reverse]), List.reverse_reverse]

/-- Nothing is cut off a list whose ends stay. -/
theorem trims_self (hfirst : ∀ a ∈ core.head?, p a = false)
    (hlast : ∀ a ∈ core.getLast?, p a = false) : Trims p core core where
  cut := ⟨[], [], (List.append_nil core).symm, List.forall_mem_nil _, List.forall_mem_nil _⟩
  first := hfirst
  last := hlast

/-- What cutting leaves is a core. At the end of the list cutting is the library function that drops
from the right, which knows about the last member that it leaves. -/
theorem trims_trimList (p : α → Bool) (whole : List α) : Trims p whole (trimList p whole) := by
  have hcore : trimList p whole = (whole.dropWhile p).rdropWhile p := rfl
  have hdropped : trimList p whole ++ (whole.dropWhile p).rtakeWhile p = whole.dropWhile p :=
    List.rdropWhile_append_rtakeWhile
  refine ⟨⟨whole.takeWhile p, (whole.dropWhile p).rtakeWhile p, ?_, fun a => List.mem_takeWhile_imp,
    fun a => List.mem_rtakeWhile_imp⟩, fun a ha => ?_, fun a ha => ?_⟩
  · rw [hdropped, List.takeWhile_append_dropWhile]
  · have hfirst : (whole.dropWhile p).head? = some a := by
      rw [← hdropped, List.head?_append, Option.mem_def.mp ha]
      rfl
    have hnot := List.head?_dropWhile_not p whole
    rwa [hfirst] at hnot
  · rw [hcore] at ha
    obtain ⟨hne, rfl⟩ := List.mem_getLast?_eq_getLast ha
    exact Bool.eq_false_iff.mpr (List.rdropWhile_last_not p _ hne)

/-- **A list is cut in one way**: what is left begins and ends with something to keep, or is
nothing. -/
theorem trims_iff : Trims p whole core ↔ trimList p whole = core :=
  ⟨Trims.trimList_eq, fun h => h ▸ trims_trimList p whole⟩

/-- Cutting adds no members. -/
theorem mem_of_mem_trimList {a : α} (h : a ∈ trimList p whole) : a ∈ whole := by
  obtain ⟨⟨left, right, hwhole, -, -⟩, -, -⟩ := trims_trimList p whole
  rw [hwhole]
  exact List.mem_append_right left (List.mem_append_left right h)

/-- Nothing is left of a list exactly if all its members can be cut off. -/
theorem trimList_eq_nil_iff : trimList p whole = [] ↔ ∀ a ∈ whole, p a = true := by
  constructor
  · intro h a ha
    obtain ⟨⟨left, right, hwhole, hleft, hright⟩, -, -⟩ := trims_trimList p whole
    rw [hwhole, h, List.nil_append, List.mem_append] at ha
    exact ha.elim (hleft a) (hright a)
  · intro h
    rw [trimList, List.dropWhile_eq_nil_iff.mpr h]
    rfl

/-- More members at the ends that can be cut off make no difference. -/
theorem Trims.append {left right : List α} (h : Trims p whole core)
    (hleft : ∀ a ∈ left, p a = true) (hright : ∀ a ∈ right, p a = true) :
    Trims p (left ++ (whole ++ right)) core := by
  obtain ⟨⟨front, back, rfl, hfront, hback⟩, hfirst, hlast⟩ := h
  refine ⟨⟨left ++ front, back ++ right, ?_, fun a ha => ?_, fun a ha => ?_⟩, hfirst, hlast⟩
  · simp only [List.append_assoc]
  · exact (List.mem_append.mp ha).elim (hleft a) (hfront a)
  · exact (List.mem_append.mp ha).elim (hback a) (hright a)

/-- A member that stays protects what stands behind it. -/
theorem dropWhile_append_cons {stop : α} (hstop : p stop = false) (before after : List α) :
    (before ++ stop :: after).dropWhile p = before.dropWhile p ++ stop :: after := by
  induction before with
  | nil => exact List.dropWhile_cons_of_neg (Bool.eq_false_iff.mp hstop)
  | cons a before ih =>
    rw [List.cons_append, List.dropWhile_cons, List.dropWhile_cons, ih]
    split <;> rfl

/-- Around a member that stays, each side is cut at its own end. -/
theorem trimList_append_cons {stop : α} (hstop : p stop = false) (before after : List α) :
    trimList p (before ++ stop :: after) =
      before.dropWhile p ++ stop :: after.rdropWhile p := by
  rw [trimList, dropWhile_append_cons hstop, List.reverse_append, List.reverse_cons,
    List.append_assoc, List.singleton_append, dropWhile_append_cons hstop, List.reverse_append,
    List.reverse_cons, List.reverse_reverse, List.append_assoc, List.singleton_append]
  rfl

end

/-! ## Blanks

Blank characters are what is cut off the ends of texts. A text that is all blank is cut down to
nothing, and any character that is not blank is not in it. -/

/-- All the characters are blank. -/
def Blank (chars : List Char) : Prop :=
  ∀ c ∈ chars, isBlank c = true

instance (chars : List Char) : Decidable (Blank chars) :=
  decidable_of_iff (chars.all isBlank = true) List.all_eq_true

/-- A character that is not blank does not stand among blanks. -/
theorem Blank.not_mem {chars : List Char} {c : Char} (h : Blank chars) (hc : isBlank c = false) :
    c ∉ chars := fun hmem =>
  Bool.false_ne_true (hc.symm.trans (h c hmem))

/-- A text is trimmed if it has no blanks at its ends. -/
theorem trims_of_trim_eq {s : String} (h : trim s = s) : Trims isBlank s.toList s.toList := by
  have hchars := congrArg String.toList h
  rw [trim, String.toList_ofList] at hchars
  exact trims_iff.mpr hchars

end Text

end ActionGateway
