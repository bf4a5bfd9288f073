import Mathlib.Data.List.Basic
import ActionGateway.Framing

/-!
# Callbacks spelled out

The name of a callback comes from whoever asks, and it stands in a script. There the characters that
could end the script or open a tag are spelled out as **references**, and so is the ampersand, with
which a reference begins. Reading the references from left to right gives back the name, also where
the name looks like a reference itself (`Callback.unescape_escapeCallback`).

`Callback.Escaped` says of a text that no such character is left in it and that an ampersand does
nothing but begin a reference. What stands for some callback are these texts and no others
(`Callback.exists_escapeCallback_iff`).

Reading is recursive: what follows a reference, or a character that is none, is read in the same
way. It is defined by the length of the text, and unfolded by two equations, one for a reference at
the front (`readReferences_append`) and one for any character other than an ampersand
(`readReferences_cons`).
-/

namespace ActionGateway

namespace Callback

variable {c : Char} {chars rest : List Char} {spelling : String}

/-- The characters that could end a script or open a tag. -/
def markup : List Char :=
  ['<', '>', '\x22', '\'']

/-- The references, each with the character that it stands for. -/
def references : List (String × Char) :=
  [("&amp;", '&'), ("&lt;", '<'), ("&gt;", '>'), ("&quot;", '\x22'), ("&#x27;", '\'')]

/-- What the reference stands for that a text begins with, and what follows it. -/
def reference? (chars : List Char) : Option (Char × List Char) :=
  references.findSome? fun (spelling, c) =>
    (spelling.toList.isPrefixOf? chars).map fun rest => (c, rest)

/-! ## References

Each reference begins with an ampersand and holds no other, and no two of them begin alike. So at
most one reference stands at the front of a text, and the place after it is determined. -/

/-- What is read at the front of a text is one of the references, and the text goes on after it. -/
theorem exists_spelling (h : reference? chars = some (c, rest)) :
    ∃ spelling, (spelling, c) ∈ references ∧ chars = spelling.toList ++ rest := by
  obtain ⟨⟨spelling, d⟩, hmem, hread⟩ := List.exists_of_findSome?_eq_some h
  obtain ⟨after, hafter, heq⟩ := Option.map_eq_some_iff.mp hread
  obtain ⟨rfl, rfl⟩ := Prod.mk.inj heq
  exact ⟨spelling, hmem, (List.isPrefixOf?_eq_some_iff_append_eq.mp hafter).symm⟩

/-- The spelling of a reference holds no markup, and its one ampersand comes first. -/
theorem spelling_of_mem (h : (spelling, c) ∈ references) :
    (∀ d ∈ spelling.toList, d ∉ markup) ∧
      ∃ name, spelling.toList = '&' :: name ∧ '&' ∉ name := by
  have hall : ∀ r ∈ references, (r.1.toList.all fun d => d ∉ markup) = true ∧
      r.1.toList = '&' :: r.1.toList.tail ∧ '&' ∉ r.1.toList.tail := by decide
  obtain ⟨hmarkup, hname⟩ := hall _ h
  exact ⟨fun d hd => of_decide_eq_true (List.all_eq_true.mp hmarkup d hd), _, hname⟩

/-- No reference is the beginning of another. -/
theorem reference?_append (h : (spelling, c) ∈ references) (rest : List Char) :
    reference? (spelling.toList ++ rest) = some (c, rest) := by
  simp only [references, List.mem_cons, Prod.mk.injEq, List.not_mem_nil, or_false] at h
  rcases h with ⟨rfl, rfl⟩ | ⟨rfl, rfl⟩ | ⟨rfl, rfl⟩ | ⟨rfl, rfl⟩ | ⟨rfl, rfl⟩ <;> rfl

/-- Only an ampersand begins a reference. -/
theorem reference?_of_ne (h : c ≠ '&') (rest : List Char) : reference? (c :: rest) = none := by
  refine Option.eq_none_iff_forall_ne_some.mpr fun ⟨d, after⟩ hread => ?_
  obtain ⟨spelling, hmem, heq⟩ := exists_spelling hread
  obtain ⟨-, name, hname, -⟩ := spelling_of_mem hmem
  rw [hname] at heq
  exact h (List.cons.inj heq).1

/-- A reference has a length, so less is left after it. This is why reading ends. -/
theorem length_lt_of_reference? (h : reference? chars = some (c, rest)) :
    rest.length < chars.length := by
  obtain ⟨spelling, hmem, rfl⟩ := exists_spelling h
  obtain ⟨-, name, hname, -⟩ := spelling_of_mem hmem
  rw [hname, List.cons_append, List.length_cons, List.length_append]
  omega

/-- A text in which each reference is replaced, from left to right, by what it stands for. -/
def readReferences (chars : List Char) : List Char :=
  match _h : reference? chars with
  | some (c, rest) => c :: readReferences rest
  | none =>
    match chars with
    | [] => []
    | c :: rest => c :: readReferences rest
termination_by chars.length
decreasing_by
  · exact length_lt_of_reference? _h
  · exact Nat.lt_succ_self _

/-- A reference at the front is read as its character. -/
theorem readReferences_append (h : (spelling, c) ∈ references) (rest : List Char) :
    readReferences (spelling.toList ++ rest) = c :: readReferences rest := by
  rw [readReferences]
  split
  next d after hread =>
    rw [reference?_append h] at hread
    obtain ⟨rfl, rfl⟩ := Prod.mk.inj (Option.some.inj hread)
    rfl
  next hread =>
    rw [reference?_append h] at hread
    cases hread

/-- A character that begins no reference stands for itself. -/
theorem readReferences_cons (h : c ≠ '&') (rest : List Char) :
    readReferences (c :: rest) = c :: readReferences rest := by
  rw [readReferences]
  split
  next d after hread =>
    rw [reference?_of_ne h] at hread
    cases hread
  next => rfl

/-- The callback that a text in a script stands for. -/
def unescape (text : String) : String :=
  String.ofList (readReferences text.toList)

/-! ## One character

`escapeChar` asks for five characters in turn. The cases below are all that later proofs need: a
reference that is listed, or the character itself. -/

/-- **A character stands as its reference, or as itself** if it is neither an ampersand nor
markup. -/
theorem escapeChar_cases (c : Char) :
    (∃ spelling, (spelling, c) ∈ references ∧ escapeChar c = spelling.toList) ∨
      escapeChar c = [c] ∧ c ≠ '&' ∧ c ∉ markup := by
  rw [escapeChar]
  split
  next h => exact .inl ⟨"&amp;", by simp [references, h], rfl⟩
  split
  next h => exact .inl ⟨"&lt;", by simp [references, h], rfl⟩
  split
  next h => exact .inl ⟨"&gt;", by simp [references, h], rfl⟩
  split
  next h => exact .inl ⟨"&quot;", by simp [references, h], rfl⟩
  split
  next h => exact .inl ⟨"&#x27;", by simp [references, h], rfl⟩
  next hamp hlt hgt hquot hapos => exact .inr ⟨rfl, hamp, by simp [markup, *]⟩

/-- What a reference stands for is spelled out as that reference. -/
theorem escapeChar_of_mem (h : (spelling, c) ∈ references) : escapeChar c = spelling.toList := by
  have hall : ∀ r ∈ references, escapeChar r.2 = r.1.toList := by decide
  exact hall _ h

/-- Everything else stays as it is. -/
theorem escapeChar_of_plain (hamp : c ≠ '&') (hmarkup : c ∉ markup) : escapeChar c = [c] := by
  rcases escapeChar_cases c with ⟨spelling, hmem, -⟩ | ⟨hself, -⟩
  · have hspelled : ∀ r ∈ references, r.2 = '&' ∨ r.2 ∈ markup := by decide
    exact absurd (hspelled _ hmem) (not_or.mpr ⟨hamp, hmarkup⟩)
  · exact hself

/-- What stands for a character holds an ampersand at its start alone, where it is a reference. -/
theorem exists_escapeChar_eq_cons (c : Char) :
    ∃ first name, escapeChar c = first :: name ∧ '&' ∉ name ∧
      (first = '&' → ∃ r ∈ references, r.1.toList = escapeChar c) := by
  rcases escapeChar_cases c with ⟨spelling, hmem, hescape⟩ | ⟨hself, hamp, -⟩
  · obtain ⟨-, name, hspelling, hname⟩ := spelling_of_mem hmem
    exact ⟨'&', name, hescape.trans hspelling, hname, fun _ => ⟨_, hmem, hescape.symm⟩⟩
  · exact ⟨c, [], hself, List.not_mem_nil, fun heq => absurd heq hamp⟩

/-- No markup comes of a character, not even of markup. -/
theorem not_mem_markup_of_mem_escapeChar {d : Char} (h : d ∈ escapeChar c) : d ∉ markup := by
  rcases escapeChar_cases c with ⟨spelling, hmem, hescape⟩ | ⟨hself, -, hmarkup⟩
  · exact (spelling_of_mem hmem).1 d (hescape ▸ h)
  · rw [hself] at h
    rwa [List.mem_singleton.mp h]

/-- **What stands for a character is read as that character**, whatever follows. -/
theorem readReferences_escapeChar (c : Char) (rest : List Char) :
    readReferences (escapeChar c ++ rest) = c :: readReferences rest := by
  rcases escapeChar_cases c with ⟨spelling, hmem, hescape⟩ | ⟨hself, hamp, -⟩
  · rw [hescape, readReferences_append hmem]
  · rw [hself, List.singleton_append, readReferences_cons hamp]

/-! ## Callbacks

A callback is spelled out character by character, so the facts about one character carry over by
induction on the name. -/

/-- The characters of a script are those that stand for the characters of the name. -/
theorem toList_escapeCallback (callback : String) :
    (escapeCallback callback).toList = callback.toList.flatMap escapeChar :=
  String.toList_ofList

/-- **Callbacks are put together as their names are**: no character is looked at for the sake of
another. -/
theorem escapeCallback_append (callback other : String) :
    escapeCallback (callback ++ other) = escapeCallback callback ++ escapeCallback other := by
  rw [escapeCallback, String.toList_append, List.flatMap_append, String.ofList_append]
  rfl

theorem readReferences_flatMap (chars : List Char) :
    readReferences (chars.flatMap escapeChar) = chars := by
  induction chars with
  | nil =>
    rw [List.flatMap_nil, readReferences]
    rfl
  | cons c rest ih => rw [List.flatMap_cons, readReferences_escapeChar, ih]

/-- **The callback comes back** from what stands in the script. So two names that differ stand there
differently. -/
theorem unescape_escapeCallback (callback : String) :
    unescape (escapeCallback callback) = callback := by
  rw [unescape, toList_escapeCallback, readReferences_flatMap, String.ofList_toList]

/-- The name of a callback may look like a reference. -/
example : escapeCallback "&lt;" = "&amp;lt;" := by decide

/-- Different callbacks are spelled out differently, since each comes back from its text. -/
theorem escapeCallback_injective {callback other : String}
    (h : escapeCallback callback = escapeCallback other) : callback = other := by
  rw [← unescape_escapeCallback callback, h, unescape_escapeCallback]

/-! ## What stands for a callback

`Escaped` is what a reader can check of a text without knowing the name. It holds of whatever is
spelled out, and a text that satisfies it is read back and spelled out as it was: so it describes
the image of `escapeCallback` exactly. -/

/-- A text as a callback may stand in a script. -/
structure Escaped (chars : List Char) : Prop where
  /-- nothing could end the script or open a tag -/
  no_markup : ∀ c ∈ markup, c ∉ chars
  /-- an ampersand is the beginning of a reference -/
  of_ampersand : ∀ before after, chars = before ++ '&' :: after →
    ∃ r ∈ references, r.1.toList <+: '&' :: after

theorem escaped_nil : Escaped [] where
  no_markup _ _ := List.not_mem_nil
  of_ampersand _ _ h := absurd h.symm (List.append_ne_nil_of_right_ne_nil _ (List.cons_ne_nil _ _))

/-- What stands for a character may come before what may stand in a script. -/
theorem Escaped.escapeChar_append (h : Escaped rest) (c : Char) :
    Escaped (escapeChar c ++ rest) := by
  constructor
  case no_markup =>
    intro d hd hmem
    rcases List.mem_append.mp hmem with hmem | hmem
    · exact not_mem_markup_of_mem_escapeChar hmem hd
    · exact h.no_markup d hd hmem
  case of_ampersand =>
    intro before after heq
    obtain ⟨first, name, hescape, hname, hfirst⟩ := exists_escapeChar_eq_cons c
    rw [hescape, List.cons_append] at heq
    rcases before with _ | ⟨b, before⟩
    · obtain ⟨rfl, rfl⟩ := List.cons.inj heq
      obtain ⟨r, hr, hspelling⟩ := hfirst rfl
      exact ⟨r, hr, rest, by rw [hspelling, hescape, List.cons_append]⟩
    · -- an ampersand that is not the first character comes after all that stands for `c`
      obtain ⟨-, heq⟩ := List.cons.inj heq
      rcases List.append_eq_append_iff.mp heq with ⟨more, -, hrest⟩ | ⟨more, hmore, hafter⟩
      · exact h.of_ampersand more after hrest
      · rcases more with _ | ⟨d, more⟩
        · exact h.of_ampersand [] after hafter.symm
        · obtain ⟨rfl, -⟩ := List.cons.inj hafter
          exact absurd (hmore ▸ List.mem_append_right _ List.mem_cons_self) hname

/-- **Whatever the name, what stands for it is free of markup**, by induction on its characters. -/
theorem escaped_flatMap (chars : List Char) : Escaped (chars.flatMap escapeChar) := by
  induction chars with
  | nil => exact escaped_nil
  | cons c rest ih => exact ih.escapeChar_append c

/-- What may stand in a script may lose its beginning. This holds also if a reference is cut in two,
since what is left of it has no ampersand. -/
theorem Escaped.of_append {front : List Char} (h : Escaped (front ++ rest)) : Escaped rest where
  no_markup c hc hmem := h.no_markup c hc (List.mem_append_right front hmem)
  of_ampersand before after heq :=
    h.of_ampersand (front ++ before) after (by rw [heq, List.append_assoc])

/-- What may stand in a script is what stands for the callback that is read from it. -/
theorem Escaped.flatMap_readReferences (h : Escaped chars) :
    (readReferences chars).flatMap escapeChar = chars := by
  -- the induction is on the reading; in both cases what is left is the end of a text that may stand
  -- in a script
  fun_induction readReferences chars with
  | case1 chars c rest hread ih =>
    obtain ⟨spelling, hmem, rfl⟩ := exists_spelling hread
    rw [List.flatMap_cons, escapeChar_of_mem hmem, ih h.of_append]
  | case2 => rfl
  | case3 c rest hread ih =>
    -- an ampersand would have begun a reference, which would have been read
    have hamp : c ≠ '&' := by
      rintro rfl
      obtain ⟨⟨spelling, d⟩, hmem, after, hafter⟩ := h.of_ampersand [] rest rfl
      rw [← hafter, reference?_append hmem] at hread
      cases hread
    have hmarkup : c ∉ markup := fun hc => h.no_markup c hc List.mem_cons_self
    have hrest : Escaped ([c] ++ rest) := h
    rw [List.flatMap_cons, escapeChar_of_plain hamp hmarkup, ih hrest.of_append,
      List.singleton_append]

/-- **A text stands for a callback exactly if it holds no markup and each of its ampersands begins a
reference.** -/
theorem exists_escapeCallback_iff {text : String} :
    (∃ callback, escapeCallback callback = text) ↔ Escaped text.toList := by
  constructor
  · rintro ⟨callback, rfl⟩
    rw [toList_escapeCallback]
    exact escaped_flatMap callback.toList
  · intro h
    refine ⟨unescape text, String.toList_inj.mp ?_⟩
    rw [toList_escapeCallback, unescape, String.toList_ofList, h.flatMap_readReferences]

end Callback

end ActionGateway
