import ActionGateway.Form.Multipart
import ActionGateway.Proofs.Occurrences
import ActionGateway.Proofs.Utf8
import Mathlib.Data.List.Infix

/-!
# Names in dispositions

The disposition of a part says in quotes how its field is called and, of a file, how the file is.
Both are found by their attributes' names, wherever those stand, and a field may be called so too.
An occurrence that follows a quote or a letter is passed over and the search goes on behind it; but
what follows then is looked at as if it were the beginning. Two occurrences in a row are therefore
taken for an attribute, which has no value.

So the name of a field is always found (`Multipart.attribute?_name`), a field is never taken for a
file (`Multipart.attribute?_filename_field`), and the name of a file is found unless the name of its
field holds `filename` **twice in a row** (`Multipart.attribute?_filename_file`).
-/

namespace ActionGateway

/-! ## Plain names

A plain name stands in a disposition as it is: no character of it has to be escaped, and none means
anything between attributes. All its characters are ASCII, so what is to hold of its bytes can be
decided for the 128 of them. -/

namespace Text

/-- Whether a character may stand in a plain name: a letter or a digit of ASCII, a dot, a low line
or a hyphen. -/
def isNameChar (c : Char) : Bool :=
  c.isAlphanum || c = '.' || c = '_' || c = '-'

/-- All characters of a name may stand in a plain one. -/
def IsPlainName (s : String) : Prop :=
  ∀ c ∈ s.toList, isNameChar c = true

instance (s : String) : Decidable (IsPlainName s) :=
  decidable_of_iff (s.toList.all isNameChar = true) List.all_eq_true

/-- Letters and digits are taken to be those of ASCII. -/
theorem ascii_of_isAlphanum {c : Char} (h : c.isAlphanum = true) : c.toNat < 128 := by
  have hclass : ((decide (c.val ≥ 'A'.val ∧ c.val ≤ 'Z'.val) ||
      (c.val ≥ 'a'.val && c.val ≤ 'z'.val)) || (c.val ≥ '0'.val && c.val ≤ '9'.val)) = true := h
  have hbound {last : Char} (hlast : last.toNat < 128) (hle : c.val ≤ last.val) : c.toNat < 128 :=
    Nat.lt_of_le_of_lt (UInt32.le_iff_toNat_le.mp hle) hlast
  simp only [Bool.or_eq_true, Bool.and_eq_true, decide_eq_true_eq] at hclass
  rcases hclass with (⟨-, hle⟩ | ⟨-, hle⟩) | ⟨-, hle⟩
  · exact hbound (by decide) hle
  · exact hbound (by decide) hle
  · exact hbound (by decide) hle

namespace IsPlainName

variable {name : String}

/-- A plain name is ASCII. -/
theorem isAscii (h : IsPlainName name) : Utf8.IsAscii name := by
  intro c hc
  have hchar := h c hc
  simp only [isNameChar, Bool.or_eq_true, decide_eq_true_eq] at hchar
  rcases hchar with ((hchar | rfl) | rfl) | rfl
  · exact ascii_of_isAlphanum hchar
  · decide
  · decide
  · decide

/-- What holds of all bytes that may stand in plain names. -/
theorem forall_mem_encode (h : IsPlainName name) {p : UInt8 → Prop}
    (hp : ∀ n < 128, isNameChar (Char.ofNat n) = true → p (UInt8.ofNat n)) :
    ∀ b ∈ Utf8.encode name, p b := by
  refine Utf8.forall_mem_encode_of_ascii h.isAscii fun c hc => ?_
  refine hp c.toNat (h.isAscii c hc) ?_
  rw [Char.ofNat_toNat]
  exact h c hc

end IsPlainName

end Text

namespace Multipart

open Bytes

variable {word name tail front after : Bytes} {result : Option Bytes} {turns : Nat}

/-! ## Values in quotes

The value of an attribute begins behind an equals sign and a quote, and goes on to the next quote
that no backslash precedes. The reader keeps what it has read in reverse, and looks back at its head
to see whether a backslash came last; as long as only quotable bytes come, it never did. -/

/-- Neither a quote nor a backslash, so that it stands in quotes for itself. -/
def IsQuotable (b : UInt8) : Prop :=
  b ≠ 0x22 ∧ b ≠ 0x5C

/-- Quotable bytes are read up to the quote, after others that were read before. -/
theorem quotedValue?_append {value : Bytes} (h : ∀ b ∈ value, IsQuotable b) {read : Bytes}
    (hread : ∀ b ∈ read, IsQuotable b) (rest : Bytes) :
    quotedValue? read (value ++ 0x22 :: rest) = some (read.reverse ++ value) := by
  induction value generalizing read with
  | nil =>
    -- the quote ends the value, since the byte before it is no backslash
    rw [List.append_nil, List.nil_append, quotedValue?, if_pos rfl]
    rintro read rfl -
    exact (hread _ List.mem_cons_self).2 rfl
  | cons b value ih =>
    obtain ⟨hb, hvalue⟩ := List.forall_mem_cons.mp h
    have hread' : ∀ c ∈ b :: read, IsQuotable c := List.forall_mem_cons.mpr ⟨hb, hread⟩
    rw [List.cons_append, quotedValue?, if_neg hb.1, ih hvalue hread', List.reverse_cons,
      List.append_assoc, List.singleton_append]
    rintro read rfl -
    exact (hread _ List.mem_cons_self).2 rfl

/-- An attribute whose value stands in quotes. -/
theorem attributeValue?_quoted {value : Bytes} (h : ∀ b ∈ value, IsQuotable b) (rest : Bytes) :
    attributeValue? (0x3D :: 0x22 :: (value ++ 0x22 :: rest)) = some value :=
  quotedValue?_append h (List.forall_mem_nil _) rest

/-- Neither a blank nor a sign that means something between attributes. -/
structure IsInside (b : UInt8) : Prop where
  /-- it does not separate attributes -/
  not_space : isSpace b = false
  /-- nor does it end one -/
  not_semicolon : b ≠ 0x3B
  /-- and no value follows it -/
  not_equals : b ≠ 0x3D

/-- A quote is no such sign either: what follows an occurrence may be the end of the value in which
it stands. -/
theorem isInside_quote : IsInside 0x22 :=
  ⟨by decide, by decide, by decide⟩

/-- Behind an occurrence inside of a value there is no value. -/
theorem attributeValue?_of_isInside {b : UInt8} (h : IsInside b) (rest : Bytes) :
    attributeValue? (b :: rest) = none := by
  have hspace : ¬ isSpace b = true := Bool.eq_false_iff.mp h.not_space
  rw [attributeValue?, List.dropWhile_cons_of_neg hspace]
  split
  next heq => exact absurd (List.cons.inj heq).1 h.not_equals
  next => rfl

/-! ## The search

The search looks for the next occurrence of the word and asks two things about it: whether it may be
the name of an attribute, by the byte before it, and whether a value follows. If it may not be, the
search goes on right behind it, and what it has passed is forgotten; there the next occurrence
counts as preceded by nothing. If it may be, its value ends the search, also if it has none.

This is why two occurrences in a row matter: the second comes where the search has just begun again.
The lemmas below follow a search through the name of a field, up to the quote behind it; what comes
of the search there is a parameter (`ComesTo`), since it is not the same for fields and for files.
-/

/-- No attribute begins inside of a value: the byte before the occurrence is one of the value. -/
theorem mayPrecede_append {inside : Bytes} (hne : inside ≠ []) (h : ∀ b ∈ inside, IsInside b)
    (front : Bytes) : mayPrecede (front ++ inside) = false := by
  have hlast : IsInside (inside.getLast hne) := h _ (List.getLast_mem hne)
  rw [mayPrecede, List.getLast?_append_of_ne_nil front hne, List.getLast?_eq_some_getLast hne]
  simp only [hlast.not_space, hlast.not_semicolon, decide_false, Bool.or_false]

/-- Where the word does not occur, the search finds nothing. -/
theorem attributeFrom_eq_none (hfront : ¬ word <:+: front) :
    attributeFrom word turns front = none := by
  cases turns with
  | zero => rfl
  | succ turns => rw [attributeFrom, cut?_eq_none hfront]

/-- Behind a value that does not hold the word, and the quote after it, the search comes to
`result`. -/
def ComesTo (word tail : Bytes) (result : Option Bytes) : Prop :=
  ∀ front, ¬ word <:+: front → ∀ turns,
    attributeFrom word (turns + 1) (front ++ 0x22 :: tail) = result

section

variable (hword : StandsApart word)

include hword

/-- The search stops at the first occurrence that may be an attribute. -/
theorem attributeFrom_append (hfront : ¬ word <:+: front) :
    attributeFrom word (turns + 1) (front ++ (word ++ after)) =
      if mayPrecede front then attributeValue? after else attributeFrom word turns after := by
  rw [attributeFrom, cut?_append hword hfront]

/-- An occurrence that can be no attribute is passed over. -/
theorem attributeFrom_passed (hfront : ¬ word <:+: front) (hpassed : mayPrecede front = false) :
    attributeFrom word (turns + 1) (front ++ (word ++ after)) = attributeFrom word turns after := by
  rw [attributeFrom_append hword hfront, hpassed, if_neg Bool.false_ne_true]

/-- An occurrence that nothing precedes is taken for an attribute, also inside of a value, where it
has none. -/
theorem attributeFrom_taken (hname : ∀ b ∈ name, IsInside b) :
    attributeFrom word (turns + 1) (word ++ (name ++ 0x22 :: tail)) = none := by
  have hfront : ¬ word <:+: [] := fun hholds => hword.ne_nil (List.infix_nil.mp hholds)
  have hmay : mayPrecede [] = true := rfl
  have hvalue : attributeValue? (name ++ 0x22 :: tail) = none := by
    rcases name with _ | ⟨b, name⟩
    · exact attributeValue?_of_isInside isInside_quote tail
    · exact attributeValue?_of_isInside (hname b List.mem_cons_self) _
  rw [← hvalue]
  exact (attributeFrom_append hword hfront).trans (if_pos hmay)

/-- **After an occurrence that was passed over**, the rest of a name hides what comes behind it if
the name goes on with another occurrence, or holds two in a row.

The induction is on the turns of the search. With every turn that passes over an occurrence, the
rest of the name gets shorter by at least one byte, so the turns do not run out. -/
theorem attributeFrom_inside (htail : ComesTo word tail result) (hname : ∀ b ∈ name, IsInside b)
    (hturns : name.length < turns) :
    attributeFrom word turns (name ++ 0x22 :: tail) =
      if word <+: name ∨ word ++ word <:+: name then none else result := by
  induction turns generalizing name with
  | zero => exact absurd hturns (Nat.not_lt_zero _)
  | succ turns ih =>
    -- either the word occurs in what is left of the name, and then there is a first occurrence
    by_cases hholds : word <:+: name
    · obtain ⟨before, after, rfl, hbefore⟩ := exists_first_of_holds hword.ne_nil hholds
      obtain ⟨hinside, hrest⟩ := List.forall_mem_append.mp hname
      have hafter : ∀ b ∈ after, IsInside b := (List.forall_mem_append.mp hrest).2
      rw [List.append_assoc, List.append_assoc]
      rcases before with _ | ⟨b, before⟩
      · rw [List.nil_append, List.nil_append, attributeFrom_taken hword hafter,
          if_pos (.inl (List.prefix_append word after))]
      · have hpassed : mayPrecede (b :: before) = false :=
          mayPrecede_append (List.cons_ne_nil b before) hinside []
        have hnot_begins : ¬ word <+: (b :: before) ++ (word ++ after) := by
          rintro ⟨rest, hrest⟩
          rcases hword.prefix_of_append_eq hrest with hnil | hbegins
          · cases hnil
          · exact hbefore hbegins.isInfix
        have hlength : after.length < turns := by
          simp only [List.length_append, List.length_cons] at hturns
          omega
        rw [attributeFrom_passed hword hbefore hpassed, ih hafter hlength]
        simp only [hword.twice_infix_iff hbefore, hnot_begins, false_or]
    · have hclear : ¬ (word <+: name ∨ word ++ word <:+: name) := by
        rintro (hbegins | htwice)
        · exact hholds hbegins.isInfix
        · exact hholds ((List.prefix_append word word).isInfix.trans htwice)
      rw [if_neg hclear, htail name hholds turns]

/-- **The name of a field** that stands in quotes hides what comes behind it if it holds the word
twice in a row, and does not if not. In contrast to `attributeFrom_inside` a single occurrence at
its beginning does no harm, since the quote comes before it. -/
theorem attributeFrom_opened (htail : ComesTo word tail result) (hquote : 0x22 ∉ word)
    (hfront : ¬ word <:+: front) (hname : ∀ b ∈ name, IsInside b) (hturns : name.length < turns) :
    attributeFrom word turns (front ++ 0x22 :: (name ++ 0x22 :: tail)) =
      if word ++ word <:+: name then none else result := by
  have hclear (before : Bytes) (hbefore : ¬ word <:+: before) :
      ¬ word <:+: front ++ 0x22 :: before := by
    rw [infix_append_cons_iff hword.ne_nil hquote, not_or]
    exact ⟨hfront, hbefore⟩
  obtain ⟨turns, rfl⟩ : ∃ n, turns = n + 1 := Nat.exists_eq_add_one_of_ne_zero (by omega)
  by_cases hholds : word <:+: name
  · obtain ⟨before, after, rfl, hbefore⟩ := exists_first_of_holds hword.ne_nil hholds
    obtain ⟨hinside, hrest⟩ := List.forall_mem_append.mp hname
    have hafter : ∀ b ∈ after, IsInside b := (List.forall_mem_append.mp hrest).2
    have hpassed : mayPrecede (front ++ 0x22 :: before) = false :=
      mayPrecede_append (List.cons_ne_nil _ _)
        (List.forall_mem_cons.mpr ⟨isInside_quote, hinside⟩) front
    have hlength : after.length < turns := by
      have hpos := List.length_pos_of_ne_nil hword.ne_nil
      simp only [List.length_append] at hturns
      omega
    have hsplit : front ++ 0x22 :: ((before ++ (word ++ after)) ++ 0x22 :: tail) =
        (front ++ 0x22 :: before) ++ (word ++ (after ++ 0x22 :: tail)) := by
      simp only [List.append_assoc, List.cons_append]
    rw [hsplit, attributeFrom_passed hword (hclear before hbefore) hpassed,
      attributeFrom_inside hword htail hafter hlength]
    simp only [hword.twice_infix_iff hbefore]
  · have htwice : ¬ word ++ word <:+: name := fun htwice =>
      hholds ((List.prefix_append word word).isInfix.trans htwice)
    have hsplit : front ++ 0x22 :: (name ++ 0x22 :: tail) =
        (front ++ 0x22 :: name) ++ 0x22 :: tail := by
      rw [List.append_assoc, List.cons_append]
    rw [if_neg htwice, hsplit, htail _ (hclear name hholds) turns]

end

/-! ## Dispositions of fields and files

A disposition is written with the name of the field first and the name of the file second, each in
quotes. The three results are about these texts. For the attribute `name` the first occurrence is
the right one; for `filename` the search has to get through the name of the field. -/

/-- The disposition of a field. -/
def fieldDisposition (name : String) : String :=
  "form-data; name=\x22" ++ name ++ "\x22"

/-- The disposition of a file. -/
def fileDisposition (name filename : String) : String :=
  fieldDisposition name ++ "; filename=\x22" ++ filename ++ "\x22"

/-- A field with this name hides that its part is a file. -/
def HidesFile (name : String) : Prop :=
  "filenamefilename".toList <:+: name.toList

instance (name : String) : Decidable (HidesFile name) :=
  inferInstanceAs (Decidable ("filenamefilename".toList <:+: name.toList))

section

open Text

variable {name filename : String}

/-- A plain name stands in quotes for itself. -/
theorem isQuotable_of_plain (h : IsPlainName name) : ∀ b ∈ Utf8.encode name, IsQuotable b :=
  h.forall_mem_encode (by unfold IsQuotable; decide)

/-- No byte of a plain name means anything between attributes. -/
theorem isInside_of_plain (h : IsPlainName name) : ∀ b ∈ Utf8.encode name, IsInside b := by
  have hbyte : ∀ n < 128, isNameChar (Char.ofNat n) = true → isSpace (UInt8.ofNat n) = false ∧
      UInt8.ofNat n ≠ 0x3B ∧ UInt8.ofNat n ≠ 0x3D := by decide
  refine h.forall_mem_encode fun n hn hchar => ?_
  obtain ⟨hspace, hsemicolon, hequals⟩ := hbyte n hn hchar
  exact ⟨hspace, hsemicolon, hequals⟩

/-- Whether a name holds the word twice in a row is the same for its characters and for its bytes.
-/
theorem hidesFile_iff (h : IsPlainName name) :
    HidesFile name ↔ Utf8.encode "filename" ++ Utf8.encode "filename" <:+: Utf8.encode name := by
  rw [← Utf8.encode_append, Utf8.encode_infix_iff (by decide) h.isAscii]
  rfl

/-- The bytes of the disposition of a field, with the quotes as what the search stops at. -/
theorem encode_fieldDisposition (name : String) :
    Utf8.encode (fieldDisposition name) =
      Utf8.encode "form-data; name=" ++ 0x22 :: (Utf8.encode name ++ 0x22 :: []) := by
  have hopening : Utf8.encode "form-data; name=\x22" =
      Utf8.encode "form-data; name=" ++ [0x22] := rfl
  have hquote : Utf8.encode "\x22" = [0x22] := rfl
  unfold fieldDisposition
  simp only [Utf8.encode_append, hopening, hquote, List.append_assoc, List.cons_append,
    List.nil_append]

/-- The bytes of the disposition of a file: those of its field, and the attribute with its name. -/
theorem encode_fileDisposition (name filename : String) :
    Utf8.encode (fileDisposition name filename) =
      Utf8.encode "form-data; name=" ++ 0x22 :: (Utf8.encode name ++ 0x22 :: 0x3B :: 0x20 ::
        (Utf8.encode "filename" ++ 0x3D :: 0x22 :: (Utf8.encode filename ++ 0x22 :: []))) := by
  have hopening : Utf8.encode "; filename=\x22" =
      0x3B :: 0x20 :: (Utf8.encode "filename" ++ [0x3D, 0x22]) := rfl
  have hquote : Utf8.encode "\x22" = [0x22] := rfl
  unfold fileDisposition
  simp only [Utf8.encode_append, encode_fieldDisposition, hopening, hquote, List.append_assoc,
    List.cons_append, List.nil_append]

/-- **The name of a field is found**, whatever follows it. Before it stands `form-data` and a blank,
so the first occurrence of the word is the attribute. -/
theorem attribute?_name (h : IsPlainName name) (tail : Bytes) :
    attribute? "name"
      (Utf8.encode "form-data; name=" ++ 0x22 :: (Utf8.encode name ++ 0x22 :: tail)) =
        some name := by
  have hword : StandsApart (Utf8.encode "name") := ⟨0x6E, [0x61, 0x6D, 0x65], rfl, by decide⟩
  have hfront : ¬ Utf8.encode "name" <:+: Utf8.encode "form-data; " := by decide
  have hmay : mayPrecede (Utf8.encode "form-data; ") = true := by decide
  have hsplit : Utf8.encode "form-data; name=" ++ 0x22 :: (Utf8.encode name ++ 0x22 :: tail) =
      Utf8.encode "form-data; " ++
        (Utf8.encode "name" ++ 0x3D :: 0x22 :: (Utf8.encode name ++ 0x22 :: tail)) := by
    have hopening : Utf8.encode "form-data; name=" =
        Utf8.encode "form-data; " ++ (Utf8.encode "name" ++ [0x3D]) := rfl
    rw [hopening, List.append_assoc, List.append_assoc, List.singleton_append]
  rw [attribute?, hsplit, attributeFrom_append hword hfront, if_pos hmay,
    attributeValue?_quoted (isQuotable_of_plain h), Option.bind_some, Utf8.decode?_encode]

/-- No two occurrences of the word overlap, since its first letter does not come again in it. -/
theorem standsApart_filename : StandsApart (Utf8.encode "filename") :=
  ⟨0x66, [0x69, 0x6C, 0x65, 0x6E, 0x61, 0x6D, 0x65], rfl, by decide⟩

/-- No occurrence of the word goes across a quote. -/
theorem quote_not_mem_filename : 0x22 ∉ Utf8.encode "filename" := by
  decide

/-- The search for the name of a file, given what comes of it behind the name of the field. -/
theorem attribute?_filename (h : IsPlainName name) {tail : Bytes} {result : Option Bytes}
    (htail : ComesTo (Utf8.encode "filename") tail result) :
    attribute? "filename"
      (Utf8.encode "form-data; name=" ++ 0x22 :: (Utf8.encode name ++ 0x22 :: tail)) =
        if HidesFile name then none else result.bind Utf8.decode? := by
  have hfront : ¬ Utf8.encode "filename" <:+: Utf8.encode "form-data; name=" := by decide
  rw [attribute?, attributeFrom_opened standsApart_filename htail quote_not_mem_filename hfront
    (isInside_of_plain h) (by simp only [List.length_append, List.length_cons]; omega)]
  simp only [hidesFile_iff h]
  split <;> rfl

/-- **A field is not taken for a file**, whatever it is called: behind its name the word does not
occur, and inside of it there is no value. -/
theorem attribute?_filename_field (h : IsPlainName name) :
    attribute? "filename" (Utf8.encode (fieldDisposition name)) = none := by
  have htail : ComesTo (Utf8.encode "filename") [] none := by
    intro front hfront turns
    refine attributeFrom_eq_none ?_
    rw [infix_append_cons_iff standsApart_filename.ne_nil quote_not_mem_filename, not_or]
    exact ⟨hfront, by decide⟩
  rw [encode_fieldDisposition, attribute?_filename h htail, Option.bind_none, ite_self]

/-- **The name of a file is found** unless the name of its field hides it. Behind the name of the
field the next occurrence is that of the attribute, and a blank precedes it. -/
theorem attribute?_filename_file (h : IsPlainName name) (hfile : IsPlainName filename) :
    attribute? "filename" (Utf8.encode (fileDisposition name filename)) =
      if HidesFile name then none else some filename := by
  have htail : ComesTo (Utf8.encode "filename") (0x3B :: 0x20 :: (Utf8.encode "filename" ++
      0x3D :: 0x22 :: (Utf8.encode filename ++ 0x22 :: []))) (some (Utf8.encode filename)) := by
    intro front hfront turns
    have hclear : ¬ Utf8.encode "filename" <:+: front ++ 0x22 :: [0x3B, 0x20] := by
      rw [infix_append_cons_iff standsApart_filename.ne_nil quote_not_mem_filename, not_or]
      exact ⟨hfront, by decide⟩
    have hmay : mayPrecede (front ++ 0x22 :: [0x3B, 0x20]) = true := by
      rw [mayPrecede, List.getLast?_append_of_ne_nil front (List.cons_ne_nil _ _)]
      rfl
    have hsplit (after : Bytes) : front ++ 0x22 :: 0x3B :: 0x20 :: after =
        (front ++ 0x22 :: [0x3B, 0x20]) ++ after := by
      simp only [List.append_assoc, List.cons_append, List.nil_append]
    rw [hsplit, attributeFrom_append standsApart_filename hclear, if_pos hmay,
      attributeValue?_quoted (isQuotable_of_plain hfile)]
  rw [encode_fileDisposition, attribute?_filename h htail, Option.bind_some, Utf8.decode?_encode]

end

end Multipart

end ActionGateway
