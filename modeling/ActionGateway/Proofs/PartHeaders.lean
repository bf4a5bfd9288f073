import ActionGateway.Proofs.Dispositions
import ActionGateway.Proofs.UrlEncoding

/-!
# Headers of parts come back from their lines

A header stands on a line with its name, a colon and its value. A line holds no line break, so a
block of lines ends at the first empty one (`Multipart.cut?_headerLines`), and what is read from it
are the headers that were written (`Multipart.readHeaders_headerLines`).

Headers are read with a limit on their number and on the length of their names, and names are kept
in lower case. So what comes back is what a later header of the same name leaves.
-/

namespace ActionGateway

/-- The blank that stands before a value is trimmed away, if the value has none at its ends. -/
theorem Text.trimList_cons {α : Type} {p : α → Bool} {a : α} {l : List α} (ha : p a = true)
    (hfirst : ∀ b ∈ l.head?, p b = false) (hlast : ∀ b ∈ l.getLast?, p b = false) :
    Text.trimList p (a :: l) = l :=
  Text.Trims.trimList_eq
    ⟨⟨[a], [], by simp, by simpa using ha, List.forall_mem_nil _⟩, hfirst, hlast⟩

/-- Tokens are texts of ASCII. -/
theorem Token.ascii_of_isTokenChar {c : Char} (h : isTokenChar c = true) : c.toNat < 128 := by
  rw [isTokenChar, Bool.or_eq_true] at h
  rcases h with halphanum | hmark
  · exact Text.ascii_of_isAlphanum halphanum
  · have hmarks : marks.all (fun c => c.toNat < 128) = true := by decide
    exact of_decide_eq_true (List.all_eq_true.mp hmarks c (List.contains_iff_mem.mp hmark))

namespace Multipart

open Bytes

/-! ## One line

What a line may hold is asked of the name and of the value apart. A name is a token, so it ends at
the colon; a value holds no control character, so it ends with the line. -/

/-- A name that can stand before a colon. -/
structure IsHeaderName (name : String) : Prop where
  ne_empty : name ≠ ""
  token : ∀ c ∈ name.toList, Token.isTokenChar c = true
  short : name.utf8ByteSize ≤ maxNameLength

/-- A value that can stand after a colon and is not cut at its ends. -/
structure IsHeaderValue (value : String) : Prop where
  allowed : ∀ b ∈ Utf8.encode value, HeaderValue.isAllowed b = true
  first_not_blank : ∀ b ∈ (Utf8.encode value).head?, isBlank b = false
  last_not_blank : ∀ b ∈ (Utf8.encode value).getLast?, isBlank b = false

/-- A header that can stand on a line. -/
structure IsHeader (header : String × String) : Prop where
  name : IsHeaderName header.1
  value : IsHeaderValue header.2

/-- What a header's line holds. -/
def headerText (header : String × String) : Bytes :=
  Utf8.encode header.1 ++ 0x3A :: 0x20 :: Utf8.encode header.2

/-- The line of a header. -/
def headerLine (header : String × String) : Bytes :=
  headerText header ++ lineBreak

variable {header : String × String} {headers : List (String × String)}

/-- No line is empty, since there is a colon on it. -/
theorem headerText_ne_nil (header : String × String) : headerText header ≠ [] :=
  List.append_ne_nil_of_right_ne_nil _ (List.cons_ne_nil _ _)

namespace IsHeader

/-- The name of a header is a text of ASCII, so each of its characters is one byte. -/
theorem isAscii (h : IsHeader header) : Utf8.IsAscii header.1 :=
  fun c hc => Token.ascii_of_isTokenChar (h.name.token c hc)

/-- These bytes are those of a token. -/
theorem isTokenByte (h : IsHeader header) :
    ∀ b ∈ Utf8.encode header.1, Token.isTokenByte b = true := by
  refine Utf8.forall_mem_encode_of_ascii h.isAscii fun c hc => ?_
  rw [Token.isTokenByte, Utf8.ofNat_toNat_of_ascii (h.isAscii c hc)]
  exact h.name.token c hc

/-- There is at least one of them. -/
theorem encode_ne_nil (h : IsHeader header) : Utf8.encode header.1 ≠ [] :=
  fun hnil => h.name.ne_empty (Utf8.encode_injective hnil)

/-- No line breaks within the line. -/
theorem not_mem_headerText (h : IsHeader header) : 0x0D ∉ headerText header := by
  intro hmem
  rcases List.mem_append.mp hmem with hname | hvalue
  · exact absurd (h.isTokenByte _ hname) (by decide)
  · simp only [List.mem_cons] at hvalue
    rcases hvalue with hcolon | hspace | hvalue
    · exact absurd hcolon (by decide)
    · exact absurd hspace (by decide)
    · exact absurd (h.value.allowed _ hvalue) (by decide)

/-- **A header is read back from its line**: the name ends at the colon, the value at the line
break, and the blank between them belongs to neither. -/
theorem header?_headerLine (h : IsHeader header) (rest : Bytes) :
    header? (headerLine header ++ rest) = some ((header.1, Utf8.encode header.2), rest) := by
  have hline : headerLine header ++ rest =
      Utf8.encode header.1 ++ 0x3A :: (0x20 :: Utf8.encode header.2 ++ 0x0D :: 0x0A :: rest) := by
    simp only [headerLine, headerText, lineBreak, List.append_assoc, List.cons_append,
      List.nil_append]
  have hnamed : (Utf8.encode header.1).isEmpty = false :=
    List.isEmpty_eq_false_iff.mpr h.encode_ne_nil
  have hallowed : ∀ b ∈ 0x20 :: Utf8.encode header.2, HeaderValue.isAllowed b = true :=
    List.forall_mem_cons.mpr ⟨by decide, h.value.allowed⟩
  -- the value goes as far as bytes are allowed, which is up to the line break
  have hvalue : (0x20 :: Utf8.encode header.2 ++ 0x0D :: 0x0A :: rest).takeWhile
      HeaderValue.isAllowed = 0x20 :: Utf8.encode header.2 :=
    Text.takeWhile_append_stop hallowed (by decide) _
  have hrest : (0x20 :: Utf8.encode header.2 ++ 0x0D :: 0x0A :: rest).dropWhile
      HeaderValue.isAllowed = 0x0D :: 0x0A :: rest :=
    Text.dropWhile_append_stop hallowed (by decide) _
  have htrim : Text.trimList isBlank (0x20 :: Utf8.encode header.2) = Utf8.encode header.2 :=
    Text.trimList_cons (by decide) h.value.first_not_blank h.value.last_not_blank
  rw [header?, hline, Text.takeWhile_append_stop h.isTokenByte (by decide),
    Text.dropWhile_append_stop h.isTokenByte (by decide), hnamed, if_neg Bool.false_ne_true]
  simp only [hvalue, hrest, lineEnd?, Option.map_some, htrim, Utf8.map_encode_of_ascii h.isAscii,
    String.ofList_toList]

/-- The line of a header is not the empty one. -/
theorem lineEnd?_headerLine (h : IsHeader header) (rest : Bytes) :
    lineEnd? (headerLine header ++ rest) = none := by
  obtain ⟨b, name, hname⟩ := List.exists_cons_of_ne_nil h.encode_ne_nil
  have hb : Token.isTokenByte b = true := h.isTokenByte b (hname ▸ List.mem_cons_self)
  rw [headerLine, headerText, hname]
  simp only [List.cons_append]
  unfold lineEnd?
  split
  next heq => exact absurd ((List.cons.inj heq).1 ▸ hb) (by decide)
  next heq => exact absurd ((List.cons.inj heq).1 ▸ hb) (by decide)
  next => rfl

end IsHeader

/-! ## Blocks of headers

The search for the empty line looks for two line breaks in a row. It passes over each line of a
header, since its text holds no line break and the one at its end is followed by another name; so it
stops behind the last header. The inductions are on the headers, line by line. -/

/-- The text on a line is passed over in the search for the empty line. -/
theorem cut?_headerText (h : IsHeader header) (after : Bytes) :
    cut? (lineBreak ++ lineBreak) (headerText header ++ after) =
      (cut? (lineBreak ++ lineBreak) after).map fun cut =>
        (headerText header ++ cut.1, cut.2) := by
  rw [cut?_eq_firstCut?, cut?_eq_firstCut?]
  exact firstCut?_append_of_not_mem h.not_mem_headerText after

/-- So is a line break if another header follows. -/
theorem cut?_lineBreak (h : IsHeader header) (after : Bytes) :
    cut? (lineBreak ++ lineBreak) (lineBreak ++ (headerLine header ++ after)) =
      (cut? (lineBreak ++ lineBreak) (headerLine header ++ after)).map fun cut =>
        (lineBreak ++ cut.1, cut.2) := by
  -- after the first line break a second one would stand in the text of the next line
  have hreturn : ¬ lineBreak ++ lineBreak <+: 0x0D :: 0x0A :: (headerLine header ++ after) := by
    intro hbegins
    obtain ⟨b, text, htext⟩ := List.exists_cons_of_ne_nil (headerText_ne_nil header)
    have htail : lineBreak <+: headerLine header ++ after :=
      (List.prefix_append_right_inj lineBreak).mp hbegins
    rw [headerLine, htext] at htail
    have hb : 0x0D = b := (List.cons_prefix_cons.mp htail).1
    exact h.not_mem_headerText (by rw [htext, hb]; exact List.mem_cons_self)
  have hfeed : ¬ lineBreak ++ lineBreak <+: 0x0A :: (headerLine header ++ after) :=
    fun hbegins => absurd (List.cons_prefix_cons.mp hbegins).1 (by decide)
  have hsplit : lineBreak ++ (headerLine header ++ after) =
      0x0D :: 0x0A :: (headerLine header ++ after) := rfl
  rw [cut?_eq_firstCut?, cut?_eq_firstCut?, hsplit, firstCut?_cons_of_not_begins hreturn,
    firstCut?_cons_of_not_begins hfeed, Option.map_map]
  rfl

/-- **A block of headers ends at the first empty line.** No line of it is empty, so the first two
line breaks in a row are those around that line. -/
theorem cut?_headerLines (hne : headers ≠ []) (h : ∀ header ∈ headers, IsHeader header)
    (back : Bytes) :
    ∃ block, headers.flatMap headerLine = block ++ lineBreak ∧
      cut? (lineBreak ++ lineBreak) (headers.flatMap headerLine ++ (lineBreak ++ back)) =
        some (block, back) := by
  induction headers with
  | nil => exact absurd rfl hne
  | cons header headers ih =>
    obtain ⟨hheader, hheaders⟩ := List.forall_mem_cons.mp h
    -- the last line is followed by the empty one, the others by a line of their kind
    rcases headers with _ | ⟨next, rest⟩
    · refine ⟨headerText header, List.append_nil _, ?_⟩
      have hhere : cut? (lineBreak ++ lineBreak) (lineBreak ++ (lineBreak ++ back)) =
          some ([], back) := by
        rw [cut?_eq_firstCut?]
        exact firstCut?_of_after?_eq_some (after?_eq_some_iff.mpr (List.append_assoc _ _ _).symm)
      rw [List.flatMap_singleton, headerLine, List.append_assoc, cut?_headerText hheader, hhere,
        Option.map_some, List.append_nil]
    · obtain ⟨block, hblock, hcut⟩ := ih (List.cons_ne_nil next rest) hheaders
      refine ⟨headerLine header ++ block, ?_, ?_⟩
      · rw [List.flatMap_cons, hblock, List.append_assoc]
      · rw [List.flatMap_cons, List.append_assoc] at hcut
        have hnext := hheaders next List.mem_cons_self
        rw [List.flatMap_cons, List.flatMap_cons, headerLine, List.append_assoc, List.append_assoc,
          List.append_assoc, cut?_headerText hheader, cut?_lineBreak hnext, hcut, Option.map_some,
          Option.map_some, List.append_assoc]

/-- The lines of headers are read one after the other, up to the empty line. -/
theorem headerLines?_headerLines (h : ∀ header ∈ headers, IsHeader header) {left : Nat}
    (hleft : headers.length ≤ left) :
    headerLines? left (headers.flatMap headerLine ++ lineBreak) =
      some (headers.map fun header => (header.1, Utf8.encode header.2)) := by
  induction headers generalizing left with
  | nil => cases left <;> rfl
  | cons header headers ih =>
    obtain ⟨hheader, hheaders⟩ := List.forall_mem_cons.mp h
    obtain ⟨left, rfl⟩ : ∃ n, left = n + 1 :=
      Nat.exists_eq_add_one_of_ne_zero (Nat.ne_of_gt (Nat.lt_of_lt_of_le (Nat.succ_pos _) hleft))
    rw [List.flatMap_cons, List.append_assoc, headerLines?, hheader.lineEnd?_headerLine]
    simp only [hheader.header?_headerLine, ih hheaders (Nat.le_of_succ_le_succ hleft),
      Option.map_some, List.map_cons]

/-- Of headers with one name the last is kept, under the name in lower case. -/
theorem addHeaders_written (h : ∀ header ∈ headers, IsHeader header) (kept : Headers) :
    addHeaders kept (headers.map fun header => (header.1, Utf8.encode header.2)) =
      .ok (headers.foldl (fun kept header =>
        kept.set (headerName header.1) (Utf8.encode header.2)) kept) := by
  induction headers generalizing kept with
  | nil => rfl
  | cons header headers ih =>
    obtain ⟨hheader, hheaders⟩ := List.forall_mem_cons.mp h
    rw [List.map_cons, addHeaders, if_neg (Nat.not_lt.mpr hheader.name.short), ih hheaders,
      List.foldl_cons]

/-- **The headers of a block are read back**, as many as a part may have. Names that differ in the
case of letters alone count as one. -/
theorem readHeaders_headerLines (h : ∀ header ∈ headers, IsHeader header)
    (hcount : headers.length ≤ maxHeaders) {block : Bytes}
    (hblock : headers.flatMap headerLine = block ++ lineBreak) :
    readHeaders block =
      .ok (headers.foldl (fun kept header =>
        kept.set (headerName header.1) (Utf8.encode header.2)) []) := by
  rw [readHeaders, ← hblock, headerLines?_headerLines h hcount]
  exact addHeaders_written h []

end Multipart

end ActionGateway
