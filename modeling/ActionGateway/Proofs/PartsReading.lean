import ActionGateway.Proofs.BodyLimit
import ActionGateway.Proofs.SentParts

/-!
# Forms in several parts come back

A form is sent as its parts one after the other, with a delimiter before each and after the last.
Contents may hold anything but the line break and the delimiter that end them. Such a form is read
part by part, in order (`Multipart.parse_render`), and the gateway makes fields and files of the
parts.

What it makes of them is what was sent **exactly if no file is overlooked**
(`Call.parts_come_back`): a file whose field is called so that its own name is not found is taken
for a field, and its data for a text.
-/

namespace ActionGateway

namespace Multipart

open Bytes

/-! ## Parts one after the other

A form is written as its parts and a last delimiter, and is read in turns: each turn takes the end
of the line on which the delimiter stands, reads one part, and stops behind the next delimiter. Two
hyphens after a delimiter end the form. The invariant of the loop is that what is left begins right
behind a delimiter, with the parts still to come; `Multipart.readParts_render` states it together
with the parts that have been read. -/

/-- A form in several parts. -/
def render (boundary : String) (parts : List SentPart) : Bytes :=
  parts.flatMap (SentPart.render boundary) ++ (delimiter boundary ++ 0x2D :: 0x2D :: lineBreak)

variable {boundary : String} {parts : List SentPart}

/-- A boundary of letters and digits holds no line break. So where a line break and the delimiter
occur in a content followed by them, they occur in the content alone or where it ends. -/
theorem standsApart_delimiter (h : ∀ c ∈ boundary.toList, c.isAlphanum = true) :
    StandsApart (lineBreak ++ delimiter boundary) := by
  have hplain : Text.IsPlainName boundary := fun c hc => by
    rw [Text.isNameChar, h c hc, Bool.true_or, Bool.true_or, Bool.true_or]
  have hbytes : ∀ b ∈ Utf8.encode boundary, b ≠ 0x0D := hplain.forall_mem_encode (by decide)
  refine ⟨0x0D, 0x0A :: delimiter boundary, rfl, ?_⟩
  simp only [delimiter, List.mem_cons, not_or]
  exact ⟨by decide, by decide, by decide, fun hmem => hbytes _ hmem rfl⟩

/-- One part: the line of its delimiter ends, and the part is read. -/
theorem readParts_of_readPart {delimiter rest after : Bytes} {part : Part}
    (h : readPart delimiter rest = .ok (part, after)) (turns : Nat) (read : List Part) :
    readParts delimiter (turns + 1) read (lineBreak ++ rest) =
      readParts delimiter turns (part :: read) after := by
  have hline : (lineBreak ++ rest).dropWhile isBlank = 0x0D :: 0x0A :: rest := rfl
  rw [readParts, hline]
  · simp only [h]
  · exact fun tail heq => absurd (List.cons.inj heq).1 (by decide)

/-- **The parts of a form are read one after the other.** What is rendered begins with a delimiter,
and what comes after that gives the parts, after those that have been read before, if there are more
turns than parts. -/
theorem readParts_render (hdelimiter : StandsApart (lineBreak ++ delimiter boundary))
    (hplain : ∀ part ∈ parts, part.IsPlain)
    (hcontent : ∀ part ∈ parts, ¬ lineBreak ++ delimiter boundary <:+: part.content)
    {turns : Nat} (hturns : parts.length < turns) (read : List Part) :
    ∃ after, render boundary parts = delimiter boundary ++ after ∧
      readParts (delimiter boundary) turns read after =
        .ok (read.reverse ++ parts.map SentPart.taken) := by
  -- on the parts, for any number of turns that is large enough and anything read before
  induction parts generalizing turns read with
  | nil =>
    obtain ⟨turns, rfl⟩ := Nat.exists_eq_add_one_of_ne_zero (Nat.ne_of_gt hturns)
    refine ⟨0x2D :: 0x2D :: lineBreak, List.nil_append _, ?_⟩
    rw [readParts, List.map_nil, List.append_nil]
  | cons part parts ih =>
    obtain ⟨hpart, hparts⟩ := List.forall_mem_cons.mp hplain
    obtain ⟨hapart, haparts⟩ := List.forall_mem_cons.mp hcontent
    obtain ⟨turns, rfl⟩ :=
      Nat.exists_eq_add_one_of_ne_zero (Nat.ne_of_gt (Nat.lt_of_le_of_lt (Nat.zero_le _) hturns))
    obtain ⟨after, hrender, hread⟩ :=
      ih hparts haparts (Nat.lt_of_succ_lt_succ hturns) (part.taken :: read)
    refine ⟨lineBreak ++ (part.headers.flatMap headerLine ++ (lineBreak ++ (part.content ++
      ((lineBreak ++ delimiter boundary) ++ after)))), ?_, ?_⟩
    · have hnext : render boundary (part :: parts) =
          part.render boundary ++ render boundary parts := by
        rw [render, List.flatMap_cons, List.append_assoc, ← render]
      rw [hnext, hrender, SentPart.render]
      simp only [List.append_assoc]
    · -- the content ends where the next delimiter stands, so the rest is the rendering of the other
      -- parts
      rw [readParts_of_readPart (readPart_render hpart hdelimiter hapart after), hread,
        List.reverse_cons, List.append_assoc, List.singleton_append, List.map_cons]

/-- A form is at least as long as it has parts. The reader allows itself as many turns as there are
bytes, so it never runs out of them. -/
theorem length_le_length_render (boundary : String) (parts : List SentPart) :
    parts.length ≤ (render boundary parts).length := by
  have hpart (part : SentPart) : 1 ≤ (part.render boundary).length := by
    rw [SentPart.render, delimiter, List.length_append, List.length_cons]
    omega
  have hparts : parts.length ≤ (parts.flatMap (SentPart.render boundary)).length := by
    induction parts with
    | nil => exact Nat.le_refl 0
    | cons part parts ih =>
      have hfirst := hpart part
      rw [List.flatMap_cons, List.length_append, List.length_cons]
      omega
  rw [render, List.length_append]
  exact Nat.le_add_right_of_le hparts

/-- **A form in several parts is read as it was sent**, part by part. The first delimiter is looked
for, and it is there at once; what the loop does behind it is `readParts_render`. -/
theorem parse_render (hboundary : ∀ c ∈ boundary.toList, c.isAlphanum = true)
    (hplain : ∀ part ∈ parts, part.IsPlain)
    (hcontent : ∀ part ∈ parts, ¬ lineBreak ++ delimiter boundary <:+: part.content) :
    parse boundary (render boundary parts) = .ok (parts.map SentPart.taken) := by
  obtain ⟨after, hrender, hread⟩ := readParts_render (standsApart_delimiter hboundary) hplain
    hcontent (Nat.lt_succ_of_le (length_le_length_render boundary parts)) []
  have hcut : cut? (delimiter boundary) (render boundary parts) = some ([], after) := by
    rw [cut?_eq_firstCut?, hrender]
    exact firstCut?_of_after?_eq_some (after?_eq_some_iff.mpr rfl)
  rw [delimiter] at hcut hread
  rw [parse]
  simp only [hcut]
  exact hread

end Multipart

/-! ## Fields and files

What a part has become when it has been read is `SentPart.taken`: it has a file name or it has none.
A part with a file name is made a file and one without is made a pair, so a file whose name was not
found (`SentPart.Overlooked`) ends up among the pairs. The two lists `takenField?` and `takenFile?`
say so part by part. -/

namespace SentPart

variable {part : SentPart} {parts : List SentPart}

/-- The pair of a field. -/
def field? : SentPart → Option (String × String)
  | field name text => some (name, text)
  | file _ _ _ _ => none

/-- A file under the name of its field. -/
def file? : SentPart → Option (String × Upload)
  | field _ _ => none
  | file name filename mediaType data =>
    some (name, ⟨some filename, mediaType.map fun m => m.1 ++ "/" ++ m.2, data⟩)

/-- The pair that is made of the part, if it is taken for a field. -/
def takenField? (part : SentPart) : Option (String × String) :=
  if part.Overlooked then some (part.name, Charset.utf8.decode part.content) else part.field?

/-- The file that is made of the part, if it is taken for one. -/
def takenFile? (part : SentPart) : Option (String × Upload) :=
  if part.Overlooked then none else part.file?

/-- The text of a part is that of its content in UTF-8. The media types of sent parts have no
parameters, and so name no other charset. -/
theorem text_taken (h : part.IsPlain) : part.taken.text = Charset.utf8.decode part.content := by
  have hutf8 : Charset.ofLabel "utf-8" = .utf8 := rfl
  have hlabel : (part.taken.mediaType.bind fun m => m.parameter "charset") = none := by
    rw [taken]
    cases hm : part.mediaType? with
    | none => rfl
    | some m =>
      obtain ⟨htop, hsub⟩ := h.mediaType m hm
      obtain ⟨read, hread, -, hparameters⟩ := MediaType.parse?_essence htop hsub
      rw [Option.bind_some, hread, Option.bind_some, MediaType.parameter, hparameters]
      rfl
  rw [Part.text, hlabel, Option.getD_none, hutf8]
  rfl

/-- What becomes of a part as a pair is what `takenField?` says. A field is its text again, since no
byte order mark comes before it; an overlooked file is its data, read as a text. -/
theorem takenField?_eq (h : part.IsPlain) :
    (if part.taken.filename.isSome then none
      else some (part.taken.name.getD "", part.taken.text)) = part.takenField? := by
  rw [text_taken h, takenField?, taken]
  by_cases hoverlooked : part.Overlooked
  · rw [if_pos hoverlooked, if_pos hoverlooked]
    rfl
  · rw [if_neg hoverlooked, if_neg hoverlooked]
    cases h with
    | @field name text hname htext =>
      rw [content, Charset.decode_encode htext]
      rfl
    | file => rfl

/-- What becomes of a part as a file is what `takenFile?` says. -/
theorem takenFile?_eq (h : part.IsPlain) :
    (part.taken.filename.map fun filename =>
      (part.taken.name.getD "",
        (⟨some filename, part.taken.mediaType.map MediaType.text, part.taken.data⟩ : Upload))) =
      part.takenFile? := by
  have htype : part.taken.mediaType.map MediaType.text =
      part.mediaType?.map fun m => m.1 ++ "/" ++ m.2 := by
    rw [taken]
    cases hm : part.mediaType? with
    | none => rfl
    | some m =>
      obtain ⟨htop, hsub⟩ := h.mediaType m hm
      obtain ⟨read, hread, htext, -⟩ := MediaType.parse?_essence htop hsub
      rw [Option.bind_some, hread, Option.map_some, htext, Option.map_some]
  rw [htype, takenFile?, taken]
  by_cases hoverlooked : part.Overlooked
  · rw [if_pos hoverlooked, if_pos hoverlooked, Option.map_none]
  · rw [if_neg hoverlooked, if_neg hoverlooked]
    cases part <;> rfl

/-- Only a file can be overlooked. -/
theorem file?_of_overlooked (h : part.Overlooked) : ∃ file, part.file? = some file := by
  cases part with
  | field => exact h.elim
  | file name filename mediaType data => exact ⟨_, rfl⟩

/-- No files come up that were not sent. -/
theorem filterMap_takenFile?_sublist (parts : List SentPart) :
    (parts.filterMap takenFile?).Sublist (parts.filterMap file?) := by
  have hfilter : parts.filterMap takenFile? =
      (parts.filter fun part => ¬ part.Overlooked).filterMap file? := by
    rw [List.filterMap_filter]
    refine List.filterMap_congr fun part _ => ?_
    by_cases hoverlooked : part.Overlooked <;> simp [takenFile?, hoverlooked]
  rw [hfilter]
  exact List.filter_sublist.filterMap file?

/-- **All files come back exactly if none is overlooked.** If one is, there are fewer files than
were sent: no other part makes up for it, since what is taken for a file was sent as one. -/
theorem filterMap_takenFile?_eq_iff :
    parts.filterMap takenFile? = parts.filterMap file? ↔ ∀ part ∈ parts, ¬ part.Overlooked := by
  constructor
  · intro h
    induction parts with
    | nil => exact List.forall_mem_nil _
    | cons part parts ih =>
      by_cases hoverlooked : part.Overlooked
      · -- the files after it would have to make up for this one
        obtain ⟨file, hfile⟩ := file?_of_overlooked hoverlooked
        have hnone : part.takenFile? = none := if_pos hoverlooked
        rw [List.filterMap_cons_none hnone, List.filterMap_cons_some hfile] at h
        have hlength := (filterMap_takenFile?_sublist parts).length_le
        rw [h, List.length_cons] at hlength
        exact absurd hlength (Nat.not_succ_le_self _)
      · have hsame : part.takenFile? = part.file? := if_neg hoverlooked
        refine List.forall_mem_cons.mpr ⟨hoverlooked, ih ?_⟩
        cases hfile : part.file? with
        | none =>
          rwa [List.filterMap_cons_none (hsame.trans hfile), List.filterMap_cons_none hfile] at h
        | some file =>
          rw [List.filterMap_cons_some (hsame.trans hfile), List.filterMap_cons_some hfile] at h
          exact (List.cons.inj h).2
  · intro h
    refine List.filterMap_congr fun part hpart => ?_
    rw [takenFile?, if_neg (h part hpart)]

/-- If no file is overlooked, the fields are those that were sent, and no others. -/
theorem filterMap_takenField?_eq (h : ∀ part ∈ parts, ¬ part.Overlooked) :
    parts.filterMap takenField? = parts.filterMap field? := by
  refine List.filterMap_congr fun part hpart => ?_
  rw [takenField?, if_neg (h part hpart)]

end SentPart

/-! ## The call of a form

The gateway takes the boundary from the media type of the request, reads the body under its limit
and makes pairs and files of the parts. Whatever the form holds, the rest of the call is what the
head of the request says, and its body is empty. -/

/-- The request brings a form in several parts and keeps to the limit. -/
structure Request.SendsParts (request : Request) (limit : Option Nat) (boundary : String)
    (parts : List SentPart) : Prop where
  kind : (request.headers.first? "content-type").bind HeaderValue.text? =
    some ("multipart/form-data; boundary=" ++ boundary)
  alphanumeric : ∀ c ∈ boundary.toList, c.isAlphanum = true
  plain : ∀ part ∈ parts, part.IsPlain
  apart : ∀ part ∈ parts,
    ¬ Multipart.lineBreak ++ Multipart.delimiter boundary <:+: part.content
  bytes : request.bytes = Multipart.render boundary parts
  within : ∀ most, limit = some most → request.bytes.length ≤ most

namespace Call

variable {request : Request} {limit : Option Nat} {boundary : String} {parts : List SentPart}

/-- The call with nothing but fields and files. -/
def withParts (call : Call) (form : Params) (files : List (String × Upload)) : Call :=
  { call with body := [], form := form, files := files }

/-- What the gateway makes of a form. -/
theorem read_of_sendsParts (h : request.SendsParts limit boundary parts) :
    read limit request = .ok ((ofHead request).withParts
      (parts.filterMap SentPart.takenField?) (parts.filterMap SentPart.takenFile?)) := by
  have hkind : (ofHead request).contentType = some ("multipart/form-data; boundary=" ++ boundary) :=
    h.kind
  have hmultipart : (ofHead request).isMultipart = true := by
    refine declares_eq_true_iff.mpr ⟨"; boundary=" ++ boundary, ?_⟩
    rw [hkind, multipartForm, ← String.append_assoc]
    rfl
  -- pairs and files are picked from the parts that were read; as to what was sent they are these
  have hfields : (parts.map SentPart.taken).filterMap (fun part =>
      if part.filename.isSome then none else some (part.name.getD "", part.text)) =
        parts.filterMap SentPart.takenField? := by
    rw [List.filterMap_map]
    exact List.filterMap_congr fun part hpart => SentPart.takenField?_eq (h.plain part hpart)
  have hfiles : (parts.map SentPart.taken).filterMap (fun part =>
      part.filename.map fun filename => (part.name.getD "",
        (⟨some filename, part.mediaType.map MediaType.text, part.data⟩ : Upload))) =
          parts.filterMap SentPart.takenFile? := by
    rw [List.filterMap_map]
    exact List.filterMap_congr fun part hpart => SentPart.takenFile?_eq (h.plain part hpart)
  rw [read, hmultipart, if_pos rfl, readParts, hkind, Option.bind_some,
    MediaType.boundary?_parse? h.alphanumeric]
  dsimp only
  rw [Request.readBody_of_within h.within]
  dsimp only
  rw [h.bytes, Multipart.parse_render h.alphanumeric h.plain h.apart]
  dsimp only
  rw [addParts, hfields, hfiles]
  rfl

/-- **A form in several parts comes back exactly if no file is overlooked.** Its fields and files
are read in order, each as it was sent; an overlooked file is taken for a field.

A file is overlooked if the name of its field holds the word `filename` twice in a row. The search
for the attribute passes over the first occurrence, which no blank or semicolon precedes, and takes
what follows for a fresh start; the second occurrence then counts as the attribute, and has no
value. -/
theorem parts_come_back (h : request.SendsParts limit boundary parts) :
    read limit request = .ok ((ofHead request).withParts
        (parts.filterMap SentPart.takenField?) (parts.filterMap SentPart.takenFile?)) ∧
      (read limit request = .ok ((ofHead request).withParts
          (parts.filterMap SentPart.field?) (parts.filterMap SentPart.file?)) ↔
        ∀ part ∈ parts, ¬ part.Overlooked) := by
  refine ⟨read_of_sendsParts h, ?_⟩
  rw [read_of_sendsParts h]
  constructor
  · intro hsame
    have hfiles := congrArg Call.files (Except.ok.inj hsame)
    exact SentPart.filterMap_takenFile?_eq_iff.mp hfiles
  · intro hnone
    rw [SentPart.filterMap_takenField?_eq hnone, SentPart.filterMap_takenFile?_eq_iff.mpr hnone]

/-- Two fields around a file, whose contents look like delimiters. -/
theorem parts_come_back_around_table :
    let parts : List SentPart :=
      [.field "note.1" "a\r\n--B\r\nб", .file "table" "t_1.csv" (some ("text", "csv"))
        [0x0D, 0x0A, 0x2D, 0x2D, 0x00, 0xFF], .field "filename" ""]
    let request : Request :=
      ⟨.post, ⟨"/api/action/touch", none⟩,
        [("content-type", Utf8.encode "multipart/form-data; boundary=B7")],
        [Multipart.render "B7" parts]⟩
    read (some 400) request = .ok ((ofHead request).withParts
      [("note.1", "a\r\n--B\r\nб"), ("filename", "")]
      [("table", ⟨some "t_1.csv", some "text/csv", [0x0D, 0x0A, 0x2D, 0x2D, 0x00, 0xFF]⟩)]) := by
  intro parts request
  have hsends : request.SendsParts (some 400) "B7" parts := by
    refine ⟨by decide, List.all_eq_true.mp (by decide), ?_, by decide, List.append_nil _, ?_⟩
    · simp only [parts, List.forall_mem_cons]
      exact ⟨.field (by decide) (by decide), .file (by decide) (by decide) (by decide),
        .field (by decide) (by decide), List.forall_mem_nil _⟩
    · intro most hmost
      obtain rfl := Option.some.inj hmost
      decide +kernel
  exact (parts_come_back hsends).2.mpr (by decide)

/-- **Not every form comes back**: a table `a.csv` in a field `filenamefilename` is taken for a
field, and its data for a text. -/
theorem overlooked_files_do_not_come_back :
    let parts : List SentPart :=
      [.file "filenamefilename" "a.csv" (some ("text", "csv")) (Utf8.encode "1,2")]
    let request : Request :=
      ⟨.post, ⟨"/api/action/x", none⟩,
        [("content-type", Utf8.encode "multipart/form-data; boundary=B")],
        [Multipart.render "B" parts]⟩
    request.SendsParts none "B" parts ∧
      parts.filterMap SentPart.field? = [] ∧
      parts.filterMap SentPart.file? =
        [("filenamefilename", ⟨some "a.csv", some "text/csv", Utf8.encode "1,2"⟩)] ∧
      read none request =
        .ok ((ofHead request).withParts [("filenamefilename", "1,2")] []) ∧
      read none request ≠ .ok ((ofHead request).withParts
        (parts.filterMap SentPart.field?) (parts.filterMap SentPart.file?)) := by
  intro parts request
  have hsends : request.SendsParts none "B" parts := by
    refine ⟨by decide, List.all_eq_true.mp (by decide), ?_, by decide, List.append_nil _,
      fun most hmost => nomatch hmost⟩
    exact List.forall_mem_singleton.mpr (.file (by decide) (by decide) (by decide))
  have hfield : parts.filterMap SentPart.takenField? = [("filenamefilename", "1,2")] := by
    decide +kernel
  have hfile : parts.filterMap SentPart.takenFile? = [] := by decide
  have hread : read none request =
      .ok ((ofHead request).withParts [("filenamefilename", "1,2")] []) := by
    rw [read_of_sendsParts hsends, hfield, hfile]
  refine ⟨hsends, rfl, rfl, hread, ?_⟩
  rw [hread]
  intro heq
  have hfiles := congrArg Call.files (Except.ok.inj heq)
  cases hfiles

end Call

end ActionGateway
