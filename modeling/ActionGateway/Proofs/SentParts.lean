import ActionGateway.Proofs.Layers
import ActionGateway.Proofs.MediaTypes
import ActionGateway.Proofs.PartHeaders

/-!
# Parts as they are sent

A part is sent as a block of headers, an empty line and its content: the text of a field or the
data of a file. Its disposition says how the field is called and, of a file, how the file is; a file
may have a media type. From the block and the content the part is read back
(`Multipart.readPart_render`), but the name of a file is not found if the name of its field hides
it.

What is read of a part is stated as an equation (`SentPart.taken`), for parts whose names need no
escapes (`SentPart.IsPlain`). The one exception is in that equation too: there the file has no name,
and the part is taken for a field.
-/

namespace ActionGateway

open Text

/-! ## Parts

A part is given by what it is made from, and its block of headers is made of that: a disposition
always, and a media type for a file that has one. -/

/-- What a part of a form is made from. -/
inductive SentPart
  | field (name text : String)
  | file (name filename : String) (mediaType : Option (String × String)) (data : Bytes)
  deriving DecidableEq

namespace Multipart

/-- What stands before each part of a form and after the last one. -/
def delimiter (boundary : String) : Bytes :=
  0x2D :: 0x2D :: Utf8.encode boundary

end Multipart

namespace SentPart

open Multipart

/-- How the field of the part is called. -/
def name : SentPart → String
  | field name _ => name
  | file name _ _ _ => name

/-- What stands behind the empty line. -/
def content : SentPart → Bytes
  | field _ text => Utf8.encode text
  | file _ _ _ data => data

/-- The value of its first header. -/
def disposition : SentPart → String
  | field name _ => fieldDisposition name
  | file name filename _ _ => fileDisposition name filename

/-- Type and subtype of a file. -/
def mediaType? : SentPart → Option (String × String)
  | field _ _ => none
  | file _ _ mediaType _ => mediaType

/-- Its headers, in the order in which they are written. -/
def headers (part : SentPart) : List (String × String) :=
  ("Content-Disposition", part.disposition) ::
    part.mediaType?.toList.map fun m => ("Content-Type", m.1 ++ "/" ++ m.2)

/-- The part after its delimiter. -/
def render (boundary : String) (part : SentPart) : Bytes :=
  delimiter boundary ++ (lineBreak ++ (part.headers.flatMap headerLine ++
    (lineBreak ++ (part.content ++ lineBreak))))

/-- Names are plain, a text does not open with a byte order mark, and a media type is in lower
case. -/
inductive IsPlain : SentPart → Prop
  | field {name text : String} : IsPlainName name → text.toList.head? ≠ some '\uFEFF' →
      IsPlain (field name text)
  | file {name filename : String} {mediaType : Option (String × String)} {data : Bytes} :
      IsPlainName name → IsPlainName filename →
      (∀ m ∈ mediaType, IsWord m.1 ∧ IsWord m.2) → IsPlain (file name filename mediaType data)

/-- The part is a file, and the name of its field hides that. -/
def Overlooked : SentPart → Prop
  | field _ _ => False
  | file name _ _ _ => HidesFile name

instance : (part : SentPart) → Decidable part.Overlooked
  | field _ _ => inferInstanceAs (Decidable False)
  | file name _ _ _ => inferInstanceAs (Decidable (HidesFile name))

/-- The name of a file. -/
def filename? : SentPart → Option String
  | field _ _ => none
  | file _ filename _ _ => some filename

/-- What is read of the part. -/
def taken (part : SentPart) : Part :=
  ⟨some part.name, if part.Overlooked then none else part.filename?,
    part.mediaType?.bind fun m => MediaType.parse? (m.1 ++ "/" ++ m.2), part.content⟩

variable {part : SentPart}

/-- The media type of a plain part is in lower case. -/
theorem IsPlain.mediaType (h : part.IsPlain) : ∀ m ∈ part.mediaType?, IsWord m.1 ∧ IsWord m.2 := by
  cases h with
  | field => exact fun m hm => nomatch hm
  | file _ _ hmediaType => exact hmediaType

/-- The name of the part's field is found. -/
theorem attribute?_name (h : part.IsPlain) :
    attribute? "name" (Utf8.encode part.disposition) = some part.name := by
  cases h with
  | @field name text hname htext =>
    rw [disposition, encode_fieldDisposition]
    exact Multipart.attribute?_name hname _
  | @file name filename mediaType data hname hfilename hmediaType =>
    rw [disposition, encode_fileDisposition]
    exact Multipart.attribute?_name hname _

/-- The name of a file is found unless it is overlooked. -/
theorem attribute?_filename (h : part.IsPlain) :
    attribute? "filename" (Utf8.encode part.disposition) =
      if part.Overlooked then none else part.filename? := by
  cases h with
  | @field name text hname htext =>
    rw [disposition, attribute?_filename_field hname]
    exact (if_neg id).symm
  | @file name filename mediaType data hname hfilename hmediaType =>
    exact attribute?_filename_file hname hfilename

end SentPart

namespace Multipart

open Bytes

variable {boundary : String} {part : SentPart}

/-! ## Headers of plain parts

A disposition and a media type can stand in a header: they hold no control character, and neither
begins or ends with a blank. So the block of headers is read back, and from the headers that are
kept the part is put together. -/

/-- The names of both headers are short tokens. -/
theorem isHeaderName_disposition : IsHeaderName "Content-Disposition" :=
  ⟨by decide, List.all_eq_true.mp (by decide), by decide⟩

theorem isHeaderName_type : IsHeaderName "Content-Type" :=
  ⟨by decide, List.all_eq_true.mp (by decide), by decide⟩

/-- A plain name holds no control character. -/
theorem isAllowed_of_plain {name : String} (h : IsPlainName name) :
    ∀ b ∈ Utf8.encode name, HeaderValue.isAllowed b = true :=
  h.forall_mem_encode (by decide)

/-- A disposition ends with a quote. -/
theorem isHeaderValue_of_encode_eq {value : String} {middle : Bytes}
    (hvalue : Utf8.encode value = Utf8.encode "form-data; name=" ++ (middle ++ [0x22]))
    (hmiddle : ∀ b ∈ middle, HeaderValue.isAllowed b = true) : IsHeaderValue value where
  allowed := by
    rw [hvalue]
    refine List.forall_mem_append.mpr ⟨List.all_eq_true.mp (by decide), ?_⟩
    exact List.forall_mem_append.mpr ⟨hmiddle, List.all_eq_true.mp (by decide)⟩
  first_not_blank := by
    intro b hb
    rw [hvalue] at hb
    obtain rfl : 0x66 = b := Option.some.inj hb
    decide
  last_not_blank := by
    intro b hb
    rw [hvalue, ← List.append_assoc, List.getLast?_concat] at hb
    obtain rfl : 0x22 = b := Option.some.inj hb
    decide

/-- The disposition of a field, and that of a file, can stand in a header. -/
theorem isHeaderValue_disposition (h : part.IsPlain) : IsHeaderValue part.disposition := by
  cases h with
  | @field name text hname htext =>
    have hvalue : Utf8.encode (fieldDisposition name) =
        Utf8.encode "form-data; name=" ++ ((0x22 :: Utf8.encode name) ++ [0x22]) :=
      encode_fieldDisposition name
    exact isHeaderValue_of_encode_eq hvalue
      (List.forall_mem_cons.mpr ⟨by decide, isAllowed_of_plain hname⟩)
  | @file name filename mediaType data hname hfilename hmediaType =>
    have hvalue : Utf8.encode (fileDisposition name filename) =
        Utf8.encode "form-data; name=" ++ (0x22 :: (Utf8.encode name ++ 0x22 :: 0x3B :: 0x20 ::
          (Utf8.encode "filename" ++ 0x3D :: 0x22 :: Utf8.encode filename)) ++ [0x22]) := by
      rw [encode_fileDisposition]
      simp only [List.append_assoc, List.cons_append]
    refine isHeaderValue_of_encode_eq hvalue ?_
    simp only [List.forall_mem_cons, List.forall_mem_append]
    exact ⟨by decide, isAllowed_of_plain hname, by decide, by decide, by decide,
      List.all_eq_true.mp (by decide), by decide, by decide, isAllowed_of_plain hfilename⟩

/-- So can a media type. -/
theorem isHeaderValue_essence {topLevel subtype : String} (htop : IsWord topLevel)
    (hsub : IsWord subtype) : IsHeaderValue (topLevel ++ "/" ++ subtype) := by
  have hvisible := MediaType.visible_essence htop hsub
  have hbyte : ∀ n < 127, 33 ≤ n → HeaderValue.isAllowed (UInt8.ofNat n) = true ∧
      isBlank (UInt8.ofNat n) = false := by decide
  have hbytes : ∀ b ∈ Utf8.encode (topLevel ++ "/" ++ subtype),
      HeaderValue.isAllowed b = true ∧ isBlank b = false :=
    Utf8.forall_mem_encode_of_ascii (fun c hc => Nat.lt_succ_of_lt (hvisible c hc).2)
      fun c hc => hbyte c.toNat (hvisible c hc).2 (hvisible c hc).1
  exact
    { allowed := fun b hb => (hbytes b hb).1
      first_not_blank := fun b hb => (hbytes b (List.mem_of_mem_head? hb)).2
      last_not_blank := fun b hb => (hbytes b (List.mem_of_mem_getLast? hb)).2 }

/-- All headers of a plain part can be written on lines. -/
theorem isHeader_of_mem_headers (h : part.IsPlain) : ∀ header ∈ part.headers, IsHeader header := by
  refine List.forall_mem_cons.mpr ⟨⟨isHeaderName_disposition, isHeaderValue_disposition h⟩, ?_⟩
  refine List.forall_mem_map.mpr fun m hm => ⟨isHeaderName_type, ?_⟩
  obtain ⟨htop, hsub⟩ := h.mediaType m (Option.mem_toList.mp hm)
  exact isHeaderValue_essence htop hsub

/-- There are no more of them than are read. -/
theorem length_headers_le (part : SentPart) : part.headers.length ≤ maxHeaders := by
  rw [SentPart.headers, List.length_cons, List.length_map]
  cases part.mediaType? with
  | none => decide
  | some m => exact (by decide : 2 ≤ maxHeaders)

/-- The headers of a part as they are kept. -/
def keptHeaders (part : SentPart) : Headers :=
  part.headers.foldl (fun kept header =>
    kept.set (headerName header.1) (Utf8.encode header.2)) []

/-- Of the headers that are kept, the disposition and the media type are found under their names in
lower case. -/
theorem first?_keptHeaders (part : SentPart) :
    (keptHeaders part).first? "content-disposition" = some (Utf8.encode part.disposition) ∧
      (keptHeaders part).first? "content-type" =
        part.mediaType?.map fun m => Utf8.encode (m.1 ++ "/" ++ m.2) := by
  have hdisposition : headerName "Content-Disposition" = "content-disposition" := rfl
  have htype : headerName "Content-Type" = "content-type" := rfl
  have hother : "content-disposition" ≠ "content-type" := by decide
  rw [keptHeaders, SentPart.headers]
  cases part.mediaType? with
  | none =>
    simp only [Option.toList, List.map_nil, List.foldl_cons, List.foldl_nil, hdisposition]
    exact ⟨Headers.first?_set_self _ _ _, Headers.first?_set_ne hother _ _⟩
  | some m =>
    simp only [Option.toList, List.map_cons, List.map_nil, List.foldl_cons, List.foldl_nil,
      hdisposition, htype]
    refine ⟨?_, Headers.first?_set_self _ _ _⟩
    rw [Headers.first?_set_ne hother.symm]
    exact Headers.first?_set_self _ _ _

/-- The headers of a plain part say what it is. -/
theorem part_keptHeaders (h : part.IsPlain) :
    Multipart.part (keptHeaders part) part.content = part.taken := by
  obtain ⟨hdisposition, htype⟩ := first?_keptHeaders part
  have htext : (part.mediaType?.map fun m => Utf8.encode (m.1 ++ "/" ++ m.2)).bind
      HeaderValue.text? = part.mediaType?.map fun m => m.1 ++ "/" ++ m.2 := by
    cases hm : part.mediaType? with
    | none => rfl
    | some m =>
      obtain ⟨htop, hsub⟩ := h.mediaType m hm
      refine HeaderValue.text?_encode fun c hc => .inr ?_
      obtain ⟨hle, hlt⟩ := MediaType.visible_essence htop hsub c hc
      exact ⟨Nat.le_of_succ_le hle, hlt⟩
  rw [Multipart.part, hdisposition, htype, htext, Option.bind_some, Option.bind_some,
    SentPart.attribute?_name h, SentPart.attribute?_filename h, Option.bind_map]
  rfl

/-! ## Reading one part

The block ends at the empty line, and the content at the next delimiter. The latter must not stand
in the content, and must not reach into itself (`Bytes.StandsApart`), so that the first place where
it is found is the one that was written. -/

/-- **A plain part is read back** up to the next delimiter. The delimiter stands apart and does not
occur in what the part contains, so it is found where it was put. -/
theorem readPart_render (h : part.IsPlain)
    (hdelimiter : StandsApart (lineBreak ++ delimiter boundary))
    (hcontent : ¬ lineBreak ++ delimiter boundary <:+: part.content) (after : Bytes) :
    readPart (delimiter boundary) (part.headers.flatMap headerLine ++
      (lineBreak ++ (part.content ++ ((lineBreak ++ delimiter boundary) ++ after)))) =
        .ok (part.taken, after) := by
  have hheaders := isHeader_of_mem_headers h
  have hne : part.headers ≠ [] := List.cons_ne_nil _ _
  obtain ⟨block, hblock, hcut⟩ := cut?_headerLines hne hheaders
    (part.content ++ ((lineBreak ++ delimiter boundary) ++ after))
  rw [readPart, hcut]
  simp only [readHeaders_headerLines hheaders (length_headers_le part) hblock,
    cut?_append hdelimiter hcontent]
  rw [← keptHeaders, part_keptHeaders h]

end Multipart

end ActionGateway
