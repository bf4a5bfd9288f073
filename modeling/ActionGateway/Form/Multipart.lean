import ActionGateway.Http.Header
import ActionGateway.Http.MediaType
import ActionGateway.Text.Charset
import ActionGateway.Text.Quoted
import ActionGateway.Text.Search

/-!
# Forms in several parts

A form of this kind is cut into parts by delimiters, `--` and the boundary that its media type
names. What comes before the first delimiter is no part; two dashes right after a delimiter end the
form. A part is a block of headers, an empty line, and data up to the line break before the next
delimiter.
-/

namespace ActionGateway

/-- Why a body is no form in several parts. -/
inductive MultipartFault
  /-- the body ends, or goes on otherwise, where a delimiter or a block of headers is expected -/
  | incomplete
  /-- a line in a block of headers is no header, or there are too many -/
  | badHeaders
  /-- the name of a header is too long -/
  | nameTooLong (name : String)
  /-- no delimiter follows the data of the part with the given name -/
  | unfinishedPart (name : Option String)
  deriving DecidableEq, Repr

/-- The text of a fault, which becomes part of the message that the caller is told. -/
def MultipartFault.message : MultipartFault → String
  | incomplete => "incomplete multipart stream"
  | badHeaders => "failed to read headers"
  | nameTooLong name => "failed to decode field's raw header name: " ++ Text.quoted name
  | unfinishedPart name =>
    "field " ++ Text.quoted (name.getD "<unknown>") ++ " received with incomplete data"

/-- A part of a form, with what its headers say of it. Headers other than the disposition and the
content type are read and forgotten. -/
structure Part where
  name : Option String
  /-- the file name; a part that has one is an uploaded file -/
  filename : Option String
  mediaType : Option MediaType
  data : Bytes
  deriving DecidableEq

namespace Part

/-- The data as text, in the charset that the media type names. -/
def text (part : Part) : String :=
  let label := part.mediaType.bind fun m => m.parameter "charset"
  (Charset.ofLabel (label.getD "utf-8")).decode part.data

end Part

namespace Multipart

/-! ## Headers of a part

A block of headers is read line by line. Up to `headerLines?` the names are kept as they are
written; they are brought to lower case only when they are put together, which is also when their
lengths are looked at. -/

/-- The line break that stands before every delimiter but the first, and that a block of headers
ends with. -/
def lineBreak : Bytes :=
  [0x0D, 0x0A]

/-- A space or a tab, the blanks that may stand around a value and after a delimiter. -/
def isBlank (b : UInt8) : Bool :=
  b = 0x20 || b = 0x09

/-- What follows the end of a line. -/
def lineEnd? : Bytes → Option Bytes
  | 0x0D :: 0x0A :: rest => some rest
  | 0x0A :: rest => some rest
  | _ => none

/-- The header on the first line, its name as it is written, and what follows the line. -/
def header? (bytes : Bytes) : Option ((String × Bytes) × Bytes) :=
  -- Neither the name nor the colon may have a blank before it, and no line continues the one above.
  let name := bytes.takeWhile Token.isTokenByte
  if name.isEmpty then none
  else
    match bytes.dropWhile Token.isTokenByte with
    | 0x3A :: rest =>
      let value := rest.takeWhile HeaderValue.isAllowed
      (lineEnd? (rest.dropWhile HeaderValue.isAllowed)).map fun rest =>
        ((String.ofList (name.map fun b => Char.ofNat b.toNat), Text.trimList isBlank value), rest)
    | _ => none

/-- How many headers a part may have. -/
def maxHeaders : Nat := 32

/-- The headers up to the first empty line with their names as they are written, at most as many as
are left. -/
def headerLines? : Nat → Bytes → Option (List (String × Bytes))
  | left, bytes =>
    match lineEnd? bytes with
    | some _ => some []
    | none =>
      match left with
      | 0 => none
      | left + 1 =>
        match header? bytes with
        | none => none
        | some (header, rest) => (headerLines? left rest).map (header :: ·)

/-- How long the name of a header may be. -/
def maxNameLength : Nat := 65535

/-- The headers with the given ones added, whose names are as they are written; of headers with one
name the last counts. -/
def addHeaders (headers : Headers) : List (String × Bytes) → Except MultipartFault Headers
  | [] => .ok headers
  | (name, value) :: rest =>
    if maxNameLength < name.utf8ByteSize then .error (.nameTooLong name)
    else addHeaders (headers.set (headerName name) value) rest

/-- The headers of a block, which ends before an empty line. All its lines are read before a name is
looked at. -/
def readHeaders (block : Bytes) : Except MultipartFault Headers :=
  match headerLines? maxHeaders (block ++ lineBreak ++ lineBreak) with
  | none => .error .badHeaders
  | some lines => addHeaders [] lines

/-! ## Attributes of a disposition

An attribute is looked for by its name, wherever that stands; the disposition is not taken apart
first. So a name may also be found inside the value of another attribute. -/

/-- Whether a byte is a blank between attributes. -/
def isSpace (b : UInt8) : Bool :=
  b = 0x20 || b = 0x09 || b = 0x0A || b = 0x0C || b = 0x0D

/-- A value in quotes, after the opening quote; a quote after a backslash belongs to the value, and
the backslash does not. `value` holds, in reverse, what has been read. -/
def quotedValue? : Bytes → Bytes → Option Bytes
  | _, [] => none
  | 0x5C :: value, 0x22 :: rest => quotedValue? (0x22 :: value) rest
  | value, b :: rest => if b = 0x22 then some value.reverse else quotedValue? (b :: value) rest

/-- The value that follows the name of an attribute. -/
def attributeValue? (bytes : Bytes) : Option Bytes :=
  match bytes.dropWhile isSpace with
  | 0x3D :: rest =>
    match rest.dropWhile isSpace with
    | 0x22 :: rest => quotedValue? [] rest
    | rest => some (rest.takeWhile fun b => b ≠ 0x3B && b ≠ 0x20)
  | _ => none

/-- Whether the name of an attribute may stand after the given bytes. -/
def mayPrecede (before : Bytes) : Bool :=
  match before.getLast? with
  | none => true
  | some b => isSpace b || b = 0x3B

/-- The value of an attribute: of the first occurrence of its name that may be one. The name is
looked for at most `turns` times. -/
def attributeFrom (name : Bytes) : Nat → Bytes → Option Bytes
  | 0, _ => none
  | turns + 1, disposition =>
    match Bytes.cut? name disposition with
    | none => none
    | some (before, after) =>
      -- An occurrence inside a longer word is passed over, and the search goes on behind it as if
      -- the disposition began there. The one that may be the name decides, also when no value
      -- follows it.
      if mayPrecede before then attributeValue? after else attributeFrom name turns after

/-- The text of an attribute of a disposition. -/
def attribute? (name : String) (disposition : Bytes) : Option String :=
  (attributeFrom (Utf8.encode name) (disposition.length + 1) disposition).bind Utf8.decode?

/-! ## Parts

The data of a part ends at the first line break that a delimiter follows, whatever the data is.
Where the data holds such a line break itself the part ends early. -/

/-- The part with the given headers and data. -/
def part (headers : Headers) (data : Bytes) : Part :=
  let disposition := headers.first? "content-disposition"
  let mediaType := ((headers.first? "content-type").bind HeaderValue.text?).bind MediaType.parse?
  ⟨disposition.bind (attribute? "name"), disposition.bind (attribute? "filename"), mediaType, data⟩

/-- A part after the line of its delimiter, and what follows the delimiter after it. -/
def readPart (delimiter : Bytes) (bytes : Bytes) : Except MultipartFault (Part × Bytes) :=
  match Bytes.cut? (lineBreak ++ lineBreak) bytes with
  | none => .error .incomplete
  | some (block, rest) =>
    match readHeaders block with
    | .error fault => .error fault
    | .ok headers =>
      match Bytes.cut? (lineBreak ++ delimiter) rest with
      | none => .error (.unfinishedPart (part headers []).name)
      | some (data, rest) => .ok (part headers data, rest)

/-- The parts after a delimiter, at most `turns`; `parts` holds, in reverse, those before it. -/
def readParts (delimiter : Bytes) : Nat → List Part → Bytes → Except MultipartFault (List Part)
  | 0, _, _ => .error .incomplete
  | turns + 1, parts, bytes =>
    match bytes with
    | 0x2D :: 0x2D :: _ => .ok parts.reverse
    | bytes =>
      -- Blanks may fill the line of a delimiter.
      match bytes.dropWhile isBlank with
      | 0x0D :: 0x0A :: rest =>
        match readPart delimiter rest with
        | .error fault => .error fault
        | .ok (part, rest) => readParts delimiter turns (part :: parts) rest
      | _ => .error .incomplete

/-- The parts of a form with the given boundary. -/
def parse (boundary : String) (body : Bytes) : Except MultipartFault (List Part) :=
  let delimiter := 0x2D :: 0x2D :: Utf8.encode boundary
  match Bytes.cut? delimiter body with
  | none => .error .incomplete
  | some (_, rest) => readParts delimiter (body.length + 1) [] rest

end Multipart

end ActionGateway
