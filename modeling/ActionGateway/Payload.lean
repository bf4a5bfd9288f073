import ActionGateway.Json.Printer
import ActionGateway.Text.Quoted
import ActionGateway.Text.Utf8

/-!
# Call payloads

What an action is given: a map from field names to values. A value is a text, a list of texts (a
field that was given several times), a JSON value, or an uploaded file. A payload can be shown as
JSON, and then a file is its **descriptor**: name, media type and size, never its contents.

A payload has two JSON forms with the same members: `toJson`, which is orderly, and `written`, in
which the members of a file descriptor stand in the order in which it is written out.
-/

namespace ActionGateway

/-! ## Files -/

/-- An uploaded file. Its contents are for the action alone. -/
structure Upload where
  /-- the file name that the caller gave -/
  filename : Option String
  /-- the media type that the caller declared -/
  contentType : Option String
  data : Bytes
  deriving DecidableEq

namespace Upload

/-- The size in bytes. -/
def size (f : Upload) : Nat :=
  f.data.length

/-- The members of the descriptor, as it is written out. -/
def descriptor (f : Upload) : List (String × Json) :=
  [("filename", .strOrNull f.filename), ("content_type", .strOrNull f.contentType),
   ("size", .ofNat f.size)]

/-- An optional text in a description. -/
def describeOption : Option String → String
  | none => "None"
  | some s => "Some(" ++ Text.quoted s ++ ")"

/-- The description for logs: like the descriptor it does not show the contents. -/
def describe (f : Upload) : String :=
  "FileHandle \x7b filename: " ++ describeOption f.filename ++
    ", content_type: " ++ describeOption f.contentType ++
    ", size: " ++ toString f.size ++ " \x7d"

end Upload

/-! ## Values -/

/-- The value of a field. A form gives texts and lists of texts, a document JSON values; files come
from forms in several parts alone. -/
inductive FieldValue
  | text (value : String)
  | list (items : List String)
  | json (value : Json)
  | file (handle : Upload)

namespace FieldValue

/-- The value as one text, if it is a text or a JSON string. -/
def str? : FieldValue → Option String
  | text s => some s
  | json v => v.str?
  | _ => none

/-- The file that the value is, if it is one. -/
def file? : FieldValue → Option Upload
  | file f => some f
  | _ => none

/-- The value as orderly JSON. -/
def toJson : FieldValue → Json
  | text s => .str s
  | list items => .strs items
  | json v => v
  | file f => .object f.descriptor

/-- The value as JSON in the order in which it is written out. -/
def written : FieldValue → Json
  | text s => .str s
  | list items => .strs items
  | json v => v
  | file f => .obj f.descriptor

end FieldValue

/-! ## Payloads -/

/-- The fields of a call. -/
abbrev Payload := NameMap FieldValue

namespace Payload

/-- The value of a field as one text, if it has one. -/
def str? (p : Payload) (name : String) : Option String :=
  (p.find? name).bind FieldValue.str?

/-- The payload of a document. Only an object is one; each of its members becomes a field. -/
def ofJson? : Json → Option Payload
  | .obj members => some (.ofList (members.map fun m => (m.1, .json m.2)))
  | _ => none

/-- The payload as an orderly JSON object. -/
def toJson (p : Payload) : Json :=
  .ofNameMap (p.map FieldValue.toJson)

/-- The payload as JSON in the order in which it is written out. -/
def written (p : Payload) : Json :=
  .ofNameMap (p.map FieldValue.written)

/-- The text that the payload is written out as. -/
def text (p : Payload) : String :=
  p.written.text

end Payload

end ActionGateway
