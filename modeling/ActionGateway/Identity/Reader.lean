import ActionGateway.Identity
import ActionGateway.Json.Skipping

/-!
# Reading principals

A principal is read from JSON text: from an object with the members `name` and `roles`, in either
order and among others that are passed over, or from an array of the two. The roles may be left
out, and then there are none; the name may not, and neither member may be given twice.
-/

namespace ActionGateway

namespace Json

/-! ## Values of a given kind

A value of another kind is read far enough to be named in the message, which for a list or an object
is its first byte. -/

/-- What a value is found to be. -/
def Found.ofJson : Json → Found
  | .null => .null
  | .bool b => .bool b
  | .num n => .number n
  | .str s => .text s
  | .arr _ => .list
  | .obj _ => .object

/-- What stands in front; a scalar is read, of a container only the opening byte is looked at. -/
def readFound (bytes : Bytes) : Reading Found :=
  match bytes with
  | 0x5B :: rest => .ok (.list, 0x5B :: rest)
  | 0x7B :: rest => .ok (.object, 0x7B :: rest)
  -- No scalar needs a level or a turn.
  | bytes => (readValue 0 0 bytes).andThen fun value rest => .ok (.ofJson value, rest)

/-- What stands in front is not what was asked for. -/
def refuse {α : Type} (expected : String) (bytes : Bytes) : Reading α :=
  (readFound bytes).andThen fun found rest => stop (.mismatch (.wrongType found expected)) rest

/-- A mismatch in a container. What ends the container is read first if it stands here, which moves
the place that the message names. -/
def stopBefore {α : Type} (container : Container) (mismatch : Mismatch) (bytes : Bytes) :
    Reading α :=
  match skipBlank bytes with
  | [] => stop (.mismatch mismatch) []
  | b :: rest =>
    stop (.mismatch mismatch) (if b = container.closing then rest else b :: rest)

/-- A value that must be a string. -/
def readText (bytes : Bytes) : Reading String :=
  match skipBlank bytes with
  | [] => offence .endInValue []
  | 0x22 :: rest => readString rest
  | rest => refuse "a string" rest

/-- A value that must be an array of strings. -/
def readTexts (bytes : Bytes) : Reading (List String) :=
  match skipBlank bytes with
  | [] => offence .endInValue []
  | 0x5B :: rest => readItems readText (rest.length + 1) [] rest
  | rest => refuse "a sequence" rest

end Json

namespace Principal

open Json

/-! ## Principals in objects

The members come in any order, so they are gathered in a draft. A member that is met twice is
refused at the second name, before its value is read. -/

/-- The members that have been read. -/
structure Draft where
  name : Option String
  roles : Option (List String)

/-- A member that counts, after its name. It must be the first of that name, so `known` must be
nothing; `store` puts its value into the draft. -/
def Draft.readOnce {α : Type} (field : String) (known : Option α)
    (readField : Bytes → Reading α) (store : α → Draft) (bytes : Bytes) : Reading Draft :=
  if known.isSome then stopBefore .object (.duplicateField field) bytes
  else
    (readColon bytes).andThen fun _ rest =>
      (readField rest).andThen fun value rest => .ok (store value, rest)

/-- A member, after the opening quote of its name. -/
def Draft.readField (draft : Draft) (bytes : Bytes) : Reading Draft :=
  (readString bytes).andThen fun name rest =>
    if name = "name" then
      readOnce "name" draft.name readText (fun name => { draft with name := some name }) rest
    else if name = "roles" then
      readOnce "roles" draft.roles readTexts
        (fun roles => { draft with roles := some roles }) rest
    else
      (readColon rest).andThen fun _ rest =>
        (skipValue rest).andThen fun _ rest => .ok (draft, rest)

/-- The principal of a draft, after the closing brace. -/
def Draft.finish (draft : Draft) (rest : Bytes) : Reading Principal :=
  match draft.name with
  | none => stop (.mismatch (.missingField "name")) rest
  | some name => .ok (⟨name, draft.roles.getD []⟩, rest)

/-- The members after the opening brace or after a member. -/
def readFields : Nat → (first : Bool) → Draft → Bytes → Reading Principal
  | 0, _, _, rest => stop .endInObject rest
  | turns + 1, first, draft, bytes =>
    match nextName first bytes with
    | .error e => .error e
    | .ok (false, rest) => draft.finish (rest.drop 1)
    | .ok (true, rest) =>
      match draft.readField rest with
      | .error e => .error e
      | .ok (draft, rest) => readFields turns false draft rest

/-! ## Principals in arrays

An array holds the name first and the roles second. The roles may be missing here too, but there is
no room for anything more. -/

/-- The end of an array of two items. -/
def readArrayEnd (bytes : Bytes) : Reading Unit :=
  match skipBlank bytes with
  | [] => offence .endInList []
  | 0x5D :: rest => .ok ((), rest)
  | 0x2C :: rest =>
    match skipBlank rest with
    | 0x5D :: rest => offence .trailingComma (0x5D :: rest)
    | rest => offence .trailingCharacters rest
  | rest => offence .trailingCharacters rest

/-- What follows the name in an array. -/
def readArrayRoles (name : String) (bytes : Bytes) : Reading Principal :=
  match skipBlank bytes with
  | [] => offence .endInList []
  | 0x5D :: rest => .ok (⟨name, []⟩, rest)
  | 0x2C :: rest =>
    match skipBlank rest with
    | [] => offence .endInValue []
    | 0x5D :: rest => offence .trailingComma (0x5D :: rest)
    | rest =>
      (readTexts rest).andThen fun roles rest =>
        (readArrayEnd rest).andThen fun _ rest => .ok (⟨name, roles⟩, rest)
  | rest => offence .expectedListEnd rest

/-- A principal in an array, after the opening bracket. -/
def readArray (bytes : Bytes) : Reading Principal :=
  match skipBlank bytes with
  | [] => offence .endInList []
  | 0x5D :: rest =>
    stop (.mismatch (.tooFewItems 0 "struct Principal with 2 elements")) rest
  | rest => (readText rest).andThen readArrayRoles

/-! ## Principals -/

/-- A value that must be a principal. -/
def readPrincipal (bytes : Bytes) : Reading Principal :=
  match skipBlank bytes with
  | [] => offence .endInValue []
  | 0x5B :: rest => readArray rest
  | 0x7B :: rest => readFields (rest.length + 1) true ⟨none, none⟩ rest
  | rest => refuse "struct Principal" rest

/-- The principal that a text denotes. -/
def read (text : String) : Except LocatedFault Principal :=
  readAll readPrincipal (Utf8.encode text)

end Principal

end ActionGateway
