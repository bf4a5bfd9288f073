import ActionGateway.Json.Reader

/-!
# Passing over JSON values

A reader that looks for certain members passes over the others. What is passed over is looked at
less closely than what is read: it may be nested to any depth, a number may be out of range, and an
escape may stand for half a surrogate pair. The containers around the place that has been reached
are kept in a list, the innermost first.
-/

namespace ActionGateway.Json

/-- What a value can stand in. The list of the containers around a place is all that a reader which
keeps no values has to know of what it has read. -/
inductive Container
  | list
  | object
  deriving DecidableEq, Repr

namespace Container

/-- The byte that ends the container. -/
def closing : Container → UInt8
  | list => 0x5D
  | object => 0x7D

/-- The text ends inside the container. -/
def endFault : Container → Fault
  | list => .endInList
  | object => .endInObject

/-- Neither a comma nor the end follows a value in the container. -/
def separatorFault : Container → Fault
  | list => .expectedListEnd
  | object => .expectedObjectEnd

end Container

/-! ## Scalars

Numbers and strings have the grammar that they have where they are read. What differs are the faults
at the end of the text, and that neither the size of a number nor the halves of a surrogate pair are
looked at. -/

/-- The bytes after the digits that lead. -/
def dropDigits (bytes : Bytes) : Bytes :=
  bytes.dropWhile fun b => (digit? b).isSome

/-- What follows the `e` of a number. -/
def skipExponent (bytes : Bytes) : Reading Unit :=
  let digits :=
    match bytes with
    | 0x2B :: rest => rest
    | 0x2D :: rest => rest
    | rest => rest
  match digits with
  | [] => stop .invalidNumber []
  | b :: rest => if (digit? b).isSome then .ok ((), dropDigits rest) else stop .invalidNumber rest

/-- What follows the point of a number. -/
def skipFraction (bytes : Bytes) : Reading Unit :=
  match bytes with
  | [] => offence .invalidNumber []
  | b :: rest =>
    if (digit? b).isSome then
      match dropDigits rest with
      | 0x65 :: rest => skipExponent rest
      | 0x45 :: rest => skipExponent rest
      | rest => .ok ((), rest)
    else offence .invalidNumber (b :: rest)

/-- What follows the whole part of a number. -/
def skipNumberEnd (bytes : Bytes) : Reading Unit :=
  match bytes with
  | 0x2E :: rest => skipFraction rest
  | 0x65 :: rest => skipExponent rest
  | 0x45 :: rest => skipExponent rest
  | rest => .ok ((), rest)

/-- A number, after its minus sign if it has one. -/
def skipNumber (bytes : Bytes) : Reading Unit :=
  match bytes with
  | [] => stop .invalidNumber []
  | 0x30 :: rest =>
    match rest with
    | b :: _ => if (digit? b).isSome then offence .invalidNumber rest else skipNumberEnd rest
    | [] => .ok ((), [])
  | b :: rest =>
    if (digit? b).isSome then skipNumberEnd (dropDigits rest) else stop .invalidNumber rest

/-- A string, after its opening quote. -/
def skipString : Bytes → Reading Unit
  | [] => stop .endInString []
  | b :: rest =>
    if b = 0x22 then .ok ((), rest)
    else if b = 0x5C then
      match rest with
      | [] => stop .endInString []
      | 0x75 :: h₁ :: h₂ :: h₃ :: h₄ :: rest =>
        -- Any four digits will do, also those of half a surrogate pair.
        if [h₁, h₂, h₃, h₄].all fun h => (Hex.value? h).isSome then skipString rest
        else stop .invalidEscape rest
      | c :: rest =>
        -- Fewer than four bytes are left for the code.
        if c = 0x75 then stop .endInString []
        else if (shortEscape? c).isSome then skipString rest
        else stop .invalidEscape rest
    else if b < 0x20 then stop .controlCharacter (b :: rest)
    else skipString rest

/-- A value that is no container and begins with `b`. -/
def skipScalar (b : UInt8) (rest : Bytes) : Reading Unit :=
  if b = 0x6E then readWord [0x75, 0x6C, 0x6C] rest
  else if b = 0x74 then readWord [0x72, 0x75, 0x65] rest
  else if b = 0x66 then readWord [0x61, 0x6C, 0x73, 0x65] rest
  else if b = 0x2D then skipNumber rest
  else if (digit? b).isSome then skipNumber (b :: rest)
  else if b = 0x22 then skipString rest
  else offence .expectedValue (b :: rest)

/-! ## Containers

The loop goes from one scalar to the next. Between two scalars lie the containers that end after the
first (`leave`), those that begin before the second (`enter`), and the name that the second has if
it stands in an object (`skipName`). -/

/-- Out of the containers that end after a value. What remains, if anything, goes on after a
comma. -/
def leave : List Container → Bytes → Reading (List Container)
  | [], bytes => .ok ([], bytes)
  | container :: outer, bytes =>
    match skipBlank bytes with
    | [] => offence container.endFault []
    | b :: rest =>
      if b = 0x2C then .ok (container :: outer, rest)
      else if b = container.closing then leave outer rest
      else offence container.separatorFault (b :: rest)

/-- Into a container, after its opening byte, and out of it again if it is empty. -/
def enter (container : Container) (outer : List Container) (bytes : Bytes) :
    Reading (List Container) :=
  match skipBlank bytes with
  | [] => offence container.endFault []
  | b :: rest =>
    if b = container.closing then leave outer rest else .ok (container :: outer, b :: rest)

/-- The name and the colon that a value in an object has in front of it. -/
def skipName : Container → Bytes → Reading Unit
  | .list, bytes => .ok ((), bytes)
  | .object, bytes =>
    match skipBlank bytes with
    | [] => offence .endInObject []
    | 0x22 :: rest => (skipString rest).andThen fun _ rest => readColon rest
    | rest => offence .keyNotString rest

/-- A scalar, or the start of a container. -/
def skipStep (containers : List Container) (bytes : Bytes) : Reading (List Container) :=
  match skipBlank bytes with
  | [] => offence .endInValue []
  | b :: rest =>
    if b = 0x5B then enter .list containers rest
    else if b = 0x7B then enter .object containers rest
    else (skipScalar b rest).andThen fun _ rest => leave containers rest

/-- Values up to the end of the outermost container, in at most `turns` steps. -/
def skipFrom : Nat → List Container → Bytes → Reading Unit
  | 0, _, rest => stop .endInValue rest
  | turns + 1, containers, bytes =>
    match skipStep containers bytes with
    | .error e => .error e
    | .ok ([], rest) => .ok ((), rest)
    | .ok (container :: outer, rest) =>
      match skipName container rest with
      | .error e => .error e
      | .ok (_, rest) => skipFrom turns (container :: outer) rest

/-- A value. Every step reads a byte at least, so there are turns enough. -/
def skipValue (bytes : Bytes) : Reading Unit :=
  skipFrom (bytes.length + 1) [] bytes

end ActionGateway.Json
