import ActionGateway.Text.Utf8

/-!
# HTTP headers

A header list holds names and values in the order in which they were added; a name may stand in it
several times. Names are compared without regard to case, and are kept in lower case. Values are
bytes; what is read as text must be visible ASCII.

Names of headers are **tokens**, and so are names of methods and the parts of media types: what they
are made of is said here for all of them.
-/

namespace ActionGateway

/-! ## Tokens -/

namespace Token

/-- The characters of a token beside letters and digits. -/
def marks : List Char :=
  ['!', '#', '$', '%', '&', '\'', '*', '+', '-', '.', '^', '_', '\x60', '|', '~']

/-- Whether a character may stand in a token. -/
def isTokenChar (c : Char) : Bool :=
  c.isAlphanum || marks.contains c

/-- Whether a byte is a character that may stand in a token. -/
def isTokenByte (b : UInt8) : Bool :=
  isTokenChar (Char.ofNat b.toNat)

end Token

/-! ## Headers

The list is searched from its beginning, so of several values of a name the first one counts for a
reader that wants one. Setting a name leaves its value in one place, the last. -/

/-- Headers, names in lower case, in order. -/
abbrev Headers := List (String × Bytes)

namespace Headers

/-- The first value of a name. -/
def first? (headers : Headers) (name : String) : Option Bytes :=
  (headers.find? fun header => header.1 = name).map (·.2)

/-- All values of a name, in order. -/
def all (headers : Headers) (name : String) : List Bytes :=
  (headers.filter fun header => header.1 = name).map (·.2)

/-- The headers with `value` as the only value of a name. -/
def set (headers : Headers) (name : String) (value : Bytes) : Headers :=
  (headers.filter fun header => header.1 ≠ name) ++ [(name, value)]

/-- The headers with `value` for a name that has none. -/
def setIfAbsent (headers : Headers) (name : String) (value : Bytes) : Headers :=
  if (headers.first? name).isSome then headers else headers ++ [(name, value)]

end Headers

/-- A name in the form in which headers keep it. -/
def headerName (name : String) : String :=
  String.ofList (name.toList.map Char.toLower)

/-! ## Values

Any byte may be carried but for control characters. That is more than can be read: a value with a
byte beyond ASCII is carried, and has no text. -/

namespace HeaderValue

/-- Whether a byte may stand in a header value: no control character but the tab. -/
def isAllowed (b : UInt8) : Bool :=
  b = 0x09 || (0x20 ≤ b && b ≠ 0x7F)

/-- The value of a text, if all its bytes are allowed. -/
def ofString? (s : String) : Option Bytes :=
  let bytes := Utf8.encode s
  if bytes.all isAllowed then some bytes else none

/-- Whether a byte is visible ASCII, a space or a tab. -/
def isVisible (b : UInt8) : Bool :=
  b = 0x09 || (0x20 ≤ b && b < 0x7F)

/-- The text of a value, if all its bytes are visible. -/
def text? (value : Bytes) : Option String :=
  if value.all isVisible then some (String.ofList (value.map fun b => Char.ofNat b.toNat))
  else none

end HeaderValue

end ActionGateway
