import ActionGateway.Json.Printer
import ActionGateway.Text.Quoted
import ActionGateway.Text.Utf8

/-!
# Faults in JSON texts

Why a text is no JSON, or not the JSON that was asked for, and where. A reader that stops reports
how many bytes it had **not yet read**, the byte that gave offence counting as read when the reader
had looked at it; from that count and the text itself `Failure.locate` finds line and column. A
reader therefore carries no position along.
-/

namespace ActionGateway.Json

/-! ## Faults

A text that is no JSON and one that is JSON of the wrong shape are refused by one kind of error, and
the caller is told of both in the same form. -/

/-- What stands where something else was asked for. Scalars are named with their value, lists and
objects only by their kind. -/
inductive Found
  | null
  | bool (value : Bool)
  | number (value : JsonNumber)
  | text (value : String)
  | list
  | object
  deriving DecidableEq

/-- The words for what was found. -/
def Found.describe : Found → String
  | null => "null"
  | bool true => "boolean \x60true\x60"
  | bool false => "boolean \x60false\x60"
  | number (.int n fits) => "integer \x60" ++ numberText (.int n fits) ++ "\x60"
  | number (.double x) => "floating point \x60" ++ numberText (.double x) ++ "\x60"
  | text s => "string " ++ Text.quoted s
  | list => "sequence"
  | object => "map"

/-- How a JSON text differs from what was asked for. -/
inductive Mismatch
  | wrongType (found : Found) (expected : String)
  | missingField (name : String)
  | duplicateField (name : String)
  | tooFewItems (count : Nat) (expected : String)
  deriving DecidableEq

/-- The text of a mismatch. -/
def Mismatch.message : Mismatch → String
  | wrongType found expected => "invalid type: " ++ found.describe ++ ", expected " ++ expected
  | missingField name => "missing field \x60" ++ name ++ "\x60"
  | duplicateField name => "duplicate field \x60" ++ name ++ "\x60"
  | tooFewItems count expected =>
    "invalid length " ++ toString count ++ ", expected " ++ expected

/-- What is wrong with a text: the faults of the grammar, and under `mismatch` those of a text that
is JSON of another shape than was asked for. -/
inductive Fault
  | endInValue
  | endInString
  | endInList
  | endInObject
  | expectedValue
  | expectedWord
  | expectedColon
  | expectedListEnd
  | expectedObjectEnd
  | trailingComma
  | trailingCharacters
  | keyNotString
  | invalidNumber
  | numberOutOfRange
  | controlCharacter
  | invalidEscape
  | loneSurrogate
  | unfinishedSurrogate
  | invalidCodePoint
  | tooDeep
  | mismatch (mismatch : Mismatch)
  deriving DecidableEq

/-- The text of a fault, without the place. -/
def Fault.message : Fault → String
  | endInValue => "EOF while parsing a value"
  | endInString => "EOF while parsing a string"
  | endInList => "EOF while parsing a list"
  | endInObject => "EOF while parsing an object"
  | expectedValue => "expected value"
  | expectedWord => "expected ident"
  | expectedColon => "expected \x60:\x60"
  | expectedListEnd => "expected \x60,\x60 or \x60]\x60"
  | expectedObjectEnd => "expected \x60,\x60 or \x60\x7d\x60"
  | trailingComma => "trailing comma"
  | trailingCharacters => "trailing characters"
  | keyNotString => "key must be a string"
  | invalidNumber => "invalid number"
  | numberOutOfRange => "number out of range"
  | controlCharacter => "control character (\\u0000-\\u001F) found while parsing a string"
  | invalidEscape => "invalid escape"
  | loneSurrogate => "lone leading surrogate in hex escape"
  | unfinishedSurrogate => "unexpected end of hex escape"
  | invalidCodePoint => "invalid unicode code point"
  | tooDeep => "recursion limit exceeded"
  | mismatch m => m.message

/-! ## Places

The place of a fault is worked out once, after reading has stopped, from the number of bytes that
are left. -/

/-- A fault, and how many bytes of the text had not been read when it was found. -/
structure Failure where
  fault : Fault
  unread : Nat
  deriving DecidableEq

/-- A fault at a place in a text. Lines count from 1; the column is the number of bytes of the line
that had been read. -/
structure LocatedFault where
  fault : Fault
  line : Nat
  column : Nat
  deriving DecidableEq

/-- Line and column after the given bytes, continued from a line and a column. -/
def advance : Nat × Nat → Bytes → Nat × Nat
  | place, [] => place
  | (line, column), b :: rest =>
    advance (if b = 0x0A then (line + 1, 0) else (line, column + 1)) rest

/-- The fault with its place. Only the bytes that had been read are looked at. -/
def Failure.locate (failure : Failure) (input : Bytes) : LocatedFault :=
  let (line, column) := advance (1, 0) (input.take (input.length - failure.unread))
  ⟨failure.fault, line, column⟩

/-- The message with the place after it. -/
def LocatedFault.message (error : LocatedFault) : String :=
  error.fault.message ++ " at line " ++ toString error.line ++ " column " ++ toString error.column

end ActionGateway.Json
