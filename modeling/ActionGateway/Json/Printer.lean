import ActionGateway.Decimal.Shortest
import ActionGateway.Json.Basic
import ActionGateway.Text.Basic

/-!
# JSON texts

The compact text of a value: no blanks, members in the order in which the value lists them, strings
with the escapes that JSON demands and no others, and floating-point numbers as their shortest
decimals. The text is built from left to right by appending to what is already written, so that its
length, and not the shape of the value, decides the cost.
-/

namespace ActionGateway.Json

/-! ## Scalars -/

/-- A floating-point number always shows a point or an exponent; it is positional from `0.00001` up
to sixteen digits before the point. -/
def numberLayout : Decimal.Layout where
  positionalFrom := -5
  positionalUpTo := 16
  exponentMark := "e+"
  negativeExponentMark := "e-"
  wholeEnding := ".0"

/-- The text of a number. -/
def numberText : JsonNumber → String
  | .int n _ =>
    if n < 0 then "-" ++ String.ofList (Nat.toDigits 10 n.natAbs)
    else String.ofList (Nat.toDigits 10 n.natAbs)
  | .double x => if x.isFinite then numberLayout.write x else "null"

/-- How a character stands inside a string: the quote and the backslash after a backslash, the
control characters as short escapes or as codes, all else as it is. -/
def escaped (c : Char) : List Char :=
  if c = '\x22' then ['\\', '\x22']
  else if c = '\\' then ['\\', '\\']
  else if c = '\x08' then ['\\', 'b']
  else if c = '\t' then ['\\', 't']
  else if c = '\n' then ['\\', 'n']
  else if c = '\x0c' then ['\\', 'f']
  else if c = '\r' then ['\\', 'r']
  else if c.toNat < 0x20 then
    ['\\', 'u', '0', '0', Hex.lower (c.toNat / 16), Hex.lower (c.toNat % 16)]
  else [c]

/-- `out` followed by a string in quotes. -/
def writeString (out : String) (s : String) : String :=
  (s.toList.foldl (fun out c => (escaped c).foldl String.push out) (out.push '\x22')).push '\x22'

/-! ## Values -/

mutual

/-- `out` followed by the text of a value. -/
def write (out : String) : Json → String
  | null => out ++ "null"
  | bool true => out ++ "true"
  | bool false => out ++ "false"
  | num n => out ++ numberText n
  | str s => writeString out s
  | arr items => (writeItems (out.push '[') true items).push ']'
  | obj members => (writeMembers (out.push '\x7b') true members).push '\x7d'

/-- `out` followed by the items, a comma before each but the first. -/
def writeItems (out : String) (first : Bool) : List Json → String
  | [] => out
  | item :: rest => writeItems (write (if first then out else out.push ',') item) false rest

/-- `out` followed by the members, a comma before each but the first. -/
def writeMembers (out : String) (first : Bool) : List (String × Json) → String
  | [] => out
  | (name, value) :: rest =>
    let out := (writeString (if first then out else out.push ',') name).push ':'
    writeMembers (write out value) false rest

end

/-- The compact text of a value. -/
def text (value : Json) : String :=
  write "" value

end ActionGateway.Json
