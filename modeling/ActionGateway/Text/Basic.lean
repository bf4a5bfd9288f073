/-!
# Characters and pieces of texts

What the formats have in common: blanks at the ends of a text are cut off, a text is cut into pieces
at its separators, and bytes and characters are spelled out in hexadecimal digits.

All of it works on lists of characters, which is the form that proofs take apart. A list is cut in
one pass from left to right; only the blanks at its end are looked for from the other side.
-/

namespace ActionGateway

namespace Text

/-! ## Blanks

A character is blank if it has the property White_Space of Unicode. There are 25 such characters. -/

/-- Whether the character has the property White_Space. -/
def isBlank (c : Char) : Bool :=
  (0x9 ≤ c.toNat && c.toNat ≤ 0xD) || c.toNat = 0x20 || c.toNat = 0x85 || c.toNat = 0xA0 ||
    c.toNat = 0x1680 || (0x2000 ≤ c.toNat && c.toNat ≤ 0x200A) || c.toNat = 0x2028 ||
    c.toNat = 0x2029 || c.toNat = 0x202F || c.toNat = 0x205F || c.toNat = 0x3000

/-- The list without the leading and the trailing members that satisfy `p`. -/
def trimList {α : Type} (p : α → Bool) (l : List α) : List α :=
  ((l.dropWhile p).reverse.dropWhile p).reverse

/-- The text without blanks at its ends. -/
def trim (s : String) : String :=
  String.ofList (trimList isBlank s.toList)

/-! ## Separators

A separator stands between two pieces, each of which may be empty. So there is one piece more than
there are separators, and the empty text is one empty piece. -/

/-- The pieces between the separators. There is always one piece at least. -/
def splitOn (separator : Char) : List Char → List (List Char)
  | [] => [[]]
  | c :: rest =>
    if c = separator then [] :: splitOn separator rest
    else
      match splitOn separator rest with
      | [] => [[c]]
      | piece :: pieces => (c :: piece) :: pieces

/-- What stands before and after the first separator, if there is one. -/
def splitFirst? (separator : Char) (chars : List Char) : Option (List Char × List Char) :=
  match chars.dropWhile (· ≠ separator) with
  | [] => none
  | _ :: after => some (chars.takeWhile (· ≠ separator), after)

end Text

/-! ## Hexadecimal digits

Both cases are read. Which of them is written is a matter of the format: escapes of a JSON text are
in lower case, escapes of a URL in upper case. -/

namespace Hex

/-- The value of a hexadecimal digit of either case. -/
def value? (b : UInt8) : Option Nat :=
  if 0x30 ≤ b ∧ b ≤ 0x39 then some (b.toNat - 0x30)
  else if 0x41 ≤ b ∧ b ≤ 0x46 then some (b.toNat - 0x41 + 10)
  else if 0x61 ≤ b ∧ b ≤ 0x66 then some (b.toNat - 0x61 + 10)
  else none

/-- The digit of a value below 16, in lower case. -/
def lower (n : Nat) : Char :=
  if n < 10 then Char.ofNat (0x30 + n) else Char.ofNat (0x61 + (n - 10))

/-- The digit of a value below 16, in upper case. -/
def upper (n : Nat) : Char :=
  if n < 10 then Char.ofNat (0x30 + n) else Char.ofNat (0x41 + (n - 10))

end Hex

end ActionGateway
