/-!
# Decimal numerals

Whole numbers written with ASCII digits, read up to a limit. The value is compared with the limit
after every digit, so a long numeral is refused and never wraps.
-/

namespace ActionGateway.Decimal

/-- The value of an ASCII digit. -/
def digit? (c : Char) : Option Nat :=
  if '0' ≤ c ∧ c ≤ '9' then some (c.toNat - '0'.toNat) else none

/-- `value` continued by the digits of a list, as long as the result is at most `limit`. -/
def continue? (limit : Nat) : Nat → List Char → Option Nat
  | value, [] => some value
  | value, c :: rest =>
    match digit? c with
    | none => none
    | some d => if value * 10 + d ≤ limit then continue? limit (value * 10 + d) rest else none

/-- The digits after an optional single `+`. -/
def unsigned (chars : List Char) : List Char :=
  match chars with
  | '+' :: rest => rest
  | chars => chars

/-- The number that a numeral denotes: an optional `+`, then one or more digits, at most `limit`. -/
def numeral? (limit : Nat) (s : String) : Option Nat :=
  match unsigned s.toList with
  | [] => none
  | digits => continue? limit 0 digits

/-- A power of ten. -/
def tenTo (e : Nat) : Nat :=
  Nat.pow 10 e

/-- The digits of a number. -/
def ofNat (n : Nat) : String :=
  String.ofList (Nat.toDigits 10 n)

end ActionGateway.Decimal
