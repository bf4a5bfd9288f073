import ActionGateway.Decimal.Binary64
import ActionGateway.Decimal.Numeral

/-!
# Reading decimals

The binary number nearest to a decimal text, and the three texts that stand for no decimal. An
exponent is only taken at its word while it can matter: far outside the range of the format the
result is zero or infinite whatever the digits are.
-/

namespace ActionGateway.Decimal

/-- The number nearest to `±digits · 10^exponent`, `digits` having at most `count` places. -/
def nearest (negative : Bool) (digits count : Nat) (exponent : Int) : Binary64 :=
  if digits = 0 then .zero negative
  -- The finite numbers other than zero lie between `10^-324` and `10^309`; the margin is generous,
  -- and the powers of ten stay small.
  else if 400 < exponent then .infinity negative
  else if exponent + count < -400 then .zero negative
  else if 0 ≤ exponent then .ofRatio negative (digits * tenTo exponent.toNat) 1
  else .ofRatio negative digits (tenTo (-exponent).toNat)

/-- The leading digits of a list: how many they are, `value` continued by them, and what follows. -/
def takeDigits : Nat → Nat → List Char → Nat × Nat × List Char
  | count, value, [] => (count, value, [])
  | count, value, c :: rest =>
    match digit? c with
    | some d => takeDigits (count + 1) (value * 10 + d) rest
    | none => (count, value, c :: rest)

/-- The exponent that ends a decimal: nothing, or `e`, a sign, and digits. -/
def exponent? (chars : List Char) : Option Int :=
  match chars with
  | [] => some 0
  | c :: rest =>
    if c = 'e' ∨ c = 'E' then
      let (negative, digits) :=
        match rest with
        | '-' :: rest => (true, rest)
        | '+' :: rest => (false, rest)
        | rest => (false, rest)
      match takeDigits 0 0 digits with
      | (0, _, _) => none
      | (_, value, []) => some (if negative then -(value : Int) else value)
      | _ => none
    else none

/-- A decimal without its sign. -/
def magnitude? (negative : Bool) (chars : List Char) : Option Binary64 :=
  let (before, value, rest) := takeDigits 0 0 chars
  let (after, value, rest) :=
    match rest with
    | '.' :: rest =>
      let (all, value, rest) := takeDigits before value rest
      (all - before, value, rest)
    | rest => (0, value, rest)
  -- A point alone is no number, but digits may be missing on one side of it.
  if before + after = 0 then none
  else (exponent? rest).map fun e => nearest negative value (before + after) (e - after)

/-- The number that a text denotes: a decimal with an optional sign, `inf`, `infinity` or `nan`. -/
def binary64? (s : String) : Option Binary64 :=
  let (negative, chars) :=
    match s.toList with
    | '-' :: rest => (true, rest)
    | '+' :: rest => (false, rest)
    | chars => (false, chars)
  let word := String.ofList (chars.map Char.toLower)
  if word = "inf" ∨ word = "infinity" then some (.infinity negative)
  else if word = "nan" then some .nan
  else magnitude? negative chars

end ActionGateway.Decimal
