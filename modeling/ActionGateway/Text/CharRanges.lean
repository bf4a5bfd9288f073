/-!
# Sets of characters by ranges

A large set of characters is kept as the ranges of its code points, in ascending order. A code point
is looked for by halving what is left of them.
-/

namespace ActionGateway.Text

/-- Ranges of code points, both ends included, in ascending order and with gaps between them. -/
abbrev CharRanges := Array (Nat × Nat)

namespace CharRanges

/-- Whether one of the ranges from the place `low` up to the place `high` holds a code point. Each
turn leaves at most half of them. -/
def holdsBetween (ranges : CharRanges) (n : Nat) : (turns low high : Nat) → Bool
  | 0, _, _ => false
  | turns + 1, low, high =>
    let middle := (low + high) / 2
    match ranges[middle]? with
    | none => false
    | some (first, last) =>
      if high ≤ low then false
      else if n < first then holdsBetween ranges n turns low middle
      else if last < n then holdsBetween ranges n turns (middle + 1) high
      else true

/-- Whether one of the ranges holds a character. -/
def holds (ranges : CharRanges) (c : Char) : Bool :=
  holdsBetween ranges c.toNat ranges.size 0 ranges.size

end CharRanges

end ActionGateway.Text
