import ActionGateway.Text.Utf8

/-!
# UTF-16

A character takes one unit of 16 bits, or two, a first and a second **surrogate**. A surrogate that
is not one of such a pair gives U+FFFD, and so does what a missing last byte breaks off.
-/

namespace ActionGateway.Utf16

/-- The 16-bit units of the bytes, and whether a single byte is left over; the first argument holds,
in reverse, what has been read. -/
def units (bigEndian : Bool) : List Nat → Bytes → List Nat × Bool
  | acc, a :: b :: rest =>
    let unit := if bigEndian then a.toNat * 256 + b.toNat else b.toNat * 256 + a.toNat
    units bigEndian (unit :: acc) rest
  | acc, [_] => (acc.reverse, true)
  | acc, [] => (acc.reverse, false)

/-- The characters of units; `first` is a first surrogate that waits for its second, and `cut` says
that a byte was left over. -/
def chars (cut : Bool) : List Char → Option Nat → List Nat → List Char
  | acc, first, [] =>
    (if cut || first.isSome then '\uFFFD' :: acc else acc).reverse
  | acc, first, unit :: rest =>
    let single := if 0xDC00 ≤ unit ∧ unit ≤ 0xDFFF then '\uFFFD' else Char.ofNat unit
    let isFirst := 0xD800 ≤ unit ∧ unit ≤ 0xDBFF
    match first with
    | none =>
      if isFirst then chars cut acc (some unit) rest else chars cut (single :: acc) none rest
    | some high =>
      if 0xDC00 ≤ unit ∧ unit ≤ 0xDFFF then
        let c := Char.ofNat (0x10000 + (high - 0xD800) * 0x400 + (unit - 0xDC00))
        chars cut (c :: acc) none rest
      else if isFirst then chars cut ('\uFFFD' :: acc) (some unit) rest
      else chars cut (single :: '\uFFFD' :: acc) none rest

/-- The text of bytes in one of the two orders. -/
def decode (bigEndian : Bool) (bytes : Bytes) : List Char :=
  let (units, cut) := units bigEndian [] bytes
  chars cut [] none units

end ActionGateway.Utf16
