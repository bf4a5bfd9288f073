import ActionGateway.Text.Charset.Front
import ActionGateway.Text.Charset.Ksx1001

/-!
# The Korean charset

EUC-KR gives a row and a column of KS X 1001 a byte each. The syllables that the chart lacks follow
one after the other in the places that are left: below the chart's first row, and to the left of its
first column.
-/

namespace ActionGateway.EucKr

/-- The syllables that are not in the chart, in order. -/
def otherSyllables : Array Char :=
  Ksx1001.characters.others 0xAC00 11172

/-- The place of a second byte among those that may stand outside the chart: letters, and the bytes
from 0x81 on. -/
def place? (b : UInt8) : Option Nat :=
  if 0x41 ≤ b ∧ b ≤ 0x5A then some (b.toNat - 0x41)
  else if 0x61 ≤ b ∧ b ≤ 0x7A then some (b.toNat - 0x61 + 26)
  else if 0x81 ≤ b ∧ b ≤ 0xFE then some (b.toNat - 0x81 + 52)
  else none

/-- What two bytes stand for. A row has 178 places below the chart, and 84 beside it. -/
def char? (first second : UInt8) : Option Char :=
  if 0xA1 ≤ first ∧ 0xA1 ≤ second then
    Ksx1001.characters.at? (first.toNat - 0xA1) (second.toNat - 0xA1)
  else
    (place? second).bind fun place =>
      if first < 0xA1 then otherSyllables[(first.toNat - 0x81) * 178 + place]?
      else otherSyllables[32 * 178 + (first.toNat - 0xA1) * 84 + place]?

/-- The front that begins with a byte. -/
def front (b : UInt8) (rest : Bytes) : Front :=
  if b < 0x80 then .single (Char.ofNat b.toNat)
  else if 0x81 ≤ b ∧ b ≤ 0xFE then .pair (fun second => (char? b second).map fun c => [c]) rest
  else .fault 0

/-- The text of bytes. -/
def decode (bytes : Bytes) : List Char :=
  Front.readAll front 0 [] bytes

end ActionGateway.EucKr
