import ActionGateway.Text.Charset.Front
import ActionGateway.Text.Charset.Jis0208
import ActionGateway.Text.Charset.Jis0212

/-!
# Japanese charsets

Three charsets share the chart of JIS X 0208. EUC-JP gives its row and its column a byte each;
Shift_JIS moves the rows so that halfwidth katakana keep a byte of their own; ISO-2022-JP stays
within 7 bits, and **escapes** say which chart the bytes after them refer to.
-/

namespace ActionGateway

/-! ## Halfwidth katakana -/

/-- The halfwidth katakana, and the punctuation that belongs to it, from U+FF61 on. -/
def halfwidthKatakana (n : Nat) : Char :=
  Char.ofNat (0xFF61 + n)

namespace ShiftJis

/-- The character of a row and a column of the widened chart. The rows 94 to 113 are for private
use. -/
def cell? (row column : Nat) : Option Char :=
  if row < 94 then Jis0208.kanji.at? row column
  else if row < 114 then some (Char.ofNat (0xE000 + (row - 94) * 94 + column))
  else Jis0208.vendorKanji.at? (row - 114) column

/-- What two bytes stand for: a first byte covers two rows. -/
def char? (first second : UInt8) : Option Char :=
  if 0x40 ≤ second ∧ second ≤ 0xFC ∧ second ≠ 0x7F then
    let pairOfRows := first.toNat - (if first < 0xA0 then 0x81 else 0xC1)
    let position := second.toNat - (if second < 0x7F then 0x40 else 0x41)
    -- A byte is left out among the second ones, so that none is the delete character.
    cell? (pairOfRows * 2 + position / 94) (position % 94)
  else none

def front (b : UInt8) (rest : Bytes) : Front :=
  if b ≤ 0x80 then .single (Char.ofNat b.toNat)
  else if 0xA1 ≤ b ∧ b ≤ 0xDF then .single (halfwidthKatakana (b.toNat - 0xA1))
  else if b = 0xA0 ∨ 0xFC < b then .fault 0
  else .pair (fun second => (char? b second).map fun c => [c]) rest

def decode (bytes : Bytes) : List Char :=
  Front.readAll front 0 [] bytes

end ShiftJis

namespace EucJp

/-- Whether a byte names a row or a column of a chart. -/
def isPlace (b : UInt8) : Bool :=
  0xA1 ≤ b && b ≤ 0xFE

/-- The character of a row and a column that are given by their bytes. -/
def char? (chart : Chart) (row column : UInt8) : Option Char :=
  if isPlace row && isPlace column then chart.at? (row.toNat - 0xA1) (column.toNat - 0xA1) else none

/-- The halfwidth katakana of a byte. -/
def katakana? (b : UInt8) : Option Char :=
  if 0xA1 ≤ b ∧ b ≤ 0xDF then some (halfwidthKatakana (b.toNat - 0xA1)) else none

/-- The front that begins with the byte 0x8F, which announces a character of the supplement. -/
def supplementFront : Bytes → Front
  | row :: rest =>
    if isPlace row then
      let front := Front.pair (fun column => (char? Jis0212.kanji row column).map fun c => [c]) rest
      { front with more := front.more + 1 }
    else .fault (if row < 0x80 then 0 else 1)
  | [] => .fault 0

def front (b : UInt8) (rest : Bytes) : Front :=
  if b < 0x80 then .single (Char.ofNat b.toNat)
  else if b = 0x8E then .pair (fun second => (katakana? second).map fun c => [c]) rest
  else if b = 0x8F then supplementFront rest
  else if isPlace b then
    .pair (fun column => (char? Jis0208.kanji b column).map fun c => [c]) rest
  else .fault 0

def decode (bytes : Bytes) : List Char :=
  Front.readAll front 0 [] bytes

end EucJp

namespace Iso2022Jp

/-- What the bytes refer to. -/
inductive Mode
  | ascii
  /-- ASCII with a yen sign for the backslash and an overline for the tilde -/
  | roman
  | katakana
  /-- two bytes for each character of JIS X 0208 -/
  | kanji
  deriving DecidableEq, Repr

/-- The mode that the two bytes after an escape byte name, if they name one. -/
def Mode.ofEscape? : Bytes → Option Mode
  | 0x28 :: 0x42 :: _ => some ascii
  | 0x28 :: 0x4A :: _ => some roman
  | 0x28 :: 0x49 :: _ => some katakana
  | 0x24 :: 0x40 :: _ => some kanji
  | 0x24 :: 0x42 :: _ => some kanji
  | _ => none

/-- What a byte gives in ASCII. -/
def asciiFront (b : UInt8) : Front :=
  if b < 0x80 ∧ b ≠ 0x0E ∧ b ≠ 0x0F then .single (Char.ofNat b.toNat) else .fault 0

/-- Whether a byte names a row or a column of the chart. -/
def isPlace (b : UInt8) : Bool :=
  0x21 ≤ b && b ≤ 0x7E

/-- The front of two bytes for one character. An escape byte in the second place is not passed
over. -/
def kanjiFront (row : UInt8) (rest : Bytes) : Front :=
  if isPlace row then
    match rest with
    | [] => .fault 0
    | column :: _ =>
      if column = 0x1B then .fault 0
      else if isPlace column then
        match Jis0208.kanji.at? (row.toNat - 0x21) (column.toNat - 0x21) with
        | some c => ⟨[c], 1⟩
        | none => .fault 1
      else .fault 1
  else .fault 0

/-- The front that begins with a byte other than the escape byte. -/
def front (mode : Mode) (b : UInt8) (rest : Bytes) : Front :=
  match mode with
  | .ascii => asciiFront b
  | .roman =>
    if b = 0x5C then .single '¥' else if b = 0x7E then .single '‾' else asciiFront b
  | .katakana =>
    if 0x21 ≤ b ∧ b ≤ 0x5F then .single (halfwidthKatakana (b.toNat - 0x21)) else .fault 0
  | .kanji => kanjiFront b rest

/-- The characters of bytes of which the first `skip` belong to what stands before them. An escape
gives nothing, but if nothing came since the escape before, as `escaped` says, then that one was in
vain and U+FFFD stands for it. -/
def read : Mode → (escaped : Bool) → (skip : Nat) → List Char → Bytes → List Char
  | _, _, _, chars, [] => chars.reverse
  | mode, escaped, skip + 1, chars, _ :: rest => read mode escaped skip chars rest
  | mode, escaped, 0, chars, b :: rest =>
    if b = 0x1B then
      match Mode.ofEscape? rest with
      | some next => read next true 2 (if escaped then '\uFFFD' :: chars else chars) rest
      | none => read mode false 0 ('\uFFFD' :: chars) rest
    else
      let next := front mode b rest
      read mode false next.more (next.chars.reverse ++ chars) rest

def decode (bytes : Bytes) : List Char :=
  read .ascii false 0 [] bytes

end Iso2022Jp

end ActionGateway
