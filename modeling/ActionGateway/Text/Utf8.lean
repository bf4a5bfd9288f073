/-!
# UTF-8

Texts are `String`s and what travels on the wire is a list of bytes; this module goes between the
two. The decoder walks over the bytes one at a time and cuts them into **pieces**: characters, and
**stray** runs, the longest beginnings of a character that the next byte does not continue. All
ways of reading bytes fold over the same pieces:

* `decode?` accepts a list of bytes only when it has no stray run;
* `decodeLossy` accepts all, and puts U+FFFD where a stray run stands;
* `validLength` says how far a list of bytes goes before its first stray run.

The pieces are never put into a list: what each of them adds is added as soon as it is complete, so
bodies of some megabytes are read in one pass.
-/

namespace ActionGateway

/-- What is read from and written to the wire. -/
abbrev Bytes := List UInt8

namespace Utf8

/-- The UTF-8 form of a text. -/
def encode (s : String) : Bytes :=
  s.toList.flatMap String.utf8EncodeChar

/-! ## Pieces -/

/-- A part of a byte sequence: a character, or a run of `length` bytes that begins one and does
not finish it. -/
inductive Piece
  | char (c : Char)
  | stray (length : Nat)
  deriving DecidableEq, Repr

namespace Piece

/-- Whether the piece is a character. -/
def isChar : Piece → Bool
  | .char _ => true
  | .stray _ => false

/-- The character that stands for the piece in a text that has to hold something. -/
def toChar : Piece → Char
  | .char c => c
  | .stray _ => '\uFFFD'

/-- How many bytes the piece covers. -/
def size : Piece → Nat
  | .char c => (String.utf8EncodeChar c).length
  | .stray length => length

end Piece

/-! ## The decoder

The decoder keeps the range that the next byte has to lie in. Only for the second byte of a
character is it ever narrower than the range of all continuing bytes, and `lead` sets it there. -/

/-- A character that has begun. -/
structure Begun where
  /-- how many of its bytes have been read -/
  seen : Nat
  /-- how many bytes are still to come, at least one -/
  missing : Nat
  /-- the least value of the next byte -/
  low : UInt8
  /-- the greatest value of the next byte -/
  high : UInt8
  /-- the bits read so far -/
  value : Nat
  deriving DecidableEq, Repr

/-- What a byte does at the start of a character. -/
inductive Lead
  | whole (c : Char)
  | begins (b : Begun)
  | never
  deriving DecidableEq, Repr

/-- The first byte fixes the length, and the range of the second byte: the four narrow ranges keep
out overlong forms, surrogates, and values above U+10FFFF. -/
def lead (b : UInt8) : Lead :=
  if b < 0x80 then .whole (Char.ofNat b.toNat)
  else if b < 0xC2 then .never
  else if b < 0xE0 then .begins ⟨1, 1, 0x80, 0xBF, b.toNat - 0xC0⟩
  else if b < 0xF0 then
    .begins ⟨1, 2, if b = 0xE0 then 0xA0 else 0x80, if b = 0xED then 0x9F else 0xBF, b.toNat - 0xE0⟩
  else if b < 0xF5 then
    .begins ⟨1, 3, if b = 0xF0 then 0x90 else 0x80, if b = 0xF4 then 0x8F else 0xBF, b.toNat - 0xF0⟩
  else .never

/-- Where the decoder stands: the character that has begun, if one has, and what the pieces before
it have come to. -/
structure Decoder (α : Type) where
  begun : Option Begun
  result : α

namespace Decoder

variable {α : Type}

/-- A byte read between characters; `take` says what a piece adds to the result. -/
@[specialize]
def start (take : α → Piece → α) (result : α) (b : UInt8) : Decoder α :=
  match lead b with
  | .whole c => ⟨none, take result (.char c)⟩
  | .begins begun => ⟨some begun, result⟩
  | .never => ⟨none, take result (.stray 1)⟩

/-- One byte. A byte that does not continue the character begun leaves a stray run behind and is
read again as a first byte. -/
@[specialize]
def step (take : α → Piece → α) (d : Decoder α) (b : UInt8) : Decoder α :=
  match d.begun with
  | none => start take d.result b
  | some begun =>
    if begun.low ≤ b ∧ b ≤ begun.high then
      -- Six bits are added, and after the second byte any continuing byte will do.
      let value := begun.value * 64 + (b.toNat - 0x80)
      if begun.missing = 1 then ⟨none, take d.result (.char (Char.ofNat value))⟩
      else ⟨some ⟨begun.seen + 1, begun.missing - 1, 0x80, 0xBF, value⟩, d.result⟩
    else start take (take d.result (.stray begun.seen)) b

/-- The result at the end of the bytes, where a character that is still open is stray. -/
@[specialize]
def finish (take : α → Piece → α) (d : Decoder α) : α :=
  match d.begun with
  | none => d.result
  | some begun => take d.result (.stray begun.seen)

end Decoder

/-! ## Readings -/

/-- What the pieces of a byte sequence add to a result, one after the other. -/
@[specialize]
def foldPieces {α : Type} (take : α → Piece → α) (result : α) (bytes : Bytes) : α :=
  (bytes.foldl (Decoder.step take) ⟨none, result⟩).finish take

/-- The text with U+FFFD for every stray run. -/
def decodeLossy (bytes : Bytes) : String :=
  foldPieces (fun text piece => text.push piece.toChar) "" bytes

/-- Whether every byte belongs to a character. -/
def isValid (bytes : Bytes) : Bool :=
  foldPieces (fun valid piece => valid && piece.isChar) true bytes

/-- The text, if every byte belongs to a character. -/
def decode? (bytes : Bytes) : Option String :=
  if isValid bytes then some (decodeLossy bytes) else none

/-- How many bytes stand before the first stray run. The flag says that none has come yet. -/
def validLength (bytes : Bytes) : Nat :=
  (foldPieces
    (fun (length, valid) piece =>
      if valid && piece.isChar then (length + piece.size, true) else (length, false))
    (0, true) bytes).1

end Utf8

end ActionGateway
