import ActionGateway.Form.Params
import ActionGateway.Text.Basic
import ActionGateway.Text.Utf8

/-!
# URL-encoded forms

The encoding of form parameters in queries and form bodies: pairs joined by `&`, name and value
joined by `=`, a space as `+`, and any other byte that is not plain as `%` and two hexadecimal
digits. Reading never fails: an escape that is none stands for itself, and bytes that are no UTF-8
give U+FFFD.
-/

namespace ActionGateway.UrlEncoded

/-! ## Reading

The pieces are cut before anything is decoded, so an escaped `&` or `=` separates nothing. -/

/-- The bytes in `acc`, which are in reverse, followed by the bytes that percent escapes stand
for. -/
def percentDecodeFrom (acc : Bytes) : Bytes → Bytes
  | [] => acc.reverse
  | b :: tail =>
    if b = 0x25 then
      match tail with
      | high :: low :: rest =>
        match Hex.value? high, Hex.value? low with
        | some h, some l => percentDecodeFrom (UInt8.ofNat (h * 16 + l) :: acc) rest
        -- What follows a `%` that is no escape may hold one itself.
        | _, _ => percentDecodeFrom (b :: acc) (high :: low :: rest)
      | rest => percentDecodeFrom (b :: acc) rest
    else percentDecodeFrom (b :: acc) tail

/-- The bytes that percent escapes stand for; `%` without two digits after it stays. -/
def percentDecode (bytes : Bytes) : Bytes :=
  percentDecodeFrom [] bytes

/-- A `+` stands for a space. -/
def plusToSpace (bytes : Bytes) : Bytes :=
  bytes.map fun b => if b = 0x2B then 0x20 else b

/-- The text that an encoded name or value stands for. -/
def decode (bytes : Bytes) : String :=
  Utf8.decodeLossy (percentDecode (plusToSpace bytes))

/-- The pieces between the separators; `piece` and `pieces` hold, in reverse, what came before. -/
def splitFrom (separator : UInt8) (pieces : List Bytes) (piece : Bytes) : Bytes → List Bytes
  | [] => (piece.reverse :: pieces).reverse
  | b :: rest =>
    if b = separator then splitFrom separator (piece.reverse :: pieces) [] rest
    else splitFrom separator pieces (b :: piece) rest

/-- The pieces between the separators. -/
def split (separator : UInt8) (bytes : Bytes) : List Bytes :=
  splitFrom separator [] [] bytes

/-- What stands before and after the first separator; nothing stands after one that is missing. -/
def splitFirst (separator : UInt8) (bytes : Bytes) : Bytes × Bytes :=
  (bytes.takeWhile (· ≠ separator), (bytes.dropWhile (· ≠ separator)).drop 1)

/-- The pair that a piece stands for. -/
def decodePair (piece : Bytes) : String × String :=
  let (name, value) := splitFirst 0x3D piece
  (decode name, decode value)

/-- The parameters of an encoded form. Empty pieces stand for nothing. -/
def parse (bytes : Bytes) : Params :=
  ((split 0x26 bytes).filter fun piece => !piece.isEmpty).map decodePair

/-! ## Writing -/

/-- The bytes that stand for themselves. -/
def isPlain (b : UInt8) : Bool :=
  (0x30 ≤ b && b ≤ 0x39) || (0x41 ≤ b && b ≤ 0x5A) || (0x61 ≤ b && b ≤ 0x7A) ||
    b = 0x2A || b = 0x2D || b = 0x2E || b = 0x5F

/-- How a byte is encoded. -/
def encodeByte (b : UInt8) : List Char :=
  if isPlain b then [Char.ofNat b.toNat]
  else if b = 0x20 then ['+']
  else ['%', Hex.upper (b.toNat / 16), Hex.upper (b.toNat % 16)]

/-- A name or a value, encoded. -/
def encode (s : String) : String :=
  String.ofList ((Utf8.encode s).flatMap encodeByte)

end ActionGateway.UrlEncoded
