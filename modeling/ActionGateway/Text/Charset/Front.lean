import ActionGateway.Text.Utf8

/-!
# Charsets of several bytes a character

Such a charset says what the **front** of a byte sequence stands for: the first byte, and as many of
the bytes after it as belong to it. The text is what the fronts give, one after the other. A front
that stands for no character gives U+FFFD.
-/

namespace ActionGateway

/-- What the first bytes of a sequence give. -/
structure Front where
  chars : List Char
  /-- how many bytes after the first belong to the front -/
  more : Nat
  deriving DecidableEq, Repr

namespace Front

/-- A character that takes one byte. -/
def single (c : Char) : Front :=
  ⟨[c], 0⟩

/-- The first byte and `more` after it, which stand for no character. -/
def fault (more : Nat) : Front :=
  ⟨['\uFFFD'], more⟩

/-- A front of two bytes, by what the second gives. A second byte that gives nothing is passed over
too, unless it stands for itself: then it is read again. -/
def pair (chars? : UInt8 → Option (List Char)) : Bytes → Front
  | [] => fault 0
  | second :: _ =>
    match chars? second with
    | some chars => ⟨chars, 1⟩
    -- A byte of ASCII is never lost to a first byte that it does not fit.
    | none => fault (if second < 0x80 then 0 else 1)

/-- The characters of bytes of which the first `skip` belong to the front before them; `chars`
holds, in reverse, what has been read. -/
def readAll (front : UInt8 → Bytes → Front) : Nat → List Char → Bytes → List Char
  | _, chars, [] => chars.reverse
  | skip + 1, chars, _ :: rest => readAll front skip chars rest
  | 0, chars, b :: rest =>
    let next := front b rest
    readAll front next.more (next.chars.reverse ++ chars) rest

end Front

end ActionGateway
