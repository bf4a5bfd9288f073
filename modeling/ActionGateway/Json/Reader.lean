import ActionGateway.Decimal.Numeral
import ActionGateway.Json.Basic
import ActionGateway.Json.Fault
import ActionGateway.Text.Basic

/-!
# Reading JSON

A document is read from its bytes. The readers below take what is left of the input and give back
a result and what is left after it. `readValue` descends into arrays and objects; how deep it may
still go is its first argument, and the loops over items and members turn at most as often as there
are bytes, which is the second one.

Numbers are read in one pass: digits go into a significand of 64 bits as long as they fit, a digit
of the whole part that no longer fits counts into the exponent, one of the fraction is dropped, and
the result is the significand, as a floating-point number, times or divided by a power of ten. A
number written with neither point nor exponent stays an integer if 64 bits hold it.
-/

namespace ActionGateway.Json

/-- What a reader makes of the bytes that are left. -/
abbrev Reading (α : Type) := Except Failure (α × Bytes)

/-- A reader, and another that goes on where it left off. -/
@[inline] def Reading.andThen {α β : Type} (first : Reading α) (next : α → Bytes → Reading β) :
    Reading β :=
  match first with
  | .ok (value, rest) => next value rest
  | .error failure => .error failure

/-- The fault at the byte in front, which counts as read. -/
def offence {α : Type} (fault : Fault) (rest : Bytes) : Reading α :=
  .error ⟨fault, rest.length - 1⟩

/-- The fault after what has been read. -/
def stop {α : Type} (fault : Fault) (rest : Bytes) : Reading α :=
  .error ⟨fault, rest.length⟩

/-- The four bytes that may stand between the tokens of a document: space, line feed, tab and
carriage return. -/
def isBlank (b : UInt8) : Bool :=
  b = 0x20 || b = 0x0A || b = 0x09 || b = 0x0D

/-- The bytes after the blanks in front. Every reader of a token begins with it, so none has to
leave the blanks behind its token read. -/
def skipBlank (bytes : Bytes) : Bytes :=
  bytes.dropWhile isBlank

/-! ## Words

`null`, `true` and `false` are known by their first byte. The letters after it must follow one by
one, and the first that does not counts as read. -/

/-- The letters of a word that has begun. -/
def readWord : Bytes → Bytes → Reading Unit
  | [], rest => .ok ((), rest)
  | _ :: _, [] => stop .endInValue []
  | letter :: letters, b :: rest =>
    if b = letter then readWord letters rest else stop .expectedWord rest

/-! ## Numbers

The digits before the point, those after it and those of the exponent are read by one function each,
which hands on the significand and the power of ten it has come to. Only at the end does `assemble`
make a floating-point number of the two. -/

/-- The value of an ASCII digit. -/
def digit? (b : UInt8) : Option Nat :=
  if 0x30 ≤ b ∧ b ≤ 0x39 then some (b.toNat - 0x30) else none

/-- Significands have 64 bits, and stay below this. -/
def significandBound : Nat :=
  18446744073709551616

/-- Exponents have 31 bits, and stay below this. -/
def exponentBound : Nat :=
  2147483648

/-- Digits that still fit into the significand: the significand, how many they were, the rest. -/
def pushDigits (count significand : Nat) : Bytes → Nat × Nat × Bytes
  | [] => (significand, count, [])
  | b :: rest =>
    match digit? b with
    | some d =>
      if significand * 10 + d < significandBound then
        pushDigits (count + 1) (significand * 10 + d) rest
      else (significand, count, b :: rest)
    | none => (significand, count, b :: rest)

/-- Digits that are passed over: how many they were, and the rest. -/
def skipDigits (count : Nat) : Bytes → Nat × Bytes
  | [] => (count, [])
  | b :: rest => if (digit? b).isSome then skipDigits (count + 1) rest else (count, b :: rest)

/-- The powers of ten that are in range, rounded. -/
def powersInRange : Array Binary64 :=
  ((List.range 309).map fun e => .ofNat (Decimal.tenTo e)).toArray

/-- `10^e`, rounded. -/
def power10 (e : Nat) : Binary64 :=
  match powersInRange[e]? with
  | some power => power
  | none => .ofNat (Decimal.tenTo e)

/-- A magnitude divided by `10^e`, in steps where `10^e` is out of range. Three steps take every
significand to zero. -/
def scaleDown : Nat → Binary64 → Nat → Binary64
  | 0, f, e => f.div (power10 (min e 308))
  | steps + 1, f, e =>
    if e ≤ 308 then f.div (power10 e)
    else if f.isZero then f
    else scaleDown steps (f.div (power10 308)) (e - 308)

/-- The number `±significand · 10^exponent`. -/
def assemble (negative : Bool) (significand : Nat) (exponent : Int) (rest : Bytes) :
    Reading JsonNumber :=
  let f := Binary64.ofNat significand
  let signed (x : Binary64) : JsonNumber := .double (if negative then x.neg else x)
  if exponent < 0 then .ok (signed (scaleDown 3 f (-exponent).toNat), rest)
  else if f.isZero then .ok (signed f, rest)
  else if 308 < exponent then stop .numberOutOfRange rest
  else
    let product := f.mul (power10 exponent.toNat)
    -- Rounding alone may take a product beyond the greatest finite number.
    if product.isFinite then .ok (signed product, rest) else stop .numberOutOfRange rest

/-- The digits of an exponent while they fit into 31 bits: the exponent, or that it does not fit,
and the rest. -/
def exponentDigits (exponent : Nat) : Bytes → Option Nat × Bytes
  | [] => (some exponent, [])
  | b :: rest =>
    match digit? b with
    | some d =>
      if exponent * 10 + d < exponentBound then exponentDigits (exponent * 10 + d) rest
      else (none, rest)
    | none => (some exponent, b :: rest)

/-- What follows the `e` of a number; `start` is the exponent that the digits before it gave. -/
def readExponent (negative : Bool) (significand : Nat) (start : Int) (bytes : Bytes) :
    Reading JsonNumber :=
  let (down, digits) :=
    match bytes with
    | 0x2B :: rest => (false, rest)
    | 0x2D :: rest => (true, rest)
    | rest => (false, rest)
  match digits with
  | [] => stop .endInValue []
  | b :: rest =>
    match digit? b with
    | none => stop .invalidNumber rest
    | some d =>
      match exponentDigits d rest with
      | (some e, rest) =>
        assemble negative significand (if down then start - e else start + e) rest
      | (none, rest) =>
        -- An exponent this large settles the value: too great to be held, or zero. The digits that
        -- are left do not matter for it, but they are part of the number.
        if significand ≠ 0 ∧ ¬ down then stop .numberOutOfRange rest
        else
          let (_, rest) := skipDigits 0 rest
          .ok (.double (.zero negative), rest)

/-- What follows the point of a number. -/
def readFraction (negative : Bool) (significand : Nat) (start : Int) (bytes : Bytes) :
    Reading JsonNumber :=
  let (significand, count, rest) := pushDigits 0 significand bytes
  let (dropped, rest) := skipDigits 0 rest
  if count + dropped = 0 then
    match rest with
    | [] => offence .endInValue []
    | rest => offence .invalidNumber rest
  else
    match rest with
    | 0x65 :: rest => readExponent negative significand (start - count) rest
    | 0x45 :: rest => readExponent negative significand (start - count) rest
    | rest => assemble negative significand (start - count) rest

/-- A number with neither point nor exponent whose digits all fit into the significand. -/
def wholeNumber (negative : Bool) (significand : Nat) : JsonNumber :=
  let n : Int := if negative then -(significand : Int) else significand
  -- `-0` is no integer, since the sign would be lost.
  if h : JsonInt n ∧ ¬ (negative ∧ significand = 0) then .int n h.1
  else .double (if negative then (Binary64.ofNat significand).neg else .ofNat significand)

/-- What follows the digits before the point; `dropped` of them no longer fitted. -/
def readNumberEnd (negative : Bool) (significand dropped : Nat) (bytes : Bytes) :
    Reading JsonNumber :=
  match bytes with
  | 0x2E :: rest => readFraction negative significand dropped rest
  | 0x65 :: rest => readExponent negative significand dropped rest
  | 0x45 :: rest => readExponent negative significand dropped rest
  | rest =>
    if dropped = 0 then .ok (wholeNumber negative significand, rest)
    else assemble negative significand dropped rest

/-- A number, after its minus sign if it has one. -/
def readNumber (negative : Bool) (bytes : Bytes) : Reading JsonNumber :=
  match bytes with
  | [] => stop .endInValue []
  | 0x30 :: rest =>
    match rest with
    | b :: _ =>
      if (digit? b).isSome then offence .invalidNumber rest else readNumberEnd negative 0 0 rest
    | [] => readNumberEnd negative 0 0 rest
  | b :: rest =>
    match digit? b with
    | none => stop .invalidNumber rest
    | some d =>
      let (significand, _, rest) := pushDigits 0 d rest
      let (dropped, rest) := skipDigits 0 rest
      readNumberEnd negative significand dropped rest

/-! ## Strings

A string is read byte by byte by a machine whose states are those of `StringState`. Nothing but
quotes, backslashes and control characters is looked at while it runs; that the bytes between them
are UTF-8 is checked when the string is complete. -/

/-- Where a string stands between two bytes. -/
inductive StringState
  /-- between characters -/
  | text
  /-- after a backslash -/
  | escape
  /-- in a code of four digits, `left` of which are to come; `value` is missing once a byte was no
  digit; `high` is the first surrogate of the pair that the code completes -/
  | code (high : Option Nat) (left : Nat) (value : Option Nat)
  /-- after a first surrogate -/
  | surrogate (high : Nat)
  /-- after a first surrogate and a backslash -/
  | surrogateEscape (high : Nat)
  deriving DecidableEq, Repr

/-- The byte that a letter after a backslash stands for. -/
def shortEscape? (b : UInt8) : Option UInt8 :=
  if b = 0x22 ∨ b = 0x5C ∨ b = 0x2F then some b
  else if b = 0x62 then some 0x08
  else if b = 0x66 then some 0x0C
  else if b = 0x6E then some 0x0A
  else if b = 0x72 then some 0x0D
  else if b = 0x74 then some 0x09
  else none

/-- The bytes of a code point in front of `content`, which is kept in reverse. -/
def pushCodePoint (content : Bytes) (n : Nat) : Bytes :=
  (String.utf8EncodeChar (Char.ofNat n)).reverse ++ content

/-- The state and the content after a complete code, or the fault that it is. -/
def finishCode (high : Option Nat) (value : Option Nat) (content : Bytes) :
    Except Fault (StringState × Bytes) :=
  match high, value with
  | _, none => .error .invalidEscape
  | none, some n =>
    if 0xDC00 ≤ n ∧ n ≤ 0xDFFF then .error .loneSurrogate
    else if 0xD800 ≤ n ∧ n ≤ 0xDBFF then .ok (.surrogate n, content)
    else .ok (.text, pushCodePoint content n)
  | some h, some n =>
    if 0xDC00 ≤ n ∧ n ≤ 0xDFFF then
      .ok (.text, pushCodePoint content (0x10000 + (h - 0xD800) * 0x400 + (n - 0xDC00)))
    else .error .loneSurrogate

/-- The bytes of a string up to its closing quote, escapes undone; `content` holds those read so
far in reverse. -/
def readContent : StringState → Bytes → Bytes → Reading Bytes
  | _, _, [] => stop .endInString []
  | .text, content, b :: rest =>
    if b = 0x22 then .ok (content.reverse, rest)
    else if b = 0x5C then readContent .escape content rest
    else if b < 0x20 then stop .controlCharacter rest
    else readContent .text (b :: content) rest
  | .escape, content, b :: rest =>
    if b = 0x75 then readContent (.code none 4 (some 0)) content rest
    else
      match shortEscape? b with
      | some c => readContent .text (c :: content) rest
      | none => stop .invalidEscape rest
  | .code high left value, content, b :: rest =>
    -- A byte that is no digit spoils the code, but the fault is only found at its fourth byte.
    let value := value.bind fun v => (Hex.value? b).map fun d => v * 16 + d
    if left ≤ 1 then
      match finishCode high value content with
      | .ok (state, content) => readContent state content rest
      | .error fault => stop fault rest
    else readContent (.code high (left - 1) value) content rest
  | .surrogate high, content, b :: rest =>
    if b = 0x5C then readContent (.surrogateEscape high) content rest
    else stop .unfinishedSurrogate rest
  | .surrogateEscape high, content, b :: rest =>
    if b = 0x75 then readContent (.code (some high) 4 (some 0)) content rest
    else stop .unfinishedSurrogate rest

/-- A string, after its opening quote. A string whose bytes are not UTF-8 is refused at the first
byte that is not, counted back from the closing quote. -/
def readString (bytes : Bytes) : Reading String :=
  (readContent .text [] bytes).andThen fun content rest =>
    match Utf8.decode? content with
    | some s => .ok (s, rest)
    -- The distance is one of bytes of the content, in which an escape counts as what it stands for.
    | none => .error ⟨.invalidCodePoint, rest.length + (content.length - Utf8.validLength content)⟩

/-! ## Lists and objects

Lists and objects are read by the same loop: find out whether another element begins, read it, and
go around. `readItems` and `readMembers` are given the reader of an element, which lets other
readers use them for elements of a kind of their own. -/

/-- Where the next item of a list begins, or nothing if the list ends, whose closing bracket is not
read. `first` says that no item came before. -/
def nextItem (first : Bool) (bytes : Bytes) : Reading Bool :=
  match skipBlank bytes with
  | [] => offence .endInList []
  | 0x5D :: rest => .ok (false, 0x5D :: rest)
  | b :: rest =>
    if first then .ok (true, b :: rest)
    else if b = 0x2C then
      match skipBlank rest with
      | [] => offence .endInValue []
      | 0x5D :: rest => offence .trailingComma (0x5D :: rest)
      | rest => .ok (true, rest)
    else offence .expectedListEnd (b :: rest)

/-- The items of a list after its opening bracket or after an item; `items` holds those read so far
in reverse. -/
def readItems {α : Type} (readItem : Bytes → Reading α) : Nat → List α → Bytes → Reading (List α)
  | 0, _, rest => stop .endInList rest
  | turns + 1, items, bytes =>
    match nextItem items.isEmpty bytes with
    | .error e => .error e
    | .ok (false, rest) => .ok (items.reverse, rest.drop 1)
    | .ok (true, rest) =>
      match readItem rest with
      | .error e => .error e
      | .ok (item, rest) => readItems readItem turns (item :: items) rest

/-- The colon after a name. -/
def readColon (bytes : Bytes) : Reading Unit :=
  match skipBlank bytes with
  | [] => offence .endInObject []
  | 0x3A :: rest => .ok ((), rest)
  | rest => offence .expectedColon rest

/-- Where the next member of an object begins, after the opening quote of its name, or nothing if
the object ends, whose closing brace is not read. `first` says that no member came before. -/
def nextName (first : Bool) (bytes : Bytes) : Reading Bool :=
  match skipBlank bytes with
  | [] => offence .endInObject []
  | 0x7D :: rest => .ok (false, 0x7D :: rest)
  | b :: rest =>
    if first then
      if b = 0x22 then .ok (true, rest) else offence .keyNotString (b :: rest)
    else if b = 0x2C then
      match skipBlank rest with
      | [] => offence .endInValue []
      | 0x22 :: rest => .ok (true, rest)
      | 0x7D :: rest => offence .trailingComma (0x7D :: rest)
      | rest => offence .keyNotString rest
    else offence .expectedObjectEnd (b :: rest)

/-- A member, after the opening quote of its name. -/
def readMember {α : Type} (readMemberValue : Bytes → Reading α) (bytes : Bytes) :
    Reading (String × α) :=
  (readString bytes).andThen fun name rest =>
    (readColon rest).andThen fun _ rest =>
      (readMemberValue rest).andThen fun value rest => .ok ((name, value), rest)

/-- The members of an object after its opening brace or after a member; `members` holds those read
so far in reverse. -/
def readMembers {α : Type} (readMember : Bytes → Reading α) :
    Nat → List α → Bytes → Reading (List α)
  | 0, _, rest => stop .endInObject rest
  | turns + 1, members, bytes =>
    match nextName members.isEmpty bytes with
    | .error e => .error e
    | .ok (false, rest) => .ok (members.reverse, rest.drop 1)
    | .ok (true, rest) =>
      match readMember rest with
      | .error e => .error e
      | .ok (member, rest) => readMembers readMember turns (member :: members) rest

/-! ## Values

The first byte of a value tells its kind. The depth is checked where a container begins, before
anything in it is read. -/

/-- A value. Arrays and objects may be nested `levels` deep, and their loops make at most `turns`
turns. -/
def readValue (turns : Nat) : Nat → Bytes → Reading Json
  | levels, bytes =>
    match skipBlank bytes with
    | [] => offence .endInValue []
    | b :: rest =>
      if b = 0x6E then word [0x75, 0x6C, 0x6C] null rest
      else if b = 0x74 then word [0x72, 0x75, 0x65] (bool true) rest
      else if b = 0x66 then word [0x61, 0x6C, 0x73, 0x65] (bool false) rest
      else if b = 0x2D then (readNumber true rest).andThen fun n rest => .ok (num n, rest)
      else if (digit? b).isSome then
        (readNumber false (b :: rest)).andThen fun n rest => .ok (num n, rest)
      else if b = 0x22 then (readString rest).andThen fun s rest => .ok (str s, rest)
      else if b = 0x5B then
        match levels with
        | 0 => offence .tooDeep (b :: rest)
        | levels + 1 =>
          (readItems (readValue turns levels) turns [] rest).andThen fun items rest =>
            .ok (arr items, rest)
      else if b = 0x7B then
        match levels with
        | 0 => offence .tooDeep (b :: rest)
        | levels + 1 =>
          (readMembers (readMember (readValue turns levels)) turns [] rest).andThen
            fun members rest => .ok (object members, rest)
      else offence .expectedValue (b :: rest)
where
  word (letters : Bytes) (value : Json) (rest : Bytes) : Reading Json :=
    (readWord letters rest).andThen fun _ rest => .ok (value, rest)

/-- How deeply the arrays and objects of a document may be nested. -/
def maxDepth : Nat := 127

/-- A reader run over a whole text, which it must leave empty but for blanks. -/
def readAll {α : Type} (reader : Bytes → Reading α) (input : Bytes) : Except LocatedFault α :=
  match reader input with
  | .error failure => .error (failure.locate input)
  | .ok (value, rest) =>
    match skipBlank rest with
    | [] => .ok value
    | _ :: after => .error ((Failure.mk .trailingCharacters after.length).locate input)

/-- The value that a text denotes. -/
def read (input : Bytes) : Except LocatedFault Json :=
  readAll (readValue (input.length + 1) maxDepth) input

end ActionGateway.Json
