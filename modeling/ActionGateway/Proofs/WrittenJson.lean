import ActionGateway.Json.Skipping
import ActionGateway.Proofs.JsonReading

/-!
# JSON as it is written

A value can be written in many ways: with blanks between its tokens, with its characters escaped or
not, with its numbers in any form and its members in any order. A `Json.Written` is a value together
with the way in which it is written, and `Json.Written.bytes` is what then stands in the text. Each
token carries the proof that it is well-formed, so that no other text can be built.

What a string is written with are its **strokes**. Not all of them stand for a text: an escape may
stand for half a surrogate pair, and where a half stands alone there is no character
(`Json.chars?`). A reader takes a string for the text that its strokes stand for, and refuses it if
there is none (`Json.gives_readString`). What the printer writes is written in one of these ways too
(`Json.exists_strokes`).

The statements about readers have one form: on what is written, with anything after it, a reader
gives a value and leaves the rest (`Json.Reading.Gives`). What the value is, or that there is none,
is computed from the way in which it is written, so each of them covers both outcomes.
-/

namespace ActionGateway

namespace Json

open Utf8 (encode)

/-! ## Blanks

Blanks may stand before and after every token, and a reader skips them. They carry the proof that
they are blank, so that nothing has to be asked of them where they are used. -/

/-- Blanks between two tokens. -/
structure Blanks where
  bytes : Bytes
  isBlank : ∀ b ∈ bytes, Json.isBlank b = true

namespace Blanks

/-- No blank at all. -/
def none : Blanks :=
  ⟨[], fun _ h => nomatch h⟩

@[simp] theorem bytes_none : none.bytes = [] :=
  rfl

end Blanks

/-- Blanks are skipped, and those that follow as well. -/
theorem skipBlank_blanks (blanks : Blanks) (rest : Bytes) :
    skipBlank (blanks.bytes ++ rest) = skipBlank rest := by
  rw [skipBlank, List.dropWhile_append_of_pos blanks.isBlank, skipBlank]

/-- They are skipped up to the next token. -/
theorem skipBlank_blanks_cons {b : UInt8} (hb : isBlank b = false) (blanks : Blanks)
    (rest : Bytes) : skipBlank (blanks.bytes ++ b :: rest) = b :: rest := by
  rw [skipBlank_blanks, skipBlank_cons hb]

/-! ## Strings

A stroke is a character as it stands, a letter after a backslash, or a code of four digits. Two
codes may be needed for one character, so what a list of strokes stands for is not told stroke by
stroke: a first half takes the code after it along. -/

/-- A hexadecimal digit. -/
structure HexDigit where
  byte : UInt8
  value : Nat
  value_eq : Hex.value? byte = some value

/-- A code of four hexadecimal digits. -/
structure Code where
  first : HexDigit
  second : HexDigit
  third : HexDigit
  fourth : HexDigit

namespace Code

def bytes (code : Code) : Bytes :=
  [code.first.byte, code.second.byte, code.third.byte, code.fourth.byte]

def value (code : Code) : Nat :=
  ((code.first.value * 16 + code.second.value) * 16 + code.third.value) * 16 + code.fourth.value

/-- The code is the first half of a surrogate pair. -/
def IsHigh (code : Code) : Prop :=
  0xD800 ≤ code.value ∧ code.value ≤ 0xDBFF

/-- The code is the second half of a surrogate pair. -/
def IsLow (code : Code) : Prop :=
  0xDC00 ≤ code.value ∧ code.value ≤ 0xDFFF

instance (code : Code) : Decidable code.IsHigh :=
  inferInstanceAs (Decidable (_ ∧ _))

instance (code : Code) : Decidable code.IsLow :=
  inferInstanceAs (Decidable (_ ∧ _))

/-- The character of a code that is no half of a pair. -/
def char (code : Code) : Char :=
  Char.ofNat code.value

/-- The character of a surrogate pair. -/
def pairChar (high low : Code) : Char :=
  Char.ofNat (0x10000 + (high.value - 0xD800) * 0x400 + (low.value - 0xDC00))

end Code

/-- The letters that stand for a character after a backslash. -/
def shorthands : List (UInt8 × Char) :=
  [(0x22, '\x22'), (0x5C, '\\'), (0x2F, '/'), (0x62, '\x08'), (0x66, '\x0c'), (0x6E, '\n'),
   (0x72, '\r'), (0x74, '\t')]

/-- What a string is written with. -/
inductive Stroke
  /-- a character that stands for itself -/
  | plain (c : Char) (h : c ≠ '\x22' ∧ c ≠ '\\' ∧ ¬ c.toNat < 0x20)
  /-- a letter after a backslash -/
  | short (letter : UInt8) (c : Char) (h : (letter, c) ∈ shorthands)
  /-- a code after a backslash and a `u` -/
  | code (u : Code)

namespace Stroke

def bytes : Stroke → Bytes
  | plain c _ => String.utf8EncodeChar c
  | short letter _ _ => [0x5C, letter]
  | code u => 0x5C :: 0x75 :: u.bytes

end Stroke

/-- The characters that strokes stand for, unless half a surrogate pair stands alone. -/
def chars? : List Stroke → Option (List Char)
  | [] => some []
  | .plain c _ :: rest => (chars? rest).map (c :: ·)
  | .short _ c _ :: rest => (chars? rest).map (c :: ·)
  | .code u :: rest =>
    if u.IsLow then none
    else if u.IsHigh then
      match rest with
      | .code low :: rest => if low.IsLow then (chars? rest).map (u.pairChar low :: ·) else none
      | _ => none
    else (chars? rest).map (u.char :: ·)

/-- A code that is no half of a pair stands for its own character. -/
theorem chars?_code {u : Code} (hlow : ¬ u.IsLow) (hhigh : ¬ u.IsHigh) (strokes : List Stroke) :
    chars? (.code u :: strokes) = (chars? strokes).map (u.char :: ·) := by
  rw [chars?.eq_def]
  exact (if_neg hlow).trans (if_neg hhigh)

/-- The text that strokes stand for. -/
def text? (strokes : List Stroke) : Option String :=
  (chars? strokes).map String.ofList

/-- What a string leaves in a text after its opening quote. -/
def stringTail (strokes : List Stroke) : Bytes :=
  strokes.flatMap Stroke.bytes ++ [0x22]

/-! ## Numbers

A number is written with a sign, a whole part, a fraction and an exponent, of which all but the
whole part may be missing. What number it denotes is not needed here: it is passed over, or refused
where a text is asked for. -/

/-- One digit at least. -/
structure Digits where
  bytes : Bytes
  ne_nil : bytes ≠ []
  isDigit : ∀ b ∈ bytes, (digit? b).isSome = true

/-- The exponent of a number. -/
structure Exponent where
  capital : Bool
  /-- whether it is preceded by a sign, and whether that is a minus -/
  sign : Option Bool
  digits : Digits

def Exponent.bytes (exponent : Exponent) : Bytes :=
  (if exponent.capital then 0x45 else 0x65) ::
    (exponent.sign.elim [] (fun minus => [if minus then 0x2D else 0x2B]) ++ exponent.digits.bytes)

/-- A number as it is written. -/
structure Numeral where
  minus : Bool
  whole : Digits
  /-- only a lone zero begins with one -/
  whole_eq_or : whole.bytes = [0x30] ∨ whole.bytes.head? ≠ some 0x30
  fraction : Option Digits
  exponent : Option Exponent

namespace Numeral

/-- What follows the whole part. -/
def tail (n : Numeral) : Bytes :=
  n.fraction.elim [] (fun digits => 0x2E :: digits.bytes) ++ n.exponent.elim [] Exponent.bytes

def bytes (n : Numeral) : Bytes :=
  (if n.minus then [0x2D] else []) ++ (n.whole.bytes ++ n.tail)

end Numeral

/-! ## Values

Items and members have blanks of their own, and their values are written in the same way, to any
depth. The functions on them recurse over values, lists of items and lists of members together. -/

/-- An item of a list, with the blanks around it. -/
structure Item (α : Type) where
  before : Blanks
  value : α
  after : Blanks

/-- A member of an object, with the blanks around its name and its value. -/
structure Member (α : Type) where
  before : Blanks
  name : List Stroke
  afterName : Blanks
  beforeValue : Blanks
  value : α
  after : Blanks

/-- A value as it is written. -/
inductive Written
  | null
  | bool (value : Bool)
  | number (numeral : Numeral)
  | string (strokes : List Stroke)
  | list (items : List (Item Written)) (close : Blanks)
  | object (members : List (Member Written)) (close : Blanks)

namespace Written

mutual

/-- What stands in the text. -/
def bytes : Written → Bytes
  | null => [0x6E, 0x75, 0x6C, 0x6C]
  | bool true => [0x74, 0x72, 0x75, 0x65]
  | bool false => [0x66, 0x61, 0x6C, 0x73, 0x65]
  | number numeral => numeral.bytes
  | string strokes => 0x22 :: stringTail strokes
  | list items close => 0x5B :: (itemsBytes true items ++ (close.bytes ++ [0x5D]))
  | object members close => 0x7B :: (membersBytes true members ++ (close.bytes ++ [0x7D]))

/-- What items leave in a text, with a comma before each but the first. -/
def itemsBytes (first : Bool) : List (Item Written) → Bytes
  | [] => []
  | ⟨before, value, after⟩ :: rest =>
    separator first ++ (before.bytes ++ (bytes value ++ (after.bytes ++ itemsBytes false rest)))

/-- What members leave in a text, with a comma before each but the first. -/
def membersBytes (first : Bool) : List (Member Written) → Bytes
  | [] => []
  | ⟨before, name, afterName, beforeValue, value, after⟩ :: rest =>
    separator first ++ (before.bytes ++ 0x22 :: (stringTail name ++ (afterName.bytes ++ 0x3A ::
      (beforeValue.bytes ++ (bytes value ++ (after.bytes ++ membersBytes false rest))))))

end

/-- The text of a value that is one. -/
def text? : Written → Option String
  | string strokes => Json.text? strokes
  | _ => none

/-- The texts of a value that is a list of texts. -/
def texts? : Written → Option (List String)
  | list items _ => items.mapM fun item => item.value.text?
  | _ => none

/-- The value is what a text holds, but for blanks at its ends. -/
def IsWrittenAs (value : Written) (text : String) : Prop :=
  ∃ before after : Blanks, encode text = before.bytes ++ (value.bytes ++ after.bytes)

end Written

/-- The values of the members of a name, in whatever way the name is written. -/
def valuesOf (name : String) (members : List (Member Written)) : List Written :=
  members.filterMap fun member =>
    if Json.text? member.name = some name then some member.value else none

/-- The first member comes first. -/
theorem valuesOf_cons (name : String) (member : Member Written) (members : List (Member Written)) :
    valuesOf name (member :: members) = valuesOf name [member] ++ valuesOf name members := by
  rw [valuesOf, valuesOf, valuesOf, ← List.filterMap_append, List.singleton_append]

/-- A single member has its value under its own name. -/
theorem map_valuesOf_singleton {α : Type} {member : Member Written} {name : String}
    (hname : Json.text? member.name = some name) (read : Written → α) (field : String) :
    (valuesOf field [member]).map read = if name = field then [read member.value] else [] := by
  by_cases h : name = field <;> simp [valuesOf, hname, h]

/-- What begins a list. -/
theorem skipBlank_list (before close : Blanks) (items : List (Item Written)) (rest : Bytes) :
    skipBlank (before.bytes ++ ((Written.list items close).bytes ++ rest)) =
      0x5B :: (Written.itemsBytes true items ++ (close.bytes ++ 0x5D :: rest)) := by
  rw [Written.bytes, List.cons_append, skipBlank_blanks_cons (by decide), List.append_assoc,
    List.append_assoc, List.singleton_append]

/-- What begins an object. -/
theorem skipBlank_object (before close : Blanks) (members : List (Member Written)) (rest : Bytes) :
    skipBlank (before.bytes ++ ((Written.object members close).bytes ++ rest)) =
      0x7B :: (Written.membersBytes true members ++ (close.bytes ++ 0x7D :: rest)) := by
  rw [Written.bytes, List.cons_append, skipBlank_blanks_cons (by decide), List.append_assoc,
    List.append_assoc, List.singleton_append]

/-! ## Readers -/

/-- A reader gives a value and leaves the rest, or refuses if there is no value. -/
def Reading.Gives {α : Type} (reading : Reading α) (value? : Option α) (rest : Bytes) : Prop :=
  match value? with
  | some value => reading = .ok (value, rest)
  | none => ∃ failure, reading = .error failure

namespace Reading.Gives

variable {α β : Type} {rest after : Bytes}

/-- A value that is there, and what follows it. -/
theorem ok (value : α) (rest : Bytes) : Gives (.ok (value, rest)) (some value) rest :=
  rfl

/-- A fault, whatever it is. -/
theorem error (failure : Failure) (rest : Bytes) :
    Gives (.error failure : Reading α) none rest :=
  ⟨failure, rfl⟩

/-- Readers that do the same give the same. -/
theorem of_eq {reading reading' : Reading α} {value? : Option α} (h : reading = reading')
    (hgives : reading'.Gives value? rest) : reading.Gives value? rest :=
  h ▸ hgives

/-- A reader that goes on where another one left off. -/
theorem andThen {first : Reading α} {next : α → Bytes → Reading β} {value? : Option α}
    {next? : α → Option β} (hfirst : first.Gives value? rest)
    (hnext : ∀ value, value? = some value → (next value rest).Gives (next? value) after) :
    (first.andThen next).Gives (value?.bind next?) after := by
  rcases value? with _ | value
  · obtain ⟨failure, rfl⟩ := hfirst
    exact error failure after
  · obtain rfl : first = .ok (value, rest) := hfirst
    exact hnext value rfl

/-- A reader whose result something is made of. -/
theorem map {reading : Reading α} {value? : Option α} (h : reading.Gives value? rest) (f : α → β) :
    (reading.andThen fun value rest => .ok (f value, rest)).Gives (value?.map f) rest := by
  rcases value? with _ | value
  · obtain ⟨failure, rfl⟩ := h
    exact error failure rest
  · obtain rfl : reading = .ok (value, rest) := h
    exact ok (f value) rest

end Reading.Gives

/-! ## Reading strings

The reader keeps the content in reverse, and a state that says what may come next: text, an escape,
the digits of a code, or the second half of a pair. The lemmas follow one stroke each; the theorem
goes by the cases in which `Json.chars?` takes the strokes. -/

section

variable {content rest : Bytes}

/-- The bytes of a code after its backslash and its `u`. -/
theorem readContent_digits {high : Option Nat} {u : Code} {state : StringState} {taken : Bytes}
    (h : finishCode high (some u.value) content = .ok (state, taken)) (bytes : Bytes) :
    readContent (.code high 4 (some 0)) content (u.bytes ++ bytes) =
      readContent state taken bytes := by
  rw [Code.value] at h
  simp [Code.bytes, readContent, u.first.value_eq, u.second.value_eq, u.third.value_eq,
    u.fourth.value_eq, h]

/-- A code that cannot stand where it is ends the reading. -/
theorem gives_readContent_digits_of_error {high : Option Nat} {u : Code} {fault : Fault}
    (h : finishCode high (some u.value) content = .error fault) (bytes : Bytes) :
    (readContent (.code high 4 (some 0)) content (u.bytes ++ bytes)).Gives none rest := by
  rw [Code.value] at h
  simp [Code.bytes, readContent, u.first.value_eq, u.second.value_eq, u.third.value_eq,
    u.fourth.value_eq, h, Reading.Gives, stop]

/-- No code is both halves. -/
theorem not_isHigh_of_isLow {u : Code} (h : u.IsLow) : ¬ u.IsHigh := fun hhigh => by
  have := h.1
  have := hhigh.2
  omega

/-- A letter after a backslash is read as its character. -/
theorem readContent_short {letter : UInt8} {c : Char} (h : (letter, c) ∈ shorthands)
    (bytes : Bytes) :
    readContent .text content (0x5C :: letter :: bytes) =
      readContent .text ((String.utf8EncodeChar c).reverse ++ content) bytes := by
  simp only [shorthands, List.mem_cons, Prod.mk.injEq, List.not_mem_nil, or_false] at h
  rcases h with ⟨rfl, rfl⟩ | ⟨rfl, rfl⟩ | ⟨rfl, rfl⟩ | ⟨rfl, rfl⟩ | ⟨rfl, rfl⟩ | ⟨rfl, rfl⟩ |
    ⟨rfl, rfl⟩ | ⟨rfl, rfl⟩ <;> rfl

/-- After the first half of a pair nothing but another code goes on. -/
theorem gives_readContent_surrogate {strokes : List Stroke}
    (h : ∀ low after, strokes = .code low :: after → False) (high : Nat) :
    (readContent (.surrogate high) content
      (strokes.flatMap Stroke.bytes ++ 0x22 :: rest)).Gives none rest := by
  have hrefused {b : UInt8} (hb : b ≠ 0x5C) (bytes : Bytes) :
      (readContent (.surrogate high) content (b :: bytes)).Gives none rest := by
    rw [readContent, if_neg hb]
    exact .error _ rest
  cases strokes with
  | nil => exact hrefused (by decide) rest
  | cons stroke after =>
    rw [List.flatMap_cons]
    cases stroke with
    | code low => exact (h low after rfl).elim
    | short letter c hletter =>
      have hne : letter ≠ 0x75 := by
        rintro rfl
        revert hletter
        simp [shorthands]
      simp only [Stroke.bytes, List.cons_append, readContent, if_neg hne]
      exact .error _ rest
    | plain c hc =>
      rcases hbytes : String.utf8EncodeChar c with _ | ⟨b, bytes⟩
      · exact absurd hbytes (String.utf8EncodeChar_ne_nil)
      · have hb := plain_of_mem_encodeChar hc.1 hc.2.1 hc.2.2 (hbytes ▸ List.mem_cons_self)
        rw [Stroke.bytes, hbytes]
        exact hrefused hb.2.1 _

/-- The second half of a surrogate pair does not stand alone. -/
theorem finishCode_of_isLow {u : Code} (h : u.IsLow) :
    finishCode none (some u.value) content = .error .loneSurrogate :=
  if_pos h

/-- The first half of a surrogate pair waits for the second. -/
theorem finishCode_of_isHigh {u : Code} (h : u.IsHigh) :
    finishCode none (some u.value) content = .ok (.surrogate u.value, content) :=
  (if_neg fun hlow => not_isHigh_of_isLow hlow h).trans (if_pos h)

/-- A code that is no half of a pair stands for a character. -/
theorem finishCode_char {u : Code} (hlow : ¬ u.IsLow) (hhigh : ¬ u.IsHigh) :
    finishCode none (some u.value) content =
      .ok (.text, (String.utf8EncodeChar u.char).reverse ++ content) :=
  (if_neg hlow).trans (if_neg hhigh)

/-- The second half after the first stands for the character of the pair. -/
theorem finishCode_pair (high : Code) {low : Code} (h : low.IsLow) :
    finishCode (some high.value) (some low.value) content =
      .ok (.text, (String.utf8EncodeChar (high.pairChar low)).reverse ++ content) :=
  if_pos h

/-- The first half of a surrogate pair goes on with the second. -/
theorem finishCode_of_not_isLow (high : Nat) {low : Code} (h : ¬ low.IsLow) :
    finishCode (some high) (some low.value) content = .error .loneSurrogate :=
  if_neg h

/-- **The content of a string is that of the characters that its strokes stand for.** -/
theorem gives_readContent (strokes : List Stroke) (content rest : Bytes) :
    (readContent .text content (strokes.flatMap Stroke.bytes ++ 0x22 :: rest)).Gives
      ((chars? strokes).map fun chars =>
        content.reverse ++ chars.flatMap String.utf8EncodeChar) rest := by
  -- what a character leaves behind is the content that the strokes after it go on with
  have hnext {bytes : Bytes} {c : Char} {after : List Stroke} {content : Bytes}
      (hread : readContent .text content bytes =
        readContent .text ((String.utf8EncodeChar c).reverse ++ content)
          (after.flatMap Stroke.bytes ++ 0x22 :: rest))
      (ih : ∀ content, (readContent .text content
          (after.flatMap Stroke.bytes ++ 0x22 :: rest)).Gives
        ((chars? after).map fun chars =>
          content.reverse ++ chars.flatMap String.utf8EncodeChar) rest) :
      (readContent .text content bytes).Gives
        (((chars? after).map (c :: ·)).map fun chars =>
          content.reverse ++ chars.flatMap String.utf8EncodeChar) rest := by
    have h := ih ((String.utf8EncodeChar c).reverse ++ content)
    simp only [List.reverse_append, List.reverse_reverse, List.append_assoc,
      ← List.flatMap_cons] at h
    rwa [hread, Option.map_map]
  -- the cases are those in which strokes stand for characters: none is left; a plain character; a
  -- letter; a lone second half; a pair; a first half before another code; a first half before
  -- something else; any other code
  fun_induction chars? strokes generalizing content with
  | case1 =>
    rw [List.flatMap_nil, Option.map_some, List.flatMap_nil, List.append_nil]
    exact .ok _ rest
  | case2 c hc after ih =>
    refine hnext ?_ ih
    rw [List.flatMap_cons, List.append_assoc]
    exact readContent_of_plain fun b => plain_of_mem_encodeChar hc.1 hc.2.1 hc.2.2
  | case3 letter c hletter after ih => exact hnext (readContent_short hletter _) ih
  | case4 u after hlow =>
    exact gives_readContent_digits_of_error (finishCode_of_isLow hlow) _
  | case5 high hlow hhigh low after hpair ih =>
    exact hnext ((readContent_digits (finishCode_of_isHigh hhigh) _).trans
      (readContent_digits (finishCode_pair high hpair) _)) ih
  | case6 high hlow hhigh low after hpair =>
    exact .of_eq (readContent_digits (finishCode_of_isHigh hhigh) _)
      (gives_readContent_digits_of_error (finishCode_of_not_isLow _ hpair) _)
  | case7 high after hlow hhigh hafter =>
    exact .of_eq (readContent_digits (finishCode_of_isHigh hhigh) _)
      (gives_readContent_surrogate hafter _)
  | case8 u after hlow hhigh ih =>
    exact hnext (readContent_digits (finishCode_char hlow hhigh) _) ih

/-- **A string is read as the text that its strokes stand for**, and refused if there is none: a
code for half a surrogate pair stands for nothing without the other half. -/
theorem gives_readString (strokes : List Stroke) (rest : Bytes) :
    (readString (stringTail strokes ++ rest)).Gives (text? strokes) rest := by
  have hcontent := gives_readContent strokes [] rest
  rw [readString, stringTail, List.append_assoc, List.singleton_append, text?]
  rcases hchars : chars? strokes with _ | chars <;> rw [hchars] at hcontent
  · obtain ⟨failure, hfailure⟩ := hcontent
    exact .of_eq (congrArg (Reading.andThen · _) hfailure) (.error failure rest)
  · have hread : readContent .text [] (strokes.flatMap Stroke.bytes ++ 0x22 :: rest) =
        .ok (chars.flatMap String.utf8EncodeChar, rest) := hcontent
    rw [hread, ← Utf8.encode_ofList]
    simp only [Reading.andThen, Utf8.decode?_encode]
    exact .ok (String.ofList chars) rest

end

/-! ## Strings that are written out

The printer has one way of writing for each character. Each is a stroke, so what it writes for a
text is read like any other string. -/

/-- A character is written out as a stroke that stands for it. -/
theorem exists_stroke (c : Char) :
    ∃ stroke : Stroke, stroke.bytes = (escaped c).flatMap String.utf8EncodeChar ∧
      ∀ strokes, chars? (stroke :: strokes) = (chars? strokes).map (c :: ·) := by
  have hshort (letter : UInt8) (h : (letter, c) ∈ shorthands) :
      ∃ stroke : Stroke, stroke.bytes = [0x5C, letter] ∧
        ∀ strokes, chars? (stroke :: strokes) = (chars? strokes).map (c :: ·) :=
    ⟨.short letter c h, rfl, fun _ => rfl⟩
  rw [escaped]
  split
  next h => subst h; exact hshort 0x22 (by decide)
  next hquote =>
  split
  next h => subst h; exact hshort 0x5C (by decide)
  next hbackslash =>
  split
  next h => subst h; exact hshort 0x62 (by decide)
  split
  next h => subst h; exact hshort 0x74 (by decide)
  split
  next h => subst h; exact hshort 0x6E (by decide)
  split
  next h => subst h; exact hshort 0x66 (by decide)
  split
  next h => subst h; exact hshort 0x72 (by decide)
  split
  next hcontrol =>
    obtain ⟨high, hhigh, hhighValue⟩ := value?_lower (c.toNat / 16) (by omega)
    obtain ⟨low, hlow, hlowValue⟩ := value?_lower (c.toNat % 16) (by omega)
    let u : Code := ⟨⟨0x30, 0, rfl⟩, ⟨0x30, 0, rfl⟩, ⟨high, _, hhighValue⟩, ⟨low, _, hlowValue⟩⟩
    have hvalue : u.value = c.toNat := by
      simp only [Code.value, u]
      omega
    have hchar : u.char = c := by rw [Code.char, hvalue, Char.ofNat_toNat]
    have hnotLow : ¬ u.IsLow := by rw [Code.IsLow, hvalue]; omega
    have hnotHigh : ¬ u.IsHigh := by rw [Code.IsHigh, hvalue]; omega
    refine ⟨.code u, ?_, fun strokes => ?_⟩
    · simp only [List.flatMap_cons, hhigh, hlow]
      rfl
    · rw [chars?_code hnotLow hnotHigh, hchar]
  next hcontrol =>
    exact ⟨.plain c ⟨hquote, hbackslash, hcontrol⟩, (List.append_nil _).symm, fun _ => rfl⟩

/-- **A text is written out as strokes that stand for it.** So what is known of all written strings
is known of those that the printer writes. -/
theorem exists_strokes (s : String) :
    ∃ strokes, stringTail strokes = quotedTail s ∧ text? strokes = some s := by
  have hchars (chars : List Char) : ∃ strokes : List Stroke,
      strokes.flatMap Stroke.bytes = (chars.flatMap escaped).flatMap String.utf8EncodeChar ∧
        chars? strokes = some chars := by
    induction chars with
    | nil => exact ⟨[], rfl, rfl⟩
    | cons c chars ih =>
      obtain ⟨strokes, hbytes, hstrokes⟩ := ih
      obtain ⟨stroke, hstroke, hcons⟩ := exists_stroke c
      refine ⟨stroke :: strokes, ?_, ?_⟩
      · rw [List.flatMap_cons, List.flatMap_cons, List.flatMap_append, hstroke, hbytes]
      · rw [hcons, hstrokes, Option.map_some]
  obtain ⟨strokes, hbytes, hstrokes⟩ := hchars s.toList
  exact ⟨strokes, by rw [stringTail, hbytes, quotedTail],
    by rw [text?, hstrokes, Option.map_some, String.ofList_toList]⟩

/-- Texts are written out as items that stand for them. -/
theorem exists_items (texts : List String) (first : Bool) :
    ∃ items, Written.itemsBytes first items = encode (writeItems "" first (texts.map str)) ∧
      (items.mapM fun item => item.value.text?) = some texts := by
  induction texts generalizing first with
  | nil => exact ⟨[], by cases first <;> rfl, rfl⟩
  | cons s texts ih =>
    obtain ⟨items, hbytes, hitems⟩ := ih false
    obtain ⟨strokes, hstrokes, hs⟩ := exists_strokes s
    refine ⟨⟨.none, .string strokes, .none⟩ :: items, ?_, ?_⟩
    · rw [List.map_cons, encode_writeItems_cons, encode_text_str, ← hstrokes, ← hbytes]
      rfl
    · rw [List.mapM_cons, hitems]
      simp [Written.text?, hs]

end Json

end ActionGateway
