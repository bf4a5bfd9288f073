import ActionGateway.Json.Reader
import ActionGateway.Proofs.JsonSorting
import ActionGateway.Proofs.JsonText
import ActionGateway.Proofs.Numeral

/-!
# Values come back from their texts

The reader undoes the printer. A text is read from its front, so each statement about a reader
speaks of a text with **anything** after it, and says that just this is left: for strings
`Json.readString_quoted`, for numbers `Json.readNumber_toDigits`, for lists and objects
`Json.readItems_text` and `Json.readMembers_text`, for which it does not matter how their parts are
read. Only for a number it matters what follows, since it must not go on (`Json.EndsNumber`).

The main result is `Json.read_text_eq_sorted`: the text of a value whose numbers are integers and
which is not nested too deeply denotes the value in order, whatever order its members were written
in. So an orderly value is what its text denotes (`Json.read_text`).

Turns and levels are what bounds the reader: it takes no more turns than one for each byte and one
more, and goes down no further than a depth that is fixed. A text takes a byte at least in every
turn, and its depth is that of the value, so neither bound is met.
-/

namespace ActionGateway

namespace Json

open Utf8 (encode)

/-! ## Strings

The reader takes the content of a string byte by byte and keeps what it has read in reverse. A
character is read as its own bytes, whether they stand there or an escape does, so the content of a
quoted string comes out as the encoding of the string, which is decoded at the end. -/

/-- Bytes that stand for themselves are read as they are. -/
theorem readContent_of_plain {bytes content rest : Bytes}
    (h : ∀ b ∈ bytes, b ≠ 0x22 ∧ b ≠ 0x5C ∧ ¬ b < 0x20) :
    readContent .text content (bytes ++ rest) =
      readContent .text (bytes.reverse ++ content) rest := by
  -- the induction is on the bytes still to be read; the content so far grows
  induction bytes generalizing content with
  | nil => rfl
  | cons b bytes ih =>
    obtain ⟨hquote, hbackslash, hcontrol⟩ := h b List.mem_cons_self
    rw [List.cons_append, readContent, if_neg hquote, if_neg hbackslash, if_neg hcontrol,
      ih fun b hb => h b (List.mem_cons_of_mem _ hb), List.reverse_cons, List.append_assoc]
    rfl

/-- A character that need not be escaped stands for itself. -/
theorem plain_of_mem_encodeChar {c : Char} (hquote : c ≠ '\x22') (hbackslash : c ≠ '\\')
    (hcontrol : ¬ c.toNat < 0x20) {b : UInt8} (hb : b ∈ String.utf8EncodeChar c) :
    b ≠ 0x22 ∧ b ≠ 0x5C ∧ ¬ b < 0x20 := by
  have hascii (h : b.toNat < 128) : c.toNat = b.toNat := Utf8.toNat_of_mem_encodeChar hb h
  refine ⟨?_, ?_, fun hlt => ?_⟩
  · rintro rfl
    exact hquote (Char.toNat_inj.mp (hascii (by decide)))
  · rintro rfl
    exact hbackslash (Char.toNat_inj.mp (hascii (by decide)))
  · have hbyte : b.toNat < 0x20 := UInt8.lt_iff_toNat_lt.mp hlt
    rw [hascii (by omega)] at hcontrol
    exact hcontrol hbyte

/-- Each hexadecimal digit is one byte, and is read as its value. -/
theorem value?_lower : ∀ n < 16, ∃ b, String.utf8EncodeChar (Hex.lower n) = [b] ∧
    Hex.value? b = some n := by
  intro n hn
  have hlt : (Hex.lower n).toNat < 128 := by
    revert n
    decide
  refine ⟨_, Utf8.encodeChar_of_lt hlt, ?_⟩
  revert n
  decide

/-- A code below the surrogates is that of a character. -/
theorem finishCode_of_lt {n : Nat} (h : n < 0xD800) (content : Bytes) :
    finishCode none (some n) content = .ok (.text, pushCodePoint content n) := by
  simp only [finishCode]
  rw [if_neg (by omega), if_neg (by omega)]

/-- A control character may stand as a code of four digits, the first two of which are zero. -/
theorem readContent_code {c : Char} {high low : UInt8}
    (hhigh : Hex.value? high = some (c.toNat / 16)) (hlow : Hex.value? low = some (c.toNat % 16))
    (hcontrol : c.toNat < 0x20) (content rest : Bytes) :
    readContent .text content ([0x5C, 0x75, 0x30, 0x30, high, low] ++ rest) =
      readContent .text ((String.utf8EncodeChar c).reverse ++ content) rest := by
  have hzero : Hex.value? 0x30 = some 0 := by decide
  have hvalue : c.toNat / 16 * 16 + c.toNat % 16 = c.toNat := Nat.div_add_mod' _ _
  have hfinish : finishCode none (some (c.toNat / 16 * 16 + c.toNat % 16)) content =
      .ok (.text, (String.utf8EncodeChar c).reverse ++ content) := by
    rw [hvalue, finishCode_of_lt (Nat.lt_trans hcontrol (by decide)), pushCodePoint,
      show Char.ofNat c.toNat = c from Char.ofNat_toNat c]
  simp [readContent, hzero, hhigh, hlow, hfinish]

/-- **A character is read as itself**, escaped or not. Its bytes are added to the content in
reverse, which is how the reader keeps them. -/
theorem readContent_escaped (c : Char) (content rest : Bytes) :
    readContent .text content ((escaped c).flatMap String.utf8EncodeChar ++ rest) =
      readContent .text ((String.utf8EncodeChar c).reverse ++ content) rest := by
  rw [escaped]
  -- the short escapes are fixed bytes, on which the reader runs; the last two cases are not
  split
  next h => subst h; rfl
  next hquote =>
  split
  next h => subst h; rfl
  next hbackslash =>
  split
  next h => subst h; rfl
  split
  next h => subst h; rfl
  split
  next h => subst h; rfl
  split
  next h => subst h; rfl
  split
  next h => subst h; rfl
  split
  next hcontrol =>
    obtain ⟨high, hhigh, hhighValue⟩ := value?_lower (c.toNat / 16) (by omega)
    obtain ⟨low, hlow, hlowValue⟩ := value?_lower (c.toNat % 16) (by omega)
    have hbytes : ['\\', 'u', '0', '0', Hex.lower (c.toNat / 16), Hex.lower (c.toNat % 16)].flatMap
        String.utf8EncodeChar = [0x5C, 0x75, 0x30, 0x30, high, low] := by
      simp only [List.flatMap_cons, hhigh, hlow]
      rfl
    rw [hbytes]
    exact readContent_code hhighValue hlowValue hcontrol content rest
  next hcontrol =>
    rw [List.flatMap_cons, List.flatMap_nil, List.append_nil]
    exact readContent_of_plain fun b => plain_of_mem_encodeChar hquote hbackslash hcontrol

/-- The bytes of a string after its opening quote. -/
def quotedTail (s : String) : Bytes :=
  (s.toList.flatMap escaped).flatMap String.utf8EncodeChar ++ [0x22]

theorem encode_quotedText (s : String) : encode (quotedText s) = 0x22 :: quotedTail s := by
  have hquote : encode "\x22" = [0x22] := by decide
  rw [quotedText, Utf8.encode_append, Utf8.encode_append, hquote, Utf8.encode_ofList]
  rfl

/-- **A string is read as what stands in its quotes.** -/
theorem readString_quoted (s : String) (rest : Bytes) :
    readString (quotedTail s ++ rest) = .ok (s, rest) := by
  -- the induction is on the characters, for any content so far
  have hcontent : ∀ (chars : List Char) (content : Bytes),
      readContent .text content
          ((chars.flatMap escaped).flatMap String.utf8EncodeChar ++ 0x22 :: rest) =
        .ok (content.reverse ++ chars.flatMap String.utf8EncodeChar, rest) := by
    intro chars
    induction chars with
    | nil =>
      intro content
      rw [List.flatMap_nil, List.flatMap_nil, List.append_nil]
      rfl
    | cons c chars ih =>
      intro content
      rw [List.flatMap_cons, List.flatMap_append, List.append_assoc, readContent_escaped, ih,
        List.reverse_append, List.reverse_reverse, List.append_assoc, ← List.flatMap_cons]
  have hread := hcontent s.toList []
  rw [List.reverse_nil, List.nil_append, ← Utf8.encode] at hread
  rw [readString, quotedTail, List.append_assoc, List.singleton_append, hread]
  simp only [Reading.andThen, Utf8.decode?_encode]

/-! ## Numbers

The reader takes digits into a significand as long as it fits, and then looks for a fraction and an
exponent. An integer within the limits of `JsonInt` fits with all its digits, and what follows it in
a text is none of the bytes with which a number goes on. -/

/-- The bytes of characters that are digits. -/
def digitBytes (chars : List Char) : Bytes :=
  chars.map fun c => UInt8.ofNat c.toNat

/-- A number cannot go on with these bytes. -/
def EndsNumber (rest : Bytes) : Prop :=
  ∀ b, rest.head? = some b → digit? b = none ∧ b ≠ 0x2E ∧ b ≠ 0x65 ∧ b ≠ 0x45

/-- The byte of a digit has its value. -/
theorem digit?_of_isDigit {c : Char} (h : c.isDigit = true) :
    digit? (UInt8.ofNat c.toNat) = some (c.toNat - '0'.toNat) := by
  have hc := Decimal.toNat_of_isDigit h
  have hvalue : (UInt8.ofNat c.toNat).toNat = c.toNat :=
    UInt8.toNat_ofNat_of_lt' (Nat.lt_of_le_of_lt hc.2 (by decide))
  have hrange : (0x30 : UInt8) ≤ UInt8.ofNat c.toNat ∧ UInt8.ofNat c.toNat ≤ 0x39 := by
    rw [UInt8.le_iff_toNat_le, UInt8.le_iff_toNat_le, hvalue]
    exact hc
  rw [digit?, if_pos hrange, hvalue]
  rfl

/-- Digits are taken into the significand, as long as they fit. -/
theorem pushDigits_of_isDigit {chars : List Char} {rest : Bytes} {significand : Nat}
    (hdigits : ∀ c ∈ chars, c.isDigit = true) (hrest : EndsNumber rest)
    (h : Nat.ofDigitChars 10 chars significand < significandBound) (count : Nat) :
    pushDigits count significand (digitBytes chars ++ rest) =
      (Nat.ofDigitChars 10 chars significand, count + chars.length, rest) := by
  induction chars generalizing significand count with
  | nil =>
    cases rest with
    | nil => rfl
    | cons b rest =>
      have hb := (hrest b rfl).1
      simp only [digitBytes, List.map_nil, List.nil_append, pushDigits, hb]
      rfl
  | cons c chars ih =>
    have hc := digit?_of_isDigit (hdigits c List.mem_cons_self)
    rw [Nat.ofDigitChars_cons, Nat.mul_comm] at h ⊢
    -- a part of the digits denotes no more than all of them, so none is left out
    have hfits := Nat.lt_of_le_of_lt
      (Decimal.le_ofDigitChars chars (significand * 10 + (c.toNat - '0'.toNat))) h
    rw [digitBytes, List.map_cons, List.cons_append, pushDigits, hc, ← digitBytes]
    simp only [if_pos hfits]
    rw [ih (fun d hd => hdigits d (List.mem_cons_of_mem _ hd)) h, List.length_cons]
    simp only [Prod.mk.injEq, true_and, and_true]
    omega

/-- Nothing is left over when all digits have been taken. -/
theorem skipDigits_of_endsNumber {rest : Bytes} (hrest : EndsNumber rest) (count : Nat) :
    skipDigits count rest = (count, rest) := by
  cases rest with
  | nil => rfl
  | cons b rest => rw [skipDigits, (hrest b rfl).1]; rfl

/-- Where the number does not go on it is a whole one. -/
theorem readNumberEnd_of_endsNumber {rest : Bytes} (hrest : EndsNumber rest) (negative : Bool)
    (significand : Nat) :
    readNumberEnd negative significand 0 rest = .ok (wholeNumber negative significand, rest) := by
  unfold readNumberEnd
  split
  · exact absurd rfl (hrest _ rfl).2.1
  · exact absurd rfl (hrest _ rfl).2.2.1
  · exact absurd rfl (hrest _ rfl).2.2.2
  · rfl

/-- A zero is a number of its own, since none begins with it. -/
theorem readNumber_zero {rest : Bytes} (hrest : EndsNumber rest) (negative : Bool) :
    readNumber negative (0x30 :: rest) = .ok (wholeNumber negative 0, rest) := by
  cases rest with
  | nil => exact readNumberEnd_of_endsNumber hrest negative 0
  | cons b rest =>
    have hb : ¬ (digit? b).isSome := by rw [(hrest b rfl).1]; decide
    simp only [readNumber, if_neg hb]
    exact readNumberEnd_of_endsNumber hrest negative 0

/-- Digits of which the first is no zero are read as the number that they denote. -/
theorem readNumber_cons {c : Char} {chars : List Char} {rest : Bytes}
    (hdigits : ∀ d ∈ c :: chars, d.isDigit = true) (hc : c ≠ '0')
    (h : Nat.ofDigitChars 10 (c :: chars) 0 < significandBound) (hrest : EndsNumber rest)
    (negative : Bool) :
    readNumber negative (digitBytes (c :: chars) ++ rest) =
      .ok (wholeNumber negative (Nat.ofDigitChars 10 (c :: chars) 0), rest) := by
  have hdigit := hdigits c List.mem_cons_self
  have hzero : UInt8.ofNat c.toNat ≠ 0x30 := by
    intro heq
    have htoNat := congrArg UInt8.toNat heq
    rw [UInt8.toNat_ofNat_of_lt' (Nat.lt_of_le_of_lt (Decimal.toNat_of_isDigit hdigit).2
      (by decide))] at htoNat
    exact hc (Char.toNat_inj.mp htoNat)
  rw [Nat.ofDigitChars_cons, Nat.mul_zero, Nat.zero_add] at h ⊢
  have hpush := pushDigits_of_isDigit (fun d hd => hdigits d (List.mem_cons_of_mem _ hd)) hrest h 0
  rw [digitBytes, List.map_cons, List.cons_append, readNumber, ← digitBytes]
  · simp only [digit?_of_isDigit hdigit, hpush, skipDigits_of_endsNumber hrest]
    exact readNumberEnd_of_endsNumber hrest negative _
  · exact hzero

/-- **Digits are read as the number that they denote.** -/
theorem readNumber_toDigits {n : Nat} {rest : Bytes} (hn : n < significandBound)
    (hrest : EndsNumber rest) (negative : Bool) :
    readNumber negative (digitBytes (Nat.toDigits 10 n) ++ rest) =
      .ok (wholeNumber negative n, rest) := by
  rcases Nat.eq_zero_or_pos n with rfl | hpos
  · exact readNumber_zero hrest negative
  · have hvalue : Nat.ofDigitChars 10 (Nat.toDigits 10 n) 0 = n := Nat.ofDigitChars_ten_toDigits
    have hdigits : ∀ c ∈ Nat.toDigits 10 n, c.isDigit = true :=
      fun c => Decimal.isDigit_of_mem_toDigits
    rcases hchars : Nat.toDigits 10 n with _ | ⟨c, chars⟩
    · exact absurd hchars Nat.toDigits_ne_nil
    · rw [hchars] at hvalue hdigits
      have hread := readNumber_cons hdigits (Decimal.head_toDigits_ne_zero hpos hchars)
        (hvalue ▸ hn) hrest negative
      rwa [hvalue] at hread

/-- Digits are characters of ASCII, of one byte each. -/
theorem encode_digits {chars : List Char} (h : ∀ c ∈ chars, c.isDigit = true) :
    encode (String.ofList chars) = digitBytes chars := by
  rw [Utf8.encode_ofList]
  induction chars with
  | nil => rfl
  | cons c chars ih =>
    have hascii := Nat.lt_of_le_of_lt (Decimal.toNat_of_isDigit (h c List.mem_cons_self)).2
      (show 57 < 128 by decide)
    rw [List.flatMap_cons, Utf8.encodeChar_of_lt hascii,
      ih fun d hd => h d (List.mem_cons_of_mem _ hd)]
    rfl

/-- The sign and the absolute value make the integer. A minus before a zero would make a double of
it, but no integer is written so. -/
theorem wholeNumber_natAbs (n : Int) (h : JsonInt n) :
    wholeNumber (decide (n < 0)) n.natAbs = .int n h := by
  have hvalue : (if decide (n < 0) then -(n.natAbs : Int) else n.natAbs) = n := by
    by_cases hn : n < 0
    · rw [decide_eq_true hn, if_pos rfl]
      omega
    · rw [decide_eq_false hn, if_neg Bool.false_ne_true]
      omega
  have hminus : ¬ (decide (n < 0) = true ∧ n.natAbs = 0) := by
    rintro ⟨hn, hzero⟩
    have := of_decide_eq_true hn
    omega
  simp only [wholeNumber, hvalue]
  rw [dif_pos ⟨h, hminus⟩]

/-- **An integer is read from its digits.** Every integer of 64 bits, with a sign or without one,
has digits that fit into the significand, so none becomes a floating-point number. -/
theorem readNumber_natAbs (n : Int) (h : JsonInt n) {rest : Bytes} (hrest : EndsNumber rest) :
    readNumber (decide (n < 0)) (digitBytes (Nat.toDigits 10 n.natAbs) ++ rest) =
      .ok (.int n h, rest) := by
  have hbound : n.natAbs < significandBound := by
    obtain ⟨hleast, hgreatest⟩ := h
    rw [significandBound]
    omega
  rw [readNumber_toDigits hbound hrest, wholeNumber_natAbs n h]

/-! ## Lists and objects

One loop reads items and one reads members, and both are given a reader for their parts. The lemmas
say what one turn of a loop does, and what it does at the end; they hold of any reader. -/

/-- Nothing is skipped before a byte that is no blank. -/
theorem skipBlank_cons {b : UInt8} (hb : isBlank b = false) (rest : Bytes) :
    skipBlank (b :: rest) = b :: rest := by
  rw [skipBlank, List.dropWhile_cons_of_neg (by rw [hb]; decide)]

/-- What stands before an item or a member. -/
def separator (first : Bool) : Bytes :=
  if first then [] else [0x2C]

/-- Behind the separator that the printer writes, another item begins. -/
theorem nextItem_separator {b : UInt8} (hblank : isBlank b = false) (hend : b ≠ 0x5D)
    (first : Bool) (rest : Bytes) :
    nextItem first (separator first ++ b :: rest) = .ok (true, b :: rest) := by
  have hnext : skipBlank (b :: rest) = b :: rest := skipBlank_cons hblank rest
  have hcomma : skipBlank (0x2C :: b :: rest) = 0x2C :: b :: rest := skipBlank_cons (by decide) _
  cases first with
  | true => simp [nextItem, separator, hnext]
  | false => simp [nextItem, separator, hcomma, hnext, hend]

/-- So does another name, which begins with its quote. -/
theorem nextName_separator (first : Bool) (rest : Bytes) :
    nextName first (separator first ++ 0x22 :: rest) = .ok (true, rest) := by
  cases first with
  | true => rfl
  | false => rfl

section

variable {α : Type} {readPart : Bytes → Reading α}

/-- One turn of the loop over items. -/
theorem readItems_separator {b : UInt8} {rest after : Bytes} {item : α} (hblank : isBlank b = false)
    (hend : b ≠ 0x5D) (hread : readPart (b :: rest) = .ok (item, after)) (turns : Nat)
    (items : List α) :
    readItems readPart (turns + 1) items (separator items.isEmpty ++ b :: rest) =
      readItems readPart turns (item :: items) after := by
  simp only [readItems, nextItem_separator hblank hend, hread]

/-- At the bracket the loop ends with what it has read. -/
theorem readItems_end (turns : Nat) (items : List α) (rest : Bytes) :
    readItems readPart (turns + 1) items (0x5D :: rest) = .ok (items.reverse, rest) := by
  rfl

/-- One turn of the loop over members. -/
theorem readMembers_separator {rest after : Bytes} {member : α}
    (hread : readPart rest = .ok (member, after)) (turns : Nat) (members : List α) :
    readMembers readPart (turns + 1) members (separator members.isEmpty ++ 0x22 :: rest) =
      readMembers readPart turns (member :: members) after := by
  simp only [readMembers, nextName_separator, hread]

/-- At the brace the other loop does. -/
theorem readMembers_end (turns : Nat) (members : List α) (rest : Bytes) :
    readMembers readPart (turns + 1) members (0x7D :: rest) = .ok (members.reverse, rest) := by
  rfl

end

/-- A member is a name in quotes, a colon and a value, in whatever way values are read. -/
theorem readMember_quoted {α : Type} {readMemberValue : Bytes → Reading α} {value : α}
    {bytes rest : Bytes} (hread : readMemberValue bytes = .ok (value, rest)) (name : String) :
    readMember readMemberValue (quotedTail name ++ 0x3A :: bytes) = .ok ((name, value), rest) := by
  have hcolon : readColon (0x3A :: bytes) = .ok ((), bytes) := rfl
  simp only [readMember, readString_quoted, Reading.andThen, hcolon, hread]

/-! ## Values

Two things are asked of a value that is to come back. Its numbers are integers, since a double is
written with as many digits as tell it apart, and reading these is another matter; and it is not
nested deeper than the reader goes. -/

mutual

/-- Every number at any depth is an integer. -/
def Integral : Json → Prop
  | null => True
  | bool _ => True
  | num (.int _ _) => True
  | num (.double _) => False
  | str _ => True
  | arr items => IntegralItems items
  | obj members => IntegralMembers members

/-- Every number in a list of items is an integer. -/
def IntegralItems : List Json → Prop
  | [] => True
  | item :: rest => Integral item ∧ IntegralItems rest

/-- Every number in the values of members is an integer. -/
def IntegralMembers : List (String × Json) → Prop
  | [] => True
  | (_, value) :: rest => Integral value ∧ IntegralMembers rest

end

section

variable {items : List Json} {members : List (String × Json)}

/-- Items are integral if each of them is. -/
theorem integralItems_iff : IntegralItems items ↔ ∀ item ∈ items, Integral item := by
  induction items with
  | nil => simp [IntegralItems]
  | cons item rest ih => rw [IntegralItems, ih, List.forall_mem_cons]

theorem integralMembers_iff : IntegralMembers members ↔ ∀ member ∈ members, Integral member.2 := by
  induction members with
  | nil => simp [IntegralMembers]
  | cons member rest ih => rw [IntegralMembers, ih, List.forall_mem_cons]

/-- Items are no deeper than some levels if none of them is. -/
theorem depthItems_le_iff {levels : Nat} :
    depthItems items ≤ levels ↔ ∀ item ∈ items, depth item ≤ levels := by
  induction items with
  | nil => simp [depthItems]
  | cons item rest ih => rw [depthItems, Nat.max_le, ih, List.forall_mem_cons]

theorem depthMembers_le_iff {levels : Nat} :
    depthMembers members ≤ levels ↔ ∀ member ∈ members, depth member.2 ≤ levels := by
  induction members with
  | nil => simp [depthMembers]
  | cons member rest ih => rw [depthMembers, Nat.max_le, ih, List.forall_mem_cons]

end

/-- An integer is written as its sign and its digits. -/
theorem encode_numberText (n : Int) (h : JsonInt n) :
    encode (numberText (.int n h)) =
      (if n < 0 then [0x2D] else []) ++ digitBytes (Nat.toDigits 10 n.natAbs) := by
  have hdigits : encode (String.ofList (Nat.toDigits 10 n.natAbs)) =
      digitBytes (Nat.toDigits 10 n.natAbs) :=
    encode_digits fun c => Decimal.isDigit_of_mem_toDigits
  have hminus : encode "-" = [0x2D] := by decide
  rw [numberText]
  split
  · rw [Utf8.encode_append, hminus, hdigits]
  · rw [hdigits, List.nil_append]

/-- The digits of a number begin with a digit. -/
theorem digitBytes_toDigits (n : Nat) :
    ∃ b tail, digitBytes (Nat.toDigits 10 n) = b :: tail ∧ 0x30 ≤ b ∧ b ≤ 0x39 := by
  rcases hchars : Nat.toDigits 10 n with _ | ⟨c, chars⟩
  · exact absurd hchars Nat.toDigits_ne_nil
  · have hc : c ∈ Nat.toDigits 10 n := hchars ▸ List.mem_cons_self
    have hrange := Decimal.toNat_of_isDigit (Decimal.isDigit_of_mem_toDigits hc)
    refine ⟨_, _, rfl, ?_⟩
    rw [UInt8.le_iff_toNat_le, UInt8.le_iff_toNat_le,
      UInt8.toNat_ofNat_of_lt' (Nat.lt_of_le_of_lt hrange.2 (by decide))]
    exact hrange

/-- The byte of a digit is none of those by which other values begin. -/
theorem ne_of_digit {b k : UInt8} (hb : 0x30 ≤ b ∧ b ≤ 0x39) (hk : ¬ (0x30 ≤ k ∧ k ≤ 0x39)) :
    b ≠ k := by
  rintro rfl
  exact hk hb

/-- Nor is it a blank. -/
theorem isBlank_of_digit {b : UInt8} (hb : 0x30 ≤ b ∧ b ≤ 0x39) : isBlank b = false := by
  have hne {k : UInt8} (hk : ¬ (0x30 ≤ k ∧ k ≤ 0x39)) : b ≠ k := ne_of_digit hb hk
  simp only [isBlank, hne (k := 0x20) (by decide), hne (k := 0x0A) (by decide),
    hne (k := 0x09) (by decide), hne (k := 0x0D) (by decide), decide_false, Bool.or_false]

/-! ## The bytes of texts

The equations of `ActionGateway.Proofs.JsonText`, as equations about bytes. Every text begins with a
byte by which the reader tells what kind of value it is. -/

theorem encode_text_null : encode (text null) = [0x6E, 0x75, 0x6C, 0x6C] := by
  rw [text, write]
  decide

theorem encode_text_true : encode (text (bool true)) = [0x74, 0x72, 0x75, 0x65] := by
  rw [text, write]
  decide

theorem encode_text_false : encode (text (bool false)) = [0x66, 0x61, 0x6C, 0x73, 0x65] := by
  rw [text, write]
  decide

theorem encode_text_int (n : Int) (h : JsonInt n) :
    encode (text (num (.int n h))) =
      (if n < 0 then [0x2D] else []) ++ digitBytes (Nat.toDigits 10 n.natAbs) := by
  rw [text, write, String.empty_append, encode_numberText]

theorem encode_text_str (s : String) : encode (text (str s)) = 0x22 :: quotedTail s := by
  rw [text_str, encode_quotedText]

theorem encode_text_arr (items : List Json) :
    encode (text (arr items)) = 0x5B :: (encode (writeItems "" true items) ++ [0x5D]) := by
  have hopen : encode "[" = [0x5B] := by decide
  have hclose : encode "]" = [0x5D] := by decide
  rw [text_arr, Utf8.encode_append, Utf8.encode_append, hopen, hclose]
  rfl

theorem encode_text_obj (members : List (String × Json)) :
    encode (text (obj members)) = 0x7B :: (encode (writeMembers "" true members) ++ [0x7D]) := by
  have hopen : encode "\x7b" = [0x7B] := by decide
  have hclose : encode "\x7d" = [0x7D] := by decide
  rw [text_obj, Utf8.encode_append, Utf8.encode_append, hopen, hclose]
  rfl

/-- The separator of the printer is the one that the reader skips. -/
theorem encode_separator (first : Bool) :
    encode (if first then "" else ",") = separator first := by
  cases first <;> decide

theorem encode_writeItems_cons (first : Bool) (item : Json) (rest : List Json) :
    encode (writeItems "" first (item :: rest)) =
      separator first ++ (encode (text item) ++ encode (writeItems "" false rest)) := by
  rw [writeItems_cons, Utf8.encode_append, Utf8.encode_append, encode_separator, List.append_assoc]

theorem encode_writeMembers_cons (first : Bool) (name : String) (value : Json)
    (rest : List (String × Json)) :
    encode (writeMembers "" first ((name, value) :: rest)) =
      separator first ++ 0x22 ::
        (quotedTail name ++ 0x3A ::
          (encode (text value) ++ encode (writeMembers "" false rest))) := by
  have hcolon : encode ":" = [0x3A] := by decide
  rw [writeMembers_cons]
  simp only [Utf8.encode_append, encode_separator, encode_quotedText, hcolon, List.append_assoc,
    List.cons_append, List.nil_append]

/-- The first byte of a text is neither a blank nor a closing bracket. -/
theorem encode_text_cons (value : Json) (h : Integral value) :
    ∃ b tail, encode (text value) = b :: tail ∧ isBlank b = false ∧ b ≠ 0x5D := by
  cases value with
  | null => exact ⟨_, _, encode_text_null, by decide, by decide⟩
  | bool b =>
    cases b with
    | true => exact ⟨_, _, encode_text_true, by decide, by decide⟩
    | false => exact ⟨_, _, encode_text_false, by decide, by decide⟩
  | str s => exact ⟨_, _, encode_text_str s, by decide, by decide⟩
  | arr items => exact ⟨_, _, encode_text_arr items, by decide, by decide⟩
  | obj members => exact ⟨_, _, encode_text_obj members, by decide, by decide⟩
  | num n =>
    cases n with
    | double x => exact absurd h (by rw [Integral]; exact id)
    | int n hn =>
      obtain ⟨b, tail, hdigits, hrange⟩ := digitBytes_toDigits n.natAbs
      rw [encode_text_int, hdigits]
      split
      · exact ⟨_, _, rfl, by decide, by decide⟩
      · exact ⟨b, tail, rfl, isBlank_of_digit hrange, ne_of_digit hrange (by decide)⟩

/-! ## The reader undoes the printer

The three statements are proved together, by recursion over the value. The bounds go along as
hypotheses: the levels that are left are enough for the depth, and the turns for the length of the
text. What follows a text must end a number, which the separators and the brackets do. -/

/-- The end of the text ends a number. -/
theorem endsNumber_nil : EndsNumber [] := by
  intro b hb
  cases hb

/-- So does a byte with which no number goes on. -/
theorem endsNumber_cons {b : UInt8} (hb : digit? b = none ∧ b ≠ 0x2E ∧ b ≠ 0x65 ∧ b ≠ 0x45)
    (rest : Bytes) : EndsNumber (b :: rest) := by
  intro b' hb'
  cases hb'
  exact hb

/-- What follows an item is a comma or the bracket at the end, and neither goes on with a number. -/
theorem endsNumber_items (items : List Json) (rest : Bytes) :
    EndsNumber (encode (writeItems "" false items) ++ 0x5D :: rest) := by
  cases items with
  | nil => exact endsNumber_cons (by decide) _
  | cons item items =>
    rw [encode_writeItems_cons]
    exact endsNumber_cons (by decide) _

/-- What follows a member is a comma or a brace. -/
theorem endsNumber_members (members : List (String × Json)) (rest : Bytes) :
    EndsNumber (encode (writeMembers "" false members) ++ 0x7D :: rest) := by
  cases members with
  | nil => exact endsNumber_cons (by decide) _
  | cons member members =>
    rw [encode_writeMembers_cons]
    exact endsNumber_cons (by decide) _

/-- An integer is read from its text, for which it matters whether the first byte is a minus. -/
theorem readValue_int (turns levels : Nat) (n : Int) (h : JsonInt n) {rest : Bytes}
    (hrest : EndsNumber rest) :
    readValue turns levels (encode (text (num (.int n h))) ++ rest) =
      .ok (num (.int n h), rest) := by
  have hread := readNumber_natAbs n h hrest
  rw [encode_text_int]
  by_cases hn : n < 0
  · rw [decide_eq_true hn] at hread
    have hblank (tail : Bytes) : skipBlank (0x2D :: tail) = 0x2D :: tail :=
      skipBlank_cons (by decide) _
    rw [if_pos hn]
    simp [readValue, hblank, hread, Reading.andThen]
  · rw [decide_eq_false hn] at hread
    obtain ⟨b, tail, hdigits, hrange⟩ := digitBytes_toDigits n.natAbs
    have hne {k : UInt8} (hk : ¬ (0x30 ≤ k ∧ k ≤ 0x39)) : b ≠ k := ne_of_digit hrange hk
    rw [if_neg hn, List.nil_append]
    rw [hdigits] at hread ⊢
    have hblank : skipBlank (b :: (tail ++ rest)) = b :: (tail ++ rest) :=
      skipBlank_cons (isBlank_of_digit hrange) _
    have hdigit : (digit? b).isSome := by rw [digit?, if_pos hrange]; rfl
    simp only [List.cons_append] at hread ⊢
    simp [readValue, hblank, hne (k := 0x6E) (by decide), hne (k := 0x74) (by decide),
      hne (k := 0x66) (by decide), hne (k := 0x2D) (by decide), hdigit, hread, Reading.andThen]

mutual

/-- **The text of a value is read as that value in order**, whatever comes after it, as long as a
number at the end is not continued. Turns and levels may be more than are needed, as they are in the
middle of a document. -/
theorem readValue_text (turns levels : Nat) (value : Json) (hintegral : Integral value)
    (hdepth : depth value ≤ levels) (hturns : (encode (text value)).length ≤ turns) {rest : Bytes}
    (hrest : EndsNumber rest) :
    readValue turns levels (encode (text value) ++ rest) = .ok (sorted value, rest) := by
  have hfront {b : UInt8} (hb : isBlank b = false) (tail : Bytes) :
      skipBlank (b :: tail) = b :: tail := skipBlank_cons hb tail
  cases value with
  | null => rw [encode_text_null, readValue]; rfl
  | bool b =>
    cases b with
    | true => rw [encode_text_true, readValue]; rfl
    | false => rw [encode_text_false, readValue]; rfl
  | num n =>
    cases n with
    | double x => exact absurd hintegral (by rw [Integral]; exact id)
    | int n hn => exact readValue_int turns levels n hn hrest
  | str s =>
    rw [encode_text_str, List.cons_append]
    simp [readValue, hfront (b := 0x22) (by decide), readString_quoted, Reading.andThen,
      show digit? 0x22 = none by decide, sorted]
  | arr items =>
    rw [Integral] at hintegral
    rw [depth] at hdepth
    rw [encode_text_arr] at hturns ⊢
    -- an array is one level deeper than its items
    obtain ⟨below, rfl⟩ : ∃ below, levels = below + 1 := ⟨levels - 1, by omega⟩
    -- the brackets take two bytes, so the turns suffice for the items and the end of the list
    have hlength : (encode (writeItems "" true items)).length + 2 ≤ turns := by
      rwa [List.length_cons, List.length_append, List.length_singleton] at hturns
    have hread := readItems_text turns below items hintegral
      (Nat.le_of_succ_le_succ hdepth) turns []
      (show (encode (writeItems "" true items)).length ≤ turns by omega)
      (show (encode (writeItems "" true items)).length < turns by omega) rest
    rw [List.isEmpty_nil, List.reverse_nil, List.nil_append] at hread
    simp [readValue, hfront (b := 0x5B) (by decide), hread, Reading.andThen,
      show digit? 0x5B = none by decide, sorted]
  | obj members =>
    rw [Integral] at hintegral
    rw [depth] at hdepth
    rw [encode_text_obj] at hturns ⊢
    obtain ⟨below, rfl⟩ : ∃ below, levels = below + 1 := ⟨levels - 1, by omega⟩
    have hlength : (encode (writeMembers "" true members)).length + 2 ≤ turns := by
      rwa [List.length_cons, List.length_append, List.length_singleton] at hturns
    have hread := readMembers_text turns below members hintegral
      (Nat.le_of_succ_le_succ hdepth) turns []
      (show (encode (writeMembers "" true members)).length ≤ turns by omega)
      (show (encode (writeMembers "" true members)).length < turns by omega) rest
    rw [List.isEmpty_nil, List.reverse_nil, List.nil_append] at hread
    simp [readValue, hfront (b := 0x7B) (by decide), hread, Reading.andThen,
      show digit? 0x7B = none by decide, sorted]

/-- The items that are left are read behind those that have been read. -/
theorem readItems_text (turns levels : Nat) (items : List Json) (hintegral : IntegralItems items)
    (hdepth : depthItems items ≤ levels) (left : Nat) (read : List Json)
    (hturns : (encode (writeItems "" read.isEmpty items)).length ≤ turns)
    (hleft : (encode (writeItems "" read.isEmpty items)).length < left) (rest : Bytes) :
    readItems (readValue turns levels) left read
        (encode (writeItems "" read.isEmpty items) ++ 0x5D :: rest) =
      .ok (read.reverse ++ sortedItems items, rest) := by
  obtain ⟨left, rfl⟩ : ∃ fewer, left = fewer + 1 := ⟨left - 1, by omega⟩
  cases items with
  | nil => rw [sortedItems, List.append_nil]; exact readItems_end left read rest
  | cons item items =>
    rw [IntegralItems] at hintegral
    rw [depthItems] at hdepth
    rw [encode_writeItems_cons, List.length_append, List.length_append] at hturns hleft
    rw [encode_writeItems_cons]
    obtain ⟨b, tail, htext, hblank, hend⟩ := encode_text_cons item hintegral.1
    -- a text has one byte at least, so a turn fewer is enough for what follows it
    have hlength : (encode (text item)).length = tail.length + 1 := by rw [htext, List.length_cons]
    have hitem := readValue_text turns levels item hintegral.1
      (Nat.le_trans (Nat.le_max_left _ _) hdepth) (by omega) (endsNumber_items items rest)
    have hitems := readItems_text turns levels items hintegral.2
      (Nat.le_trans (Nat.le_max_right _ _) hdepth) left (sorted item :: read)
      (show (encode (writeItems "" false items)).length ≤ turns by omega)
      (show (encode (writeItems "" false items)).length < left by omega) rest
    rw [htext, List.cons_append] at hitem
    rw [htext, List.append_assoc, List.append_assoc, List.cons_append,
      readItems_separator hblank hend hitem, ← List.isEmpty_cons, hitems, List.reverse_cons,
      List.append_assoc, List.singleton_append, sortedItems]

/-- So are members, each with its name. -/
theorem readMembers_text (turns levels : Nat) (members : List (String × Json))
    (hintegral : IntegralMembers members) (hdepth : depthMembers members ≤ levels) (left : Nat)
    (read : List (String × Json))
    (hturns : (encode (writeMembers "" read.isEmpty members)).length ≤ turns)
    (hleft : (encode (writeMembers "" read.isEmpty members)).length < left) (rest : Bytes) :
    readMembers (readMember (readValue turns levels)) left read
        (encode (writeMembers "" read.isEmpty members) ++ 0x7D :: rest) =
      .ok (read.reverse ++ sortedMembers members, rest) := by
  obtain ⟨left, rfl⟩ : ∃ fewer, left = fewer + 1 := ⟨left - 1, by omega⟩
  cases members with
  | nil => rw [sortedMembers, List.append_nil]; exact readMembers_end left read rest
  | cons member members =>
    obtain ⟨name, value⟩ := member
    rw [IntegralMembers] at hintegral
    rw [depthMembers] at hdepth
    rw [encode_writeMembers_cons] at hturns hleft ⊢
    simp only [List.length_append, List.length_cons] at hturns hleft
    have hvalue := readValue_text turns levels value hintegral.1
      (Nat.le_trans (Nat.le_max_left _ _) hdepth) (by omega) (endsNumber_members members rest)
    have hmembers := readMembers_text turns levels members hintegral.2
      (Nat.le_trans (Nat.le_max_right _ _) hdepth) left ((name, sorted value) :: read)
      (show (encode (writeMembers "" false members)).length ≤ turns by omega)
      (show (encode (writeMembers "" false members)).length < left by omega) rest
    have hmember := readMember_quoted hvalue name
    simp only [List.append_assoc, List.cons_append]
    rw [readMembers_separator hmember, ← List.isEmpty_cons, hmembers, List.reverse_cons,
      List.append_assoc, List.singleton_append, sortedMembers]

end

/-- **From its text a value is read in order**, if its numbers are integers and it is not nested too
deeply. -/
theorem read_text_eq_sorted {value : Json} (hintegral : Integral value)
    (hdepth : depth value ≤ maxDepth) : read (encode (text value)) = .ok (sorted value) := by
  have hread := readValue_text _ maxDepth value hintegral hdepth
    (Nat.le_add_right (encode (text value)).length 1) endsNumber_nil
  rw [List.append_nil] at hread
  rw [read, readAll, hread]
  rfl

/-- **A value that is in order is read from its text.** Nothing is lost between the two but the
order of members and repeated names, and such a value has neither to lose. -/
theorem read_text {value : Json} (horderly : Orderly value) (hintegral : Integral value)
    (hdepth : depth value ≤ maxDepth) : read (encode (text value)) = .ok value := by
  rw [read_text_eq_sorted hintegral hdepth, sorted_of_orderly horderly]

end Json

end ActionGateway
