import ActionGateway.ApiVersion

/-!
# What decimal numerals denote

A numeral is an optional plus and then one digit or more, and the number that it denotes has no
bound (`Decimal.Denotes`). A number is read from the texts that denote it, and from no others, if it
is within the limit (`Decimal.numeral?_eq_some_iff`): what the digits read so far denote never
exceeds what all of them denote, so the limit is passed on the way only if it is passed in the end.

The digits of a number denote it (`Decimal.denotes_ofNat`), so numbers come back from their
numerals. For a version this means that its text, as a segment of a path, asks for that version
(`ApiVersion.parseWithin_text`).
-/

namespace ActionGateway

namespace Decimal

/-- One digit of ASCII or more, and the number that they denote. -/
structure Digits (chars : List Char) (n : Nat) : Prop where
  ne_nil : chars ≠ []
  isDigit : ∀ c ∈ chars, c.isDigit = true
  value : Nat.ofDigitChars 10 chars 0 = n

/-- A text denotes a number: it is made of digits, after an optional single plus. -/
inductive Denotes (s : String) (n : Nat) : Prop
  | plain (digits : Digits s.toList n)
  | plus {chars : List Char} (sign : s.toList = '+' :: chars) (digits : Digits chars n)

/-! ## Digits

The value of digits is that of `Nat.ofDigitChars`, which has no bound. Reading goes on from a value
so far and stops with nothing when that is beyond the limit; as more digits never make a number
smaller, this is no loss. -/

/-- Further digits do not make a number smaller. -/
theorem le_ofDigitChars (chars : List Char) (value : Nat) :
    value ≤ Nat.ofDigitChars 10 chars value := by
  induction chars generalizing value with
  | nil => exact Nat.le_refl value
  | cons c rest ih =>
    rw [Nat.ofDigitChars_cons]
    have := ih (10 * value + (c.toNat - '0'.toNat))
    omega

/-- The codes of the digits are those from 48 to 57. -/
theorem toNat_of_isDigit {c : Char} (h : c.isDigit = true) : 48 ≤ c.toNat ∧ c.toNat ≤ 57 := by
  simp only [Char.isDigit, Bool.and_eq_true, decide_eq_true_eq] at h
  exact h

/-- A digit has its value. -/
theorem digit?_of_isDigit {c : Char} (h : c.isDigit = true) :
    digit? c = some (c.toNat - '0'.toNat) := by
  have hc := toNat_of_isDigit h
  rw [digit?, if_pos]
  exact hc

/-- What is no digit has none. -/
theorem digit?_of_not_isDigit {c : Char} (h : ¬ c.isDigit = true) : digit? c = none := by
  rw [digit?, if_neg]
  intro hc
  simp only [Char.isDigit, Bool.and_eq_true, decide_eq_true_eq] at h
  exact h hc

/-- **Digits are read to the end exactly if what all of them denote is within the limit**, without
which nothing is read of them. -/
theorem continue?_eq_some_iff {limit value n : Nat} {chars : List Char} (hvalue : value ≤ limit) :
    continue? limit value chars = some n ↔
      (∀ c ∈ chars, c.isDigit = true) ∧ Nat.ofDigitChars 10 chars value = n ∧ n ≤ limit := by
  induction chars generalizing value with
  | nil =>
    rw [continue?, Option.some.injEq]
    constructor
    · rintro rfl
      exact ⟨List.forall_mem_nil _, rfl, hvalue⟩
    · exact fun h => h.2.1
  | cons c rest ih =>
    rw [continue?, Nat.ofDigitChars_cons, Nat.mul_comm 10 value, List.forall_mem_cons]
    by_cases hdigit : c.isDigit = true
    case neg => simp [digit?_of_not_isDigit hdigit, hdigit]
    simp only [digit?_of_isDigit hdigit, hdigit, true_and]
    split
    next hle => exact ih hle
    next hbeyond =>
      -- what follows cannot bring the number back below the limit
      have hle := le_ofDigitChars rest (value * 10 + (c.toNat - '0'.toNat))
      constructor
      · exact fun h => nomatch h
      · rintro ⟨-, rfl, hwithin⟩
        exact absurd (Nat.le_trans hle hwithin) hbeyond

/-! ## Numerals

The plus is taken off first, and only one. What is left must be digits, so it has no other sign, and
there is one way at most in which a text denotes a number. -/

variable {limit n : Nat} {s : String}

/-- A text without a plus at its start has nothing before its digits. -/
theorem unsigned_of_head? {chars : List Char} (h : chars.head? ≠ some '+') :
    unsigned chars = chars := by
  rw [unsigned]
  rintro rest rfl
  exact h rfl

/-- Digits do not begin with a plus. -/
theorem Digits.head?_ne_plus {chars : List Char} (h : Digits chars n) :
    chars.head? ≠ some '+' := fun hplus =>
  absurd (h.isDigit '+' (List.mem_of_mem_head? hplus)) (by decide)

/-- Digits denote the same after zeros. Zeros alone denote 0, where without them nothing is left to
denote it. -/
theorem digits_zeros_iff {chars : List Char} (hn : 1 ≤ n) (count : Nat) :
    Digits (List.replicate count '0' ++ chars) n ↔ Digits chars n := by
  have hvalue : Nat.ofDigitChars 10 (List.replicate count '0' ++ chars) 0 =
      Nat.ofDigitChars 10 chars 0 := by
    rw [Nat.ofDigitChars_append, Nat.ofDigitChars_replicate_zero, Nat.mul_zero]
  constructor
  · rintro ⟨-, hdigits, hsum⟩
    rw [hvalue] at hsum
    refine ⟨?_, fun c hc => hdigits c (List.mem_append_right _ hc), hsum⟩
    rintro rfl
    exact absurd hsum (Nat.ne_of_lt hn)
  · rintro ⟨hne, hdigits, hsum⟩
    refine ⟨List.append_ne_nil_of_right_ne_nil _ hne, fun c hc => ?_, hvalue.trans hsum⟩
    rcases List.mem_append.mp hc with hzero | hc
    · rw [List.eq_of_mem_replicate hzero]
      rfl
    · exact hdigits c hc

/-- A text denotes what is left of it without its plus. -/
theorem denotes_iff : Denotes s n ↔ Digits (unsigned s.toList) n := by
  constructor
  · rintro (hdigits | ⟨hsign, hdigits⟩)
    · rwa [unsigned_of_head? hdigits.head?_ne_plus]
    · rwa [hsign]
  · intro hdigits
    rcases hs : s.toList with _ | ⟨c, rest⟩
    · rw [hs] at hdigits
      exact absurd rfl hdigits.ne_nil
    by_cases hc : c = '+'
    · subst hc
      rw [hs] at hdigits
      exact .plus hs hdigits
    · rw [unsigned_of_head? (hs ▸ fun hplus => hc (Option.some.inj hplus))] at hdigits
      exact .plain hdigits

/-- A text denotes one number at most. -/
theorem Denotes.unique {m : Nat} (hm : Denotes s m) (hn : Denotes s n) : m = n :=
  (denotes_iff.mp hm).value.symm.trans (denotes_iff.mp hn).value

/-- **A number is read from the texts that denote it**, if it is within the limit. The limit is
looked at after every digit, and to be within it at the end is to have been within it all along. -/
theorem numeral?_eq_some_iff : numeral? limit s = some n ↔ Denotes s n ∧ n ≤ limit := by
  rw [denotes_iff, numeral?]
  rcases hchars : unsigned s.toList with _ | ⟨c, rest⟩
  · exact ⟨fun h => (nomatch h), fun h => absurd rfl h.1.ne_nil⟩
  · rw [continue?_eq_some_iff (Nat.zero_le limit)]
    exact ⟨fun ⟨hdigits, hvalue, hle⟩ => ⟨⟨List.cons_ne_nil c rest, hdigits, hvalue⟩, hle⟩,
      fun ⟨hdigits, hle⟩ => ⟨hdigits.isDigit, hdigits.value, hle⟩⟩

/-! ## The numerals of numbers

Numbers are written in decimal without a sign and without zeros in front. -/

/-- They are written in digits. -/
theorem isDigit_of_mem_toDigits {n : Nat} {c : Char} (h : c ∈ Nat.toDigits 10 n) :
    c.isDigit = true :=
  Nat.isDigit_of_mem_toDigits (by decide) (by decide) h

/-- **The digits of a number denote it.** -/
theorem denotes_ofNat (n : Nat) : Denotes (ofNat n) n := by
  refine .plain ?_
  rw [ofNat, String.toList_ofList]
  exact ⟨Nat.toDigits_ne_nil, fun _ => isDigit_of_mem_toDigits, Nat.ofDigitChars_ten_toDigits⟩

/-- Only zero has the digit zero. -/
theorem digitChar_ne_zero : ∀ n < 10, 0 < n → Nat.digitChar n ≠ '0' := by
  decide

/-- The digits of a number that is not zero do not begin with a zero. -/
theorem head_toDigits_ne_zero {n : Nat} (h : 0 < n) {c : Char} {rest : List Char}
    (hchars : Nat.toDigits 10 n = c :: rest) : c ≠ '0' := by
  -- the first digit of a number is that of its tenth
  induction n using Nat.strongRecOn generalizing rest with
  | _ n ih =>
    by_cases hn : n < 10
    · rw [Nat.toDigits_of_lt_base hn] at hchars
      obtain ⟨rfl, -⟩ := List.cons.inj hchars
      exact digitChar_ne_zero n hn h
    · rw [Nat.toDigits_of_base_le (by decide) (by omega)] at hchars
      rcases hfront : Nat.toDigits 10 (n / 10) with _ | ⟨d, front⟩
      · exact absurd hfront Nat.toDigits_ne_nil
      · rw [hfront, List.cons_append] at hchars
        obtain ⟨rfl, -⟩ := List.cons.inj hchars
        exact ih (n / 10) (by omega) (by omega) hfront

end Decimal

namespace ApiVersion

/-- A version comes back from its number. -/
theorem ofNat?_number (v : ApiVersion) : ofNat? v.number = some v := by
  rw [ofNat?, dif_pos ⟨v.one_le, v.le_255⟩]

/-- **A version is asked for by its text**, where it is within the range. -/
theorem parseWithin_text {v : ApiVersion} {least greatest : Nat} (hleast : least ≤ v.number)
    (hgreatest : v.number ≤ greatest) : parseWithin v.text least greatest = some v := by
  have hread : Decimal.numeral? 255 v.text = some v.number :=
    Decimal.numeral?_eq_some_iff.mpr ⟨Decimal.denotes_ofNat v.number, v.le_255⟩
  rw [parseWithin, hread]
  simp only [if_pos (And.intro hleast hgreatest), ofNat?_number]

/-- The text of a version is made of digits. -/
theorem isDigit_of_mem_text {v : ApiVersion} {c : Char} (h : c ∈ v.text.toList) :
    c.isDigit = true := by
  rw [text, Decimal.ofNat, String.toList_ofList] at h
  exact Decimal.isDigit_of_mem_toDigits h

/-- What is no digit is not in the text of a version. -/
theorem not_mem_text {c : Char} (hc : c.isDigit = false) (v : ApiVersion) :
    c ∉ v.text.toList := by
  intro hmem
  rw [isDigit_of_mem_text hmem] at hc
  cases hc

/-- The text of a version begins with a digit. -/
theorem text_cons (v : ApiVersion) :
    ∃ d digits, v.text.toList = d :: digits ∧ d.isDigit = true := by
  rcases hchars : v.text.toList with _ | ⟨d, digits⟩
  · rw [text, Decimal.ofNat, String.toList_ofList] at hchars
    exact absurd hchars Nat.toDigits_ne_nil
  · exact ⟨d, digits, rfl, isDigit_of_mem_text (hchars ▸ List.mem_cons_self)⟩

/-- Different versions have different texts. -/
theorem text_injective {v w : ApiVersion} (h : v.text = w.text) : v = w := by
  have hv := parseWithin_text v.one_le v.le_255
  rw [h, parseWithin_text w.one_le w.le_255] at hv
  exact (Option.some.inj hv).symm

end ApiVersion

end ActionGateway
