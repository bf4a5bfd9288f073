import ActionGateway.Proofs.WrittenJson

/-!
# Values that are passed over

A reader that looks for certain members passes over the values of the others, and must then stand
just where they end. `Json.skipValue` does not call itself on what is nested: it keeps the
containers around its place in a list, innermost first, and makes a turn for each value
(`Json.skipStep`); what is left to do after a turn is `Json.goOn`.

The containers are the **invariant**. A run that comes to a value in some containers **passes** it:
within as many turns as the value has bytes it comes to where nothing is left of it, and the same
containers are gone on with (`Json.Passes`, `Json.passes_written`). So a value is passed over
whatever is nested in it and in whatever way it is written (`Json.skipValue_written`).

The statements go by what is written (`Json.Written`): values with the blanks, escapes and numerals
that they are written with. What follows a value is any bytes with which a number does not go on,
since the end of a number is the one place where the reader has to look ahead.
-/

namespace ActionGateway

namespace Json

/-! ## Strings and numbers

What is not a container is passed over in one go, by readers of their own that keep nothing of it.
Each is followed through the parts of what is written: strokes of a string, and the digits, the
fraction and the exponent of a number. -/

section

variable {rest : Bytes}

/-- Bytes that stand for themselves are passed over. -/
theorem skipString_of_plain {bytes : Bytes} (h : ∀ b ∈ bytes, b ≠ 0x22 ∧ b ≠ 0x5C ∧ ¬ b < 0x20) :
    skipString (bytes ++ rest) = skipString rest := by
  induction bytes with
  | nil => rfl
  | cons b bytes ih =>
    obtain ⟨hquote, hbackslash, hcontrol⟩ := h b List.mem_cons_self
    rw [List.cons_append, skipString.eq_def]
    simp only [if_neg hquote, if_neg hbackslash, if_neg hcontrol]
    exact ih fun b hb => h b (List.mem_cons_of_mem _ hb)

/-- **A string is passed over whatever its strokes stand for**, also where they stand for no text.
-/
theorem skipString_stringTail (strokes : List Stroke) (rest : Bytes) :
    skipString (stringTail strokes ++ rest) = .ok ((), rest) := by
  rw [stringTail, List.append_assoc, List.singleton_append]
  -- the induction is on the strokes, each of which is a character or an escape
  induction strokes with
  | nil => exact skipString.eq_def _
  | cons stroke strokes ih =>
    rw [List.flatMap_cons, List.append_assoc, ← ih]
    cases stroke with
    | plain c hc => exact skipString_of_plain fun b => plain_of_mem_encodeChar hc.1 hc.2.1 hc.2.2
    | short letter c h =>
      simp only [shorthands, List.mem_cons, Prod.mk.injEq, List.not_mem_nil, or_false] at h
      rcases h with ⟨rfl, rfl⟩ | ⟨rfl, rfl⟩ | ⟨rfl, rfl⟩ | ⟨rfl, rfl⟩ | ⟨rfl, rfl⟩ | ⟨rfl, rfl⟩ |
        ⟨rfl, rfl⟩ | ⟨rfl, rfl⟩ <;> simp [skipString, Stroke.bytes, shortEscape?]
    | code u =>
      simp [skipString, Stroke.bytes, Code.bytes, u.first.value_eq, u.second.value_eq,
        u.third.value_eq, u.fourth.value_eq]

/-- Digits do not go on with these bytes. -/
def EndsDigits (rest : Bytes) : Prop :=
  ∀ b, rest.head? = some b → digit? b = none

/-- What ends a number ends its digits. -/
theorem EndsNumber.endsDigits (h : EndsNumber rest) : EndsDigits rest := fun b hb => (h b hb).1

/-- Where digits do not go on, none are dropped. -/
theorem dropDigits_of_endsDigits (h : EndsDigits rest) : dropDigits rest = rest := by
  cases rest with
  | nil => rfl
  | cons b rest => rw [dropDigits, List.dropWhile_cons_of_neg (by rw [h b rfl]; decide)]

/-- Digits are dropped to their end. -/
theorem dropDigits_append {bytes : Bytes} (hdigits : ∀ b ∈ bytes, (digit? b).isSome = true)
    (hrest : EndsDigits rest) : dropDigits (bytes ++ rest) = rest := by
  rw [dropDigits, List.dropWhile_append_of_pos hdigits, ← dropDigits,
    dropDigits_of_endsDigits hrest]

/-- Digits begin with one, which more may follow. -/
theorem Digits.exists_cons (digits : Digits) :
    ∃ b more, digits.bytes = b :: more ∧ (digit? b).isSome = true ∧
      ∀ d ∈ more, (digit? d).isSome = true := by
  rcases h : digits.bytes with _ | ⟨b, more⟩
  · exact (digits.ne_nil h).elim
  · have hdigit := h ▸ digits.isDigit
    exact ⟨b, more, rfl, hdigit b List.mem_cons_self,
      fun d hd => hdigit d (List.mem_cons_of_mem b hd)⟩

/-- The byte of a digit lies between those of 0 and 9. -/
theorem range_of_isSome_digit? {b : UInt8} (hb : (digit? b).isSome = true) :
    0x30 ≤ b ∧ b ≤ 0x39 := by
  rw [digit?] at hb
  split at hb
  next hrange => exact hrange
  next => cases hb

/-- An exponent is passed over, with a sign or without one. -/
theorem skipExponent_digits (digits : Digits) (sign : Option Bool) (hrest : EndsDigits rest) :
    skipExponent (sign.elim [] (fun minus => [if minus then 0x2D else 0x2B]) ++
      (digits.bytes ++ rest)) = .ok ((), rest) := by
  obtain ⟨b, more, hbytes, hb, hmore⟩ := digits.exists_cons
  have hplus : b ≠ 0x2B := ne_of_digit (range_of_isSome_digit? hb) (by decide)
  have hminus : b ≠ 0x2D := ne_of_digit (range_of_isSome_digit? hb) (by decide)
  rcases sign with _ | _ | _ <;>
    simp [skipExponent, hbytes, hb, hplus, hminus, dropDigits_append hmore hrest]

/-- Digits end where an exponent begins. -/
theorem endsDigits_exponent (exponent : Option Exponent) (hrest : EndsNumber rest) :
    EndsDigits (exponent.elim [] Exponent.bytes ++ rest) := by
  rcases exponent with _ | ⟨capital, sign, digits⟩
  · exact hrest.endsDigits
  · rintro b hb
    obtain rfl : (if capital then 0x45 else 0x65) = b := Option.some.inj hb
    cases capital <;> rfl

/-- They end where the rest of a number begins, whatever that is. -/
theorem endsDigits_tail (n : Numeral) (hrest : EndsNumber rest) : EndsDigits (n.tail ++ rest) := by
  rw [Numeral.tail, List.append_assoc]
  rcases n.fraction with _ | digits
  · exact endsDigits_exponent n.exponent hrest
  · rintro b hb
    obtain rfl : 0x2E = b := Option.some.inj hb
    rfl

/-- A fraction is passed over, with the exponent after it. -/
theorem skipFraction_digits (digits : Digits) (exponent : Option Exponent)
    (hrest : EndsNumber rest) :
    skipFraction (digits.bytes ++ (exponent.elim [] Exponent.bytes ++ rest)) = .ok ((), rest) := by
  obtain ⟨b, more, hbytes, hb, hmore⟩ := digits.exists_cons
  simp only [skipFraction, hbytes, List.cons_append, if_pos hb,
    dropDigits_append hmore (endsDigits_exponent exponent hrest)]
  rcases exponent with _ | ⟨capital, sign, digits⟩
  · cases rest with
    | nil => rfl
    | cons b rest =>
      obtain ⟨-, -, hsmall, hcapital⟩ := hrest b rfl
      simp [hsmall, hcapital]
  · have hskip := skipExponent_digits digits sign hrest.endsDigits
    cases capital <;> simpa [Exponent.bytes] using hskip

/-- What follows the whole part of a number is passed over. -/
theorem skipNumberEnd_tail (n : Numeral) (hrest : EndsNumber rest) :
    skipNumberEnd (n.tail ++ rest) = .ok ((), rest) := by
  rw [Numeral.tail, List.append_assoc]
  rcases n.fraction with _ | digits
  · rcases n.exponent with _ | ⟨capital, sign, digits⟩
    · cases rest with
      | nil => rfl
      | cons b rest =>
        obtain ⟨-, hpoint, hsmall, hcapital⟩ := hrest b rfl
        simp [skipNumberEnd, hpoint, hsmall, hcapital]
    · have hskip := skipExponent_digits digits sign hrest.endsDigits
      cases capital <;> simpa [skipNumberEnd, Exponent.bytes] using hskip
  · exact skipFraction_digits digits n.exponent hrest

/-- **A number is passed over**, if what follows it does not go on with it. How great it is does not
matter, nor how long. -/
theorem skipNumber_numeral (n : Numeral) (hrest : EndsNumber rest) :
    skipNumber (n.whole.bytes ++ (n.tail ++ rest)) = .ok ((), rest) := by
  have hend := skipNumberEnd_tail n hrest
  have htail := endsDigits_tail n hrest
  -- a whole part that begins with a zero is that zero
  rcases n.whole_eq_or with hzero | hnonzero
  · rw [hzero, List.singleton_append]
    generalize n.tail ++ rest = bytes at hend htail
    cases bytes with
    | nil => exact hend
    | cons b bytes =>
      have hb : ¬ (digit? b).isSome := by rw [htail b rfl]; decide
      simpa only [skipNumber, if_neg hb] using hend
  · obtain ⟨b, more, hbytes, hb, hmore⟩ := n.whole.exists_cons
    have hne : b ≠ 0x30 := fun h => hnonzero (by rw [hbytes, h]; rfl)
    rw [hbytes, List.cons_append, skipNumber, if_pos hb, dropDigits_append hmore htail, hend]
    exact hne

/-- What begins with a digit is passed over as a number. -/
theorem skipScalar_digit {b : UInt8} (hb : (digit? b).isSome = true) (bytes : Bytes) :
    skipScalar b bytes = skipNumber (b :: bytes) := by
  have hne {k : UInt8} (hk : ¬ (0x30 ≤ k ∧ k ≤ 0x39)) : b ≠ k :=
    ne_of_digit (range_of_isSome_digit? hb) hk
  rw [skipScalar, if_neg (hne (by decide)), if_neg (hne (by decide)), if_neg (hne (by decide)),
    if_neg (hne (by decide)), if_pos hb]

end

/-! ## Containers

A turn passes over a value that holds no others, or enters a container, or leaves some. What the run
goes on with is told by the containers alone, so that the statement about nested values can be put
together from turns: `Passes.turn` adds one at the front, and `Passes.trans` puts two runs together.
-/

/-- What is left to do after a step, in at most `turns` more. -/
def goOn (turns : Nat) : Reading (List Container) → Reading Unit
  | .error e => .error e
  | .ok ([], rest) => .ok ((), rest)
  | .ok (container :: outer, rest) =>
    match skipName container rest with
    | .error e => .error e
    | .ok (_, rest) => skipFrom turns (container :: outer) rest

/-- A turn is a step, and what is left to do after it. -/
theorem skipFrom_succ (turns : Nat) (containers : List Container) (bytes : Bytes) :
    skipFrom (turns + 1) containers bytes = goOn turns (skipStep containers bytes) := by
  rw [skipFrom]
  rcases skipStep containers bytes with _ | ⟨_ | _, _⟩ <;> rfl

/-- A run comes, within `length` turns, to where a value has been passed over, and the containers
that it stood in are all that it goes on with. -/
def Passes (run : Nat → Reading Unit) (length : Nat) (containers : List Container)
    (rest : Bytes) : Prop :=
  ∀ turns, length ≤ turns →
    ∃ left, turns ≤ left + length ∧ run turns = goOn left (leave containers rest)

namespace Passes

variable {run : Nat → Reading Unit} {length length' : Nat} {containers outer : List Container}
  {rest rest' : Bytes}

/-- It is there. -/
theorem refl (containers : List Container) (rest : Bytes) :
    Passes (goOn · (leave containers rest)) 0 containers rest :=
  fun turns _ => ⟨turns, Nat.le_refl turns, rfl⟩

/-- It comes there after a turn. -/
theorem turn {run' : Nat → Reading Unit} (hrun : ∀ turns, run (turns + 1) = run' turns)
    (h : Passes run' length containers rest) : Passes run (length + 1) containers rest := by
  intro turns hturns
  obtain ⟨turns, rfl⟩ : ∃ fewer, turns = fewer + 1 := ⟨turns - 1, by omega⟩
  obtain ⟨left, hleft, heq⟩ := h turns (by omega)
  exact ⟨left, by omega, (hrun turns).trans heq⟩

/-- It comes there by way of somewhere else. -/
theorem trans (h : Passes run length containers rest)
    (h' : Passes (goOn · (leave containers rest)) length' outer rest') :
    Passes run (length + length') outer rest' := by
  intro turns hturns
  obtain ⟨left, hleft, heq⟩ := h turns (by omega)
  obtain ⟨left', hleft', heq'⟩ := h' left (by omega)
  exact ⟨left', by omega, heq.trans heq'⟩

/-- More turns do no harm. -/
theorem mono (h : Passes run length containers rest) (hle : length ≤ length') :
    Passes run length' containers rest := by
  intro turns hturns
  obtain ⟨left, hleft, heq⟩ := h turns (by omega)
  exact ⟨left, by omega, heq⟩

/-- A step may pass over a whole value. -/
theorem of_skipStep {bytes : Bytes} (h : skipStep containers bytes = leave containers rest) :
    Passes (skipFrom · containers bytes) 1 containers rest :=
  (refl containers rest).turn fun turns => by rw [skipFrom_succ, h]

end Passes

section

variable {containers : List Container} {rest : Bytes}

/-- After a comma the run goes on in the same container. -/
theorem leave_comma (container : Container) (after : Blanks) (bytes : Bytes) :
    leave (container :: containers) (after.bytes ++ 0x2C :: bytes) =
      .ok (container :: containers, bytes) := by
  have hcomma : skipBlank (after.bytes ++ 0x2C :: bytes) = 0x2C :: bytes :=
    skipBlank_blanks_cons (by decide) after bytes
  rw [leave, hcomma]
  rfl

/-- At the end of a container the run goes on in the one around it. -/
theorem leave_closing (container : Container) (after close : Blanks) (bytes : Bytes) :
    leave (container :: containers) (after.bytes ++ (close.bytes ++ container.closing :: bytes)) =
      leave containers bytes := by
  have hclosing : skipBlank (after.bytes ++ (close.bytes ++ container.closing :: bytes)) =
      container.closing :: bytes := by
    rw [skipBlank_blanks, skipBlank_blanks_cons (by cases container <;> rfl)]
  rw [leave, hclosing]
  cases container <;> rfl

/-- A container that is not empty is entered. -/
theorem enter_cons (container : Container) {b : UInt8} (hblank : isBlank b = false)
    (hclosing : b ≠ container.closing) (before : Blanks) (bytes : Bytes) :
    enter container containers (before.bytes ++ b :: bytes) =
      .ok (container :: containers, b :: bytes) := by
  simp only [enter, skipBlank_blanks_cons hblank, if_neg hclosing]

/-- One that is empty is left at once. -/
theorem enter_closing (container : Container) (close : Blanks) (bytes : Bytes) :
    enter container containers (close.bytes ++ container.closing :: bytes) =
      leave containers bytes := by
  have hclosing : skipBlank (close.bytes ++ container.closing :: bytes) =
      container.closing :: bytes :=
    skipBlank_blanks_cons (by cases container <;> rfl) close bytes
  rw [enter, hclosing]
  cases container <;> rfl

/-- A value that holds no others is passed over in one step. -/
theorem skipStep_scalar {b : UInt8} {bytes : Bytes} (hblank : isBlank b = false)
    (hlist : b ≠ 0x5B) (hobject : b ≠ 0x7B) (hskip : skipScalar b bytes = .ok ((), rest))
    (before : Blanks) :
    skipStep containers (before.bytes ++ b :: bytes) = leave containers rest := by
  simp only [skipStep, skipBlank_blanks_cons hblank, if_neg hlist, if_neg hobject, hskip,
    Reading.andThen]

end

/-! ## Values

First what one step does, for each kind of value and for what stands between two of them; then the
three statements about whole values, items and members, which are proved together by recursion over
what is written. The number of turns is bounded by the number of bytes, which is what the reader
allows. -/

namespace Written

/-- What begins a value is no blank and does not end a list, and it tells strings and lists from
other values. -/
theorem exists_cons_bytes (value : Written) :
    ∃ b more, value.bytes = b :: more ∧ isBlank b = false ∧ b ≠ 0x5D ∧
      ((∀ strokes, value ≠ string strokes) → b ≠ 0x22) ∧
      ((∀ items close, value ≠ list items close) → b ≠ 0x5B) := by
  have hother {b : UInt8} (hquote : b ≠ 0x22) (hbracket : b ≠ 0x5B) :
      ((∀ strokes, value ≠ string strokes) → b ≠ 0x22) ∧
        ((∀ items close, value ≠ list items close) → b ≠ 0x5B) :=
    ⟨fun _ => hquote, fun _ => hbracket⟩
  cases value with
  | null => exact ⟨_, _, rfl, by decide, by decide, hother (by decide) (by decide)⟩
  | bool b =>
    cases b <;> exact ⟨_, _, rfl, by decide, by decide, hother (by decide) (by decide)⟩
  | string strokes =>
    exact ⟨_, _, rfl, by decide, by decide, fun h => absurd rfl (h strokes), fun _ => by decide⟩
  | list items close =>
    exact ⟨_, _, rfl, by decide, by decide, fun _ => by decide, fun h => absurd rfl (h items close)⟩
  | object members close =>
    exact ⟨_, _, rfl, by decide, by decide, hother (by decide) (by decide)⟩
  | number n =>
    rw [bytes, Numeral.bytes]
    split
    · exact ⟨_, _, rfl, by decide, by decide, hother (by decide) (by decide)⟩
    · obtain ⟨b, more, hbytes, hb, -⟩ := n.whole.exists_cons
      have hrange := range_of_isSome_digit? hb
      have hne {k : UInt8} (hk : ¬ (0x30 ≤ k ∧ k ≤ 0x39)) : b ≠ k := ne_of_digit hrange hk
      rw [hbytes]
      exact ⟨b, _, rfl, isBlank_of_digit hrange, hne (by decide),
        hother (hne (by decide)) (hne (by decide))⟩

/-- A value is written with one byte at least, so a turn is never free. -/
theorem length_bytes_pos (value : Written) : 0 < value.bytes.length := by
  obtain ⟨b, more, hbytes, -⟩ := value.exists_cons_bytes
  rw [hbytes]
  exact Nat.succ_pos _

end Written

open Written (itemsBytes membersBytes)

/-- Blanks do not go on with a number. -/
theorem endsNumber_blanks (blanks : Blanks) {rest : Bytes} (h : EndsNumber rest) :
    EndsNumber (blanks.bytes ++ rest) := by
  obtain ⟨bytes, hblank⟩ := blanks
  cases bytes with
  | nil => exact h
  | cons b bytes =>
    have hb := hblank b List.mem_cons_self
    simp only [isBlank, Bool.or_eq_true, decide_eq_true_eq] at hb
    refine endsNumber_cons ?_ _
    rcases hb with ((rfl | rfl) | rfl) | rfl <;> decide

/-- Neither does the comma before the next item. -/
theorem endsNumber_itemsBytes (items : List (Item Written)) {rest : Bytes} (h : EndsNumber rest) :
    EndsNumber (itemsBytes false items ++ rest) := by
  cases items with
  | nil => exact h
  | cons item items => exact endsNumber_cons (by decide) _

/-- Nor the one before the next member. -/
theorem endsNumber_membersBytes (members : List (Member Written)) {rest : Bytes}
    (h : EndsNumber rest) : EndsNumber (membersBytes false members ++ rest) := by
  cases members with
  | nil => exact h
  | cons member members => exact endsNumber_cons (by decide) _

/-- Nor the end of a container. -/
theorem endsNumber_closing (container : Container) (close : Blanks) (rest : Bytes) :
    EndsNumber (close.bytes ++ container.closing :: rest) :=
  endsNumber_blanks close (endsNumber_cons (by cases container <;> decide) rest)

/-- A colon may stand behind blanks. -/
theorem readColon_blanks (blanks : Blanks) (bytes : Bytes) :
    readColon (blanks.bytes ++ 0x3A :: bytes) = .ok ((), bytes) := by
  rw [readColon, skipBlank_blanks_cons (by decide)]
  rfl

/-- What stands in front of a value in an object is its name. -/
theorem skipName_member (before afterName : Blanks) (name : List Stroke) (bytes : Bytes) :
    skipName .object (before.bytes ++ 0x22 :: (stringTail name ++ (afterName.bytes ++ 0x3A ::
      bytes))) = .ok ((), bytes) := by
  have hquote (tail : Bytes) : skipBlank (before.bytes ++ 0x22 :: tail) = 0x22 :: tail :=
    skipBlank_blanks_cons (by decide) before tail
  simp only [skipName, hquote, skipString_stringTail, Reading.andThen, readColon_blanks]

/-- A number is passed over in one step, with a minus or without. -/
theorem skipStep_number {containers : List Container} {rest : Bytes} (n : Numeral)
    (before : Blanks) (hrest : EndsNumber rest) :
    skipStep containers (before.bytes ++ (n.bytes ++ rest)) = leave containers rest := by
  have hskip := skipNumber_numeral n hrest
  rw [Numeral.bytes]
  split
  · rw [List.append_assoc, List.append_assoc]
    exact skipStep_scalar (b := 0x2D) (by decide) (by decide) (by decide) hskip before
  · obtain ⟨b, more, hbytes, hb, -⟩ := n.whole.exists_cons
    have hrange := range_of_isSome_digit? hb
    rw [hbytes, List.cons_append, ← skipScalar_digit hb] at hskip
    rw [List.nil_append, List.append_assoc, hbytes, List.cons_append]
    exact skipStep_scalar (isBlank_of_digit hrange) (ne_of_digit hrange (by decide))
      (ne_of_digit hrange (by decide)) hskip before

section

variable {containers : List Container} {rest : Bytes}

/-- So is a list without items. -/
theorem skipStep_list_nil (before close : Blanks) :
    skipStep containers (before.bytes ++ ((Written.list [] close).bytes ++ rest)) =
      leave containers rest := by
  rw [skipStep, skipBlank_list, itemsBytes, List.nil_append]
  exact enter_closing .list close rest

/-- Into a list, up to its first item. -/
theorem skipStep_list_cons (before before' after close : Blanks) (value : Written)
    (items : List (Item Written)) :
    skipStep containers
        (before.bytes ++ ((Written.list (⟨before', value, after⟩ :: items) close).bytes ++ rest)) =
      .ok (.list :: containers, value.bytes ++ (after.bytes ++ (itemsBytes false items ++
        (close.bytes ++ Container.list.closing :: rest)))) := by
  obtain ⟨b, more, hvalue, hblank, hclosing, -⟩ := value.exists_cons_bytes
  rw [skipStep, skipBlank_list, itemsBytes, hvalue]
  simp only [List.append_assoc]
  exact enter_cons .list hblank hclosing before' _

/-- And an object without members. -/
theorem skipStep_object_nil (before close : Blanks) :
    skipStep containers (before.bytes ++ ((Written.object [] close).bytes ++ rest)) =
      leave containers rest := by
  rw [skipStep, skipBlank_object, membersBytes, List.nil_append]
  exact enter_closing .object close rest

/-- Into an object, up to the name of its first member. -/
theorem skipStep_object_cons (before before' afterName beforeValue after close : Blanks)
    (name : List Stroke) (value : Written) (members : List (Member Written)) :
    skipStep containers (before.bytes ++ ((Written.object
        (⟨before', name, afterName, beforeValue, value, after⟩ :: members) close).bytes ++ rest)) =
      .ok (.object :: containers, 0x22 :: (stringTail name ++ (afterName.bytes ++ 0x3A ::
        (beforeValue.bytes ++ (value.bytes ++ (after.bytes ++ (membersBytes false members ++
          (close.bytes ++ Container.object.closing :: rest)))))))) := by
  rw [skipStep, skipBlank_object, membersBytes]
  simp only [List.append_assoc, List.cons_append]
  exact enter_cons .object (by decide) (by decide) before' _

/-- After an item, on to the next one. -/
theorem leave_item (after before after' close : Blanks) (value : Written)
    (items : List (Item Written)) :
    leave (.list :: containers) (after.bytes ++
        (itemsBytes false (⟨before, value, after'⟩ :: items) ++
          (close.bytes ++ Container.list.closing :: rest))) =
      .ok (.list :: containers, before.bytes ++ (value.bytes ++ (after'.bytes ++
        (itemsBytes false items ++ (close.bytes ++ Container.list.closing :: rest))))) := by
  rw [← leave_comma .list after, itemsBytes]
  simp only [List.append_assoc]
  rfl

/-- After a member, on to the name of the next one. -/
theorem leave_member (after before afterName beforeValue after' close : Blanks)
    (name : List Stroke) (value : Written) (members : List (Member Written)) :
    leave (.object :: containers) (after.bytes ++
        (membersBytes false (⟨before, name, afterName, beforeValue, value, after'⟩ :: members) ++
          (close.bytes ++ Container.object.closing :: rest))) =
      .ok (.object :: containers, before.bytes ++ 0x22 :: (stringTail name ++ (afterName.bytes ++
        0x3A :: (beforeValue.bytes ++ (value.bytes ++ (after'.bytes ++
          (membersBytes false members ++
            (close.bytes ++ Container.object.closing :: rest)))))))) := by
  rw [← leave_comma .object after, membersBytes]
  simp only [List.append_assoc, List.cons_append]
  rfl

/-- In an object, a value follows its name. -/
theorem goOn_member (turns : Nat) (before afterName : Blanks) (name : List Stroke)
    (bytes : Bytes) :
    goOn turns (.ok (.object :: containers, before.bytes ++ 0x22 :: (stringTail name ++
      (afterName.bytes ++ 0x3A :: bytes)))) = skipFrom turns (.object :: containers) bytes := by
  rw [goOn, skipName_member]

end

mutual

/-- **A value is passed over**, whatever it is and wherever it stands, in no more turns than it has
bytes. -/
theorem passes_written (value : Written) (before : Blanks) (containers : List Container)
    {rest : Bytes} (hrest : EndsNumber rest) :
    Passes (skipFrom · containers (before.bytes ++ (value.bytes ++ rest))) value.bytes.length
      containers rest := by
  have hstep (h : skipStep containers (before.bytes ++ (value.bytes ++ rest)) =
      leave containers rest) := (Passes.of_skipStep h).mono value.length_bytes_pos
  cases value with
  | null => exact hstep (skipStep_scalar (by decide) (by decide) (by decide) rfl before)
  | bool b =>
    cases b <;> exact hstep (skipStep_scalar (by decide) (by decide) (by decide) rfl before)
  | number n => exact hstep (skipStep_number n before hrest)
  | string strokes =>
    exact hstep (skipStep_scalar (b := 0x22) (by decide) (by decide) (by decide)
      (skipString_stringTail strokes rest) before)
  | list items close =>
    rcases items with _ | ⟨⟨before', value, after⟩, items⟩
    · exact hstep (skipStep_list_nil before close)
    · -- one turn enters the list, and the others are those of its items
      have hlength : value.bytes.length + (itemsBytes false items).length + 1 ≤
          (Written.list (⟨before', value, after⟩ :: items) close).bytes.length := by
        rw [Written.bytes, itemsBytes]
        simp only [List.length_cons, List.length_append]
        omega
      have hfirst := passes_written value .none (.list :: containers)
        (endsNumber_blanks after (endsNumber_itemsBytes items
          (endsNumber_closing .list close rest)))
      refine ((hfirst.trans (passes_items items after close rest containers)).turn ?_).mono hlength
      intro turns
      rw [skipFrom_succ, skipStep_list_cons]
      rfl
  | object members close =>
    rcases members with _ | ⟨⟨before', name, afterName, beforeValue, value, after⟩, members⟩
    · exact hstep (skipStep_object_nil before close)
    · have hlength : value.bytes.length + (membersBytes false members).length + 1 ≤
          (Written.object (⟨before', name, afterName, beforeValue, value, after⟩ :: members)
            close).bytes.length := by
        rw [Written.bytes, membersBytes]
        simp only [List.length_cons, List.length_append]
        omega
      have hfirst := passes_written value beforeValue (.object :: containers)
        (endsNumber_blanks after (endsNumber_membersBytes members
          (endsNumber_closing .object close rest)))
      refine ((hfirst.trans
        (passes_members members after close rest containers)).turn ?_).mono hlength
      intro turns
      rw [skipFrom_succ, skipStep_object_cons]
      exact goOn_member turns .none afterName name _

/-- After an item of a list the others are passed over, and the list is left. -/
theorem passes_items (items : List (Item Written)) (after close : Blanks) (rest : Bytes)
    (containers : List Container) :
    Passes (goOn · (leave (.list :: containers) (after.bytes ++ (itemsBytes false items ++
      (close.bytes ++ Container.list.closing :: rest)))))
        (itemsBytes false items).length containers rest := by
  rcases items with _ | ⟨⟨before, value, after'⟩, items⟩
  · rw [itemsBytes, List.nil_append, leave_closing]
    exact .refl containers rest
  · have hlength : value.bytes.length + (itemsBytes false items).length ≤
        (itemsBytes false (⟨before, value, after'⟩ :: items)).length := by
      rw [itemsBytes]
      simp only [List.length_append]
      omega
    have hfirst := passes_written value before (.list :: containers)
      (endsNumber_blanks after' (endsNumber_itemsBytes items (endsNumber_closing .list close rest)))
    refine Passes.mono ?_ hlength
    rw [leave_item]
    exact hfirst.trans (passes_items items after' close rest containers)

/-- After a member of an object the others are passed over, and the object is left. -/
theorem passes_members (members : List (Member Written)) (after close : Blanks) (rest : Bytes)
    (containers : List Container) :
    Passes (goOn · (leave (.object :: containers) (after.bytes ++ (membersBytes false members ++
      (close.bytes ++ Container.object.closing :: rest)))))
        (membersBytes false members).length containers rest := by
  rcases members with _ | ⟨⟨before, name, afterName, beforeValue, value, after'⟩, members⟩
  · rw [membersBytes, List.nil_append, leave_closing]
    exact .refl containers rest
  · have hlength : value.bytes.length + (membersBytes false members).length ≤
        (membersBytes false
          (⟨before, name, afterName, beforeValue, value, after'⟩ :: members)).length := by
      rw [membersBytes]
      simp only [List.length_cons, List.length_append]
      omega
    have hfirst := passes_written value beforeValue (.object :: containers)
      (endsNumber_blanks after' (endsNumber_membersBytes members
        (endsNumber_closing .object close rest)))
    refine Passes.mono ?_ hlength
    simp only [leave_member, goOn_member]
    exact hfirst.trans (passes_members members after' close rest containers)

end

/-- **A value is passed over up to its end**, and what follows it is left, whatever it is. The value
may be nested to any depth: the turns are counted in bytes. -/
theorem skipValue_written (value : Written) (before : Blanks) {rest : Bytes}
    (hrest : EndsNumber rest) :
    skipValue (before.bytes ++ (value.bytes ++ rest)) = .ok ((), rest) := by
  -- the reader makes as many turns as there are bytes, and the value is a part of them
  have hturns : value.bytes.length ≤ (before.bytes ++ (value.bytes ++ rest)).length + 1 := by
    simp only [List.length_append]
    omega
  obtain ⟨left, -, hskip⟩ := passes_written value before [] hrest _ hturns
  exact hskip

end Json

end ActionGateway
