import ActionGateway.Identity.Reader
import ActionGateway.Proofs.SkippedValues

/-!
# Reading what is written

A reader that asks for a text takes any value for the text that it is and refuses every other, and
so does one that asks for a list of texts (`Json.gives_readText`, `Json.gives_readTexts`). What
comes after the value is left to the next reader, so these facts go together: a list is read item by
item (`Json.gives_readItems`), and after an item or a member stands the next one or the end.

All of this is said of what is written (`Json.Written`), so that it holds for any blanks between the
parts and any escapes within a string. What a reader **gives** is a value, with the bytes after it
left over, or a fault of whatever kind; which fault it is does not matter here.
-/

namespace ActionGateway

namespace Json

open Written (itemsBytes)

/-! ## Texts and lists of texts

A reader that asks for a kind of value looks at the first byte behind the blanks. The first bytes of
strings and lists are those of no other values, so what begins with another byte is refused. -/

section

variable {α : Type} {rest : Bytes}

/-- What is not asked for is refused, whatever it is. -/
theorem gives_refuse (expected : String) (bytes : Bytes) :
    (refuse expected bytes : Reading α).Gives none rest := by
  rw [refuse]
  rcases readFound bytes with failure | ⟨found, after⟩
  · exact .error failure rest
  · exact .error _ rest

/-- What stands in the place of something else is refused. -/
theorem gives_stopBefore (container : Container) (mismatch : Mismatch) (bytes : Bytes) :
    (stopBefore container mismatch bytes : Reading α).Gives none rest := by
  rw [stopBefore]
  split <;> exact .error _ rest

/-- **A value is read as the text that it is**, and refused if it is none. Which of the two it is
shows in its first byte. -/
theorem gives_readText (before : Blanks) (value : Written) (rest : Bytes) :
    (readText (before.bytes ++ (value.bytes ++ rest))).Gives value.text? rest := by
  obtain ⟨b, more, hbytes, hblank, -, hquote, -⟩ := value.exists_cons_bytes
  fun_cases Written.text? value
  case case1 strokes =>
    have hquote : skipBlank (before.bytes ++ ((Written.string strokes).bytes ++ rest)) =
        0x22 :: (stringTail strokes ++ rest) := by
      rw [Written.bytes, List.cons_append, skipBlank_blanks_cons (by decide)]
    rw [readText, hquote]
    exact gives_readString strokes rest
  case case2 hother =>
    have hne : b ≠ 0x22 := hquote fun strokes h => hother strokes h
    rw [readText, hbytes, List.cons_append, skipBlank_blanks_cons hblank]
    split
    next h => cases h
    next h => exact absurd (List.cons.inj h).1 hne
    next => exact gives_refuse _ _

/-- Behind the comma, or the opening bracket, an item is found. -/
theorem nextItem_item {b : UInt8} (hblank : isBlank b = false) (hend : b ≠ 0x5D) (first : Bool)
    (after before : Blanks) (bytes : Bytes) :
    nextItem first (after.bytes ++ (separator first ++ (before.bytes ++ b :: bytes))) =
      .ok (true, b :: bytes) := by
  have hitem : skipBlank (before.bytes ++ b :: bytes) = b :: bytes :=
    skipBlank_blanks_cons hblank before bytes
  have hcomma : skipBlank (0x2C :: (before.bytes ++ b :: bytes)) =
      0x2C :: (before.bytes ++ b :: bytes) := skipBlank_cons (by decide) _
  cases first with
  | true => simp [nextItem, separator, skipBlank_blanks, hitem]
  | false => simp [nextItem, separator, skipBlank_blanks, hcomma, hitem, hend]

/-- At the closing bracket there are no more of them. -/
theorem nextItem_closing (first : Bool) (after close : Blanks) (rest : Bytes) :
    nextItem first (after.bytes ++ (close.bytes ++ 0x5D :: rest)) = .ok (false, 0x5D :: rest) := by
  rw [nextItem, skipBlank_blanks, skipBlank_blanks_cons (by decide)]
  rfl

/-- **A list is read item by item**, and refused if one of them is. The reader of the items is any
for which the same is known of a single item. -/
theorem gives_readItems {readItem : Bytes → Reading α} {item? : Written → Option α}
    (hread : ∀ value rest, (readItem (value.bytes ++ rest)).Gives (item? value) rest)
    (items : List (Item Written)) (after close : Blanks) (rest : Bytes) (turns : Nat)
    (read : List α) (hturns : (itemsBytes read.isEmpty items).length < turns) :
    (readItems readItem turns read (after.bytes ++ (itemsBytes read.isEmpty items ++
      (close.bytes ++ 0x5D :: rest)))).Gives
        ((items.mapM fun item => item? item.value).map (read.reverse ++ ·)) rest := by
  -- the induction is on the items; those that have been read, and the turns that are left, go along
  induction items generalizing after turns read with
  | nil =>
    obtain ⟨turns, rfl⟩ : ∃ fewer, turns = fewer + 1 := ⟨turns - 1, by omega⟩
    rw [itemsBytes, List.nil_append, readItems, nextItem_closing]
    simp only [List.mapM_nil, pure, Option.map_some, List.append_nil]
    exact .ok read.reverse rest
  | cons item items ih =>
    obtain ⟨before, value, after'⟩ := item
    obtain ⟨b, more, hbytes, hblank, hend, -⟩ := value.exists_cons_bytes
    rw [itemsBytes] at hturns ⊢
    simp only [List.length_append] at hturns
    have hpos := value.length_bytes_pos
    obtain ⟨turns, rfl⟩ : ∃ fewer, turns = fewer + 1 := ⟨turns - 1, by omega⟩
    have hitem := hread value
      (after'.bytes ++ (itemsBytes false items ++ (close.bytes ++ 0x5D :: rest)))
    simp only [List.append_assoc]
    rw [hbytes, List.cons_append] at hitem ⊢
    simp only [readItems, nextItem_item hblank hend]
    rw [List.mapM_cons]
    rcases hvalue : item? value with _ | found <;> rw [hvalue] at hitem
    · obtain ⟨failure, hfailure⟩ := hitem
      simp only [hfailure]
      exact .error failure rest
    · have hfound : readItem _ = .ok (found, _) := hitem
      simp only [hfound]
      have hmore := ih after' turns (found :: read) (by rw [List.isEmpty_cons]; omega)
      rw [List.isEmpty_cons] at hmore
      cases hitems : items.mapM fun item => item? item.value <;> rw [hitems] at hmore <;>
        simpa using hmore

/-- **A value is read as the texts that it is**, and refused if it is no list of texts. -/
theorem gives_readTexts (before : Blanks) (value : Written) (rest : Bytes) :
    (readTexts (before.bytes ++ (value.bytes ++ rest))).Gives value.texts? rest := by
  obtain ⟨b, more, hbytes, hblank, -, -, hbracket⟩ := value.exists_cons_bytes
  fun_cases Written.texts? value
  case case1 items close =>
    have htext (value : Written) (rest : Bytes) :
        (readText (value.bytes ++ rest)).Gives value.text? rest := gives_readText .none value rest
    have hread := gives_readItems htext items .none close rest
      ((itemsBytes true items ++ (close.bytes ++ 0x5D :: rest)).length + 1) []
      (by rw [List.isEmpty_nil, List.length_append]; omega)
    rw [readTexts, skipBlank_list]
    simpa using hread
  case case2 hother =>
    have hne : b ≠ 0x5B := hbracket fun items close h => hother items close h
    rw [readTexts, hbytes, List.cons_append, skipBlank_blanks_cons hblank]
    split
    next h => cases h
    next h => exact absurd (List.cons.inj h).1 hne
    next => exact gives_refuse _ _

end

/-! ## Members

The members of an object are read by the reader of whoever asks, since it depends on the names. What
stands between two members is the same for all: a comma, and the name in quotes. -/

/-- Behind the comma, or the opening brace, a name is found. -/
theorem nextName_member (first : Bool) (after before : Blanks) (bytes : Bytes) :
    nextName first (after.bytes ++ (separator first ++ (before.bytes ++ 0x22 :: bytes))) =
      .ok (true, bytes) := by
  have hquote : skipBlank (before.bytes ++ 0x22 :: bytes) = 0x22 :: bytes :=
    skipBlank_blanks_cons (by decide) before bytes
  have hcomma : skipBlank (0x2C :: (before.bytes ++ 0x22 :: bytes)) =
      0x2C :: (before.bytes ++ 0x22 :: bytes) := skipBlank_cons (by decide) _
  cases first with
  | true => simp [nextName, separator, skipBlank_blanks, hquote]
  | false => simp [nextName, separator, skipBlank_blanks, hcomma, hquote]

/-- At the closing brace there are no more of them. -/
theorem nextName_closing (first : Bool) (after close : Blanks) (rest : Bytes) :
    nextName first (after.bytes ++ (close.bytes ++ 0x7D :: rest)) = .ok (false, 0x7D :: rest) := by
  rw [nextName, skipBlank_blanks, skipBlank_blanks_cons (by decide)]
  rfl

/-- A text of blanks and a value is read as what the value gives. -/
theorem readAll_eq_ok_iff {α : Type} {reader : Bytes → Reading α} {value? : Option α}
    {input : Bytes} {after : Blanks} (h : (reader input).Gives value? after.bytes) (value : α) :
    readAll reader input = .ok value ↔ value? = some value := by
  have hafter : skipBlank after.bytes = [] := by
    rw [← List.append_nil after.bytes, skipBlank_blanks]
    rfl
  rw [readAll]
  rcases value? with _ | found
  · obtain ⟨failure, hfailure⟩ := h
    simp only [hfailure, reduceCtorEq]
  · have hfound : reader input = .ok (found, after.bytes) := h
    simp only [hfound, hafter, Except.ok.injEq, Option.some.injEq]

end Json

end ActionGateway
