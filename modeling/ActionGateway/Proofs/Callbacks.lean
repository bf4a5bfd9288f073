import ActionGateway.Proofs.JsonText
import ActionGateway.Proofs.Numeral
import ActionGateway.Proofs.References

/-!
# Which callback a script calls

A script is the name of a callback and, in parentheses, the JSON that is handed to it. The name may
hold parentheses, but no quote is left in it, and in a JSON text no parenthesis comes before the
first quote (`Json.quotesFirst_text`). So of the parentheses that open before the first quote of a
script the last one opens the call, and what stands before it is the name: a script calls one
callback, whatever JSON it hands over (`Framing.eq_of_wrap_eq`), and who sees the body of a response
can tell which callback was asked for (`Framing.first?_callback_eq_of_body_eq`).

`Callback.EscapeContract` puts together what holds of the name of a callback in a script.
-/

namespace ActionGateway

/-! ## JSON texts

`QuotesFirst` is closed under putting texts together, so it is enough to look at the pieces:
punctuation and numbers have no parenthesis, and a string opens with a quote before anything in it
can be one. The proof for whole values goes by mutual induction on values and lists of items; of an
object it has to look at the name of its first member only. -/

namespace Json

/-- No parenthesis comes before the first quote. -/
def QuotesFirst (chars : List Char) : Prop :=
  ∀ before after, chars = before ++ '(' :: after → '\x22' ∈ before

/-- A text without a parenthesis has none before its first quote. -/
theorem quotesFirst_of_not_mem {chars : List Char} (h : '(' ∉ chars) : QuotesFirst chars :=
  fun _ _ heq => absurd (heq ▸ List.mem_append_right _ List.mem_cons_self) h

/-- A text that begins with a quote has nothing before it. -/
theorem quotesFirst_quote (rest : List Char) : QuotesFirst ('\x22' :: rest) := by
  rintro (_ | ⟨c, before⟩) after heq
  · cases heq
  · obtain ⟨rfl, -⟩ := List.cons.inj heq
    exact List.mem_cons_self

/-- Texts of this kind can be put together: a parenthesis of the second one has a quote of the
second one before it. -/
theorem QuotesFirst.append {front back : List Char} (hfront : QuotesFirst front)
    (hback : QuotesFirst back) : QuotesFirst (front ++ back) := by
  intro before after heq
  rcases List.append_eq_append_iff.mp heq with ⟨more, rfl, hmore⟩ | ⟨more, rfl, hmore⟩
  · exact List.mem_append_right front (hback more after hmore)
  · rcases more with _ | ⟨c, more⟩
    · exact absurd (hback [] after hmore.symm) List.not_mem_nil
    · obtain ⟨rfl, -⟩ := List.cons.inj hmore
      exact hfront before more rfl

/-- Digits are no parentheses. -/
theorem paren_not_mem_toDigits (n : Nat) : '(' ∉ Nat.toDigits 10 n := fun hmem =>
  absurd (Decimal.isDigit_of_mem_toDigits hmem) (by decide)

/-- A number is written with digits, and with what the layout adds to them. -/
theorem paren_not_mem_layout (s : Decimal.Scaled) : '(' ∉ (numberLayout.text s).toList := by
  have hdigits := paren_not_mem_toDigits s.digits
  have htake (n : Nat) : '(' ∉ (Nat.toDigits 10 s.digits).take n := mt List.mem_of_mem_take hdigits
  have hdrop (n : Nat) : '(' ∉ (Nat.toDigits 10 s.digits).drop n := mt List.mem_of_mem_drop hdigits
  have hmarks : '(' ∉ numberLayout.wholeEnding.toList ∧ '(' ∉ numberLayout.exponentMark.toList ∧
      '(' ∉ numberLayout.negativeExponentMark.toList := by decide
  rw [Decimal.Layout.text]
  simp only
  split
  · split
    next => simp [hdigits, hmarks]
    split
    next => simp [htake, hdrop]
    next => simp [hdigits]
  · rw [String.toList_append, String.toList_ofList, List.mem_append, not_or]
    constructor
    · generalize Nat.toDigits 10 s.digits = digits at hdigits ⊢
      rcases digits with _ | ⟨d, _ | ⟨e, rest⟩⟩ <;> simp_all
    · split <;> simp [paren_not_mem_toDigits, hmarks]

/-- No number has a parenthesis, whether it is whole, a fraction, or none at all, for which the text
is that of the null value. -/
theorem paren_not_mem_numberText (n : JsonNumber) : '(' ∉ (numberText n).toList := by
  have hwhole : '(' ∉ numberLayout.wholeEnding.toList := by decide
  cases n with
  | int n fits =>
    rw [numberText]
    split <;> simp [paren_not_mem_toDigits]
  | double x =>
    rw [numberText, Decimal.Layout.write]
    split
    next => split <;> split <;> simp [hwhole, paren_not_mem_layout]
    next => decide

/-- A string begins with a quote. -/
theorem quotesFirst_quotedText (s : String) (rest : List Char) :
    QuotesFirst ((quotedText s).toList ++ rest) := by
  rw [quotedText, String.toList_append, String.toList_append, List.append_assoc]
  exact quotesFirst_quote _

mutual

/-- **In a JSON text no parenthesis comes before the first quote.** So behind the parenthesis that
opens the call of a script none comes before a quote. -/
theorem quotesFirst_text (value : Json) : QuotesFirst value.text.toList := by
  cases value with
  | null => exact quotesFirst_of_not_mem (by decide)
  | bool b => cases b <;> exact quotesFirst_of_not_mem (by decide)
  | num n =>
    rw [text, write, String.empty_append]
    exact quotesFirst_of_not_mem (paren_not_mem_numberText n)
  | str s =>
    rw [text_str, ← List.append_nil (quotedText s).toList]
    exact quotesFirst_quotedText s []
  | arr items =>
    rw [text_arr, String.toList_append, String.toList_append]
    have hopen : QuotesFirst "[".toList := quotesFirst_of_not_mem (by decide)
    have hclose : QuotesFirst "]".toList := quotesFirst_of_not_mem (by decide)
    exact (hopen.append (quotesFirst_items true items)).append hclose
  | obj members =>
    rw [text_obj, String.toList_append, String.toList_append, List.append_assoc]
    have hopen : QuotesFirst "\x7b".toList := quotesFirst_of_not_mem (by decide)
    refine hopen.append ?_
    -- the name of the first member begins with a quote
    rcases members with _ | ⟨⟨name, value⟩, rest⟩
    · exact quotesFirst_of_not_mem (by decide)
    · simp only [writeMembers_cons, if_true, String.empty_append, String.toList_append,
        List.append_assoc]
      exact quotesFirst_quotedText name _

theorem quotesFirst_items (first : Bool) (items : List Json) :
    QuotesFirst (writeItems "" first items).toList := by
  cases items with
  | nil => exact quotesFirst_of_not_mem List.not_mem_nil
  | cons item rest =>
    rw [writeItems_cons, String.toList_append, String.toList_append]
    have hcomma : QuotesFirst (if first then "" else ",").toList :=
      quotesFirst_of_not_mem (by cases first <;> decide)
    exact (hcomma.append (quotesFirst_text item)).append (quotesFirst_items false rest)

end

end Json

/-! ## Which callback a script calls

A script is compared with another one as a list of characters. If the one name is longer than the
other, it has the opening parenthesis of the shorter one in it, and then a beginning of a JSON text
up to a parenthesis of its own; there a quote would have come first, and no name has one. -/

namespace Framing

variable {callback other : String} {value value' : Json}

/-- The characters of a script: a name, the parenthesis that opens the call, JSON, and the end of
the call. -/
theorem toList_wrap (callback body : String) :
    (wrap callback body).toList = callback.toList ++ '(' :: (body.toList ++ ");".toList) := by
  simp [wrap, String.toList_append]

/-- A name without a quote does not go on where the call opens. -/
theorem eq_nil_of_call_eq {more tail : List Char} (hquote : '\x22' ∉ more)
    (h : '(' :: (value.text.toList ++ ");".toList) = more ++ '(' :: tail) : more = [] := by
  rcases more with _ | ⟨c, more⟩
  · rfl
  · obtain ⟨rfl, heq⟩ := List.cons.inj h
    have hclose : Json.QuotesFirst ");".toList := Json.quotesFirst_of_not_mem (by decide)
    have hmem := (Json.quotesFirst_text value).append hclose more tail heq
    exact absurd (List.mem_cons_of_mem _ hmem) hquote

/-- **A script calls one callback**, whatever JSON it hands over, if there is no quote in a name.
Escaped names have none. -/
theorem eq_of_wrap_eq (hcallback : '\x22' ∉ callback.toList) (hother : '\x22' ∉ other.toList)
    (h : wrap callback value.text = wrap other value'.text) : callback = other := by
  have heq := congrArg String.toList h
  rw [toList_wrap, toList_wrap] at heq
  refine String.toList_inj.mp ?_
  -- a longer name would go on where the call of the shorter one opens
  rcases List.append_eq_append_iff.mp heq with ⟨more, hmore, hcall⟩ | ⟨more, hmore, hcall⟩
  · have hquote : '\x22' ∉ more := fun hmem => hother (hmore ▸ List.mem_append_right _ hmem)
    rw [hmore, eq_nil_of_call_eq hquote hcall, List.append_nil]
  · have hquote : '\x22' ∉ more := fun hmem => hcallback (hmore ▸ List.mem_append_right _ hmem)
    rw [hmore, eq_nil_of_call_eq hquote hcall, List.append_nil]

/-- A script is no JSON. -/
theorem wrap_ne_text (h : '\x22' ∉ callback.toList) : wrap callback value.text ≠ value'.text := by
  intro heq
  have hchars := congrArg String.toList heq
  rw [toList_wrap] at hchars
  exact h (Json.quotesFirst_text value' _ _ hchars.symm)

/-- The name of a callback is spelled out without quotes. -/
theorem quote_not_mem_escapeCallback (callback : String) :
    '\x22' ∉ (escapeCallback callback).toList :=
  (Callback.exists_escapeCallback_iff.mp ⟨callback, rfl⟩).no_markup _ (by decide)

/-- The body of a success: JSON, or the script that hands it over. -/
theorem body_ok (framing : Framing) (value : Json) (kind : ContentKind) :
    (framing.ok (.json value) kind).body =
      match framing.callback with
      | none => value.text
      | some callback => wrap callback value.text := by
  rw [ok, frame]
  rcases framing.callback with _ | callback <;> rfl

/-- **The body of a successful retrieval tells which callback was asked for**, if there was one. -/
theorem first?_callback_eq_of_body_eq {method method' : Method} {query query' : Params}
    {kind kind' : ContentKind} (hmethod : method.isRetrieval = true)
    (hmethod' : method'.isRetrieval = true)
    (h : ((ofParams method query).ok (.json value) kind).body =
      ((ofParams method' query').ok (.json value') kind').body) :
    query.first? "callback" = query'.first? "callback" := by
  simp only [body_ok, ofParams, hmethod, hmethod', if_true] at h
  -- both asked for a callback, or none did, or one body is a script and the other is JSON
  rcases hfirst : query.first? "callback" with _ | name <;>
    rcases hfirst' : query'.first? "callback" with _ | name' <;>
    simp only [hfirst, hfirst', Option.map_none, Option.map_some] at h
  · rfl
  · exact absurd h.symm (wrap_ne_text (quote_not_mem_escapeCallback name'))
  · exact absurd h (wrap_ne_text (quote_not_mem_escapeCallback name))
  · have hescaped := eq_of_wrap_eq (quote_not_mem_escapeCallback name)
      (quote_not_mem_escapeCallback name') h
    rw [Callback.escapeCallback_injective hescaped]

end Framing

/-! ## The contract -/

namespace Callback

/-- How the name of a callback stands in a script. The text is a parameter here, and
`escapeContract` puts in the one that the gateway writes; that it is what stands for the callback
shows in `script_injective` and `append`, which compare it with what stands for other ones. -/
structure EscapeContract (callback text : String) : Prop where
  /-- no markup stands there, and an ampersand does nothing but begin a reference -/
  escaped : Escaped text.toList
  /-- reading the references gives back the name -/
  unescape_eq : unescape text = callback
  /-- up to the parenthesis that opens the call, no other callback stands like that -/
  opening_injective : ∀ other, escapeCallback other ++ "(" = text ++ "(" → other = callback
  /-- and whatever JSON is handed over, no other callback has the same script -/
  script_injective : ∀ (other : String) (value value' : Json),
    Framing.wrap (escapeCallback other) value.text = Framing.wrap text value'.text →
      other = callback
  /-- a name that goes on goes on in the script -/
  append : ∀ other, escapeCallback (callback ++ other) = text ++ escapeCallback other

/-- **A callback stands in a script without markup, and can be read from it.** The name is any
string: it may be empty, and may hold control characters, references and what looks like a call. -/
theorem escapeContract (callback : String) :
    EscapeContract callback (escapeCallback callback) where
  escaped := exists_escapeCallback_iff.mp ⟨callback, rfl⟩
  unescape_eq := unescape_escapeCallback callback
  opening_injective _ h := escapeCallback_injective ((String.append_left_inj _).mp h)
  script_injective other _ _ h :=
    escapeCallback_injective (Framing.eq_of_wrap_eq (Framing.quote_not_mem_escapeCallback other)
      (Framing.quote_not_mem_escapeCallback callback) h)
  append := escapeCallback_append callback

end Callback

end ActionGateway
