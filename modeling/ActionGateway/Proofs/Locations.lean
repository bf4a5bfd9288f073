import ActionGateway.Proofs.Utf8
import ActionGateway.Proofs.Wrapping

/-!
# Where a new resource is

The response for what has been created says in a header where it is. A header ends with its line,
so a location that could end the line would be dropped in part, or bring in headers of its own. What
may stand in a header is told here byte by byte and character by character: anything but a
**control** character, of which the tab alone is let through (`HeaderValue.exists_isControl_iff`).

`Framing.CreatedContract` says what comes of any location, in the framing of any request. The main
result is `Framing.createdContract`.
-/

namespace ActionGateway

namespace HeaderValue

variable {s : String} {value : Bytes}

/-! ## Header values

A value is a list of bytes, and a text is one if each byte of its encoding is allowed. Bytes that
are allowed are those of visible characters of ASCII, of blanks and tabs, and all bytes from 128 on,
which are parts of other characters. -/

/-- A byte that ends a header or is none of its text: one below the space but for the tab, or that
of the last character of ASCII. -/
def IsControl (b : UInt8) : Prop :=
  b < 0x20 ∧ b ≠ 0x09 ∨ b = 0x7F

/-- What is let through is what is no control byte. -/
theorem isAllowed_eq_true_iff {b : UInt8} : isAllowed b = true ↔ ¬ IsControl b := by
  simp only [isAllowed, IsControl, Bool.or_eq_true, Bool.and_eq_true, decide_eq_true_eq,
    UInt8.lt_iff_toNat_lt, UInt8.le_iff_toNat_le]
  grind

/-- All bytes are let through if none of them is a control byte. -/
theorem all_isAllowed_iff {bytes : Bytes} :
    bytes.all isAllowed = true ↔ ∀ b ∈ bytes, ¬ IsControl b := by
  simp only [List.all_eq_true, isAllowed_eq_true_iff]

/-- **A text is a value if no control character stands in it**, and then its bytes are the value.
Characters beyond ASCII are carried as they are. -/
theorem ofString?_eq_some_iff :
    ofString? s = some value ↔ (∀ b ∈ Utf8.encode s, ¬ IsControl b) ∧ value = Utf8.encode s := by
  simp only [ofString?, ← all_isAllowed_iff]
  split
  next h => simp [h, eq_comm]
  next h => simp [h]

/-- Where one stands in it, a text is no value. -/
theorem ofString?_eq_none_iff : ofString? s = none ↔ ∃ b ∈ Utf8.encode s, IsControl b := by
  simp only [ofString?, ite_eq_right_iff, reduceCtorEq, imp_false, all_isAllowed_iff,
    Classical.not_forall, Classical.not_not, exists_prop]

/-- A control byte stands in the encoding exactly if a control character stands in the text: these
are characters of ASCII, so a byte of any other character is none. -/
theorem exists_isControl_iff :
    (∃ b ∈ Utf8.encode s, IsControl b) ↔
      ∃ c ∈ s.toList, c.toNat < 0x20 ∧ c ≠ '\t' ∨ c.toNat = 0x7F := by
  constructor
  · rintro ⟨b, hb, hcontrol⟩
    rw [Utf8.encode, List.mem_flatMap] at hb
    obtain ⟨c, hc, hb⟩ := hb
    -- a byte below 128 is all of its character
    have hascii : b.toNat < 128 := by
      rcases hcontrol with ⟨hlt, -⟩ | rfl
      · exact Nat.lt_trans (UInt8.lt_iff_toNat_lt.mp hlt) (by decide)
      · decide
    have hcode : c.toNat = b.toNat := Utf8.toNat_of_mem_encodeChar hb hascii
    refine ⟨c, hc, ?_⟩
    rcases hcontrol with ⟨hlt, hne⟩ | rfl
    · refine .inl ⟨hcode ▸ UInt8.lt_iff_toNat_lt.mp hlt, ?_⟩
      rintro rfl
      exact hne (UInt8.toNat_inj.mp hcode.symm)
    · exact .inr hcode
  · rintro ⟨c, hc, hcontrol⟩
    have hascii : c.toNat < 128 := by
      rcases hcontrol with ⟨hlt, -⟩ | heq
      · exact Nat.lt_trans hlt (by decide)
      · exact heq ▸ by decide
    have hvalue : (UInt8.ofNat c.toNat).toNat = c.toNat :=
      UInt8.toNat_ofNat_of_lt' (Nat.lt_trans hascii (by decide))
    refine ⟨UInt8.ofNat c.toNat, ?_, ?_⟩
    · rw [Utf8.encode, List.mem_flatMap]
      exact ⟨c, hc, Utf8.encodeChar_of_lt hascii ▸ List.mem_singleton_self _⟩
    · rcases hcontrol with ⟨hlt, hne⟩ | heq
      · refine .inl ⟨UInt8.lt_iff_toNat_lt.mpr (hvalue.symm ▸ hlt), fun htab => hne ?_⟩
        rw [← Utf8.ofNat_toNat_of_ascii hascii, htab]
        rfl
      · exact .inr (UInt8.toNat_inj.mp (hvalue.trans heq))

end HeaderValue

namespace Framing

variable {framing : Framing} {body : ResponseBody} {kind : ContentKind} {location : String}

/-! ## The response

The framing does not matter: only a status of 200 is wrapped, and what has been created is answered
by 201. So there are two responses, according to whether the location is a header value. -/

/-- **The response for what has been created** has two headers and the body as it is, whatever
callback the request names. -/
theorem created_of_usable (h : ∀ b ∈ Utf8.encode location, ¬ HeaderValue.IsControl b) :
    framing.created body kind location =
      .ok ⟨201, [("location", Utf8.encode location), ("content-type", Utf8.encode kind.mediaType)],
        body.render⟩ := by
  have hvalue := HeaderValue.ofString?_eq_some_iff.mpr ⟨h, rfl⟩
  simp only [created, hvalue, frame_of_status_ne_200 (show 201 ≠ 200 by decide)]
  rfl

/-- A location that cannot stand in a header is an error, which holds the location as it was given.
-/
theorem created_of_unusable (h : ∃ b ∈ Utf8.encode location, HeaderValue.IsControl b) :
    framing.created body kind location = .error ⟨location⟩ := by
  simp only [created, HeaderValue.ofString?_eq_none_iff.mpr h]

/-- The header values of a kind of body hold no control character. -/
theorem not_isControl_mediaType (kind : ContentKind) :
    ∀ b ∈ Utf8.encode kind.mediaType, ¬ HeaderValue.IsControl b :=
  HeaderValue.all_isAllowed_iff.mp (by cases kind <;> decide)

/-- What becomes of the location of something that has been created. The result is either a response
or an error, and the first field says which; the bytes that decide it are spelled out there, so that
the contract can be read without `HeaderValue.IsControl`. -/
structure CreatedContract (body : ResponseBody) (kind : ContentKind) (location : String)
    (result : Except UnusableLocation Response) : Prop where
  /-- there is no response exactly if the bytes of the location hold a control character -/
  fails_iff : (∃ error, result = .error error) ↔
    ∃ b ∈ Utf8.encode location, b < 0x20 ∧ b ≠ 0x09 ∨ b = 0x7F
  /-- and then the location is told as it was given -/
  location_of_error : ∀ error, result = .error error → error.location = location
  /-- a response says that something has been created, and has the body as it is -/
  of_ok : ∀ response, result = .ok response →
    response.status = 201 ∧ response.body = body.render
  /-- the location goes out once, byte for byte, and so does the kind of the body -/
  all_of_ok : ∀ response, result = .ok response →
    response.headers.all "location" = [Utf8.encode location] ∧
      response.headers.all "content-type" = [Utf8.encode kind.mediaType] ∧
      ∀ name, name ≠ "location" → name ≠ "content-type" → response.headers.all name = []
  /-- nothing in a location that goes out ends a line -/
  no_line_end : ∀ response, result = .ok response →
    '\r' ∉ location.toList ∧ '\n' ∉ location.toList ∧
      ∀ header ∈ response.headers, 0x0D ∉ header.2 ∧ 0x0A ∉ header.2

/-- **A location goes out whole and alone, or there is no response.** It is never cut, escaped or
dropped, and whatever it is, no other header comes of it. -/
theorem createdContract (framing : Framing) (body : ResponseBody) (kind : ContentKind)
    (location : String) :
    CreatedContract body kind location (framing.created body kind location) := by
  by_cases h : ∃ b ∈ Utf8.encode location, HeaderValue.IsControl b
  case pos =>
    rw [created_of_unusable h]
    refine ⟨⟨fun _ => h, fun _ => ⟨_, rfl⟩⟩, ?_, ?_, ?_, ?_⟩
    · rintro error herror
      rw [← Except.error.inj herror]
    all_goals exact fun response hresponse => nomatch hresponse
  case neg =>
    have husable : ∀ b ∈ Utf8.encode location, ¬ HeaderValue.IsControl b :=
      fun b hb hcontrol => h ⟨b, hb, hcontrol⟩
    have hchars := mt HeaderValue.exists_isControl_iff.mpr h
    rw [created_of_usable husable]
    constructor
    case fails_iff =>
      exact ⟨fun ⟨_, herror⟩ => (nomatch herror), fun hcontrol => absurd hcontrol h⟩
    case location_of_error => exact fun error herror => nomatch herror
    case of_ok =>
      rintro response ⟨⟩
      exact ⟨rfl, rfl⟩
    case all_of_ok =>
      rintro response ⟨⟩
      refine ⟨rfl, rfl, fun name hlocation htype => ?_⟩
      simp [Headers.all, Ne.symm hlocation, Ne.symm htype]
    case no_line_end =>
      rintro response ⟨⟩
      refine ⟨fun hmem => hchars ⟨_, hmem, .inl (by decide)⟩,
        fun hmem => hchars ⟨_, hmem, .inl (by decide)⟩, fun header hheader => ?_⟩
      have hvalue : ∀ b ∈ header.2, ¬ HeaderValue.IsControl b := by
        simp only [List.mem_cons, List.not_mem_nil, or_false] at hheader
        rcases hheader with rfl | rfl
        · exact husable
        · exact not_isControl_mediaType kind
      exact ⟨fun hmem => hvalue _ hmem (.inl (by decide)),
        fun hmem => hvalue _ hmem (.inl (by decide))⟩

end Framing

end ActionGateway
