import ActionGateway.Http.Header
import ActionGateway.Http.MediaType
import ActionGateway.Proofs.UrlEncoding
import ActionGateway.Text.Charset
import Mathlib.Data.List.TakeWhile

/-!
# Media types of forms and their parts

A media type in lower case is read as it is written (`MediaType.parse?_essence`), and so is the
boundary of a form in several parts (`MediaType.boundary?_parse?`). A part without a media type is
UTF-8, and its text comes back unless it opens with a byte order mark (`Charset.decode_encode`).

The three are needed where a form in several parts is written and read again: its head names a
boundary, each part may have a media type, and the text of a part is decoded by it. The lemmas are
about what such a form is written with: words of lower-case letters, a boundary of letters and
digits, and texts in UTF-8.
-/

namespace ActionGateway

namespace Text

/-! ## Words

The names of media types are tokens, and they are compared in lower case. A word of lower-case
letters is a token that stays as it is, so neither step changes it. -/

/-- A word of lower-case letters of ASCII. -/
def IsWord (s : String) : Prop :=
  s ≠ "" ∧ ∀ c ∈ s.toList, c.isLower = true

instance (s : String) : Decidable (IsWord s) :=
  decidable_of_iff (s ≠ "" ∧ s.toList.all Char.isLower = true)
    (and_congr_right fun _ => List.all_eq_true)

/-- A lower-case letter is a letter. -/
theorem isAlphanum_of_isLower {c : Char} (h : c.isLower = true) : c.isAlphanum = true := by
  have halpha : c.isAlpha = true := Bool.or_eq_true_iff.mpr (.inr h)
  exact Bool.or_eq_true_iff.mpr (.inl halpha)

/-- The lower-case letters have these codes. -/
theorem code_of_isLower {c : Char} (h : c.isLower = true) : 97 ≤ c.toNat ∧ c.toNat ≤ 122 := by
  obtain ⟨hfirst, hlast⟩ := Bool.and_eq_true_iff.mp h
  exact ⟨UInt32.le_iff_toNat_le.mp (of_decide_eq_true hfirst),
    UInt32.le_iff_toNat_le.mp (of_decide_eq_true hlast)⟩

/-- In lower case a lower-case letter stays as it is. -/
theorem toLower_of_isLower {c : Char} (h : c.isLower = true) : c.toLower = c := by
  have hupper : ¬ (c.val ≥ 'A'.val ∧ c.val ≤ 'Z'.val) := by
    rintro ⟨-, hle⟩
    have hcode : c.toNat ≤ 90 := UInt32.le_iff_toNat_le.mp hle
    have hlower := code_of_isLower h
    omega
  exact dif_neg hupper

end Text

/-- Letters and digits may stand in a token. -/
theorem Token.isTokenChar_of_isAlphanum {c : Char} (h : c.isAlphanum = true) :
    isTokenChar c = true := by
  rw [isTokenChar, h, Bool.true_or]

namespace MediaType

open Text

variable {topLevel subtype : String}

/-! ## Media types in lower case

A media type is read as a token, a slash, and a token. Both end where they are meant to, at the
slash and at the end. -/

/-- A word is a token. -/
theorem isTokenChar_of_isWord {s : String} (h : IsWord s) :
    ∀ c ∈ s.toList, Token.isTokenChar c = true :=
  fun c hc => Token.isTokenChar_of_isAlphanum (isAlphanum_of_isLower (h.2 c hc))

/-- A word is in lower case. -/
theorem lower_of_isWord {s : String} (h : IsWord s) : lower s.toList = s.toList := by
  have hsame : s.toList.map Char.toLower = s.toList.map id :=
    List.map_congr_left fun c hc => toLower_of_isLower (h.2 c hc)
  rw [lower, hsame, List.map_id]

/-- A token goes to the end of what holds nothing else. -/
theorem takeWhile_eq_self {chars : List Char} (h : ∀ c ∈ chars, Token.isTokenChar c = true) :
    chars.takeWhile Token.isTokenChar = chars :=
  List.takeWhile_eq_self_iff.mpr h

/-- Nothing is left after it. -/
theorem dropWhile_eq_nil {chars : List Char} (h : ∀ c ∈ chars, Token.isTokenChar c = true) :
    chars.dropWhile Token.isTokenChar = [] :=
  List.dropWhile_eq_nil_iff.mpr h

/-- **A media type in lower case is read as it is written.** Without parameters its text is its type
and its subtype. -/
theorem parse?_essence (htop : IsWord topLevel) (hsub : IsWord subtype) :
    ∃ m, parse? (topLevel ++ "/" ++ subtype) = some m ∧ m.text = topLevel ++ "/" ++ subtype ∧
      m.parameters = [] := by
  have hchars : (topLevel ++ "/" ++ subtype).toList = topLevel.toList ++ '/' :: subtype.toList := by
    rw [String.toList_append, String.toList_append, List.append_assoc]
    rfl
  have htoken := isTokenChar_of_isWord htop
  have hne : topLevel.toList.isEmpty = false :=
    List.isEmpty_eq_false_iff.mpr fun hnil => htop.1 (String.toList_eq_nil_iff.mp hnil)
  rw [parse?, hchars, takeWhile_append_stop htoken (by decide),
    dropWhile_append_stop htoken (by decide), lower_of_isWord htop, hne,
    if_neg Bool.false_ne_true]
  simp only [takeWhile_eq_self (isTokenChar_of_isWord hsub),
    dropWhile_eq_nil (isTokenChar_of_isWord hsub), lower_of_isWord hsub, ← hchars,
    String.ofList_toList]
  exact ⟨_, rfl, rfl, rfl⟩

/-! ## The boundary of a form

The media type of such a form has one parameter, which is the boundary. It is written as a token,
without quotes, so it may hold no character at which a token ends; a boundary of letters and digits
holds none. -/

variable {boundary : String}

/-- A parameter whose value is a token to the end. -/
theorem tokenValue?_of_token {name chars : List Char} (hname : name ≠ "charset".toList)
    (h : ∀ c ∈ chars, Token.isTokenChar c = true) :
    tokenValue? name chars = some ⟨name, chars, name ++ '=' :: chars, []⟩ := by
  simp only [tokenValue?, takeWhile_eq_self h, dropWhile_eq_nil h, if_neg hname]

/-- The parameter is read up to the end, where nothing follows it. -/
theorem parameter?_boundary (h : ∀ c ∈ boundary.toList, c.isAlphanum = true) :
    parameter? ("boundary=".toList ++ boundary.toList) =
      some ⟨"boundary".toList, boundary.toList, "boundary=".toList ++ boundary.toList, []⟩ := by
  have hname : lower (("boundary=".toList ++ boundary.toList).takeWhile Token.isTokenChar) =
      "boundary".toList := rfl
  have hrest : ("boundary=".toList ++ boundary.toList).dropWhile Token.isTokenChar =
      '=' :: boundary.toList := rfl
  rw [parameter?, hname, hrest, if_neg (by decide)]
  have htoken : ∀ c ∈ boundary.toList, Token.isTokenChar c = true :=
    fun c hc => Token.isTokenChar_of_isAlphanum (h c hc)
  split
  next heq =>
    have hquote : '\x22' ∈ boundary.toList := (List.cons.inj heq).2 ▸ List.mem_cons_self
    exact absurd (h _ hquote) (by decide)
  next rest heq =>
    obtain rfl := (List.cons.inj heq).2
    rw [tokenValue?_of_token (by decide) htoken]
    rfl
  next hother => exact absurd rfl (hother boundary.toList)

/-- It is the only one. The blank before it is skipped, and then one turn reads it and another one
finds the end. -/
theorem parameters?_boundary (h : ∀ c ∈ boundary.toList, c.isAlphanum = true) (turns : Nat) :
    ∃ text, parameters? (turns + 2) (' ' :: ("boundary=".toList ++ boundary.toList)) =
      some ([("boundary", boundary)], text) := by
  have hblank : (' ' :: ("boundary=".toList ++ boundary.toList)).dropWhile (· = ' ') =
      "boundary=".toList ++ boundary.toList := rfl
  rw [parameters?, hblank]
  split
  next hnil => cases hnil
  next =>
    rw [parameter?_boundary h]
    simp only [parameters?, List.dropWhile_nil, Option.map_some, String.ofList_toList]
    exact ⟨_, rfl⟩

/-- **The boundary of a form is read from its media type**, in the case of letters in which it is
written. -/
theorem boundary?_parse? (h : ∀ c ∈ boundary.toList, c.isAlphanum = true) :
    (parse? ("multipart/form-data; boundary=" ++ boundary)).bind boundary? = some boundary := by
  have hchars : ("multipart/form-data; boundary=" ++ boundary).toList =
      "multipart/form-data; boundary=".toList ++ boundary.toList := String.toList_append
  -- what comes before the boundary is fixed, and the reader runs on it
  have htop : ("multipart/form-data; boundary=".toList ++ boundary.toList).takeWhile
      Token.isTokenChar = "multipart".toList := rfl
  have hrest : ("multipart/form-data; boundary=".toList ++ boundary.toList).dropWhile
      Token.isTokenChar = '/' :: ("form-data; boundary=".toList ++ boundary.toList) := rfl
  have hsub : ("form-data; boundary=".toList ++ boundary.toList).takeWhile
      Token.isTokenChar = "form-data".toList := rfl
  have hafter : ("form-data; boundary=".toList ++ boundary.toList).dropWhile
      Token.isTokenChar = ';' :: ' ' :: ("boundary=".toList ++ boundary.toList) := rfl
  obtain ⟨text, hparameters⟩ :=
    parameters?_boundary h ("boundary=".toList ++ boundary.toList).length
  have htopLevel : (lower "multipart".toList).isEmpty = false := by decide
  have hsubtype : (lower "form-data".toList).isEmpty = false := by decide
  rw [parse?, hchars, htop, hrest, htopLevel, if_neg Bool.false_ne_true]
  simp only [hsub, hafter, List.length_cons, hparameters, hsubtype, Option.map_some]
  rfl

/-! ## Media types of parts -/

/-- The characters of a media type are visible. -/
theorem visible_essence (htop : IsWord topLevel) (hsub : IsWord subtype) :
    ∀ c ∈ (topLevel ++ "/" ++ subtype).toList, 33 ≤ c.toNat ∧ c.toNat < 127 := by
  intro c hc
  rw [String.toList_append, String.toList_append, List.mem_append, List.mem_append] at hc
  rcases hc with (hc | hc) | hc
  · have hcode := code_of_isLower (htop.2 c hc)
    omega
  · obtain rfl : c = '/' := List.mem_singleton.mp hc
    decide
  · have hcode := code_of_isLower (hsub.2 c hc)
    omega

end MediaType

/-! ## Texts in headers

Of the bytes that may stand in a header only those of ASCII are read as text. Each is its own
character there, so a value is read as the text of which it is the encoding. -/

namespace HeaderValue

/-- A character that may stand in a text in a header: a tab, a space or visible ASCII. -/
def IsTextChar (c : Char) : Prop :=
  c = '\t' ∨ 0x20 ≤ c.toNat ∧ c.toNat < 0x7F

/-- Such a character belongs to ASCII. -/
theorem IsTextChar.toNat_lt {c : Char} (h : IsTextChar c) : c.toNat < 128 := by
  rcases h with rfl | ⟨-, hlt⟩
  · decide
  · exact Nat.lt_succ_of_lt hlt

/-- A text that may stand in a header is read from there. -/
theorem text?_encode {s : String} (h : ∀ c ∈ s.toList, IsTextChar c) :
    text? (Utf8.encode s) = some s := by
  have hascii : Utf8.IsAscii s := fun c hc => (h c hc).toNat_lt
  have hbyte : ∀ n < 0x7F, 0x20 ≤ n → isVisible (UInt8.ofNat n) = true := by decide
  have hvisible : (Utf8.encode s).all isVisible = true := by
    refine List.all_eq_true.mpr (Utf8.forall_mem_encode_of_ascii hascii fun c hc => ?_)
    rcases h c hc with rfl | ⟨hle, hlt⟩
    · decide
    · exact hbyte c.toNat hlt hle
  rw [text?, if_pos hvisible, Utf8.map_encode_of_ascii hascii, String.ofList_toList]

/-- A byte that is visible is that of a character that may stand in a text. -/
theorem isTextChar_of_isVisible {b : UInt8} (h : isVisible b = true) :
    b.toNat < 128 ∧ IsTextChar (Char.ofNat b.toNat) := by
  rw [isVisible, Bool.or_eq_true, Bool.and_eq_true, decide_eq_true_eq, decide_eq_true_eq,
    decide_eq_true_eq, UInt8.le_iff_toNat_le, UInt8.lt_iff_toNat_lt] at h
  rcases h with rfl | ⟨hle, hlt⟩
  · exact ⟨by decide, .inl rfl⟩
  · have hascii : b.toNat < 128 := Nat.lt_succ_of_lt hlt
    refine ⟨hascii, .inr ?_⟩
    rw [Utf8.toNat_ofNat_of_lt hascii]
    exact ⟨hle, hlt⟩

/-- **A value is read as the text that it encodes**, if that may stand in a header. -/
theorem text?_eq_some_iff {value : Bytes} {s : String} :
    text? value = some s ↔ value = Utf8.encode s ∧ ∀ c ∈ s.toList, IsTextChar c := by
  constructor
  · intro h
    rw [text?] at h
    split at h
    next hvisible =>
      obtain rfl := Option.some.inj h
      have hbytes := fun b hb => isTextChar_of_isVisible (List.all_eq_true.mp hvisible b hb)
      rw [Utf8.encode_map_of_lt fun b hb => (hbytes b hb).1, String.toList_ofList,
        List.forall_mem_map]
      exact ⟨rfl, fun b hb => (hbytes b hb).2⟩
    next => cases h
  · rintro ⟨rfl, htext⟩
    exact text?_encode htext

end HeaderValue

/-! ## Texts of parts

A mark at the front of a text would be taken for one that says how the bytes are ordered, and
removed. Apart from that, what has been encoded is decoded as it was. -/

namespace Charset

/-- **A text comes back** as long as it does not open with a byte order mark, which would be taken
off. Marks further on in it are characters like others. -/
theorem decode_encode {s : String} (h : s.toList.head? ≠ some '\uFEFF') :
    decode .utf8 (Utf8.encode s) = s := by
  have hplain : decodeUnmarked .utf8 (Utf8.encode s) = s := Utf8.decodeLossy_encode s
  unfold decode
  split
  next rest heq =>
    -- the three bytes of the mark encode one character, and the text does not begin with it
    have hmark : 0xEF :: 0xBB :: 0xBF :: rest = String.utf8EncodeChar '\uFEFF' ++ rest := rfl
    rw [Utf8.encode] at heq
    rcases hchars : s.toList with _ | ⟨c, chars⟩
    · rw [hchars] at heq
      cases heq
    · rw [hchars, List.flatMap_cons, hmark] at heq
      have hc : c = '\uFEFF' := Utf8.eq_of_encodeChar_append_eq heq
      exact absurd (by rw [hchars, hc]; rfl) h
  next rest heq =>
    exact absurd (Utf8.lt_of_mem_encode (heq ▸ List.mem_cons_self)) (by decide)
  next rest heq =>
    exact absurd (Utf8.lt_of_mem_encode (heq ▸ List.mem_cons_self)) (by decide)
  next => exact hplain

end Charset

end ActionGateway
