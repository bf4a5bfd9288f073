import ActionGateway.Form.UrlEncoded
import ActionGateway.Proofs.Cutting
import ActionGateway.Proofs.Utf8

/-!
# Texts come back from their URL encoding

Decoding undoes encoding byte by byte: what stands for one byte is read as that byte
(`UrlEncoded.percentDecodeFrom_escape`), so an encoded text is read as that text
(`UrlEncoded.decode_encode`). What is encoded holds none of the characters that separate the parts
of a query or of an address (`UrlEncoded.not_separator_of_mem_encode`), and so a pair of an encoded
name and an encoded value is read as that pair (`UrlEncoded.parse_pair`).

The encoder works on bytes, and its result is a text of ASCII; the decoder works on the bytes of
that text. So the statements go from a byte to its escape, from the bytes of a text to the escaped
ones, and then to the texts themselves.
-/

namespace ActionGateway

namespace UrlEncoded

/-! ## Encoding -/

/-- The bytes that stand for a byte. -/
def escape (b : UInt8) : Bytes :=
  (encodeByte b).flatMap String.utf8EncodeChar

/-- The bytes of an encoded text are the escapes of the bytes of the text. -/
theorem utf8_encode_encode (s : String) :
    Utf8.encode (encode s) = (Utf8.encode s).flatMap escape := by
  rw [encode, Utf8.encode_ofList, List.flatMap_assoc]
  rfl

/-! ## What stands for a byte

A byte is plain and stands for itself, or it is the space and stands as a plus, or it is escaped by
a percent sign and two digits. -/

/-- Plain bytes are of ASCII. -/
theorem toNat_lt_of_plain {b : UInt8} (h : isPlain b = true) : b.toNat < 128 := by
  simp only [isPlain, Bool.or_eq_true, Bool.and_eq_true, decide_eq_true_eq,
    UInt8.le_iff_toNat_le] at h
  rcases h with (((((⟨-, h⟩ | ⟨-, h⟩) | ⟨-, h⟩) | rfl) | rfl) | rfl) | rfl
  · exact Nat.lt_of_le_of_lt h (by decide)
  · exact Nat.lt_of_le_of_lt h (by decide)
  · exact Nat.lt_of_le_of_lt h (by decide)
  · decide
  · decide
  · decide
  · decide

/-- So each is the code of its character. -/
theorem toNat_ofNat_of_plain {b : UInt8} (h : isPlain b = true) :
    (Char.ofNat b.toNat).toNat = b.toNat :=
  Utf8.toNat_ofNat_of_lt (toNat_lt_of_plain h)

/-- A plain byte stands for itself. -/
theorem escape_of_plain {b : UInt8} (h : isPlain b = true) : escape b = [b] := by
  have hvalue := toNat_ofNat_of_plain h
  rw [escape, encodeByte, if_pos h, List.flatMap_singleton,
    Utf8.encodeChar_of_lt (by rw [hvalue]; exact toNat_lt_of_plain h), hvalue, UInt8.ofNat_toNat]

/-- A space stands as a plus. -/
theorem escape_space : escape 0x20 = [0x2B] := by
  decide

/-- A digit of a byte that is escaped. -/
theorem value?_upper : ∀ n < 16, ∃ b, String.utf8EncodeChar (Hex.upper n) = [b] ∧ b ≠ 0x2B ∧
    Hex.value? b = some n := by
  intro n hn
  have hlt : (Hex.upper n).toNat < 128 := by
    revert n
    decide
  refine ⟨_, Utf8.encodeChar_of_lt hlt, ?_⟩
  revert n
  decide

/-- Any other byte stands as a percent sign and the two digits of its code, none of which is a plus.
-/
theorem escape_of_not_plain {b : UInt8} (hplain : isPlain b = false) (hspace : b ≠ 0x20) :
    ∃ high low, escape b = [0x25, high, low] ∧ (high ≠ 0x2B ∧ low ≠ 0x2B) ∧
      Hex.value? high = some (b.toNat / 16) ∧ Hex.value? low = some (b.toNat % 16) := by
  have hb : b.toNat < 256 := b.toNat_lt
  obtain ⟨high, hhigh, hhighPlus, hhighValue⟩ := value?_upper (b.toNat / 16) (by omega)
  obtain ⟨low, hlow, hlowPlus, hlowValue⟩ := value?_upper (b.toNat % 16) (by omega)
  refine ⟨high, low, ?_, ⟨hhighPlus, hlowPlus⟩, hhighValue, hlowValue⟩
  rw [escape, encodeByte, hplain, if_neg Bool.false_ne_true, if_neg hspace, List.flatMap_cons,
    List.flatMap_cons, List.flatMap_cons, hhigh, hlow]
  rfl

/-! ## Decoding

The decoder first makes spaces of all pluses and then reads the escapes, with what it has read in
reverse. As a plus in the text is itself escaped, the first step does no harm to it. -/

/-- A byte other than a percent sign is read as itself. -/
theorem percentDecodeFrom_cons {b : UInt8} (h : b ≠ 0x25) (acc rest : Bytes) :
    percentDecodeFrom acc (b :: rest) = percentDecodeFrom (b :: acc) rest := by
  rw [percentDecodeFrom.eq_def]
  exact if_neg h

/-- Without a percent sign nothing is escaped. -/
theorem percentDecode_of_not_mem {bytes : Bytes} (h : 0x25 ∉ bytes) :
    percentDecode bytes = bytes := by
  have hfrom : ∀ (bytes acc : Bytes), 0x25 ∉ bytes →
      percentDecodeFrom acc bytes = acc.reverse ++ bytes := by
    intro bytes
    induction bytes with
    | nil => intro acc _; exact (List.append_nil _).symm
    | cons b rest ih =>
      intro acc h
      obtain ⟨hb, hrest⟩ := List.ne_and_not_mem_of_not_mem_cons h
      rw [percentDecodeFrom_cons hb.symm, ih _ hrest, List.reverse_cons, List.append_assoc,
        List.singleton_append]
  exact hfrom bytes [] h

/-- Each byte is looked at by itself. -/
theorem plusToSpace_append (bytes rest : Bytes) :
    plusToSpace (bytes ++ rest) = plusToSpace bytes ++ plusToSpace rest :=
  List.map_append

/-- **What stands for a byte is read as that byte.** -/
theorem percentDecodeFrom_escape (b : UInt8) (acc rest : Bytes) :
    percentDecodeFrom acc (plusToSpace (escape b) ++ rest) = percentDecodeFrom (b :: acc) rest := by
  -- a plus is escaped itself, so every plus that is met stands for a space
  by_cases hplain : isPlain b = true
  · have hpercent : b ≠ 0x25 := by rintro rfl; exact absurd hplain (by decide)
    have hplus : b ≠ 0x2B := by rintro rfl; exact absurd hplain (by decide)
    have hkept : plusToSpace [b] = [b] := by rw [plusToSpace, List.map_singleton, if_neg hplus]
    rw [escape_of_plain hplain, hkept, List.singleton_append, percentDecodeFrom_cons hpercent]
  by_cases hspace : b = 0x20
  · subst hspace
    rw [escape_space]
    exact percentDecodeFrom_cons (by decide) acc rest
  · obtain ⟨high, low, hescape, hplus, hhigh, hlow⟩ :=
      escape_of_not_plain (Bool.eq_false_iff.mpr hplain) hspace
    have hkept : plusToSpace [0x25, high, low] = [0x25, high, low] := by
      simp [plusToSpace, hplus.1, hplus.2]
    have hvalue : UInt8.ofNat (b.toNat / 16 * 16 + b.toNat % 16) = b := by
      rw [Nat.div_add_mod', UInt8.ofNat_toNat]
    rw [hescape, hkept]
    simp only [List.cons_append, List.nil_append, percentDecodeFrom, hhigh, hlow, hvalue, if_true]

/-- The escapes of bytes are read as these bytes. -/
theorem percentDecode_flatMap_escape (bytes : Bytes) :
    percentDecode (plusToSpace (bytes.flatMap escape)) = bytes := by
  have hfrom : ∀ (bytes acc : Bytes),
      percentDecodeFrom acc (plusToSpace (bytes.flatMap escape)) = acc.reverse ++ bytes := by
    intro bytes
    induction bytes with
    | nil => intro acc; exact (List.append_nil _).symm
    | cons b rest ih =>
      intro acc
      rw [List.flatMap_cons, plusToSpace_append, percentDecodeFrom_escape, ih, List.reverse_cons,
        List.append_assoc, List.singleton_append]
  exact hfrom bytes []

/-- **An encoded text is read as that text.** It may be any text: what is not plain is escaped byte
by byte, and the bytes of the escapes are again those of the text. -/
@[simp] theorem decode_encode (s : String) : decode (Utf8.encode (encode s)) = s := by
  rw [decode, utf8_encode_encode, percentDecode_flatMap_escape, Utf8.decodeLossy_encode]

/-- Different texts are encoded differently. -/
theorem encode_injective {s t : String} (h : encode s = encode t) : s = t := by
  rw [← decode_encode s, h, decode_encode]

/-! ## Separators

A query is split at its separators before it is decoded. A name and a value may hold them, but what
is written for the two does not. -/

/-- The characters that separate pairs, a name from its value, and a query from what follows. -/
def separators : List Char :=
  ['&', '=', '#']

/-- **No separator stands in what is encoded**, and nothing beyond ASCII. -/
theorem not_separator_of_mem_encode {s : String} {c : Char} (h : c ∈ (encode s).toList) :
    c ∉ separators ∧ c.toNat < 128 := by
  rw [encode, String.toList_ofList, List.mem_flatMap] at h
  obtain ⟨b, -, hc⟩ := h
  have hb : b.toNat < 256 := b.toNat_lt
  -- of the three ways in which a byte can stand, the last one needs the digits
  have hdigit : ∀ n < 16, Hex.upper n ∉ separators ∧ (Hex.upper n).toNat < 128 := by decide
  rw [encodeByte] at hc
  split at hc
  next hplain =>
    have hvalue : c.toNat = b.toNat := by
      rw [List.mem_singleton.mp hc]
      exact toNat_ofNat_of_plain hplain
    refine ⟨fun hmem => ?_, hvalue ▸ toNat_lt_of_plain hplain⟩
    have hseparator : ∀ d ∈ separators, isPlain (UInt8.ofNat d.toNat) = false := by
      simp only [separators, List.forall_mem_cons]
      exact ⟨rfl, rfl, rfl, fun d hd => absurd hd List.not_mem_nil⟩
    have hnot := hseparator c hmem
    rw [hvalue, UInt8.ofNat_toNat, hplain] at hnot
    cases hnot
  split at hc
  next =>
    obtain rfl := List.mem_singleton.mp hc
    decide
  next =>
    simp only [List.mem_cons, List.not_mem_nil, or_false] at hc
    rcases hc with rfl | rfl | rfl
    · decide
    · exact hdigit _ (by omega)
    · exact hdigit _ (by omega)

/-- Bytes without the separator are one piece. -/
theorem split_of_not_mem {separator : UInt8} {bytes : Bytes} (h : separator ∉ bytes) :
    split separator bytes = [bytes] := by
  have hfrom : ∀ (bytes piece : Bytes), separator ∉ bytes →
      splitFrom separator [] piece bytes = [piece.reverse ++ bytes] := by
    intro bytes
    induction bytes with
    | nil => intro piece _; rw [List.append_nil]; rfl
    | cons b rest ih =>
      intro piece h
      obtain ⟨hb, hrest⟩ := List.ne_and_not_mem_of_not_mem_cons h
      rw [splitFrom, if_neg hb.symm, ih _ hrest, List.reverse_cons, List.append_assoc,
        List.singleton_append]
  exact hfrom bytes [] h

/-- The first separator splits a pair. -/
theorem splitFirst_append {separator : UInt8} {before : Bytes} (h : separator ∉ before)
    (after : Bytes) : splitFirst separator (before ++ separator :: after) = (before, after) := by
  rw [splitFirst, Text.takeWhile_ne_append h, Text.dropWhile_ne_append h]
  rfl

/-- **A pair is read from its encoded name and its encoded value.** Neither holds a separator, so
the one `=` is that between them; both may be empty. -/
theorem parse_pair (name value : String) :
    parse (Utf8.encode (encode name ++ "=" ++ encode value)) = [(name, value)] := by
  have hequals : Utf8.encode "=" = [0x3D] := by decide
  rw [Utf8.encode_append, Utf8.encode_append, hequals, List.append_assoc, List.singleton_append]
  have hseparator {c : Char} (hc : c ∈ separators) (hascii : c.toNat < 128) (s : String) :
      UInt8.ofNat c.toNat ∉ Utf8.encode (encode s) := fun hmem =>
    (not_separator_of_mem_encode (Utf8.mem_of_mem_encode hascii hmem)).1 hc
  have hname : 0x3D ∉ Utf8.encode (encode name) :=
    hseparator (c := '=') (by decide) (by decide) name
  have hpiece : 0x26 ∉ Utf8.encode (encode name) ++ 0x3D :: Utf8.encode (encode value) := by
    have hamp := hseparator (c := '&') (by decide) (by decide)
    rw [List.mem_append, List.mem_cons, not_or, not_or]
    exact ⟨hamp name, by decide, hamp value⟩
  have hpair : decodePair (Utf8.encode (encode name) ++ 0x3D :: Utf8.encode (encode value)) =
      (name, value) := by
    simp only [decodePair, splitFirst_append hname, decode_encode]
  rw [parse, split_of_not_mem hpiece, List.filter_cons_of_pos (by simp), List.filter_nil,
    List.map_singleton, hpair]

end UrlEncoded

end ActionGateway
