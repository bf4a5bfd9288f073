import ActionGateway.Text.Utf8

/-!
# Texts come back from their bytes

The decoder undoes the encoder: read byte by byte, the UTF-8 form of a character takes the decoder
from between characters to between characters, and adds that character and nothing else
(`Utf8.foldl_step_encodeChar`). So the pieces of an encoded text are its characters, and both ways
of reading bytes give the text back (`Utf8.decode?_encode`, `Utf8.decodeLossy_encode`).

The encoder also keeps the **order**: texts that are sorted character by character are sorted byte
by byte (`Utf8.encode_lt_encode`). No encoding of a character begins another one, so the first
character in which two texts differ decides for their bytes as well.
-/

namespace ActionGateway

namespace Utf8

/-! ## Encoding

A character has one byte to four. It is the first byte that says how many, and the others are from
0x80 up; so a byte of ASCII is never a part of another character. -/

/-- Texts are encoded one after the other. -/
@[simp] theorem encode_append (s t : String) : encode (s ++ t) = encode s ++ encode t := by
  rw [encode, String.toList_append, List.flatMap_append, encode, encode]

/-- The bytes of a text are those of its characters. -/
theorem encode_ofList (chars : List Char) :
    encode (String.ofList chars) = chars.flatMap String.utf8EncodeChar := by
  rw [encode, String.toList_ofList]

/-- An ASCII character is one byte. -/
theorem encodeChar_of_lt {c : Char} (h : c.toNat < 128) :
    String.utf8EncodeChar c = [UInt8.ofNat c.toNat] := by
  have hle : c.val.toNat ≤ 127 := Nat.le_of_lt_succ h
  simp only [String.utf8EncodeChar, if_pos hle]
  rfl

/-- A character beyond ASCII has no ASCII bytes. -/
theorem le_of_mem_encodeChar {c : Char} (h : 128 ≤ c.toNat) {b : UInt8}
    (hb : b ∈ String.utf8EncodeChar c) : 128 ≤ b.toNat := by
  have hv : 128 ≤ c.val.toNat := h
  simp only [String.utf8EncodeChar] at hb
  generalize c.val.toNat = v at hv hb
  have hbyte (n : Nat) (hn : 128 ≤ n ∧ n < 256) : 128 ≤ (UInt8.ofNat n).toNat := by
    rw [UInt8.toNat_ofNat_of_lt' hn.2]
    exact hn.1
  split at hb
  · omega
  split at hb
  · simp only [List.mem_cons, List.not_mem_nil, or_false] at hb
    rcases hb with rfl | rfl <;> exact hbyte _ (by omega)
  split at hb
  · simp only [List.mem_cons, List.not_mem_nil, or_false] at hb
    rcases hb with rfl | rfl | rfl <;> exact hbyte _ (by omega)
  · simp only [List.mem_cons, List.not_mem_nil, or_false] at hb
    rcases hb with rfl | rfl | rfl | rfl <;> exact hbyte _ (by omega)

/-- Bytes from 0xF8 up are in no text. -/
theorem lt_of_mem_encode {s : String} {b : UInt8} (h : b ∈ encode s) : b.toNat < 248 := by
  have hbyte (n : Nat) (hn : n < 248) : (UInt8.ofNat n).toNat < 248 := by
    rw [UInt8.toNat_ofNat_of_lt' (Nat.lt_trans hn (by decide))]
    exact hn
  rw [encode, List.mem_flatMap] at h
  obtain ⟨c, -, hb⟩ := h
  simp only [String.utf8EncodeChar] at hb
  generalize c.val.toNat = v at hb
  (repeat' split at hb) <;> simp only [List.mem_cons, List.not_mem_nil, or_false] at hb
  · exact hb ▸ hbyte _ (by omega)
  · rcases hb with rfl | rfl <;> exact hbyte _ (by omega)
  · rcases hb with rfl | rfl | rfl <;> exact hbyte _ (by omega)
  · rcases hb with rfl | rfl | rfl | rfl <;> exact hbyte _ (by omega)

/-- A byte of ASCII stands for its character alone. -/
theorem toNat_of_mem_encodeChar {c : Char} {b : UInt8} (h : b ∈ String.utf8EncodeChar c)
    (hb : b.toNat < 128) : c.toNat = b.toNat := by
  have hc : c.toNat < 128 := by
    refine Nat.lt_of_not_le fun hle => ?_
    exact absurd (le_of_mem_encodeChar hle h) (Nat.not_le.mpr hb)
  rw [encodeChar_of_lt hc, List.mem_singleton] at h
  rw [h, UInt8.toNat_ofNat_of_lt' (Nat.lt_trans hc (by decide))]

/-- Bytes of ASCII are in a text where their characters are. -/
theorem mem_of_mem_encode {s : String} {c : Char} (hc : c.toNat < 128)
    (h : UInt8.ofNat c.toNat ∈ encode s) : c ∈ s.toList := by
  have hbyte : (UInt8.ofNat c.toNat).toNat = c.toNat :=
    UInt8.toNat_ofNat_of_lt' (Nat.lt_trans hc (by decide))
  rw [encode, List.mem_flatMap] at h
  obtain ⟨d, hd, hmem⟩ := h
  have hvalue := toNat_of_mem_encodeChar hmem (by rwa [hbyte])
  rw [hbyte] at hvalue
  exact Char.toNat_inj.mp hvalue ▸ hd

/-! ## ASCII

A text of ASCII is the same list of numbers in characters and in bytes. Headers, media types and
numerals are such texts, so what is proved of their characters is carried over to their bytes, and
back. -/

/-- All characters of the text are of ASCII. -/
def IsAscii (s : String) : Prop :=
  ∀ c ∈ s.toList, c.toNat < 128

instance (s : String) : Decidable (IsAscii s) :=
  decidable_of_iff (s.toList.all fun c => c.toNat < 128)
    (List.all_eq_true.trans (forall₂_congr fun _ _ => decide_eq_true_iff))

/-- A text of ASCII has one byte for each character. -/
theorem encode_of_ascii {s : String} (h : IsAscii s) :
    encode s = s.toList.map fun c => UInt8.ofNat c.toNat := by
  rw [encode]
  unfold IsAscii at h
  generalize s.toList = chars at h ⊢
  induction chars with
  | nil => rfl
  | cons c rest ih =>
    rw [List.forall_mem_cons] at h
    rw [List.flatMap_cons, List.map_cons, encodeChar_of_lt h.1, ih h.2, List.singleton_append]

/-- The byte of a character of ASCII stands for that character. -/
theorem ofNat_toNat_of_ascii {c : Char} (h : c.toNat < 128) :
    Char.ofNat (UInt8.ofNat c.toNat).toNat = c := by
  rw [UInt8.toNat_ofNat_of_lt' (Nat.lt_trans h (by decide)), Char.ofNat_toNat]

/-- Read one byte after the other, a text of ASCII comes back. -/
theorem map_encode_of_ascii {s : String} (h : IsAscii s) :
    (encode s).map (fun b => Char.ofNat b.toNat) = s.toList := by
  have hsame : (s.toList.map fun c => Char.ofNat (UInt8.ofNat c.toNat).toNat) = s.toList.map id :=
    List.map_congr_left fun c hc => ofNat_toNat_of_ascii (h c hc)
  rw [encode_of_ascii h, List.map_map]
  exact hsame.trans (List.map_id s.toList)

/-- A number below 128 is the code of a character. -/
theorem toNat_ofNat_of_lt {n : Nat} (h : n < 128) : (Char.ofNat n).toNat = n := by
  have hvalid : n.isValidChar := .inl (Nat.lt_trans h (by decide))
  rw [Char.ofNat, dif_pos hvalid]
  rfl

/-- Bytes of ASCII come back when they are taken for characters. -/
theorem encode_map_of_lt {bytes : Bytes} (h : ∀ b ∈ bytes, b.toNat < 128) :
    encode (String.ofList (bytes.map fun b => Char.ofNat b.toNat)) = bytes := by
  have hascii : IsAscii (String.ofList (bytes.map fun b => Char.ofNat b.toNat)) := by
    rw [IsAscii, String.toList_ofList, List.forall_mem_map]
    exact fun b hb => (toNat_ofNat_of_lt (h b hb)).symm ▸ h b hb
  have hsame : (bytes.map fun b => UInt8.ofNat (Char.ofNat b.toNat).toNat) = bytes.map id :=
    List.map_congr_left fun b hb => by rw [toNat_ofNat_of_lt (h b hb), UInt8.ofNat_toNat, id]
  rw [encode_of_ascii hascii, String.toList_ofList, List.map_map]
  exact hsame.trans (List.map_id bytes)

/-- What holds for the codes of the characters of a text of ASCII holds of its bytes. -/
theorem forall_mem_encode_of_ascii {s : String} (h : IsAscii s) {p : UInt8 → Prop}
    (hp : ∀ c ∈ s.toList, p (UInt8.ofNat c.toNat)) : ∀ b ∈ encode s, p b := by
  rw [encode_of_ascii h]
  exact List.forall_mem_map.mpr hp

/-- A text of ASCII holds another one where its bytes do. -/
theorem encode_infix_iff {s t : String} (hs : IsAscii s) (ht : IsAscii t) :
    encode s <:+: encode t ↔ s.toList <:+: t.toList := by
  constructor
  · intro h
    rw [← map_encode_of_ascii hs, ← map_encode_of_ascii ht]
    exact h.map fun b => Char.ofNat b.toNat
  · intro h
    rw [encode_of_ascii hs, encode_of_ascii ht]
    exact h.map fun c => UInt8.ofNat c.toNat

/-! ## First bytes

What the decoder makes of a first byte: it is a whole character, or it begins one of two bytes, of
three, or of four. There are few such bytes, so they are gone through. -/

/-- A byte of ASCII is a whole character. -/
theorem lead_one : ∀ n < 128, lead (UInt8.ofNat n) = .whole (Char.ofNat n) := by
  decide

/-- These begin a character of two bytes. The first two of their row would begin one that has a
shorter form. -/
theorem lead_two : ∀ n < 32, 2 ≤ n →
    lead (UInt8.ofNat (n + 192)) = .begins ⟨1, 1, 0x80, 0xBF, n⟩ := by
  decide

/-- These begin a character of three bytes, where the second one is bounded for shorter forms and
for surrogates. -/
theorem lead_three : ∀ n < 16, lead (UInt8.ofNat (n + 224)) =
    .begins ⟨1, 2, if n = 0 then 0xA0 else 0x80, if n = 13 then 0x9F else 0xBF, n⟩ := by
  decide

/-- These begin a character of four bytes, where the second one is bounded for shorter forms and for
what lies beyond all characters. -/
theorem lead_four : ∀ n < 5, lead (UInt8.ofNat (n + 240)) =
    .begins ⟨1, 3, if n = 0 then 0x90 else 0x80, if n = 4 then 0x8F else 0xBF, n⟩ := by
  decide

/-! ## Decoding what was encoded

A step of the decoder takes one byte. Between characters it looks at a first byte, and within one it
takes the next six bits, if the byte lies in the range that is expected; so the steps on the bytes
of a character put its code together again. -/

section

variable {α : Type} {take : α → Piece → α} {result : α}

/-- Between characters, a whole one is taken. -/
theorem step_of_whole {b : UInt8} {c : Char} (h : lead b = .whole c) :
    Decoder.step take ⟨none, result⟩ b = ⟨none, take result (.char c)⟩ := by
  simp only [Decoder.step, Decoder.start, h]

/-- Between characters, another one is begun. -/
theorem step_of_begins {b : UInt8} {begun : Begun} (h : lead b = .begins begun) :
    Decoder.step take ⟨none, result⟩ b = ⟨some begun, result⟩ := by
  simp only [Decoder.step, Decoder.start, h]

/-- A byte that continues a character adds six bits to it. -/
theorem step_of_continues {begun : Begun} {n : Nat} (hn : n < 64)
    (hlow : begun.low.toNat ≤ n + 128) (hhigh : n + 128 ≤ begun.high.toNat) :
    Decoder.step take ⟨some begun, result⟩ (UInt8.ofNat (n + 128)) =
      if begun.missing = 1 then ⟨none, take result (.char (Char.ofNat (begun.value * 64 + n)))⟩
      else ⟨some ⟨begun.seen + 1, begun.missing - 1, 0x80, 0xBF, begun.value * 64 + n⟩,
        result⟩ := by
  have hbyte : (UInt8.ofNat (n + 128)).toNat = n + 128 :=
    UInt8.toNat_ofNat_of_lt' (Nat.lt_of_lt_of_le (Nat.add_lt_add_right hn 128) (by decide))
  have hrange : begun.low ≤ UInt8.ofNat (n + 128) ∧ UInt8.ofNat (n + 128) ≤ begun.high := by
    rw [UInt8.le_iff_toNat_le, UInt8.le_iff_toNat_le, hbyte]
    exact ⟨hlow, hhigh⟩
  simp only [Decoder.step, if_pos hrange, hbyte, Nat.add_sub_cancel]

/-- **The bytes of a character are read as that character**, and the decoder is between characters
again. The four cases are those of the length; in each the value is put together from the bits of
its bytes. -/
theorem foldl_step_encodeChar (take : α → Piece → α) (result : α) (c : Char) :
    (String.utf8EncodeChar c).foldl (Decoder.step take) ⟨none, result⟩ =
      ⟨none, take result (.char c)⟩ := by
  have hc : Char.ofNat c.val.toNat = c := Char.ofNat_toNat c
  have hvalid : c.val.toNat < 0xD800 ∨ 0xDFFF < c.val.toNat ∧ c.val.toNat < 0x110000 := c.valid
  simp only [String.utf8EncodeChar]
  generalize c.val.toNat = v at hc hvalid
  split
  next hone =>
    rw [List.foldl_cons, List.foldl_nil, step_of_whole (lead_one v (by omega)), hc]
  next hone =>
    split
    next htwo =>
      have hvalue : v / 64 % 32 * 64 + v % 64 = v := by omega
      rw [List.foldl_cons, List.foldl_cons, List.foldl_nil,
        step_of_begins (lead_two _ (by omega) (by omega)),
        step_of_continues (by omega) (by simp) (by simp; omega)]
      simp only [hvalue, hc, if_true]
    next htwo =>
      split
      next hthree =>
        -- the range of the second byte keeps overlong forms and surrogates out
        have hlow : (if v / 4096 % 16 = 0 then (0xA0 : UInt8) else 0x80).toNat ≤
            v / 64 % 64 + 128 := by
          split <;> simp
          omega
        have hhigh : v / 64 % 64 + 128 ≤
            (if v / 4096 % 16 = 13 then (0x9F : UInt8) else 0xBF).toNat := by
          split <;> (simp; omega)
        have hvalue : (v / 4096 % 16 * 64 + v / 64 % 64) * 64 + v % 64 = v := by omega
        rw [List.foldl_cons, List.foldl_cons, List.foldl_cons, List.foldl_nil,
          step_of_begins (lead_three _ (by omega)), step_of_continues (by omega) hlow hhigh,
          if_neg (by simp), step_of_continues (by omega) (by simp) (by simp; omega)]
        simp only [hvalue, hc, Nat.add_one_sub_one, if_true]
      next hthree =>
        have hlow : (if v / 262144 % 8 = 0 then (0x90 : UInt8) else 0x80).toNat ≤
            v / 4096 % 64 + 128 := by
          split <;> simp
          omega
        have hhigh : v / 4096 % 64 + 128 ≤
            (if v / 262144 % 8 = 4 then (0x8F : UInt8) else 0xBF).toNat := by
          split <;> (simp; omega)
        have hvalue :
            ((v / 262144 % 8 * 64 + v / 4096 % 64) * 64 + v / 64 % 64) * 64 + v % 64 = v := by
          omega
        rw [List.foldl_cons, List.foldl_cons, List.foldl_cons, List.foldl_cons, List.foldl_nil,
          step_of_begins (lead_four _ (by omega)), step_of_continues (by omega) hlow hhigh,
          if_neg (by simp), step_of_continues (by omega) (by simp) (by simp; omega),
          if_neg (by simp), step_of_continues (by omega) (by simp) (by simp; omega)]
        simp only [hvalue, hc, Nat.add_one_sub_one, if_true]

/-- **A text that was encoded is read as its characters.** No stray run occurs, so every way of
reading comes to a fold over the characters. -/
theorem foldPieces_encode (take : α → Piece → α) (result : α) (s : String) :
    foldPieces take result (encode s) =
      s.toList.foldl (fun result c => take result (.char c)) result := by
  have hfold : ∀ (chars : List Char) (result : α),
      (chars.flatMap String.utf8EncodeChar).foldl (Decoder.step take) ⟨none, result⟩ =
        ⟨none, chars.foldl (fun result c => take result (.char c)) result⟩ := by
    intro chars
    -- the induction is on the characters, between which the decoder holds nothing
    induction chars with
    | nil => intro result; rfl
    | cons c rest ih =>
      intro result
      rw [List.flatMap_cons, List.foldl_append, foldl_step_encodeChar, ih, List.foldl_cons]
  rw [foldPieces, encode, hfold]
  rfl

end

/-- Characters are put behind what there is. -/
theorem foldl_push (chars : List Char) (out : String) :
    chars.foldl String.push out = out ++ String.ofList chars := by
  induction chars generalizing out with
  | nil => exact (String.append_empty (s := out)).symm
  | cons c rest ih =>
    rw [List.foldl_cons, ih]
    apply String.toList_inj.mp
    simp

/-- **Reading what was encoded, with replacements allowed, gives the text.** -/
@[simp] theorem decodeLossy_encode (s : String) : decodeLossy (encode s) = s := by
  rw [decodeLossy, foldPieces_encode]
  have h := foldl_push s.toList ""
  rw [String.ofList_toList, String.empty_append] at h
  exact h

/-- What was encoded is valid. -/
theorem isValid_encode (s : String) : isValid (encode s) = true := by
  rw [isValid, foldPieces_encode]
  induction s.toList with
  | nil => rfl
  | cons c rest ih => exact ih

/-- **Reading what was encoded gives the text.** -/
@[simp] theorem decode?_encode (s : String) : decode? (encode s) = some s := by
  rw [decode?, isValid_encode, if_pos rfl, decodeLossy_encode]

/-- Different texts have different bytes. -/
theorem encode_injective {s t : String} (h : encode s = encode t) : s = t := by
  rw [← decodeLossy_encode s, h, decodeLossy_encode]

/-! ## Order

The order of texts is that of their characters, and the order of bytes is that of lists of numbers.
A character with more bytes has a greater first byte, and among those with equally many bytes the
codes are compared as numbers to the base 64. -/

/-- Bytes are compared as numbers. -/
theorem ofNat_cons_lt_iff {m n : Nat} (hm : m < 256) (hn : n < 256) {rest rest' : Bytes} :
    UInt8.ofNat m :: rest < UInt8.ofNat n :: rest' ↔ m < n ∨ m = n ∧ rest < rest' := by
  rw [List.cons_lt_cons_iff, UInt8.lt_iff_toNat_lt, ← UInt8.toNat_inj,
    UInt8.toNat_ofNat_of_lt' hm, UInt8.toNat_ofNat_of_lt' hn]

/-- Of two numbers the lesser one has the lesser digit to the base 64 where they first differ. -/
theorem digits_lt {v w : Nat} (h : v < w) (hmax : w < 1114112) :
    v / 262144 % 8 < w / 262144 % 8 ∨ v / 262144 % 8 = w / 262144 % 8 ∧
      (v / 4096 % 64 < w / 4096 % 64 ∨ v / 4096 % 64 = w / 4096 % 64 ∧
        (v / 64 % 64 < w / 64 % 64 ∨ v / 64 % 64 = w / 64 % 64 ∧ v % 64 < w % 64)) := by
  have hdigit {m n : Nat} (h : m < n) : m / 64 < n / 64 ∨ m / 64 = n / 64 ∧ m % 64 < n % 64 := by
    omega
  have hdiv (n : Nat) : n / 64 / 64 = n / 4096 ∧ n / 4096 / 64 = n / 262144 := by omega
  have hv := hdiv v
  have hw := hdiv w
  have htop {n : Nat} (h : n < 1114112) : n / 262144 % 8 = n / 262144 := by omega
  rw [htop hmax, htop (Nat.lt_trans h hmax)]
  -- either the last digits decide, or the quotients are ordered like the numbers
  rcases hdigit h with hquotient | hlast
  · rcases hdigit hquotient with hquotient | hthird
    · rw [hv.1, hw.1] at hquotient
      rcases hdigit hquotient with hfirst | hsecond
      · omega
      · omega
    · omega
  · omega

/-- Of two characters the lesser one has the lesser bytes, whatever follows. -/
theorem encodeChar_append_lt {c d : Char} (h : c < d) (rest rest' : Bytes) :
    String.utf8EncodeChar c ++ rest < String.utf8EncodeChar d ++ rest' := by
  have hlt : c.val.toNat < d.val.toNat := h
  have hmax : d.val.toNat < 1114112 := by
    have hvalid := d.valid
    simp only [UInt32.isValidChar, Nat.isValidChar] at hvalid
    omega
  simp only [String.utf8EncodeChar]
  generalize c.val.toNat = v at hlt ⊢
  generalize d.val.toNat = w at hlt hmax ⊢
  have hdigits := digits_lt hlt hmax
  (repeat' split) <;>
    simp (disch := omega) only [List.cons_append, List.nil_append, ofNat_cons_lt_iff] <;> omega

/-- No character begins with the bytes of another one. -/
theorem eq_of_encodeChar_append_eq {c d : Char} {rest rest' : Bytes}
    (h : String.utf8EncodeChar c ++ rest = String.utf8EncodeChar d ++ rest') : c = d := by
  rcases Std.lt_trichotomy c d with hlt | heq | hgt
  · exact absurd (h ▸ encodeChar_append_lt hlt rest rest') (List.lt_irrefl _)
  · exact heq
  · exact absurd (h ▸ encodeChar_append_lt hgt rest' rest) (List.lt_irrefl _)

/-- **UTF-8 keeps the order of texts.** The first byte at which two encodings differ belongs to the
first character at which the texts do. -/
theorem encode_lt_encode {s t : String} (h : s < t) : encode s < encode t := by
  have hchars : s.toList < t.toList := String.lt_iff.mp h
  rw [encode, encode]
  generalize s.toList = cs at hchars ⊢
  generalize t.toList = ds at hchars ⊢
  -- on where the two texts first differ
  induction hchars with
  | @nil d ds =>
    obtain ⟨b, rest, hd⟩ := List.exists_cons_of_ne_nil (String.utf8EncodeChar_ne_nil (c := d))
    rw [List.flatMap_cons, hd]
    exact List.Lex.nil
  | cons htail ih => exact List.append_left_lt ih
  | rel hhead => exact encodeChar_append_lt hhead _ _

end Utf8

end ActionGateway
