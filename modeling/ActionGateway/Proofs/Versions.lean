import ActionGateway.Gateway
import ActionGateway.Proofs.Numeral

/-!
# Versions in paths

A segment of a path **names** a version if it denotes its number and the version lies in the range
that is accepted. How long the segment is and how it is written makes no difference
(`ApiVersion.parseWithin_congr`): zeros at its start change nothing, and a number beyond the range
is never taken for one within. `ApiVersion.segments_name_versions` says so for any range of numbers
of eight bits, and `Endpoint.exists_version?_iff` and `Gateway.serveWith_congr_segment` say what
comes of it for the routes.
-/

namespace ActionGateway

namespace ApiVersion

variable {segment other : String} {least greatest n : Nat} {v : ApiVersion}

/-! ## Segments

A segment is read as a number of eight bits and compared with the range. A number that does not fit
is not read at all, and a range does not go beyond eight bits, so no number is cut off to fit. -/

/-- **A segment names a version if it denotes its number**, and the number lies in the range.
Nothing is said of the length of the segment: zeros in front do not count. -/
theorem parseWithin_eq_some_iff :
    parseWithin segment least greatest = some v ↔
      Decimal.Denotes segment v.number ∧ least ≤ v.number ∧ v.number ≤ greatest := by
  constructor
  · intro h
    rw [parseWithin] at h
    split at h
    next => cases h
    next n hn =>
      split at h
      next hrange =>
        rw [ofNat?] at h
        split at h
        next =>
          obtain rfl := Option.some.inj h
          exact ⟨(Decimal.numeral?_eq_some_iff.mp hn).1, hrange⟩
        next => cases h
      next => cases h
  · rintro ⟨hdenotes, hrange⟩
    have hread : Decimal.numeral? 255 segment = some v.number :=
      Decimal.numeral?_eq_some_iff.mpr ⟨hdenotes, v.le_255⟩
    simp only [parseWithin, hread, if_pos hrange, ofNat?_number]

/-- A segment that denotes a number of the range names a version. -/
theorem exists_parseWithin_iff (h : greatest ≤ 255) :
    (∃ v, parseWithin segment least greatest = some v) ↔
      ∃ n, Decimal.Denotes segment n ∧ 1 ≤ n ∧ least ≤ n ∧ n ≤ greatest := by
  constructor
  · rintro ⟨v, hv⟩
    obtain ⟨hdenotes, hleast, hgreatest⟩ := parseWithin_eq_some_iff.mp hv
    exact ⟨v.number, hdenotes, v.one_le, hleast, hgreatest⟩
  · rintro ⟨n, hdenotes, hone, hleast, hgreatest⟩
    have hn : n ≤ 255 := Nat.le_trans hgreatest h
    exact ⟨⟨n, hone, hn⟩, parseWithin_eq_some_iff.mpr ⟨hdenotes, hleast, hgreatest⟩⟩

/-- A segment that denotes a number outside the range, or 0, names nothing. -/
theorem parseWithin_eq_none (h : Decimal.Denotes segment n)
    (hout : ¬ (1 ≤ n ∧ least ≤ n ∧ n ≤ greatest)) :
    parseWithin segment least greatest = none := by
  refine Option.eq_none_iff_forall_ne_some.mpr fun v hv => hout ?_
  obtain ⟨hnumber, hrange⟩ := parseWithin_eq_some_iff.mp hv
  rw [← hnumber.unique h]
  exact ⟨v.one_le, hrange⟩

/-- **Segments that denote the same versions name the same versions.** -/
theorem parseWithin_congr
    (h : ∀ n, 1 ≤ n → (Decimal.Denotes segment n ↔ Decimal.Denotes other n)) :
    parseWithin segment least greatest = parseWithin other least greatest := by
  refine Option.ext fun v => ?_
  rw [parseWithin_eq_some_iff, parseWithin_eq_some_iff, h v.number v.one_le]

/-! ## Zeros

Zeros may stand before the digits, after a plus or without one. They do not change the number that
is denoted; only where there is nothing but zeros they are the number, and zero is no version. -/

/-- Zeros before the digits change nothing. -/
theorem parseWithin_zeros (h : segment.toList.head? ≠ some '+') (count : Nat) :
    parseWithin (String.ofList (List.replicate count '0') ++ segment) least greatest =
      parseWithin segment least greatest := by
  refine parseWithin_congr fun n hn => ?_
  -- the zeros do not begin with a plus, and neither does what follows them
  have hhead : (List.replicate count '0' ++ segment.toList).head? ≠ some '+' := by
    cases count with
    | zero => exact h
    | succ count => exact fun hplus => absurd (Option.some.inj hplus) (by decide)
  rw [Decimal.denotes_iff, Decimal.denotes_iff, String.toList_append, String.toList_ofList,
    Decimal.unsigned_of_head? hhead, Decimal.unsigned_of_head? h, Decimal.digits_zeros_iff hn]

/-- Nor do zeros between the plus and the digits. -/
theorem parseWithin_plus_zeros (segment : String) (count : Nat) :
    parseWithin ("+" ++ String.ofList (List.replicate count '0') ++ segment) least greatest =
      parseWithin ("+" ++ segment) least greatest := by
  refine parseWithin_congr fun n hn => ?_
  have hplus (s : String) : Decimal.unsigned ("+" ++ s).toList = s.toList := by
    rw [String.toList_append]
    rfl
  rw [Decimal.denotes_iff, Decimal.denotes_iff, String.append_assoc, hplus, hplus,
    String.toList_append, String.toList_ofList, Decimal.digits_zeros_iff hn]

/-! ## The contract -/

/-- How segments name the versions of a range. A segment is any text, and numbers are natural
numbers without a bound; that a version has eight bits shows in the bounds of the range alone. The
first field says everything, and the others are what comes of it for segments that someone may send:
beyond the range, zero, with zeros in front, and the text of a version. -/
structure NamingContract (least greatest : Nat) : Prop where
  /-- what a segment names is the number that it denotes, if that lies in the range -/
  eq_some_iff : ∀ (segment : String) (v : ApiVersion), parseWithin segment least greatest = some v ↔
    ∃ n, Decimal.Denotes segment n ∧ 1 ≤ n ∧ least ≤ n ∧ n ≤ greatest ∧ v.number = n
  /-- a segment that denotes a number of the range names a version, and no other segment does -/
  isSome_iff : ∀ segment : String, (∃ v, parseWithin segment least greatest = some v) ↔
    ∃ n, Decimal.Denotes segment n ∧ 1 ≤ n ∧ least ≤ n ∧ n ≤ greatest
  /-- however great a number is, beyond the range it is refused -/
  of_beyond : ∀ (segment : String) (n : Nat), Decimal.Denotes segment n → greatest < n →
    parseWithin segment least greatest = none
  /-- there is no version 0, even if the range begins there -/
  of_zero : ∀ segment : String, Decimal.Denotes segment 0 →
    parseWithin segment least greatest = none
  /-- zeros at the start of a segment change nothing -/
  zeros : ∀ (segment : String) (count : Nat), segment.toList.head? ≠ some '+' →
    parseWithin (String.ofList (List.replicate count '0') ++ segment) least greatest =
      parseWithin segment least greatest
  /-- nor do they after the plus -/
  plus_zeros : ∀ (segment : String) (count : Nat),
    parseWithin ("+" ++ String.ofList (List.replicate count '0') ++ segment) least greatest =
      parseWithin ("+" ++ segment) least greatest
  /-- a version of the range is named by its text -/
  text : ∀ v : ApiVersion, least ≤ v.number → v.number ≤ greatest →
    parseWithin v.text least greatest = some v

/-- **A segment names the version of the range whose number it denotes**, whatever its length, for
every range within eight bits. The range may begin at zero or be empty. -/
theorem segments_name_versions (least greatest : Nat) (h : greatest ≤ 255) :
    NamingContract least greatest where
  eq_some_iff segment v := by
    rw [parseWithin_eq_some_iff]
    constructor
    · rintro ⟨hdenotes, hleast, hgreatest⟩
      exact ⟨v.number, hdenotes, v.one_le, hleast, hgreatest, rfl⟩
    · rintro ⟨n, hdenotes, -, hleast, hgreatest, rfl⟩
      exact ⟨hdenotes, hleast, hgreatest⟩
  isSome_iff _ := exists_parseWithin_iff h
  of_beyond _ _ hdenotes hbeyond :=
    parseWithin_eq_none hdenotes fun hrange => Nat.not_le_of_lt hbeyond hrange.2.2
  of_zero _ hdenotes := parseWithin_eq_none hdenotes fun hrange => Nat.not_succ_le_zero 0 hrange.1
  zeros _ count hhead := parseWithin_zeros hhead count
  plus_zeros := parseWithin_plus_zeros
  text _ := parseWithin_text

/-- The range of the one version 3: zeros before the digit, and a number that is 3 in eight bits. -/
theorem segments_name_versions_three :
    3 ≤ 255 ∧ NamingContract 3 3 ∧ parseWithin "+0003" 3 3 = some .v3 ∧
      parseWithin "259" 3 3 = none := by
  have hnames : NamingContract 3 3 := segments_name_versions 3 3 (by decide)
  have hthree : Decimal.Denotes "+0003" 3 :=
    .plus (show "+0003".toList = '+' :: "0003".toList by decide)
      ⟨by decide, List.all_eq_true.mp (by decide), by decide⟩
  have hbeyond : Decimal.Denotes "259" 259 :=
    .plain ⟨by decide, List.all_eq_true.mp (by decide), by decide⟩
  exact ⟨by decide, hnames,
    (hnames.eq_some_iff "+0003" .v3).mpr ⟨3, hthree, by decide, by decide, by decide, rfl⟩,
    hnames.of_beyond "259" 259 hbeyond (by decide)⟩

end ApiVersion

/-! ## Routes

Each endpoint has a range of its own, and asks for the version that a segment names in it. -/

namespace Endpoint

/-- No endpoint has a version 0. -/
theorem one_le_leastVersion (endpoint : Endpoint) : 1 ≤ endpoint.leastVersion := by
  cases endpoint with
  | action => exact Nat.le_of_ble_eq_true rfl
  | root | translations | autocomplete => exact Nat.le_refl 1

/-- The range of an endpoint lies within eight bits. -/
theorem greatestVersion_le (config : SiteConfig) (endpoint : Endpoint) :
    endpoint.greatestVersion config ≤ 255 := by
  cases endpoint with
  | root => exact config.maxVersion.le_255
  | action => exact config.maxVersion.le_255
  | translations => exact Nat.le_of_ble_eq_true rfl
  | autocomplete route => exact Nat.le_of_ble_eq_true rfl

/-- **An endpoint is found at a segment that denotes one of its versions**, and at no other. The
versions of an endpoint are numbers, and no bound of eight bits shows here. -/
theorem exists_version?_iff {config : SiteConfig} {endpoint : Endpoint} {segment : String} :
    (∃ v, endpoint.version? config (some segment) = some v) ↔
      ∃ n, Decimal.Denotes segment n ∧ endpoint.leastVersion ≤ n ∧
        n ≤ endpoint.greatestVersion config := by
  rw [version?, ApiVersion.exists_parseWithin_iff (greatestVersion_le config endpoint)]
  refine exists_congr fun n => and_congr_right fun _ => ?_
  exact ⟨And.right, fun h => ⟨Nat.le_trans (one_le_leastVersion endpoint) h.1, h⟩⟩

end Endpoint

/-- **Paths whose segments denote the same versions are served alike**, however they write them:
with a plus sign, with zeros in front, or without either. -/
theorem Gateway.serveWith_congr_segment {segment other : String}
    (h : ∀ n, 1 ≤ n → (Decimal.Denotes segment n ↔ Decimal.Denotes other n)) (g : Gateway)
    (limit : Option Nat) (subject : String) (request : Request) (route : Route) :
    g.serveWith limit ⟨some segment, subject⟩ request route =
      g.serveWith limit ⟨some other, subject⟩ request route := by
  cases route with
  | health => rfl
  | alive => rfl
  | readiness => rfl
  | api versioned endpoint =>
    simp only [serveWith, Endpoint.version?, ApiVersion.parseWithin_congr h]

end ActionGateway
