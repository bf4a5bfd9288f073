import ActionGateway.Text.Utf8

/-!
# Finding bytes in bytes

A search moves a **window** of the length of the pattern over the bytes, and compares it with the
pattern only where their **fingerprints** agree. A fingerprint is a polynomial in the bytes, so that
of a window follows from that of the window before it, and a step costs the same however long the
pattern is.

What is found is the first occurrence: `cut?` agrees with `firstCut?`, which tries the pattern
at one place after the other.
-/

namespace ActionGateway.Bytes

/-- What follows a beginning, if the bytes have it. -/
def after? : Bytes → Bytes → Option Bytes
  | [], bytes => some bytes
  | _ :: _, [] => none
  | p :: pattern, b :: rest => if p = b then after? pattern rest else none

/-! ## Fingerprints

Fingerprints are taken modulo `2^64`, by letting the words overflow. Two windows with one
fingerprint may still differ, which is why a window is compared with the pattern before it counts as
an occurrence. -/

/-- The number in whose powers fingerprints are written. -/
def fingerprintBase : UInt64 :=
  1099511628211

/-- The fingerprint of bytes that follow others with the fingerprint `f`. -/
def fingerprintFrom (f : UInt64) (bytes : Bytes) : UInt64 :=
  bytes.foldl (fun f b => f * fingerprintBase + b.toUInt64) f

/-- The fingerprint of bytes: the polynomial whose coefficients they are, the first byte with the
highest power. -/
def fingerprint (bytes : Bytes) : UInt64 :=
  fingerprintFrom 0 bytes

/-- What a fingerprint is multiplied by when the bytes follow. -/
def weight (bytes : Bytes) : UInt64 :=
  bytes.foldl (fun w _ => w * fingerprintBase) 1

/-! ## The search -/

/-- What stands before and after the first occurrence of a pattern in the window and ahead of it.
`print` and `factor` are the fingerprint and the weight of the pattern, `current` is the fingerprint
of the window. `passed` holds, in reverse, what came before the window; `window` goes on to the end
of the bytes, and `ahead` is what follows the window. -/
def slide (pattern : Bytes) (print factor : UInt64) :
    (current : UInt64) → (passed window ahead : Bytes) → Option (Bytes × Bytes)
  | current, passed, window, ahead =>
    -- The pattern is only compared where the fingerprints agree, which they rarely do by chance.
    if current = print && (after? pattern window).isSome then some (passed.reverse, ahead)
    else
      match window, ahead with
      | gone :: window, next :: ahead =>
        slide pattern print factor
          -- The byte that comes in and the one that drops out, which has the weight of a whole
          -- pattern.
          (current * fingerprintBase + next.toUInt64 - gone.toUInt64 * factor)
          (gone :: passed) window ahead
      | _, _ => none

/-- What stands before and after the first occurrence of a pattern, if it occurs. -/
def cut? (pattern bytes : Bytes) : Option (Bytes × Bytes) :=
  let first := bytes.take pattern.length
  if first.length < pattern.length then none
  else
    slide pattern (fingerprint pattern) (weight pattern) (fingerprint first) [] bytes
      (bytes.drop pattern.length)

/-! ## The first occurrence

`firstCut?` says what is to be found, in a form that proofs can use. That the search finds it rests
on `fingerprint_next`: the running fingerprint is at every step that of the window, so the two sides
look at the same places. -/

/-- What stands before and after the first place at which a pattern occurs. -/
def firstCut? (pattern : Bytes) : Bytes → Option (Bytes × Bytes)
  | [] => (after? pattern []).map fun rest => ([], rest)
  | b :: rest =>
    match after? pattern (b :: rest) with
    | some after => some ([], after)
    | none => (firstCut? pattern rest).map fun cut => (b :: cut.1, cut.2)

/-- A weight taken on from `w` is `w` times the weight taken from one. -/
theorem weightFrom_eq (w : UInt64) (bytes : Bytes) :
    bytes.foldl (fun w _ => w * fingerprintBase) w = w * weight bytes := by
  induction bytes generalizing w with
  | nil => simp [weight]
  | cons b rest ih =>
    have h : weight (b :: rest) = fingerprintBase * weight rest := by
      simp only [weight, List.foldl_cons]
      rw [ih (1 * fingerprintBase)]
      grind
    rw [List.foldl_cons, ih, h]
    grind

/-- Every byte contributes one factor. -/
theorem weight_cons (b : UInt8) (rest : Bytes) :
    weight (b :: rest) = fingerprintBase * weight rest := by
  simp only [weight, List.foldl_cons]
  rw [weightFrom_eq, weight]
  grind

/-- Weights depend on the lengths alone, so that of the pattern serves for every window. -/
theorem weight_eq_of_length_eq {a b : Bytes} (h : a.length = b.length) : weight a = weight b := by
  induction a generalizing b with
  | nil => rw [List.length_eq_zero_iff.mp h.symm]
  | cons x a ih =>
    cases b with
    | nil => simp at h
    | cons y b => rw [weight_cons, weight_cons, ih (by simpa using h)]

/-- What came before is shifted by the weight of what follows. -/
theorem fingerprintFrom_eq (f : UInt64) (bytes : Bytes) :
    fingerprintFrom f bytes = f * weight bytes + fingerprint bytes := by
  induction bytes generalizing f with
  | nil => simp [fingerprintFrom, fingerprint, weight]
  | cons b rest ih =>
    have step (f : UInt64) : fingerprintFrom f (b :: rest) =
        fingerprintFrom (f * fingerprintBase + b.toUInt64) rest := rfl
    rw [fingerprint, step, step, ih, ih, weight_cons]
    grind

/-- **The fingerprint of the next window** follows from that of the window before it. -/
theorem fingerprint_next (gone next : UInt8) (rest : Bytes) :
    fingerprint (rest ++ [next]) =
      fingerprint (gone :: rest) * fingerprintBase + next.toUInt64 -
        gone.toUInt64 * weight (gone :: rest) := by
  have hlast : fingerprint (rest ++ [next]) =
      fingerprint rest * fingerprintBase + next.toUInt64 := by
    simp [fingerprint, fingerprintFrom]
  have hfirst : fingerprint (gone :: rest) = fingerprintFrom gone.toUInt64 rest := by
    simp [fingerprint, fingerprintFrom]
  rw [hlast, hfirst, fingerprintFrom_eq, weight_cons]
  grind

/-- Something follows a pattern exactly if the bytes begin with it. -/
theorem after?_eq_some_iff {pattern bytes rest : Bytes} :
    after? pattern bytes = some rest ↔ bytes = pattern ++ rest := by
  induction pattern generalizing bytes with
  | nil => simp [after?]
  | cons p pattern ih =>
    cases bytes with
    | nil => simp [after?]
    | cons b bytes =>
      by_cases h : p = b
      · simp [after?, h, ih]
      · simp [after?, h, Ne.symm h]

/-- Bytes shorter than the pattern do not begin with it. -/
theorem after?_eq_none_of_length_lt {pattern bytes : Bytes}
    (h : bytes.length < pattern.length) : after? pattern bytes = none := by
  cases hafter : after? pattern bytes with
  | none => rfl
  | some rest =>
    rw [after?_eq_some_iff.mp hafter, List.length_append] at h
    omega

/-- Nor does it occur anywhere in them. -/
theorem firstCut?_eq_none_of_length_lt {pattern bytes : Bytes}
    (h : bytes.length < pattern.length) : firstCut? pattern bytes = none := by
  induction bytes with
  | nil => simp [firstCut?, after?_eq_none_of_length_lt h]
  | cons b rest ih =>
    have hrest : firstCut? pattern rest = none := ih (Nat.lt_of_succ_lt h)
    simp [firstCut?, after?_eq_none_of_length_lt h, hrest]

/-- A pattern in front is the first occurrence. -/
theorem firstCut?_of_after?_eq_some {pattern bytes rest : Bytes}
    (h : after? pattern bytes = some rest) : firstCut? pattern bytes = some ([], rest) := by
  cases bytes <;> simp [firstCut?, h]

/-- Whether the pattern stands in the window is seen from all that follows the window's start. -/
theorem after?_append {pattern first : Bytes} (h : first.length = pattern.length)
    (ahead : Bytes) :
    after? pattern (first ++ ahead) = if first = pattern then some ahead else none := by
  split
  next heq => exact after?_eq_some_iff.mpr (heq ▸ rfl)
  next hne =>
    cases hafter : after? pattern (first ++ ahead) with
    | none => rfl
    | some rest =>
      exact absurd (List.append_inj_left (after?_eq_some_iff.mp hafter) h) hne

/-- The window that opens with `first` moves on as long as the pattern stands nowhere in it. -/
theorem slide_eq (pattern first passed ahead : Bytes) (h : first.length = pattern.length) :
    slide pattern (fingerprint pattern) (weight pattern) (fingerprint first) passed
        (first ++ ahead) ahead =
      (firstCut? pattern (first ++ ahead)).map fun cut => (passed.reverse ++ cut.1, cut.2) := by
  induction ahead generalizing first passed with
  | nil =>
    have hafter := after?_append h []
    rw [slide.eq_def]
    rw [List.append_nil] at hafter ⊢
    by_cases heq : first = pattern
    · subst heq
      rw [if_pos rfl] at hafter
      simp [hafter, firstCut?_of_after?_eq_some hafter]
    · rw [if_neg heq] at hafter
      cases first with
      | nil => exact absurd (List.length_eq_zero_iff.mp h.symm).symm heq
      | cons gone rest =>
        have hrest : firstCut? pattern rest = none :=
          firstCut?_eq_none_of_length_lt (by simp at h; omega)
        simp [hafter, firstCut?, hrest]
  | cons next ahead ih =>
    have hafter := after?_append h (next :: ahead)
    rw [slide.eq_def]
    by_cases heq : first = pattern
    · subst heq
      rw [if_pos rfl] at hafter
      simp [hafter, firstCut?_of_after?_eq_some hafter]
    · rw [if_neg heq] at hafter
      cases first with
      | nil => exact absurd (List.length_eq_zero_iff.mp h.symm).symm heq
      | cons gone rest =>
        have hnext := ih (rest ++ [next]) (gone :: passed) (by simpa using h)
        rw [fingerprint_next gone, weight_eq_of_length_eq h, List.append_assoc] at hnext
        simp only [List.cons_append, List.nil_append] at hafter hnext ⊢
        simp [hafter, firstCut?, hnext, Function.comp_def]

/-- **A search finds the first occurrence.** -/
theorem cut?_eq_firstCut? (pattern bytes : Bytes) :
    cut? pattern bytes = firstCut? pattern bytes := by
  unfold cut?
  simp only
  split
  next h =>
    rw [firstCut?_eq_none_of_length_lt]
    simp at h
    omega
  next h =>
    have hlength : (bytes.take pattern.length).length = pattern.length := by
      simp at h ⊢
      omega
    have hslide := slide_eq pattern _ [] (bytes.drop pattern.length) hlength
    rw [List.take_append_drop] at hslide
    rw [hslide]
    simp

end ActionGateway.Bytes
