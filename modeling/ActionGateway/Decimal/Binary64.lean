/-!
# Binary floating-point numbers

Numbers of the 64-bit binary format, held as bit patterns and computed with in exact integer
arithmetic: a finite number is `±m · 2^q`, and every operation forms its exact result as a quotient
of two naturals times a power of two, which `ofScaledRatio` then rounds to the nearest number of the
format, ties going to the even one.
-/

namespace ActionGateway

/-- A number of the 64-bit binary format, as its bit pattern. -/
structure Binary64 where
  bits : UInt64
  deriving DecidableEq, Repr

namespace Binary64

/-! ## The format

The highest bit of a pattern is the sign, the next eleven are the exponent, the last 52 the
fraction. The patterns of the magnitudes are ordered as the magnitudes are, which is what
`ofScaledRatio` makes use of. -/

/-- The weight of the sign bit, above those of the magnitude. -/
def signWeight : Nat :=
  1 <<< 63

/-- The weight of the leading bit of the significand, which is not stored. -/
def leadingWeight : Nat :=
  1 <<< 52

/-- How many exponents there are; the greatest one is that of what is not finite. -/
def exponentCount : Nat :=
  2048

/-- Whether the sign bit is set. -/
def isNegative (x : Binary64) : Bool :=
  signWeight ≤ x.bits.toNat

/-- The biased exponent. -/
def exponentField (x : Binary64) : Nat :=
  x.bits.toNat / leadingWeight % exponentCount

/-- The bits of the significand that are stored. -/
def fractionField (x : Binary64) : Nat :=
  x.bits.toNat % leadingWeight

/-- Neither infinite nor a NaN. -/
def isFinite (x : Binary64) : Bool :=
  x.exponentField < 2047

/-- The `m` of `±m · 2^q`. -/
def significand (x : Binary64) : Nat :=
  if x.exponentField = 0 then x.fractionField else leadingWeight + x.fractionField

/-- The `q` of `±m · 2^q`. -/
def scale (x : Binary64) : Int :=
  (max x.exponentField 1 : Nat) - 1075

/-- Either of the two zeros. -/
def isZero (x : Binary64) : Bool :=
  x.bits.toNat % signWeight = 0

/-- The pattern with the given sign over a magnitude. -/
def withSign (negative : Bool) (magnitude : Nat) : Binary64 :=
  ⟨UInt64.ofNat (if negative then signWeight + magnitude else magnitude)⟩

/-- The magnitude of infinity, above all finite ones. -/
def infiniteMagnitude : Nat :=
  2047 * leadingWeight

/-- Infinity with the given sign. -/
def infinity (negative : Bool) : Binary64 :=
  withSign negative infiniteMagnitude

/-- Zero with the given sign. -/
def zero (negative : Bool) : Binary64 :=
  withSign negative 0

/-- The NaN that a text denotes. -/
def nan : Binary64 :=
  withSign false (infiniteMagnitude + leadingWeight / 2)

/-! ## Rounding

A quotient is brought to the scale at which its significand has 53 bits, or to the least scale there
is, and rounded there. Everything before the rounding is exact. -/

/-- `n / d` to the nearest integer; a half goes to the even neighbour. -/
def roundDiv (n d : Nat) : Nat :=
  let q := n / d
  let r := n % d
  if 2 * r < d then q
  else if d < 2 * r then q + 1
  else q + q % 2

/-- The greatest `k` with `2^k ≤ n / d`, for positive `n` and `d`. -/
def floorLog2 (n d : Nat) : Int :=
  let k : Int := (Nat.log2 n : Int) - Nat.log2 d
  -- The lengths of `n` and `d` alone give an estimate that is at most one too great.
  let reached := if 0 ≤ k then d <<< k.toNat ≤ n else d ≤ n <<< (-k).toNat
  if reached then k else k - 1

/-- The number of the format nearest to `±n / d · 2^q`. What lies beyond the greatest finite number
by half a unit or more is infinite. -/
def ofScaledRatio (negative : Bool) (n d : Nat) (q : Int) : Binary64 :=
  if n = 0 ∨ d = 0 then zero negative
  else
    let scale := max (floorLog2 n d + q - 52) (-1074)
    let m :=
      if q ≤ scale then roundDiv n (d <<< (scale - q).toNat)
      else roundDiv (n <<< (q - scale).toNat) d
    -- The leading bit of `m` counts into the exponent. Below the normal numbers there is none, and
    -- where rounding has made `m` a bit longer it counts twice; both give the right pattern.
    let magnitude := (scale + 1074).toNat * leadingWeight + m
    if infiniteMagnitude ≤ magnitude then infinity negative else withSign negative magnitude

/-- The number of the format nearest to `±n / d`. -/
def ofRatio (negative : Bool) (n d : Nat) : Binary64 :=
  ofScaledRatio negative n d 0

/-- The number of the format nearest to `n`. -/
def ofNat (n : Nat) : Binary64 :=
  ofRatio false n 1

/-! ## Arithmetic -/

/-- The rounded product of two finite numbers. -/
def mul (x y : Binary64) : Binary64 :=
  ofScaledRatio (x.isNegative != y.isNegative) (x.significand * y.significand) 1
    (x.scale + y.scale)

/-- The rounded quotient of two finite numbers, the second not zero. -/
def div (x y : Binary64) : Binary64 :=
  ofScaledRatio (x.isNegative != y.isNegative) x.significand y.significand (x.scale - y.scale)

/-- The number with the other sign. -/
def neg (x : Binary64) : Binary64 :=
  withSign (!x.isNegative) (x.bits.toNat % signWeight)

end Binary64

end ActionGateway
