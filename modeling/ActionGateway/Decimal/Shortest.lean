import ActionGateway.Decimal.Binary64
import ActionGateway.Decimal.Numeral

/-!
# Shortest decimals

A finite binary number is written with the fewest decimal digits that read back to it, and of the
decimals with that many digits with the nearest one. The number and the ends of the interval of
reals that round to it are measured once in a small power of ten; a decimal with fewer digits is a
multiple of a greater power, and is compared with what was measured.
-/

namespace ActionGateway.Decimal

/-! ## The reals that round to a number

To write few digits is to choose freely in the interval of the reals that round to the number. Its
ends lie half way to the neighbours. -/

/-- The decimal `digits · 10^exponent`. -/
structure Scaled where
  digits : Nat
  exponent : Int
  deriving DecidableEq, Repr

/-- The reals that round to `m · 2^q`, as multiples of `2^(q-2)`: `low` to `high` around `4 · m`.
The lower half is narrower at a power of two, where the numbers below lie closer. The ends belong
to the interval when `m` is even. -/
structure Interval where
  centre : Nat
  low : Nat
  high : Nat
  scale : Int
  closed : Bool

/-- The interval of a finite number. Its ends are whole multiples of `2^(q-2)`, also the nearer one
at a power of two. -/
def Interval.of (x : Binary64) : Interval :=
  let m := x.significand
  let narrow := m = Binary64.leadingWeight ∧ 1 < x.exponentField
  ⟨4 * m, 4 * m - (if narrow then 1 else 2), 4 * m + 2, x.scale - 2, m % 2 = 0⟩

/-! ## Multiples of powers of ten

Binary and decimal meet once, in `Interval.ruled`. From there on everything is counted in multiples
of one power of ten, small enough that the answer is among them. -/

/-- A number among the multiples of `10^unit`, which are counted from zero. -/
structure Ruled where
  unit : Int
  /-- the least multiple that rounds to the number -/
  low : Nat
  /-- the greatest multiple that rounds to the number -/
  high : Nat
  /-- the greatest multiple that is not above the number -/
  below : Nat
  /-- whether that multiple is the number -/
  exact : Bool

/-- The number in the middle of an interval, among the multiples of `10^unit`. An end that does not
belong to the interval is passed by a step in the numerator. -/
def Interval.ruled (i : Interval) (unit : Int) : Ruled :=
  let up := tenTo (-unit).toNat
  let down := tenTo unit.toNat
  let numerator (n : Nat) : Nat := if i.scale < 0 then n * up else (n * up) <<< i.scale.toNat
  let multiple (n : Nat) : Nat := (if i.scale < 0 then n >>> (-i.scale).toNat else n) / down
  let low := numerator i.low
  let high := numerator i.high
  let centre := numerator i.centre
  let below := multiple centre
  { unit := unit
    low := multiple (if i.closed then low - 1 else low) + 1
    high := multiple (if i.closed then high else high - 1)
    below := below
    exact := multiple (centre - 1) < below }

/-- Whether a multiple rounds to the number. -/
def Ruled.holds (r : Ruled) (multiple : Nat) : Bool :=
  r.low ≤ multiple && multiple ≤ r.high

/-- The multiple of an even `step` to choose, in steps: of the two neighbours of the number the
nearer one that rounds to it, the even one if both are equally near. -/
def Ruled.choose? (r : Ruled) (step : Nat) : Option Nat :=
  let below := r.below / step
  -- Half a step is where the two neighbours are equally near; `below` alone may hide that the
  -- number lies a little above it.
  let twice := 2 * (r.below % step)
  let nearest :=
    if twice < step then below
    else if step < twice || !r.exact then below + 1
    else below + below % 2
  let other := if nearest = below then below + 1 else below
  -- The nearer one may lie outside where the interval is lopsided.
  if r.holds (nearest * step) then some nearest
  else if r.holds (other * step) then some other
  else none

/-- How many digits the multiple below the number has. -/
def ruledDigits : Nat := 18

/-- The number among multiples fine enough that the one below it has `ruledDigits` digits. -/
def Interval.ruledFinely (i : Interval) : Ruled :=
  -- below `2^top`, and not below the half of it
  let top : Int := (Nat.log2 i.centre : Int) + i.scale + 1
  let leading := if 0 ≤ top then top * 30103 / 100000 else top * 30102 / 100000
  let r := i.ruled (leading + 1 - ruledDigits)
  -- The two fractions lie just above and just below the logarithm of two, so `leading` may be one
  -- too great, and then a finer power is needed.
  if r.below < tenTo (ruledDigits - 1) then i.ruled (leading - ruledDigits) else r

/-- The decimal with the fewest digits: of the steps `step = 10^places`, `10^(places-1)`, … down to
ten the first that has a multiple to choose. Ten always has one. -/
def Ruled.fewestDigits (r : Ruled) : (places step : Nat) → Scaled
  | 0, _ => ⟨r.below, r.unit⟩
  | places + 1, step =>
    match r.choose? step with
    | some digits => ⟨digits, r.unit + (places + 1)⟩
    | none => fewestDigits r places (step / 10)

/-- The decimal without zeros at the end of its digits. -/
def Scaled.strip : Nat → Scaled → Scaled
  | 0, s => s
  | steps + 1, s =>
    if s.digits ≠ 0 ∧ s.digits % 10 = 0 then strip steps ⟨s.digits / 10, s.exponent + 1⟩ else s

/-- The shortest decimal of the magnitude of a finite number other than zero. -/
def shortest (x : Binary64) : Scaled :=
  let places := ruledDigits - 1
  ((Interval.of x).ruledFinely.fewestDigits places (tenTo places)).strip 20

/-! ## Layouts

The digits are found once for all; where the point goes and when an exponent is written is a matter
of who reads the text. -/

/-- How a decimal is laid out. -/
structure Layout where
  /-- the least exponent of the leading digit that is written positionally -/
  positionalFrom : Int
  /-- the least exponent of the leading digit that no longer is -/
  positionalUpTo : Int
  /-- what stands before the exponent if it is not negative -/
  exponentMark : String
  /-- what stands before the digits of a negative exponent -/
  negativeExponentMark : String
  /-- what makes a whole number a decimal -/
  wholeEnding : String

/-- The digits of a decimal, laid out. -/
def Layout.text (layout : Layout) (s : Scaled) : String :=
  let digits := Nat.toDigits 10 s.digits
  let count := digits.length
  let lead : Int := s.exponent + count - 1
  if layout.positionalFrom ≤ lead ∧ lead < layout.positionalUpTo then
    if 0 ≤ s.exponent then
      String.ofList (digits ++ List.replicate s.exponent.toNat '0') ++ layout.wholeEnding
    else if 0 ≤ lead then
      String.ofList (digits.take (lead.toNat + 1) ++ '.' :: digits.drop (lead.toNat + 1))
    else
      String.ofList ('0' :: '.' :: List.replicate ((-lead).toNat - 1) '0' ++ digits)
  else
    let mantissa :=
      match digits with
      | [] => []
      | [d] => [d]
      | d :: rest => d :: '.' :: rest
    let exponent :=
      if 0 ≤ lead then layout.exponentMark ++ String.ofList (Nat.toDigits 10 lead.toNat)
      else layout.negativeExponentMark ++ String.ofList (Nat.toDigits 10 (-lead).toNat)
    String.ofList mantissa ++ exponent

/-- The text of a finite number in a layout. -/
def Layout.write (layout : Layout) (x : Binary64) : String :=
  let magnitude := if x.isZero then "0" ++ layout.wholeEnding else layout.text (shortest x)
  if x.isNegative then "-" ++ magnitude else magnitude

end ActionGateway.Decimal
