import RecordSql.Number.Binary
import RecordSql.Text.Basic

/-! # Shortest decimal digits

The digits of a float are the fewest that read back to it, and of those the nearest to it
(`shortestDigits`). They are found in exact arithmetic: on the grids of one, two, three … digits
(`search`), the two neighbours of the value are tested against the interval of the numbers that
round to it (`RoundingInterval.ofBinary`). -/

namespace RecordSql

/-- What to choose of two decimals that lie equally near. -/
inductive DecimalTie
  /-- The greater one. -/
  | upward
  /-- The one with an even last digit. -/
  | toEven
  deriving DecidableEq, Repr

/-- The number `digits · 10^exponent`. -/
structure ScaledDigits where
  /-- The significant digits as one number. -/
  digits : Nat
  /-- The power of ten of the last digit. -/
  exponent : Int
  deriving DecidableEq, Repr

namespace ScaledDigits

/-- How many digits there are. -/
def count (d : ScaledDigits) : Nat := (Text.ofNat d.digits).length

/-- The power of ten of the first digit: the number is `d · 10^leadingExponent` with `1 ≤ d < 10`,
unless it is zero. -/
def leadingExponent (d : ScaledDigits) : Int := d.exponent + d.count - 1

/-- The same number without zeros at the end of the digits, of which at most `fuel` go. -/
def withoutTrailingZeros : Nat → ScaledDigits → ScaledDigits
  | 0, d => d
  | fuel + 1, d =>
    if d.digits ≠ 0 ∧ d.digits % 10 = 0 then
      withoutTrailingZeros fuel ⟨d.digits / 10, d.exponent + 1⟩
    else d

end ScaledDigits

/-- A positive value and the interval of the numbers that round to it: `low / denominator`,
`value / denominator` and `high / denominator`. -/
structure RoundingInterval where
  /-- The lower end. -/
  low : Nat
  /-- The value itself. -/
  value : Nat
  /-- The upper end. -/
  high : Nat
  /-- The common denominator. -/
  denominator : Nat
  /-- Whether the ends round to the value too. -/
  closed : Bool

namespace RoundingInterval

/-- The interval of `mantissa · 2^exponent`. It reaches half way to the neighbours; below a power of
two the neighbour is twice as near, unless the exponent is the least one. The ends belong to it when
the mantissa is even. -/
def ofBinary (width : FloatWidth) (mantissa : Nat) (exponent : Int) : RoundingInterval :=
  let up := Nat.pow 2 exponent.toNat
  let below :=
    if mantissa = Nat.pow 2 width.fractionBits ∧ width.leastExponent < exponent then 1 else 2
  { low := (4 * mantissa - below) * up
    value := 4 * mantissa * up
    high := (4 * mantissa + 2) * up
    denominator := 4 * Nat.pow 2 (-exponent).toNat
    closed := mantissa % 2 == 0 }

/-- The power of ten of the value's first digit. -/
def leadingExponent (r : RoundingInterval) : Int :=
  -- the difference of the lengths is the exponent or one above it
  let estimate : Int := (Text.ofNat r.value).length - (Text.ofNat r.denominator).length
  if r.denominator * Nat.pow 10 estimate.toNat ≤ r.value * Nat.pow 10 (-estimate).toNat then
    estimate
  else estimate - 1

/-- Whether `numerator / (scale · denominator)` lies in the interval, its ends included when
`r.closed`. -/
def holds (r : RoundingInterval) (scale numerator : Nat) : Bool :=
  if r.closed then r.low * scale ≤ numerator && numerator ≤ r.high * scale
  else r.low * scale < numerator && numerator < r.high * scale

/-- The neighbour of the value among the multiples of `10^exponent` that lies in the interval; of
two such neighbours the nearer one. -/
def onGrid? (r : RoundingInterval) (tie : DecimalTie) (exponent : Int) : Option ScaledDigits :=
  let unit := r.denominator * Nat.pow 10 exponent.toNat
  let scale := Nat.pow 10 (-exponent).toNat
  let below := r.value * scale / unit
  let above := below + 1
  let toBelow := r.value * scale - below * unit
  let toAbove := above * unit - r.value * scale
  let belowHolds := r.holds scale (below * unit)
  let aboveHolds := r.holds scale (above * unit)
  -- at the same distance `tie` decides
  let pickAbove :=
    toAbove < toBelow || toAbove == toBelow && (tie == .upward || below % 2 == 1)
  if belowHolds && !(aboveHolds && pickAbove) then some ⟨below, exponent⟩
  else if aboveHolds then some ⟨above, exponent⟩
  else none

/-- The first hit on the grids of `count`, `count + 1`, … digits, of which `fuel` are tried. -/
def search (r : RoundingInterval) (tie : DecimalTie) (leading : Int) :
    (fuel count : Nat) → Option ScaledDigits
  | 0, _ => none
  | fuel + 1, count =>
    match r.onGrid? tie (leading + 1 - count) with
    | some d => some d
    | none => r.search tie leading fuel (count + 1)

end RoundingInterval

/-- The most digits that any float of either width needs. -/
def mostDigits : Nat := 17

/-- The fewest digits that read back to `mantissa · 2^exponent`, nearest to it; zero is one
digit. -/
def shortestDigits (tie : DecimalTie) (width : FloatWidth) (mantissa : Nat) (exponent : Int) :
    ScaledDigits :=
  if mantissa = 0 then ⟨0, 0⟩
  else
    let r := RoundingInterval.ofBinary width mantissa exponent
    -- the default is not reached: no float needs more than `mostDigits`
    let found := (r.search tie r.leadingExponent mostDigits 1).getD ⟨mantissa, exponent⟩
    found.withoutTrailingZeros mostDigits

end RecordSql
