import RecordSql.Text.Basic

/-! # Fixed-point decimals

A decimal number (`FixedPoint`) is a whole number with a sign and a count of decimal places. It is
written with all its places, and a zero keeps its sign: `-0.00` and `0.00` are two decimals. -/

namespace RecordSql

namespace Text

/-- The numeral of `n` with a point before its last `places` digits, zeros filled in; no point when
`places = 0`. -/
def pointed (places n : Nat) : Text :=
  if places = 0 then ofNat n
  else
    let digits := padded (places + 1) n
    let whole := digits.length - places
    digits.take whole ++ '.' :: digits.drop whole

@[simp] theorem pointed_zero (n : Nat) : pointed 0 n = ofNat n := rfl

end Text

/-- A whole number `± magnitude` with its sign, which a zero has too: `⟨true, 0⟩` and `⟨false, 0⟩`
differ. -/
structure SignedNat where
  /-- Whether the sign is a minus. -/
  negative : Bool
  /-- The number without its sign. -/
  magnitude : Nat
  deriving DecidableEq, Repr

/-- An integer `n` with its sign; the integer zero has no minus. -/
instance : Coe Int SignedNat := ⟨fun n => ⟨decide (n < 0), n.natAbs⟩⟩

/-- The number `unscaled / 10^places`. -/
structure FixedPoint where
  /-- The number without its point. -/
  unscaled : SignedNat
  /-- How many digits follow the point. -/
  places : Nat
  deriving DecidableEq, Repr

/-- The decimal with exactly `d.places` digits behind the point, a minus sign in front if it has
one. -/
def FixedPoint.write (d : FixedPoint) : Text :=
  if d.unscaled.negative then '-' :: Text.pointed d.places d.unscaled.magnitude
  else Text.pointed d.places d.unscaled.magnitude

end RecordSql
