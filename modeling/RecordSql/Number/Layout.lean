import RecordSql.Number.FixedPoint
import RecordSql.Number.Shortest

/-! # Layouts of decimal numbers

A number is written positionally (`positional`), or with one digit before the point and an exponent
(`withExponent`). A `NumberLayout` says which exponents are positional and whether a whole number
keeps a decimal. -/

namespace RecordSql

/-- The decisions of a number format. -/
structure NumberLayout where
  /-- Which exponents of the first digit are written positionally. -/
  positional : Int → Bool
  /-- Whether a whole number in positional form ends in `.0`. -/
  keepsDecimal : Bool
  /-- How a tie between two shortest decimals is broken. -/
  tie : DecimalTie

namespace ScaledDigits

/-- Positional form: digits, a point inside or in front of them, zeros to fill up. -/
def positional (keepsDecimal : Bool) (d : ScaledDigits) : Text :=
  if 0 ≤ d.exponent then
    Text.ofNat (d.digits * Nat.pow 10 d.exponent.toNat) ++ if keepsDecimal then ['.', '0'] else []
  else Text.pointed (-d.exponent).toNat d.digits

/-- Exponent form: one digit, the others after a point, then `e` and the exponent with its sign. -/
def withExponent (d : ScaledDigits) : Text :=
  let exponent := d.leadingExponent
  let marked := ['e', if exponent < 0 then '-' else '+'] ++ Text.ofNat exponent.natAbs
  match Text.ofNat d.digits with
  | [] => marked   -- not reached, a number has a digit
  | [digit] => digit :: marked
  | digit :: rest => digit :: '.' :: rest ++ marked

end ScaledDigits

/-- The text of `± mantissa · 2^exponent` in a layout. A zero keeps its sign. -/
def NumberLayout.write (layout : NumberLayout) (width : FloatWidth) (negative : Bool)
    (mantissa : Nat) (exponent : Int) : Text :=
  let d := shortestDigits layout.tie width mantissa exponent
  let body :=
    if layout.positional d.leadingExponent then d.positional layout.keepsDecimal
    else d.withExponent
  if negative then '-' :: body else body

end RecordSql
