/-! # Binary floating point

A float is a bit pattern of one of two widths (`BinaryFloat`). Reading the pattern
(`BinaryFloat.read`) gives a magnitude `mantissa · 2^exponent` with a sign, an infinity, or no
number at all. -/

namespace RecordSql

/-- The two widths of binary floating point numbers. -/
inductive FloatWidth
  /-- Thirty-two bits, of which twenty-three are the fraction. -/
  | single
  /-- Sixty-four bits, of which fifty-two are the fraction. -/
  | double
  deriving DecidableEq, Repr

namespace FloatWidth

/-- How many bits the fraction has. -/
def fractionBits : FloatWidth → Nat
  | single => 23
  | double => 52

/-- How many bits the exponent has. -/
def exponentBits : FloatWidth → Nat
  | single => 8
  | double => 11

/-- The exponent of two of the least positive number: that number is `2^leastExponent`. -/
def leastExponent : FloatWidth → Int
  | single => -149
  | double => -1074

end FloatWidth

/-- What a bit pattern means. -/
inductive FloatReading
  /-- The number `± mantissa · 2^exponent`. -/
  | finite (negative : Bool) (mantissa : Nat) (exponent : Int)
  /-- An infinity, negative when `negative`. -/
  | infinite (negative : Bool)
  /-- Not a number. -/
  | notANumber
  deriving DecidableEq, Repr

/-- A bit pattern of the given width. -/
structure BinaryFloat where
  /-- How wide the pattern is. -/
  width : FloatWidth
  /-- The pattern as a number; bits beyond the width are not read. -/
  bits : Nat
  deriving DecidableEq, Repr

/-- The meaning of the pattern: sign, exponent field and fraction, from the highest bit down. A zero
exponent field holds the numbers without a leading one, a full one the infinities and the rest. -/
def BinaryFloat.read (x : BinaryFloat) : FloatReading :=
  let fractionSize := Nat.pow 2 x.width.fractionBits
  let exponentSize := Nat.pow 2 x.width.exponentBits
  let fraction := x.bits % fractionSize
  let exponent := x.bits / fractionSize % exponentSize
  let negative := x.bits / fractionSize / exponentSize % 2 == 1
  if exponent = 0 then .finite negative fraction x.width.leastExponent
  else if exponent + 1 = exponentSize then
    if fraction = 0 then .infinite negative else .notANumber
  else .finite negative (fractionSize + fraction) (x.width.leastExponent + exponent - 1)

end RecordSql
