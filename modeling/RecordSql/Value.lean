import RecordSql.Calendar
import RecordSql.Json
import RecordSql.Number.FixedPoint

/-! # Values

The values that statements carry (`Value`), and how their floats and identifiers are written. -/

namespace RecordSql

/-- A value of a record or of a template. -/
inductive Value
  /-- An integer of any width. -/
  | int (n : Int)
  /-- A binary floating point number. -/
  | float (x : BinaryFloat)
  /-- A truth value. -/
  | bool (b : Bool)
  /-- One character. -/
  | char (c : Char)
  /-- A text. -/
  | text (content : Text)
  /-- Raw bytes. -/
  | bytes (content : List UInt8)
  /-- A day. -/
  | date (d : Date)
  /-- A time of day. -/
  | time (t : TimeOfDay)
  /-- A day and a time without a zone. -/
  | dateTime (t : DateTime)
  /-- A day and a time of the zone UTC. -/
  | timestamp (t : DateTime)
  /-- A universally unique identifier. -/
  | uuid (id : BitVec 128)
  /-- A JSON document. -/
  | json (document : Json)
  /-- A decimal with fixed places. -/
  | decimal (d : FixedPoint)
  /-- No value. -/
  | absent
  /-- A value where there might have been none. -/
  | present (v : Value)
  deriving Repr, Inhabited

namespace Value

/-- Floats in statements: always positional, without a decimal that is not needed; of two equally
near decimals the greater. -/
def numberLayout : NumberLayout where
  positional _ := true
  keepsDecimal := false
  tie := .upward

/-- The thirty-two hexadecimal digits of `id` in groups of eight, four, four, four and twelve. -/
def uuidText (id : BitVec 128) : Text :=
  let digits := Text.paddedHex 32 id.toNat
  let group (start count : Nat) : Text := (digits.drop start).take count
  Text.joined ['-'] [group 0 8, group 8 4, group 12 4, group 16 4, group 20 12]

end Value

end RecordSql
