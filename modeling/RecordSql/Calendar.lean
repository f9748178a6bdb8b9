import RecordSql.Text.Basic

/-! # Dates and times of day

Calendar dates (`Date`), times of day with nanoseconds (`TimeOfDay`), both together (`DateTime`),
and their texts. -/

namespace RecordSql

/-- A day of the calendar. -/
structure Date where
  /-- The year, negative before the year zero. -/
  year : Int
  /-- The month, from one. -/
  month : Nat
  /-- The day of the month, from one. -/
  day : Nat
  deriving DecidableEq, Repr

/-- How many nanoseconds a second has. -/
def nanosPerSecond : Nat := 1000000000

/-- A time of day. In a leap second `nanosPerSecond ≤ nanos`. -/
structure TimeOfDay where
  /-- The hour, from zero. -/
  hour : Nat
  /-- The minute, from zero. -/
  minute : Nat
  /-- The second, from zero. -/
  second : Nat
  /-- Nanoseconds since the start of `second`. -/
  nanos : Nat
  deriving DecidableEq, Repr

namespace Date

/-- A year from `0` to `9999` by four digits, any other with a sign and at least four digits. -/
def yearText (year : Int) : Text :=
  if 0 ≤ year ∧ year ≤ 9999 then Text.padded 4 year.natAbs
  else (if year < 0 then '-' else '+') :: Text.padded 4 year.natAbs

/-- Year, month and day with hyphens, `YYYY-MM-DD`. -/
def write (d : Date) : Text :=
  yearText d.year ++ '-' :: Text.padded 2 d.month ++ '-' :: Text.padded 2 d.day

end Date

namespace TimeOfDay

/-- The fraction of a second: nothing when `nanos = 0`, else a point and the fewest of three, six
and nine digits that are exact. -/
def fractionText (nanos : Nat) : Text :=
  if nanos = 0 then []
  else if nanos % 1000000 = 0 then '.' :: Text.padded 3 (nanos / 1000000)
  else if nanos % 1000 = 0 then '.' :: Text.padded 6 (nanos / 1000)
  else '.' :: Text.padded 9 nanos

/-- Hour, minute and second with colons, `HH:MM:SS`, then the fraction. A leap second is written as
the sixtieth. -/
def write (t : TimeOfDay) : Text :=
  Text.padded 2 t.hour ++ ':' :: Text.padded 2 t.minute
    ++ ':' :: Text.padded 2 (t.second + t.nanos / nanosPerSecond)
    ++ fractionText (t.nanos % nanosPerSecond)

end TimeOfDay

/-- A day and a time of day. -/
structure DateTime where
  /-- The day. -/
  date : Date
  /-- The time on that day. -/
  time : TimeOfDay
  deriving DecidableEq, Repr

/-- The date, a space, the time. -/
def DateTime.write (t : DateTime) : Text := t.date.write ++ ' ' :: t.time.write

end RecordSql
