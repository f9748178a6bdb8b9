import RecordSql.Dialect

/-! # Field types

The meaning of a field, whatever the backend (`FieldType`), and the column type that each dialect
has for it (`Dialect.columnType?`). -/

namespace RecordSql

/-- What the values of a field are. -/
inductive FieldType
  /-- Truth values. -/
  | bool
  /-- Signed integers of eight bits. -/
  | int8
  /-- Signed integers of sixteen bits. -/
  | int16
  /-- Signed integers of thirty-two bits. -/
  | int32
  /-- Signed integers of sixty-four bits. -/
  | int64
  /-- Unsigned integers of eight bits. -/
  | uint8
  /-- Unsigned integers of sixteen bits. -/
  | uint16
  /-- Unsigned integers of thirty-two bits. -/
  | uint32
  /-- Unsigned integers of sixty-four bits. -/
  | uint64
  /-- Floats of thirty-two bits. -/
  | float32
  /-- Floats of sixty-four bits. -/
  | float64
  /-- Single characters. -/
  | char
  /-- Texts. -/
  | text
  /-- Raw bytes. -/
  | blob
  /-- Days. -/
  | date
  /-- Times of day. -/
  | time
  /-- Days and times without a zone. -/
  | dateTime
  /-- Days and times of the zone UTC. -/
  | timestamp
  /-- Universally unique identifiers. -/
  | uuid
  /-- JSON documents. -/
  | json
  /-- Decimals with fixed places. -/
  | decimal
  deriving DecidableEq, Repr

namespace FieldType

/-- Column types of MySQL. -/
def mySqlName : FieldType → String
  | bool => "TINYINT(1)"
  | int8 => "TINYINT"
  | int16 => "SMALLINT"
  | int32 => "INTEGER"
  | int64 => "BIGINT"
  | uint8 => "TINYINT UNSIGNED"
  | uint16 => "SMALLINT UNSIGNED"
  | uint32 => "INTEGER UNSIGNED"
  | uint64 => "BIGINT UNSIGNED"
  | float32 => "FLOAT"
  | float64 => "DOUBLE"
  | char => "CHAR(1)"
  | text => "TEXT"
  | blob => "BLOB"
  | date => "DATE"
  | time => "TIME"
  | dateTime | timestamp => "DATETIME"
  | uuid => "CHAR(36)"
  | json => "JSON"
  | decimal => "DECIMAL(65,30)"

/-- Column types of SQLite, which has five storage classes. -/
def sqliteName : FieldType → String
  | bool | int8 | int16 | int32 | int64 | uint8 | uint16 | uint32 | uint64 => "INTEGER"
  | float32 | float64 => "REAL"
  | blob => "BLOB"
  | decimal => "NUMERIC"
  | char | text | date | time | dateTime | timestamp | uuid | json => "TEXT"

/-- Column types of PostgreSQL, which has none for unsigned integers of sixty-four bits:
`postgresName? uint64 = none`. -/
def postgresName? : FieldType → Option String
  | bool => some "boolean"
  | int8 | int16 | uint8 => some "smallint"
  | int32 | uint16 => some "integer"
  | int64 | uint32 => some "bigint"
  | uint64 => none
  | float32 => some "real"
  | float64 => some "double precision"
  | char => some "char(1)"
  | text => some "text"
  | blob => some "bytea"
  | date => some "date"
  | time => some "time"
  | dateTime => some "timestamp"
  | timestamp => some "timestamptz"
  | uuid => some "uuid"
  | json => some "jsonb"
  | decimal => some "numeric"

end FieldType

/-- The column type that `d` has for a field type; the empty text when the backend is not known. -/
def Dialect.columnType? (d : Dialect) (type : FieldType) : Option Text :=
  match d with
  | .mySql => some type.mySqlName.toList
  | .sqlite => some type.sqliteName.toList
  | .postgres => type.postgresName?.map String.toList
  | .unknown => some []

end RecordSql
