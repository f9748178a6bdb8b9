import RecordSql.SqlError
import RecordSql.Text.Blank

/-! # Dialects

A dialect decides how names are quoted (`quoteName`) and how the places of a template are marked
(`placeholder`). -/

namespace RecordSql

/-- The backends that statements are written for. -/
inductive Dialect
  /-- MySQL and MariaDB. -/
  | mySql
  /-- SQLite. -/
  | sqlite
  /-- PostgreSQL. -/
  | postgres
  /-- No particular backend. -/
  | unknown
  deriving DecidableEq, Repr

/-- How a template marks the places of its values. -/
inductive PlaceholderStyle
  /-- Question marks, filled from left to right. -/
  | unindexed
  /-- Dollar signs with the number of the value. -/
  | indexed
  deriving DecidableEq, Repr

namespace Dialect

/-- The name of the dialect in messages. -/
def name : Dialect → Text
  | mySql => "mysql".toList
  | sqlite => "sqlite".toList
  | postgres => "postgresql".toList
  | unknown => "unknown".toList

/-- The dialect that a text names, in any case and between blanks. The error quotes the text as it
was given. -/
def parse (text : Text) : Except SqlError Dialect :=
  let word := Text.asciiLower (Text.trimmed text)
  if word = "mysql".toList ∨ word = "mariadb".toList then .ok mySql
  else if word = "sqlite".toList ∨ word = "sqlite3".toList then .ok sqlite
  else if word = "postgres".toList ∨ word = "postgresql".toList ∨ word = "pg".toList then
    .ok postgres
  else if word = "unknown".toList then .ok unknown
  else .error (.unknownDialect text)

/-- The style of the dialect's templates. -/
def placeholderStyle : Dialect → PlaceholderStyle
  | postgres => .indexed
  | mySql | sqlite | unknown => .unindexed

/-- Whether names stand between marks `nameMark`. -/
def quotesNames : Dialect → Bool
  | mySql => true
  | sqlite | postgres | unknown => false

/-- The mark around a quoted name, a backtick. -/
def nameMark : Char := '\x60'

/-- A name as the dialect writes it, between two `nameMark`s if it `quotesNames`. A mark inside the
name is left as it is. -/
def quoteName (d : Dialect) (name : Text) : Text :=
  if d.quotesNames then nameMark :: name ++ [nameMark] else name

/-- The mark for the value of number `index`: `$index` or `?`, by the dialect's style. -/
def placeholder (d : Dialect) (index : Nat) : Text :=
  match d.placeholderStyle with
  | .indexed => '$' :: Text.ofNat index
  | .unindexed => ['?']

/-- The marks for the first `count` values, numbered from one. -/
def placeholders (d : Dialect) (count : Nat) : List Text :=
  (List.range count).map fun i => d.placeholder (i + 1)

end Dialect

end RecordSql
