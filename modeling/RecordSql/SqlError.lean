import RecordSql.Text.Quoted

/-! # Errors

Why a statement, a literal, a registration or a name is refused (`SqlError`, and `LiteralFault` for
literals), and the words of the message. -/

namespace RecordSql

/-- Why a value has no safe literal. -/
inductive LiteralFault
  /-- The text holds the character zero. -/
  | nul
  /-- The text holds a quotation mark, or an escape character of the dialect. -/
  | quoteMark (content : Text)
  /-- The float, whose text is given, is no finite number. -/
  | nonFinite (value : Text)
  /-- A reason given in words by a literal form outside this library. -/
  | described (reason : Text)
  deriving DecidableEq, Repr

/-- The fault in words. -/
def LiteralFault.reason : LiteralFault → Text
  | nul => "string literal contains a NUL character".toList
  | quoteMark content =>
    "string literal ".toList ++ Text.preview content
      ++ " contains a quote or escape character".toList
  | nonFinite value => value ++ " has no SQL numeric literal".toList
  | described reason => reason

/-- Why an operation of the library fails. -/
inductive SqlError
  /-- A template expects another number of values than it is given. -/
  | placeholderMismatch (expected found : Nat)
  /-- The entity declares no such field. -/
  | unknownField (entity field : Text)
  /-- The dialect has no column type for the field. -/
  | unresolvableType (entity field dialect : Text)
  /-- A value has no safe literal. -/
  | unsafeLiteral (fault : LiteralFault)
  /-- The entity has a key of this kind already. -/
  | duplicateRegistration (entity kind : Text)
  /-- No dialect has this name. -/
  | unknownDialect (name : Text)
  /-- A request that makes no sense, in words. -/
  | invalid (reason : Text)
  deriving DecidableEq, Repr

/-- The error in words. -/
def SqlError.message : SqlError → Text
  | placeholderMismatch expected found =>
    "Placeholder mismatch: template expects ".toList ++ Text.ofNat expected
      ++ " value(s), ".toList ++ Text.ofNat found ++ " supplied".toList
  | unknownField entity field =>
    "Unknown field '".toList ++ field ++ "' on entity '".toList ++ entity ++ "'".toList
  | unresolvableType entity field dialect =>
    "No ".toList ++ dialect ++ " column type for field '".toList ++ entity ++ ".".toList ++ field
      ++ "'".toList
  | unsafeLiteral fault => "Unsafe literal: ".toList ++ fault.reason
  | duplicateRegistration entity kind =>
    "Duplicate ".toList ++ kind ++ " registration for entity '".toList ++ entity ++ "'".toList
  | unknownDialect name => "Unknown dialect: ".toList ++ name
  | invalid reason => "Validation error: ".toList ++ reason

end RecordSql
