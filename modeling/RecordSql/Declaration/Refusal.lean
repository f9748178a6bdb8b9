import RecordSql.Ident

/-! # Refused declarations

Why a record declaration gets no entity (`DeclarationRefusal`), and the words of the message. -/

namespace RecordSql

/-- Why a text is no list of plain names. -/
inductive NameFault
  /-- Nothing stands where a name should. -/
  | empty
  /-- The name holds a character that plain names do not have. -/
  | notPlain (name : Text) (c : Char)
  /-- The name comes for a second time. -/
  | repeated (name : Text)
  deriving DecidableEq, Repr

/-- The fault in words. -/
def NameFault.message : NameFault → Text
  | empty => "expected an identifier, found an empty string".toList
  | notPlain name c =>
    "`".toList ++ name ++ "` is not a plain identifier (unexpected ".toList ++ Text.quotedChar c
      ++ ")".toList
  | repeated name => "`".toList ++ name ++ "` is listed twice".toList

/-- Why the tokens of an attribute are no list of items. -/
inductive ItemFault
  /-- No identifier stands where an item begins. -/
  | identExpected
  /-- A keyword stands where an item begins. -/
  | keyword (word : Text)
  /-- No equals sign follows the key. -/
  | equalsExpected
  /-- No string follows the equals sign. -/
  | stringExpected
  /-- The tokens end after the equals sign. -/
  | endBeforeString
  /-- Something other than a comma follows an item. -/
  | unexpectedToken
  deriving DecidableEq, Repr

/-- The fault in words. -/
def ItemFault.message : ItemFault → Text
  | identExpected => "expected identifier".toList
  | keyword word => "expected identifier, found keyword `".toList ++ word ++ "`".toList
  | equalsExpected => "expected `=`".toList
  | stringExpected => "expected string literal".toList
  | endBeforeString => "unexpected end of input, expected string literal".toList
  | unexpectedToken => "unexpected token".toList

/-- Why a declaration is refused. -/
inductive DeclarationRefusal
  /-- The record has parameters. -/
  | generic
  /-- The fields of the record have no names. -/
  | unnamedFields
  /-- The declaration is no record. -/
  | notRecord
  /-- The attribute has no arguments. -/
  | argumentsMissing
  /-- The attribute has a value in place of arguments. -/
  | parenthesesMissing
  /-- The arguments of an attribute cannot be read. -/
  | item (fault : ItemFault)
  /-- A name given in an attribute is not acceptable. -/
  | name (fault : NameFault)
  /-- The record has no option of this key. -/
  | unknownOption (key : Ident)
  /-- A field has no such mark. -/
  | unknownMark (mark : Ident)
  /-- A second field is marked as auto key. -/
  | secondAutoKey
  /-- The auto key is no integer. -/
  | autoKeyNotInteger
  /-- Conflict keys are declared on the record and on fields. -/
  | twoConflictForms
  /-- A conflict key declared on the record is no field. -/
  | unknownConflictKey (key : Text)
  deriving DecidableEq, Repr

/-- The refusal in words. -/
def DeclarationRefusal.message : DeclarationRefusal → Text
  | generic => "Entity cannot be derived for generic structs".toList
  | unnamedFields => "Entity can only be derived for structs with named fields".toList
  | notRecord => "Entity can only be derived for structs".toList
  | argumentsMissing => "expected attribute arguments in parentheses: #[orm(...)]".toList
  | parenthesesMissing => "expected parentheses: #[orm(...)]".toList
  | item fault => fault.message
  | name fault => fault.message
  | unknownOption key =>
    "unknown struct attribute `".toList ++ key.text
      ++ "` (expected `name` or `conflict_key`)".toList
  | unknownMark mark =>
    "unknown field attribute `".toList ++ mark.text
      ++ "` (expected `auto_key` or `conflict_key`)".toList
  | secondAutoKey => "only one field can be marked #[orm(auto_key)]".toList
  | autoKeyNotInteger => "#[orm(auto_key)] requires an integer field".toList
  | twoConflictForms =>
    "use either #[orm(conflict_key = \"...\")] on the struct or ".toList
      ++ "#[orm(conflict_key)] on fields, not both".toList
  | unknownConflictKey key => "conflict_key names unknown field '".toList ++ key ++ "'".toList

end RecordSql
