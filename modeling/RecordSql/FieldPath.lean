import RecordSql.Entity
import RecordSql.Ident
import RecordSql.Value

/-! # Naming fields

A field is named alone or behind its entity with two colons between them (`FieldPath.strip`). A
handle (`FieldHandle`) is a declared field that reads its value from a row. -/

namespace RecordSql

namespace FieldPath

/-- What stands between an entity and its field. -/
def separator : Text := "::".toList

/-- The field that a text names: the text itself when it is not qualified, and what follows
`entity ++ separator` when that is one name without a separator. -/
def strip (entity qualified : Text) : Except SqlError Text :=
  if Text.includes separator qualified then
    match Text.dropPrefix? (entity ++ separator) qualified with
    | some (c :: rest) =>
      if Text.includes separator (c :: rest) then .error (.unknownField entity qualified)
      else .ok (c :: rest)
    | some [] | none => .error (.unknownField entity qualified)
  else .ok qualified

end FieldPath

/-- A declared field of an entity. -/
structure FieldHandle where
  /-- The entity that declares the field. -/
  entity : Entity
  /-- The name that the handle goes by. -/
  name : Text
  /-- The position of the field's value in a row. -/
  position : Nat
  deriving DecidableEq, Repr

namespace FieldHandle

/-- The handle of the first field called `name`. -/
def ofName? (e : Entity) (name : Text) : Option FieldHandle :=
  (e.fields.findIdx? fun f => f.name = name).map fun position => ⟨e, name, position⟩

/-- The handle of the field that the identifier `i` stands for. It goes by `i.text`, the identifier
as it is written. -/
def ofIdent? (e : Entity) (i : Ident) : Option FieldHandle :=
  (e.fields.findIdx? fun f => f.name = i.name).map fun position => ⟨e, i.text, position⟩

/-- The value of the field in a row. -/
def read? (h : FieldHandle) (row : List Value) : Option Value := row[h.position]?

/-- The handle as messages show it. -/
def shown (h : FieldHandle) : Text := "Field(".toList ++ Text.quoted h.name ++ ")".toList

end FieldHandle

end RecordSql
