import RecordSql.FieldType

/-! # Entities

An entity is a record whose fields are the columns of a table. Two entities may have one `name`, a
whole row and a part of it, and still differ in their fields; `id` tells them apart. -/

namespace RecordSql

/-- A declared field, which is also a column. -/
structure Field where
  /-- The name of the field and of its column. -/
  name : Text
  /-- What its values are. -/
  type : FieldType
  /-- Whether a value may be absent. -/
  optional : Bool
  deriving DecidableEq, Repr

/-- A record and its fields. -/
structure Entity where
  /-- What tells the entity from others, also from those of the same name. -/
  id : Text
  /-- The name of the table. -/
  name : Text
  /-- The fields in declared order. -/
  fields : List Field
  deriving DecidableEq, Repr

namespace Entity

/-- The first field called `name`. -/
def field? (e : Entity) (name : Text) : Option Field := e.fields.find? fun f => f.name = name

/-- Whether some field is called `name`. -/
def declares (e : Entity) (name : Text) : Bool := (e.field? name).isSome

/-- The names of the fields in declared order. -/
def fieldNames (e : Entity) : List Text := e.fields.map Field.name

theorem declares_iff {e : Entity} {name : Text} :
    e.declares name = true ↔ name ∈ e.fieldNames := by
  simp [declares, field?, fieldNames]

/-- The fields' column types in a dialect, or `unresolvableType` for the first field that has
none. -/
def columnTypes (e : Entity) (d : Dialect) : Except SqlError (List Text) :=
  e.fields.mapM fun f =>
    match d.columnType? f.type with
    | some type => .ok type
    | none => .error (.unresolvableType e.name f.name d.name)

end Entity

end RecordSql
