import RecordSql.Declaration.Attribute
import RecordSql.Declaration.ConstantName
import RecordSql.Declaration.TypeExpr
import RecordSql.KeyRegistry

/-! # From declarations to entities

A declared record becomes an entity (`Declaration.accept`) when it has named fields and no
parameters, its attributes can be read, at most one field is the auto key and that is an integer,
and its conflict keys are declared in one form and are fields. The first of these that fails is
reported. -/

namespace RecordSql

/-- A field as it is declared. -/
structure FieldDeclaration where
  /-- What the field is called. -/
  ident : Ident
  /-- The type of its values. -/
  type : TypeExpr
  /-- The attributes in front of it. -/
  attributes : List Attribute

/-- What a declaration declares. -/
inductive DeclarationShape
  /-- A record with named fields. -/
  | named (fields : List FieldDeclaration)
  /-- A record whose fields have no names. -/
  | tuple
  /-- A record without fields. -/
  | unit
  /-- A choice of variants. -/
  | enumeration
  /-- Fields that share their storage. -/
  | union

/-- A declaration that asks for an entity. -/
structure Declaration where
  /-- What is declared. -/
  ident : Ident
  /-- The parameters in angle brackets, brackets included. -/
  generics : Text
  /-- The attributes in front of the declaration. -/
  attributes : List Attribute
  /-- The kind of declaration, and its fields. -/
  shape : DeclarationShape

/-- What is decided for an accepted declaration. The texts of generated code are no part of it. -/
structure Mapping where
  /-- The name of the entity. -/
  name : Text
  /-- The fields as they are read from a record, in declared order. -/
  accessors : List Ident
  /-- The auto key, if there is one. -/
  autoKey : Option Text
  /-- The conflict keys declared. -/
  conflictKeys : List Text
  deriving DecidableEq, Repr

namespace Mapping

/-- The names of the fields in declared order. -/
def fieldNames (m : Mapping) : List Text := m.accessors.map Ident.name

/-- The constants of the fields by `ConstantName.ofField`, each with the name of its field. -/
def constants (m : Mapping) : List (Text × Text) :=
  m.fieldNames.map fun name => (ConstantName.ofField name, name)

/-- Whether there is a key to register. -/
def registers (m : Mapping) : Bool := m.autoKey.isSome || !m.conflictKeys.isEmpty

/-- The keys that the mapping asks for on behalf of its entity. -/
def keyDeclaration (m : Mapping) (e : Entity) : KeyDeclaration :=
  ⟨e, m.autoKey, if m.conflictKeys.isEmpty then none else some m.conflictKeys⟩

end Mapping

namespace Declaration

/-- Whether there are parameters: a mark `<` with another lexeme than `>` after it. -/
def isGeneric (d : Declaration) : Bool :=
  match Lexeme.scan d.generics with
  | .mark '<' :: .mark '>' :: _ => false
  | .mark '<' :: _ => true
  | _ => false

/-- What has been read of the fields. -/
structure FieldScan where
  /-- The fields so far. -/
  accessors : List Ident
  /-- The field marked as auto key. -/
  autoKey : Option Text
  /-- The fields marked as conflict keys. -/
  conflictKeys : List Text
  deriving DecidableEq, Repr

namespace FieldScan

/-- Before any field. -/
def empty : FieldScan := ⟨[], none, []⟩

/-- Read one field: its marks, then whether it may be the auto key. -/
def add (s : FieldScan) (f : FieldDeclaration) : Except DeclarationRefusal FieldScan := do
  let marks ← FieldMarks.ofAttributes f.attributes
  if marks.autoKey && s.autoKey.isSome then .error .secondAutoKey
  else if marks.autoKey && !f.type.isInteger then .error .autoKeyNotInteger
  else
    .ok
      { accessors := s.accessors ++ [f.ident]
        autoKey := if marks.autoKey then some f.ident.name else s.autoKey
        conflictKeys :=
          if marks.conflictKey then s.conflictKeys ++ [f.ident.name] else s.conflictKeys }

end FieldScan

/-- The conflict keys of the record, declared on it by the options `o` or on its fields. -/
def conflictKeys (o : RecordOptions) (s : FieldScan) : Except DeclarationRefusal (List Text) :=
  match o.conflictKeys with
  | none => .ok s.conflictKeys
  | some keys =>
    if s.conflictKeys.isEmpty then
      match keys.find? fun key => !(s.accessors.map Ident.name).contains key with
      | some key => .error (.unknownConflictKey key)
      | none => .ok keys
    else .error .twoConflictForms

/-- The declaration's fields, or why it has no named ones. -/
def namedFields (d : Declaration) : Except DeclarationRefusal (List FieldDeclaration) :=
  match d.shape with
  | .named fields => .ok fields
  | .tuple | .unit => .error .unnamedFields
  | .enumeration | .union => .error .notRecord

/-- Accept a declaration, or say why not. The checks are made in the order of the steps. -/
def accept (d : Declaration) : Except DeclarationRefusal Mapping :=
  if d.isGeneric then .error .generic
  else do
    let fields ← d.namedFields
    let options ← RecordOptions.ofAttributes d.attributes
    let scan ← fields.foldlM FieldScan.add .empty
    let keys ← conflictKeys options scan
    .ok ⟨options.name.getD d.ident.name, scan.accessors, scan.autoKey, keys⟩

end Declaration

end RecordSql
