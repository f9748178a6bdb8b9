import RecordSql.Statement.Writer

/-! # Insert statements

Inserts leave the auto key to the database (`retainedFields`). A replacing insert overwrites the row
that it meets, an upsert updates it: the conflict clause (`conflictClause`) names the conflict keys
and sets the other columns. -/

namespace RecordSql.StatementWriter

/-- Whether the field `f` gets its value from the row: all but the auto key of `e.name` do. -/
def retains (w : StatementWriter) (e : Entity) (f : Field) : Bool :=
  !w.registry.isAutoKey e.name f.name

/-- The fields that get their values from the row, in declared order. -/
def retainedFields (w : StatementWriter) (e : Entity) : List Field := e.fields.filter (w.retains e)

/-- The values of a row that go into an insert, those at the positions of the retained fields. -/
def insertValues (w : StatementWriter) (e : Entity) (row : List Value) : List Value :=
  ((e.fields.zip row).filter fun p => w.retains e p.1).map Prod.snd

/-- The end of an insert whose values all come from the database. -/
def generatedOnly (d : Dialect) : Text :=
  match d with
  | .mySql => " () values()".toList
  | .sqlite | .postgres | .unknown => " default values".toList

/-- An insert template that begins with `verb`: a mark for each retained field, or `generatedOnly`
when there is none. -/
def insertTemplate (w : StatementWriter) (verb : Text) (e : Entity) : Text :=
  let fields := w.retainedFields e
  let columns := Text.commaJoined (fields.map fun f => w.dialect.quoteName f.name)
  verb ++ w.dialect.quoteName e.name ++
    if columns.isEmpty then generatedOnly w.dialect
    else
      " (".toList ++ columns ++ ") values(".toList
        ++ Text.commaJoined (w.dialect.placeholders fields.length) ++ ")".toList

/-- The beginning of an insert. -/
def insertVerb : Text := "insert into ".toList

/-- The beginning of a replacing insert. -/
def replaceVerb : Text := "replace into ".toList

/-- The columns that an upsert sets: those of the insert that are not among `keys`. -/
def updatedColumns (w : StatementWriter) (e : Entity) (keys : List Text) : List Text :=
  ((w.retainedFields e).map Field.name).filter fun name => !keys.contains name

/-- The column `name` set to the value of the row that met a conflict. -/
def assignment (d : Dialect) (name : Text) : Text :=
  match d with
  | .mySql => d.quoteName name ++ "=values(".toList ++ d.quoteName name ++ ")".toList
  | .sqlite | .postgres | .unknown => d.quoteName name ++ "=excluded.".toList ++ d.quoteName name

/-- The conflict clause for the given `keys` and the `columns` to set. Without columns to set the
row stays: MySQL sets the first key to itself, the others do nothing. -/
def conflictClause (d : Dialect) (keys columns : List Text) : Text :=
  let assignments := Text.commaJoined (columns.map (assignment d))
  match d with
  | .mySql =>
    let key := d.quoteName (keys.headD [])   -- `upsertTemplate` has at least one
    " on duplicate key update ".toList
      ++ if columns.isEmpty then key ++ "=".toList ++ key else assignments
  | .sqlite | .postgres | .unknown =>
    " on conflict (".toList ++ Text.commaJoined (keys.map d.quoteName) ++ ")".toList
      ++ if columns.isEmpty then " do nothing".toList
        else " do update set ".toList ++ assignments

/-- The template of an upsert: the insert, and the conflict clause if `conflictKeys` has some for
the name. -/
def upsertTemplate (w : StatementWriter) (e : Entity) : Text :=
  let keys := w.registry.conflictKeys e.name
  w.insertTemplate insertVerb e ++
    if keys.isEmpty then [] else conflictClause w.dialect keys (w.updatedColumns e keys)

/-- An insert. -/
def insert (w : StatementWriter) (e : Entity) : Written :=
  w.traced .insert e (w.insertTemplate insertVerb e)

/-- An insert that updates the row it meets; without conflict keys a plain insert, and reported as
`StatementKind.insert`. -/
def upsert (w : StatementWriter) (e : Entity) : Written :=
  let kind := if (w.registry.conflictKeys e.name).isEmpty then .insert else .upsert
  w.traced kind e (w.upsertTemplate e)

/-- An insert that overwrites the row it meets. PostgreSQL has none and gets the `upsert`. -/
def replace (w : StatementWriter) (e : Entity) : Written :=
  match w.dialect with
  | .postgres => w.upsert e
  | .mySql | .sqlite | .unknown => w.traced .replace e (w.insertTemplate replaceVerb e)

/-- An insert with the literals of a row in place of the marks: `Binder.bind` on the template of
`insert`. -/
def boundInsert (w : StatementWriter) (e : Entity) (row : List Value) : Except SqlError Text :=
  w.binder.bind (w.insertTemplate insertVerb e) (w.insertValues e row)

end RecordSql.StatementWriter
