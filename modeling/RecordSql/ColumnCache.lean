import RecordSql.Entity

/-! # Cached column lists

The column list of an entity (`Entity.columnList`) depends on the entity and on whether names are
quoted. A cache keeps each list that has been asked for (`ColumnCache.columns`). Entities count, not
names: two entities of one name keep two lists. -/

namespace RecordSql

/-- The names of the entity's fields as columns, each by `Dialect.quoteName`, with commas between
them. -/
def Entity.columnList (e : Entity) (d : Dialect) : Text :=
  Text.commaJoined (e.fieldNames.map d.quoteName)

/-- The column lists that have been asked for. -/
structure ColumnCache where
  /-- Each list with its entity and whether names are quoted in it. -/
  entries : List ((Entity × Bool) × Text)
  deriving DecidableEq, Repr

namespace ColumnCache

/-- The cache before anything has been asked for. -/
def empty : ColumnCache := ⟨[]⟩

/-- How many lists are kept. -/
def size (c : ColumnCache) : Nat := c.entries.length

/-- Whether no list is kept. -/
def isEmpty (c : ColumnCache) : Bool := c.size == 0

/-- The list kept for an entity and a way of quoting. -/
def lookup? (c : ColumnCache) (e : Entity) (quoted : Bool) : Option Text :=
  c.entries.lookup (e, quoted)

/-- The column list of `e`: the one kept, or a new one that is kept from now on. -/
def columns (c : ColumnCache) (e : Entity) (d : Dialect) : Text × ColumnCache :=
  match c.lookup? e d.quotesNames with
  | some list => (list, c)
  | none =>
    let list := e.columnList d
    (list, ⟨c.entries ++ [((e, d.quotesNames), list)]⟩)

end ColumnCache

end RecordSql
