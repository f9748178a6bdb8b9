import RecordSql.ColumnCache
import RecordSql.Statement.Writer

/-! # Queries and deletions

A select takes arguments: conditions, orderings and limits in the words of the caller. They are
joined to the statement by looking at the text alone (`QueryArgs.apply`). An argument with a
`select` of its own stands for the whole query. An argument that orders or limits makes the
statement end before its first `where`, so the condition that is always true goes, and with it any
other. -/

namespace RecordSql

namespace QueryArgs

/-- The condition that is always true, to which arguments are joined. -/
def sentinel : Text := " where 1=1 and".toList

/-- Whether an argument stands for the whole query: it holds the word `select`. -/
def isQuery (arg : Text) : Bool := Text.includes "select".toList arg

/-- Whether an argument orders or limits: it holds `order by` or `limit`. -/
def isOrdering (arg : Text) : Bool :=
  Text.includes "order by".toList arg || Text.includes "limit".toList arg

/-- The text `sql` with `arg` after one space, which is not doubled. -/
def spaced (sql arg : Text) : Text :=
  if sql.getLast? = some ' ' then sql ++ arg else sql ++ ' ' :: arg

/-- Join one argument to what has been written, with the event that reports an overruling. -/
def applyOne (w : Written) (arg : Text) : Written :=
  if isQuery arg then ⟨arg, w.events ++ [.queryReplaced arg]⟩
  else
    match (if isOrdering arg then Text.before? "where".toList w.sql else none) with
    -- the text ends before its first `where`
    | some head => ⟨spaced head arg, w.events ++ [.conditionsDropped arg]⟩
    | none => ⟨spaced w.sql arg, w.events⟩

/-- Join the arguments in order; empty ones do not count. The first that counts brings the
`sentinel` with it. -/
def apply (sql : Text) (args : List Text) : Written :=
  match args.filter fun arg => !arg.isEmpty with
  | [] => ⟨sql, []⟩
  | first :: rest => (first :: rest).foldl applyOne ⟨sql ++ sentinel, []⟩

end QueryArgs

namespace StatementWriter

/-- The select of all `columns`, without arguments. -/
def selectText (w : StatementWriter) (columns : Text) (e : Entity) : Text :=
  "select ".toList ++ columns ++ " from ".toList ++ w.dialect.quoteName e.name

/-- A select of all columns with the caller's arguments, and the cache after it. -/
def select (w : StatementWriter) (cache : ColumnCache) (e : Entity) (args : List Text) :
    Written × ColumnCache :=
  let (columns, cache) := cache.columns e w.dialect
  let query := QueryArgs.apply (w.selectText columns e) args
  let statement := w.traced .select e query.sql
  (⟨statement.sql, query.events ++ statement.events⟩, cache)

/-- The deletion of the rows that meet a condition, or of all without one; the empty condition is
none. -/
def deleteText (w : StatementWriter) (e : Entity) (condition : Option Text) : Text :=
  "delete from ".toList ++ w.dialect.quoteName e.name ++
    match condition with
    | none | some [] => []
    | some (c :: rest) => " where ".toList ++ c :: rest

/-- A deletion. -/
def delete (w : StatementWriter) (e : Entity) (condition : Option Text) : Written :=
  w.traced .delete e (w.deleteText e condition)

end StatementWriter

end RecordSql
