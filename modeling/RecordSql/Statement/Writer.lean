import RecordSql.Binder
import RecordSql.KeyRegistry

/-! # Statement writers

A writer (`StatementWriter`) knows the keys of the entities and how statements are written. What it
writes is a text and the events that report it (`Written`). -/

namespace RecordSql

/-- A text and the events reported while it was made. -/
structure Written where
  /-- The text. -/
  sql : Text
  /-- The events in order. -/
  events : List Event
  deriving DecidableEq, Repr

/-- What statements are written from. -/
structure StatementWriter where
  /-- The keys of the entities. -/
  registry : KeyRegistry
  /-- How statements are written. -/
  config : Config
  deriving DecidableEq, Repr

namespace StatementWriter

/-- The dialect of the statements. -/
def dialect (w : StatementWriter) : Dialect := w.config.dialect

/-- The binder for the writer's templates. -/
def binder (w : StatementWriter) : Binder := Binder.ofConfig w.config

/-- The statement `sql` with its event, if statements are reported. -/
def traced (w : StatementWriter) (kind : StatementKind) (e : Entity) (sql : Text) : Written :=
  ⟨sql, if w.config.tracing then [.statementWritten kind e.name w.dialect sql] else []⟩

@[simp] theorem sql_traced (w : StatementWriter) (kind : StatementKind) (e : Entity) (sql : Text) :
    (w.traced kind e sql).sql = sql := rfl

end StatementWriter

end RecordSql
