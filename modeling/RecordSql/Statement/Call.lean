import RecordSql.Statement.Insert
import RecordSql.Statement.Query

/-! # Calls

The requests that a statement writer answers, as data (`Call`): a run of calls
(`StatementWriter.performAll`) threads the cache of column lists and collects answers and events. -/

namespace RecordSql

/-- A request to a statement writer. -/
inductive Call
  /-- An insert. -/
  | insert (e : Entity)
  /-- An insert that overwrites the row it meets. -/
  | replace (e : Entity)
  /-- An insert that updates the row it meets. -/
  | upsert (e : Entity)
  /-- The deletion of rows that meet a condition. -/
  | delete (e : Entity) (condition : Option Text)
  /-- A query with arguments. -/
  | select (e : Entity) (args : List Text)
  /-- An insert with the values of a row in place. -/
  | boundInsert (e : Entity) (row : List Value)
  /-- The literals that a row contributes to an insert. -/
  | insertLiterals (e : Entity) (row : List Value)
  /-- The column list of an entity. -/
  | columnList (e : Entity)
  deriving Repr

/-- The answer to a call. -/
inductive Answer
  /-- A statement. -/
  | statement (sql : Text)
  /-- A list of literals. -/
  | literals (texts : List Text)
  /-- A column list. -/
  | columns (list : Text)
  /-- A refusal. -/
  | failure (error : SqlError)
  deriving DecidableEq, Repr

/-- What a call leaves: its answer, the events reported, the cache after it. -/
structure CallResult where
  /-- The answer to the call. -/
  answer : Answer
  /-- The events reported, in order. -/
  events : List Event
  /-- The cache that the next call finds. -/
  cache : ColumnCache
  deriving DecidableEq, Repr

namespace Answer

/-- A statement, or the refusal. -/
def ofStatement : Except SqlError Text → Answer
  | .ok sql => statement sql
  | .error e => failure e

/-- Literals, or the refusal. -/
def ofLiterals : Except SqlError (List Text) → Answer
  | .ok texts => literals texts
  | .error e => failure e

/-- The statement that the answer holds, if it is one. -/
def statement? : Answer → Option Text
  | statement sql => some sql
  | literals _ | columns _ | failure _ => none

end Answer

namespace StatementWriter

/-- The result of a statement that leaves the cache alone. -/
def ofWritten (cache : ColumnCache) (w : Written) : CallResult :=
  ⟨.statement w.sql, w.events, cache⟩

/-- Answer a call. Only `select` and `columnList` change the cache, and the calls that write a
template report it. -/
def perform (w : StatementWriter) (cache : ColumnCache) : Call → CallResult
  | .insert e => ofWritten cache (w.insert e)
  | .replace e => ofWritten cache (w.replace e)
  | .upsert e => ofWritten cache (w.upsert e)
  | .delete e condition => ofWritten cache (w.delete e condition)
  | .select e args =>
    let (written, cache) := w.select cache e args
    ofWritten cache written
  | .boundInsert e row => ⟨.ofStatement (w.boundInsert e row), [], cache⟩
  | .insertLiterals e row =>
    ⟨.ofLiterals (Value.renderAll w.binder.context (w.insertValues e row)), [], cache⟩
  | .columnList e =>
    let (list, cache) := cache.columns e w.dialect
    ⟨.columns list, [], cache⟩

/-- Answer calls in order, each with the cache that the one before has left: `performAll_cons`. -/
def performAll (w : StatementWriter) (cache : ColumnCache) : List Call → List CallResult
  | [] => []
  | call :: rest =>
    let result := w.perform cache call
    result :: w.performAll result.cache rest

@[simp] theorem performAll_nil (w : StatementWriter) (cache : ColumnCache) :
    w.performAll cache [] = [] := rfl

theorem performAll_cons (w : StatementWriter) (cache : ColumnCache) (call : Call)
    (rest : List Call) :
    w.performAll cache (call :: rest)
      = w.perform cache call :: w.performAll (w.perform cache call).cache rest := rfl

end StatementWriter

end RecordSql
