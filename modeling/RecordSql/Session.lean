import RecordSql.Statement.Call

/-! # Sessions

A session keeps a statement writer, the cache of column lists that writers share, and the last
statement, which later requests go on with. `Session.step` answers one `Request`. -/

namespace RecordSql

/-- Which cache a new writer uses. -/
inductive CacheChoice
  /-- The cache of the session. -/
  | shared
  /-- An empty cache that becomes the cache of the session. -/
  | renewed
  /-- An empty cache of its own. -/
  | own
  deriving DecidableEq, Repr

/-- The state of a session. -/
structure Session where
  /-- The writer in use. -/
  writer : StatementWriter
  /-- The cache that writers share. -/
  sharedCache : ColumnCache
  /-- The cache of the writer, if it does not share. -/
  ownCache : Option ColumnCache
  /-- The last statement. -/
  last : Text
  deriving DecidableEq, Repr

/-- A request to a session. -/
inductive Request
  /-- A call of the writer. -/
  | call (c : Call)
  /-- Join arguments to the last statement. -/
  | requery (args : List Text)
  /-- Bind values to the last statement. -/
  | bindLast (values : List Value)
  /-- The column types of an entity. -/
  | columnTypes (e : Entity)
  /-- How many column lists the session's cache keeps. -/
  | cacheSize
  /-- Go on with another configuration. -/
  | use (config : Config) (choice : CacheChoice)
  /-- Whether a field is the auto key of a name. -/
  | isAutoKey (name field : Text)
  /-- The auto key of a name. -/
  | autoKey (name : Text)
  /-- The conflict keys of a name. -/
  | conflictKeys (name : Text)
  deriving Repr

/-- The answer to a request. -/
inductive Reply
  /-- The answer to a call. -/
  | answer (a : Answer)
  /-- Column types in order. -/
  | types (names : List Text)
  /-- The size of a cache. -/
  | size (n : Nat)
  /-- The configuration in use. -/
  | config (c : Config)
  /-- A truth value. -/
  | truth (b : Bool)
  /-- A key, if there is one. -/
  | key (name : Option Text)
  /-- Keys in order. -/
  | keys (names : List Text)
  deriving DecidableEq, Repr

namespace Session

/-- A session that begins with no statement and an empty cache. -/
def start (registry : KeyRegistry) (config : Config) : Session :=
  ⟨⟨registry, config⟩, .empty, none, []⟩

/-- The cache that the writer uses: its own if it has one, else the shared one. -/
def cache (s : Session) : ColumnCache := s.ownCache.getD s.sharedCache

/-- The session with `c` in the place of the cache that its writer uses. -/
def withCache (s : Session) (c : ColumnCache) : Session :=
  match s.ownCache with
  | some _ => { s with ownCache := some c }
  | none => { s with sharedCache := c }

/-- The session after an answer: a statement becomes the last one. -/
def remembering (s : Session) (a : Answer) : Session := { s with last := a.statement?.getD s.last }

/-- The session with a new writer on the same registry. -/
def switch (s : Session) (config : Config) (choice : CacheChoice) : Session :=
  { s with
    writer := ⟨s.writer.registry, config⟩
    sharedCache := if choice = .renewed then .empty else s.sharedCache
    ownCache := if choice = .own then some .empty else none }

/-- Answer a request: the reply, the events reported, the session after it. -/
def step (s : Session) : Request → Reply × List Event × Session
  | .call c =>
    let result := s.writer.perform s.cache c
    (.answer result.answer, result.events, (s.withCache result.cache).remembering result.answer)
  | .requery args =>
    let written := QueryArgs.apply s.last args
    (.answer (.statement written.sql), written.events, s.remembering (.statement written.sql))
  | .bindLast values =>
    let answer := Answer.ofStatement (s.writer.binder.bind s.last values)
    (.answer answer, [], s.remembering answer)
  | .columnTypes e =>
    match e.columnTypes s.writer.dialect with
    | .ok names => (.types names, [], s)
    | .error err => (.answer (.failure err), [], s)
  | .cacheSize => (.size s.sharedCache.size, [], s)
  | .use config choice => (.config config, [], s.switch config choice)
  | .isAutoKey name field => (.truth (s.writer.registry.isAutoKey name field), [], s)
  | .autoKey name => (.key (s.writer.registry.autoKey? name), [], s)
  | .conflictKeys name => (.keys (s.writer.registry.conflictKeys name), [], s)

end Session

end RecordSql
