import RecordSql.Dialect

/-! # Events

What the library reports while it works (`Event`): a registry that is complete, a statement that has
been written, and the two ways in which the arguments of a query overrule the statement. -/

namespace RecordSql

/-- The statements that are reported. -/
inductive StatementKind
  /-- A plain insert. -/
  | insert
  /-- An insert that overwrites. -/
  | replace
  /-- An insert that updates. -/
  | upsert
  /-- A deletion. -/
  | delete
  /-- A query. -/
  | select
  deriving DecidableEq, Repr

/-- The word for a kind of statement. -/
def StatementKind.name : StatementKind → Text
  | insert => "insert".toList
  | replace => "replace".toList
  | upsert => "upsert".toList
  | delete => "delete".toList
  | select => "select".toList

/-- How much an event matters. -/
inductive EventLevel
  /-- Detail. -/
  | debug
  /-- News. -/
  | info
  /-- A surprise. -/
  | warn
  deriving DecidableEq, Repr

/-- Something worth a report. -/
inductive Event
  /-- The registry is complete, with so many keys of each kind. -/
  | registryFrozen (autoKeys conflictKeys : Nat)
  /-- A statement has been written. -/
  | statementWritten (kind : StatementKind) (entity : Text) (dialect : Dialect) (sql : Text)
  /-- An argument stands for the whole query. -/
  | queryReplaced (arg : Text)
  /-- An argument that orders or limits made the conditions go. -/
  | conditionsDropped (arg : Text)
  deriving DecidableEq, Repr

namespace Event

/-- How much the event matters. -/
def level : Event → EventLevel
  | registryFrozen .. => .info
  | statementWritten .. => .debug
  | queryReplaced _ => .warn
  | conditionsDropped _ => .debug

/-- The part of the library that the event belongs to. -/
def target : Event → Text
  | registryFrozen .. => "reflorm.registry".toList
  | statementWritten .. | queryReplaced _ | conditionsDropped _ => "reflorm.sql".toList

/-- The event in words. -/
def message : Event → Text
  | registryFrozen .. => "registry frozen".toList
  | statementWritten .. => "generated statement".toList
  | queryReplaced _ => "raw query argument replaces generated select".toList
  | conditionsDropped _ => "dropping where clause before ordering/limit".toList

end Event

end RecordSql
