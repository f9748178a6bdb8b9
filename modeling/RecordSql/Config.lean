import RecordSql.Dialect

/-! # Configuration

Which dialect statements are written in, what happens to quotation marks in values (`QuotePolicy`),
and whether each statement is reported. Literals depend on the first two only (`LiteralContext`). -/

namespace RecordSql

/-- What to do with a quotation mark inside a text value. -/
inductive QuotePolicy
  /-- Refuse the value. -/
  | reject
  /-- Write the mark twice. -/
  | escape
  deriving DecidableEq, Repr

/-- How literals are written. -/
structure LiteralContext where
  /-- The dialect of the literals. -/
  dialect : Dialect
  /-- What happens to quotation marks. -/
  policy : QuotePolicy
  deriving DecidableEq, Repr

/-- How statements are written. -/
structure Config where
  /-- The dialect of the statements. -/
  dialect : Dialect
  /-- What happens to quotation marks in values. -/
  policy : QuotePolicy
  /-- Whether an event reports each statement. -/
  tracing : Bool
  deriving DecidableEq, Repr

namespace Config

/-- Statements in the dialect `d`; quotation marks are refused and nothing is reported. -/
def ofDialect (d : Dialect) : Config := ⟨d, .reject, false⟩

/-- The configuration without a particular backend. -/
def standard : Config := ofDialect .unknown

/-- The configuration with another dialect. -/
def withDialect (c : Config) (d : Dialect) : Config := { c with dialect := d }

/-- The configuration with another quote policy. -/
def withPolicy (c : Config) (p : QuotePolicy) : Config := { c with policy := p }

/-- The configuration under which statements are reported. -/
def enableTracing (c : Config) : Config := { c with tracing := true }

/-- The configuration under which statements are not reported. -/
def disableTracing (c : Config) : Config := { c with tracing := false }

/-- The part of the configuration that literals depend on. -/
def literalContext (c : Config) : LiteralContext := ⟨c.dialect, c.policy⟩

end Config

end RecordSql
