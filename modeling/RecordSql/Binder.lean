import RecordSql.Literal
import RecordSql.Template

/-! # Binding

A binder puts the literals of values into a template in place of its marks (`Binder.bind`). The
number of values has to be the one that the template expects; after that the first value without a
literal decides. The template is read once, so marks inside a literal are left alone.

There are two styles: `bindUnindexed` takes the values from left to right, `bindIndexed` by the
numbers at the marks. -/

namespace RecordSql

/-- A binder for one dialect and one quote policy. -/
structure Binder where
  /-- How literals are written. -/
  context : LiteralContext
  deriving DecidableEq, Repr

namespace Binder

/-- A binder for the dialect `d` that refuses quotation marks. -/
def ofDialect (d : Dialect) : Binder := ⟨⟨d, .reject⟩⟩

/-- The binder that a configuration asks for. -/
def ofConfig (c : Config) : Binder := ⟨c.literalContext⟩

/-- The binder without a particular backend. -/
def standard : Binder := ofDialect .unknown

/-- The binder with another quote policy. -/
def withPolicy (b : Binder) (p : QuotePolicy) : Binder := ⟨⟨b.context.dialect, p⟩⟩

/-- The dialect of the binder. -/
def dialect (b : Binder) : Dialect := b.context.dialect

/-- Append the rest of a template to `out`, with the literals of the values in place of its question
marks. Marks beyond the last value vanish. -/
def fillUnindexed (ctx : LiteralContext) : (rest : Text) → List Value → (out : Text) →
    Except SqlError Text
  | [], _, out => .ok out
  | c :: rest, values, out =>
    if c = '?' then
      match values with
      | [] => fillUnindexed ctx rest [] out   -- not reached when the counts agree
      | v :: values =>
        match v.appendTo ctx out with
        | (written, .ok ()) => fillUnindexed ctx rest values written
        | (_, .error e) => .error e
    else fillUnindexed ctx rest values (out ++ [c])

/-- Bind to question marks, from left to right: as many values as `Template.markCount template`,
else a mismatch. -/
def bindUnindexed (b : Binder) (template : Text) (values : List Value) : Except SqlError Text :=
  if Template.markCount template = values.length then
    fillUnindexed b.context template values []
  else .error (.placeholderMismatch (Template.markCount template) values.length)

/-- Bind to the marks `ms` that have been found in the template. Each value has to be asked for, and
no others may be: the greatest number is the count of values and every flag is set, else a mismatch
that names `Template.highestIndex ms`. -/
def bindMarkers (b : Binder) (template : Text) (ms : List Template.Marker) (values : List Value) :
    Except SqlError Text :=
  let mismatch := .placeholderMismatch (Template.highestIndex ms) values.length
  match Template.flagged ms (List.replicate values.length false) with
  | none => .error mismatch
  | some used =>
    if Template.highestNumber ms = values.length ∧ used.all id then
      (Value.renderAll b.context values).map (Template.fillMarkers template ms)
    else .error mismatch

/-- Bind to the marks of the template that have an index. -/
def bindIndexed (b : Binder) (template : Text) (values : List Value) : Except SqlError Text :=
  b.bindMarkers template (Template.markers template) values

/-- Bind in the style of the binder's dialect. -/
def bind (b : Binder) (template : Text) (values : List Value) : Except SqlError Text :=
  match b.dialect.placeholderStyle with
  | .unindexed => b.bindUnindexed template values
  | .indexed => b.bindIndexed template values

end Binder

end RecordSql
