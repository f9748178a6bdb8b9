import RecordSql.Config
import RecordSql.Value

/-! # Literals

Each value is written as a literal of the dialect, or refused. Writing appends to a text that has
been begun, and a refusal may come when a part of the literal is there already: `Value.appendTo`
keeps both. `Value.render` writes to a fresh text and keeps the whole literal or the error. -/

namespace RecordSql

/-- Writing behind a text that has been begun, which may stop with an error. What has been appended
before the error stays there. -/
abbrev Writing := EStateM SqlError Text Unit

namespace Writing

/-- Append a text. -/
def push (text : Text) : Writing := modify (· ++ text)

/-- Stop at a value that has no literal. -/
def refuse (fault : LiteralFault) : Writing := throw (.unsafeLiteral fault)

/-- Write behind `out`: the text afterwards, and the error if there is one. That `out` stays in
front is a fact about the writer: `Writing.Emits`. -/
def behind (w : Writing) (out : Text) : Text × Except SqlError Unit :=
  match w.run out with
  | .ok () written => (written, .ok ())
  | .error e written => (written, .error e)

end Writing

/-- The mark around a text literal. -/
def quoteMark : Char := '\x27'

namespace Dialect

/-- Whether a backslash inside a text literal escapes the next character. -/
def escapesBackslash : Dialect → Bool
  | mySql => true
  | sqlite | postgres | unknown => false

/-- Whether a character inside a text literal has to be written twice: a `quoteMark`, and a
backslash where `escapesBackslash`. -/
def isSpecial (d : Dialect) (c : Char) : Bool :=
  c == quoteMark || (d.escapesBackslash && c == '\\')

/-- The character `c` as it stands inside a text literal: twice if it is special, else once. -/
def escaped (d : Dialect) (c : Char) : Text := if d.isSpecial c then [c, c] else [c]

/-- A truth value as the dialect writes it. -/
def boolText (d : Dialect) (b : Bool) : Text :=
  match d, b with
  | postgres, true => "true".toList
  | postgres, false => "false".toList
  | _, true => "1".toList
  | _, false => "0".toList

/-- Bytes as hexadecimal digits between marks: `'\x…'` in PostgreSQL, `X'…'` elsewhere. -/
def bytesText (d : Dialect) (content : List UInt8) : Text :=
  match d with
  | postgres => quoteMark :: '\\' :: 'x' :: Text.hexOfBytes content ++ [quoteMark]
  | mySql | sqlite | unknown => 'X' :: quoteMark :: Text.hexOfBytes content ++ [quoteMark]

/-- A day and a time of the zone UTC, with the zone `+00:00` behind it unless the dialect is
`mySql`, whose column type keeps none. -/
def timestampText (d : Dialect) (t : DateTime) : Text :=
  match d with
  | mySql => t.write
  | sqlite | postgres | unknown => t.write ++ "+00:00".toList

end Dialect

namespace LiteralContext

/-- Write `content` between marks. The character zero is refused before anything is written. Under
`.escape` a special character is written twice; under `.reject` it is refused, and the opening mark
is there already. -/
def writeQuoted (ctx : LiteralContext) (content : Text) : Writing := do
  if content.contains '\x00' then Writing.refuse .nul
  Writing.push [quoteMark]
  if content.any ctx.dialect.isSpecial then
    match ctx.policy with
    | .reject => Writing.refuse (.quoteMark content)
    | .escape => content.forM fun c => Writing.push (ctx.dialect.escaped c)
  else Writing.push content
  Writing.push [quoteMark]

/-- Write a float that is a number by its shortest digits; an infinity and what is no number are
refused before anything is written. -/
def writeFloat (x : BinaryFloat) : Writing :=
  match x.read with
  | .finite negative mantissa exponent =>
    .push (Value.numberLayout.write x.width negative mantissa exponent)
  | .infinite negative =>
    .refuse (.nonFinite (if negative then "-inf".toList else "inf".toList))
  | .notANumber => .refuse (.nonFinite "NaN".toList)

end LiteralContext

namespace Value

/-- The word for an absent value. -/
def absentText : Text := "NULL".toList

/-- `v.appendTo ctx out` appends the literal of `v` to `out`: the text afterwards and whether the
literal was refused. A refusal leaves what had been appended before it. -/
def appendTo (ctx : LiteralContext) (out : Text) : Value → Text × Except SqlError Unit
  | int n => (Writing.push (Text.ofInt n)).behind out
  | float x => (LiteralContext.writeFloat x).behind out
  | bool b => (Writing.push (ctx.dialect.boolText b)).behind out
  | char c => (ctx.writeQuoted [c]).behind out
  | text content => (ctx.writeQuoted content).behind out
  | bytes content => (Writing.push (ctx.dialect.bytesText content)).behind out
  | date d => (ctx.writeQuoted d.write).behind out
  | time t => (ctx.writeQuoted t.write).behind out
  | dateTime t => (ctx.writeQuoted t.write).behind out
  | timestamp t => (ctx.writeQuoted (ctx.dialect.timestampText t)).behind out
  | uuid id => (ctx.writeQuoted (uuidText id)).behind out
  | json document => (ctx.writeQuoted document.compact).behind out
  | decimal d => (Writing.push d.write).behind out
  | absent => (Writing.push absentText).behind out
  | present v => v.appendTo ctx out

/-- The value's literal, or why it has none: `appendTo ctx []`, whose text is lost with a
refusal. -/
def render (ctx : LiteralContext) (v : Value) : Except SqlError Text :=
  match v.appendTo ctx [] with
  | (written, .ok ()) => .ok written
  | (_, .error e) => .error e

/-- Append the literals of the values in order, refused or not, and note after each what has been
written. -/
def appendAll (ctx : LiteralContext) (out : Text) :
    List Value → List (Except SqlError Unit × Text)
  | [] => []
  | v :: rest =>
    let (written, outcome) := v.appendTo ctx out
    (outcome, written) :: appendAll ctx written rest

/-- The literals of the values in order, or the error of the first value that has none. -/
def renderAll (ctx : LiteralContext) (values : List Value) : Except SqlError (List Text) :=
  values.mapM (render ctx)

@[simp] theorem render_present (ctx : LiteralContext) (v : Value) :
    (present v).render ctx = v.render ctx := rfl

@[simp] theorem render_absent (ctx : LiteralContext) : absent.render ctx = .ok absentText := rfl

end Value

end RecordSql
