import RecordSql.Declaration.Refusal
import RecordSql.Text.Blank

/-! # Plain names

Names from attributes stand in statements as they are, so only plain ones pass (`check`): a letter
of ASCII or an underscore, then such characters and digits. A list of names (`readList`) is
separated by commas, with blanks around each name, and names no field twice. -/

namespace RecordSql.PlainName

/-- Whether a plain name may begin with `c`. -/
def isStart (c : Char) : Bool := c == '_' || c.isAlpha

/-- Whether a plain name may go on with `c`. -/
def isRest (c : Char) : Bool := isStart c || c.isDigit

/-- The first character that a plain name does not have at its place; `none` for the empty text
too. -/
def firstBad? : Text → Option Char
  | [] => none
  | c :: rest => if isStart c then rest.find? fun c => !isRest c else some c

/-- The text itself if it is a plain name, else what is wrong with it. -/
def check (name : Text) : Except NameFault Text :=
  match firstBad? name with
  | some c => .error (.notPlain name c)
  | none => if name.isEmpty then .error .empty else .ok name

/-- The one name in a text, without the blanks around it. -/
def read (text : Text) : Except NameFault Text := check (Text.trimmed text)

/-- Check the parts of a list in order, given the names `seen` before them. -/
def readParts (seen : List Text) : List Text → Except NameFault (List Text)
  | [] => .ok []
  | part :: rest => do
    let name ← read part
    if seen.contains name then .error (.repeated name)
    else do
      let names ← readParts (seen ++ [name]) rest
      .ok (name :: names)

/-- The names in a text that lists them with commas; at least one, and none twice. -/
def readList (text : Text) : Except NameFault (List Text) :=
  readParts [] (text.splitOn ',')

end RecordSql.PlainName
