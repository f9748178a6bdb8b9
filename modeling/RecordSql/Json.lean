import RecordSql.Number.Layout

/-! # JSON values

JSON values (`Json`) and their compact text (`Json.compact`): no blanks, members sorted by key, of
members with one key the last (`sortedMembers`), shortest numbers. -/

namespace RecordSql

/-- A JSON value. -/
inductive Json
  /-- Nothing. -/
  | null
  /-- A truth value. -/
  | bool (b : Bool)
  /-- A number that is an integer. -/
  | int (n : Int)
  /-- Any other number, of double width. -/
  | float (bits : Nat)
  /-- A text. -/
  | string (content : Text)
  /-- Items in order. -/
  | array (items : List Json)
  /-- Members in the order given, in which a key may come again. -/
  | object (members : List (Text × Json))
  deriving Repr, Inhabited

namespace Json

/-- Numbers in JSON: positional when the first digit stands between the fifth decimal and the
sixteenth digit before the point (`-5 ≤ exponent ≤ 15`), always with a decimal or an exponent; ties
go to the even digit. -/
def numberLayout : NumberLayout where
  positional exponent := -5 ≤ exponent && exponent ≤ 15
  keepsDecimal := true
  tie := .toEven

/-- A float of double width as a JSON number. JSON has no other floats than the finite ones, so the
others become `null`. -/
def floatText (bits : Nat) : Text :=
  match BinaryFloat.read ⟨.double, bits⟩ with
  | .finite negative mantissa exponent => numberLayout.write .double negative mantissa exponent
  | .infinite _ | .notANumber => "null".toList

/-- The character `c` inside a JSON string: a short escape where there is one, `\u00XX` for the
other controls. -/
def escaped (c : Char) : Text :=
  if c = '\x22' || c = '\\' then ['\\', c]
  else if c = '\x08' then ['\\', 'b']
  else if c = '\x0c' then ['\\', 'f']
  else if c = '\n' then ['\\', 'n']
  else if c = '\r' then ['\\', 'r']
  else if c = '\t' then ['\\', 't']
  else if c.toNat < 0x20 then ['\\', 'u'] ++ Text.paddedHex 4 c.toNat
  else [c]

/-- The text as a JSON string. -/
def stringText (content : Text) : Text := ['\x22'] ++ content.flatMap escaped ++ ['\x22']

/-- Put the member `(key, value)` into a list sorted by key, in the place of a member with the same
key. -/
def insertMember {α : Type} (key : Text) (value : α) : List (Text × α) → List (Text × α)
  | [] => [(key, value)]
  | (k, v) :: rest =>
    if key = k then (key, value) :: rest
    else if key < k then (key, value) :: (k, v) :: rest
    else (k, v) :: insertMember key value rest

/-- The members sorted by key, of several with one key the last: `insertMember` for each of them in
order. -/
def sortedMembers {α : Type} (members : List (Text × α)) : List (Text × α) :=
  members.foldl (fun sorted m => insertMember m.1 m.2 sorted) []

/-- Key and value with a colon. -/
def memberText (member : Text × Text) : Text := stringText member.1 ++ ':' :: member.2

mutual

/-- The compact text of a JSON value. -/
def compact : Json → Text
  | null => "null".toList
  | bool true => "true".toList
  | bool false => "false".toList
  | int n => Text.ofInt n
  | float bits => floatText bits
  | string content => stringText content
  | array items => ['['] ++ Text.commaJoined (compactItems items) ++ [']']
  | object members =>
    ['\x7b'] ++ Text.commaJoined ((sortedMembers (compactMembers members)).map memberText)
      ++ ['\x7d']

/-- The compact texts of the items. -/
def compactItems : List Json → List Text
  | [] => []
  | item :: items => compact item :: compactItems items

/-- The members with compact texts for values. -/
def compactMembers : List (Text × Json) → List (Text × Text)
  | [] => []
  | (key, value) :: members => (key, compact value) :: compactMembers members

end

end Json

end RecordSql
