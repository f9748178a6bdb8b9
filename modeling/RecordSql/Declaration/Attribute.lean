import RecordSql.Declaration.Lexeme
import RecordSql.Declaration.PlainName

/-! # Attributes

Attributes of a record give its name and its conflict keys, as items `key = "value"`
(`RecordOptions`). Attributes of a field mark it as auto key or as conflict key (`FieldMarks`).
Items are separated by commas, and a comma may follow the last. Several attributes are read one
after the other: a later value takes the place of an earlier one, and marks add up.

Tokens of other kinds are left out: groups in brackets, lifetimes, and literals that are neither
texts nor integers. None of them is what an item needs at any place, so that each would be refused
where it stands, as an integer is. Parentheses are the only brackets around arguments here. -/

namespace RecordSql

/-- A token inside an attribute. An integer stands for every token that no item is made of. -/
inductive Token
  /-- An identifier or a keyword. -/
  | ident (i : Ident)
  /-- A string literal. -/
  | string (content : Text)
  /-- An integer literal. -/
  | int (n : Int)
  /-- A punctuation character. -/
  | punct (c : Char)
  deriving DecidableEq, Repr

/-- The form of an attribute. -/
inductive AttributeForm
  /-- A path with arguments in parentheses. -/
  | arguments (tokens : List Token)
  /-- A path alone. -/
  | bare
  /-- A path with a value behind an equals sign. -/
  | assigned
  deriving DecidableEq, Repr

/-- An attribute of a record or of a field. -/
structure Attribute where
  /-- The path that says whom the attribute is for. -/
  path : Text
  /-- What follows the path. -/
  form : AttributeForm
  deriving DecidableEq, Repr

namespace Attribute

/-- The path of the attributes that count. -/
def ownPath : Text := "orm".toList

/-- Whether the attribute counts: its path is the one word `ownPath`, between whatever blanks and
comments. -/
def isOwn (a : Attribute) : Bool := Lexeme.scan a.path == [.ident ⟨false, ownPath⟩]

/-- The arguments of an attribute, or the refusal of a form that has none. -/
def tokens (a : Attribute) : Except DeclarationRefusal (List Token) :=
  match a.form with
  | .arguments tokens => .ok tokens
  | .bare => .error .argumentsMissing
  | .assigned => .error .parenthesesMissing

end Attribute

/-- What the attributes of a record say. -/
structure RecordOptions where
  /-- The name in place of the record's own. -/
  name : Option Text
  /-- The conflict keys. -/
  conflictKeys : Option (List Text)
  deriving DecidableEq, Repr

namespace RecordOptions

/-- No options. -/
def empty : RecordOptions := ⟨none, none⟩

/-- The options `o` with the value of one item; the key decides how the value is read. -/
def set (o : RecordOptions) (key : Ident) (value : Text) :
    Except DeclarationRefusal RecordOptions :=
  if key.isWord "name" then
    match PlainName.read value with
    | .ok name => .ok { o with name := some name }
    | .error fault => .error (.name fault)
  else if key.isWord "conflict_key" then
    match PlainName.readList value with
    | .ok keys => .ok { o with conflictKeys := some keys }
    | .error fault => .error (.name fault)
  else .error (.unknownOption key)

/-- Read the items of one attribute, each with its value at once, so that the first faulty item is
the one reported. -/
def readItems (o : RecordOptions) : List Token → Except DeclarationRefusal RecordOptions
  | [] => .ok o
  | .ident key :: rest =>
    if key.isKeyword then .error (.item (.keyword key.name))
    else
      match rest with
      | .punct '=' :: .string value :: rest =>
        match o.set key value, rest with
        | .error e, _ => .error e
        | .ok o, [] => .ok o
        | .ok o, .punct ',' :: rest => readItems o rest   -- also behind the last item
        | .ok _, _ :: _ => .error (.item .unexpectedToken)
      | [.punct '='] => .error (.item .endBeforeString)
      | .punct '=' :: _ :: _ => .error (.item .stringExpected)
      | _ => .error (.item .equalsExpected)
  | _ :: _ => .error (.item .identExpected)

/-- The options with those of a `later` attribute, which take precedence. -/
def overriddenBy (o later : RecordOptions) : RecordOptions :=
  ⟨later.name <|> o.name, later.conflictKeys <|> o.conflictKeys⟩

/-- The options of one attribute. -/
def ofAttribute (a : Attribute) : Except DeclarationRefusal RecordOptions := do
  readItems empty (← a.tokens)

/-- The options of a record's attributes, of which only those that are `Attribute.isOwn` count. -/
def ofAttributes (attributes : List Attribute) : Except DeclarationRefusal RecordOptions :=
  (attributes.filter Attribute.isOwn).foldlM
    (fun o a => (ofAttribute a).map o.overriddenBy) empty

end RecordOptions

/-- What the attributes of a field say. -/
structure FieldMarks where
  /-- The field is filled in by the database. -/
  autoKey : Bool
  /-- The field is one of the conflict keys. -/
  conflictKey : Bool
  deriving DecidableEq, Repr

namespace FieldMarks

/-- No marks. -/
def empty : FieldMarks := ⟨false, false⟩

/-- The marks `m` with one more. -/
def add (m : FieldMarks) (mark : Ident) : Except DeclarationRefusal FieldMarks :=
  if mark.isWord "auto_key" then .ok { m with autoKey := true }
  else if mark.isWord "conflict_key" then .ok { m with conflictKey := true }
  else .error (.unknownMark mark)

/-- Read the marks of one attribute, so that the first faulty mark is the one reported. -/
def readItems (m : FieldMarks) : List Token → Except DeclarationRefusal FieldMarks
  | [] => .ok m
  | .ident mark :: rest =>
    if mark.isKeyword then .error (.item (.keyword mark.name))
    else
      match m.add mark, rest with
      | .error e, _ => .error e
      | .ok m, [] => .ok m
      | .ok m, .punct ',' :: rest => readItems m rest   -- also behind the last mark
      | .ok _, _ :: _ => .error (.item .unexpectedToken)
  | _ :: _ => .error (.item .identExpected)

/-- The marks that `m` or `later` has. -/
def union (m later : FieldMarks) : FieldMarks :=
  ⟨m.autoKey || later.autoKey, m.conflictKey || later.conflictKey⟩

/-- The marks of one attribute. -/
def ofAttribute (a : Attribute) : Except DeclarationRefusal FieldMarks := do
  readItems empty (← a.tokens)

/-- The marks of a field's attributes, of which only those that are `Attribute.isOwn` count. -/
def ofAttributes (attributes : List Attribute) : Except DeclarationRefusal FieldMarks :=
  (attributes.filter Attribute.isOwn).foldlM
    (fun m a => (ofAttribute a).map m.union) empty

end FieldMarks

end RecordSql
