import RecordSql.Text.Quoted

/-! # Identifiers

Names as declarations write them (`Ident`). A raw identifier is written with `r#` in front, which
lets it be a keyword; the name behind it is the same. -/

namespace RecordSql

/-- An identifier. -/
structure Ident where
  /-- Whether it is written with `r#`. -/
  raw : Bool
  /-- The name, without `r#`. -/
  name : Text
  deriving DecidableEq, Repr

namespace Ident

/-- What is written in front of a raw identifier. -/
def rawMark : Text := "r#".toList

/-- The identifier that a text is, raw if it begins with `rawMark`. -/
def ofText (text : Text) : Ident :=
  match Text.dropPrefix? rawMark text with
  | some name => ⟨true, name⟩
  | none => ⟨false, text⟩

/-- The identifier as it is written. -/
def text (i : Ident) : Text := if i.raw then rawMark ++ i.name else i.name

/-- Whether the identifier is the plain word; a raw identifier is none. -/
def isWord (i : Ident) (word : String) : Bool := !i.raw && i.name == word.toList

/-- The words that only a raw identifier may be. -/
def keywords : List String :=
  ["_", "abstract", "as", "async", "await", "become", "box", "break", "const", "continue", "crate",
    "do", "dyn", "else", "enum", "extern", "false", "final", "fn", "for", "if", "impl", "in", "let",
    "loop", "macro", "match", "mod", "move", "mut", "override", "priv", "pub", "ref", "return",
    "Self", "self", "static", "struct", "super", "trait", "true", "try", "type", "typeof", "unsafe",
    "unsized", "use", "virtual", "where", "while", "yield"]

/-- Whether the identifier is a keyword. -/
def isKeyword (i : Ident) : Bool := keywords.any i.isWord

/-- The identifier that `name` is written as: raw if it would be a keyword. -/
def ofName (name : Text) : Ident := ⟨isKeyword ⟨false, name⟩, name⟩

end Ident

end RecordSql
