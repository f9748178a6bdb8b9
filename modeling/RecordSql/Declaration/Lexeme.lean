import RecordSql.Ident
import RecordSql.Text.Blank

/-! # Lexemes

The words and marks that declarations are written in (`Lexeme.scan`). Between them there may be
blanks, direction marks and comments, which say nothing. Literals other than integers are no
lexemes: types and attribute paths have none. -/

namespace RecordSql

/-- A word or a mark of a declaration. -/
inductive Lexeme
  /-- An identifier. -/
  | ident (i : Ident)
  /-- A lifetime, without its apostrophe. -/
  | lifetime (name : Text)
  /-- An integer with its suffix. -/
  | int (digits : Text)
  /-- Two colons. -/
  | separator
  /-- Any other mark. -/
  | mark (c : Char)
  deriving DecidableEq, Repr

namespace Lexeme

/-- Whether `c` only sets lexemes apart: a blank, or a mark that sets the direction of the text from
left to right or from right to left. -/
def isGap (c : Char) : Bool := Text.isBlank c || c == '\u200e' || c == '\u200f'

/-- Whether a word may go on with `c`. All marks are in ASCII, so that of the other characters those
that are no gaps belong to words. -/
def isWordChar (c : Char) : Bool :=
  c == '_' || c.isAlphanum || (128 ≤ c.toNat && !isGap c)

/-- How many characters are left of a comment that is open `depth` times, if it is closed at all.
Comments between slash and asterisk may hold others. -/
def blockLength? : (depth : Nat) → Text → Option Nat
  | depth, '/' :: '*' :: rest => (blockLength? (depth + 1) rest).map (· + 2)
  | 1, '*' :: '/' :: _ => some 2
  | depth, '*' :: '/' :: rest => (blockLength? (depth - 1) rest).map (· + 2)
  | depth, _ :: rest => (blockLength? depth rest).map (· + 1)
  | _, [] => none

/-- How many characters the comment at the front of the text has, if one is there: up to the end of
the line after two slashes, up to the closing mark after slash and asterisk. -/
def commentLength? : Text → Option Nat
  | '/' :: '/' :: rest => some ((rest.takeWhile (· != '\n')).length + 2)
  | '/' :: '*' :: rest => (blockLength? 1 rest).map (· + 2)
  | _ => none

/-- The lexemes of what is left of a text after its first `skip` characters. -/
def scanFrom : (skip : Nat) → Text → List Lexeme
  | _, [] => []
  | skip + 1, _ :: rest => scanFrom skip rest
  | 0, c :: rest =>
    let word := rest.takeWhile isWordChar
    if isGap c then scanFrom 0 rest
    else if let some length := commentLength? (c :: rest) then scanFrom (length - 1) rest
    else if c == ':' && rest.head? == some ':' then .separator :: scanFrom 1 rest
    else if c == '\x27' then .lifetime word :: scanFrom word.length rest
    else if c == 'r' && rest.head? == some '#' then
      -- a raw identifier, kept without the `r#`
      let name := rest.tail.takeWhile isWordChar
      .ident ⟨true, name⟩ :: scanFrom (name.length + 1) rest
    else if c.isDigit then .int (c :: word) :: scanFrom word.length rest
    else if isWordChar c then .ident ⟨false, c :: word⟩ :: scanFrom word.length rest
    else .mark c :: scanFrom 0 rest

/-- The lexemes of a text. A byte order mark in front of it is skipped. -/
def scan (text : Text) : List Lexeme :=
  scanFrom (if text.head? = some '\ufeff' then 1 else 0) text

/-- Cut at the mark `closing` of a bracket that is open `depth` times: what comes before the mark,
and what comes after it; `none` if it is not closed. -/
def splitAtClosing (opening closing : Char) : (depth : Nat) → List Lexeme →
    Option (List Lexeme × List Lexeme)
  | _, [] => none
  | depth, l :: rest =>
    if l = .mark closing ∧ depth = 1 then some ([], rest)
    else
      let depth :=
        if l = .mark opening then depth + 1 else if l = .mark closing then depth - 1 else depth
      (splitAtClosing opening closing depth rest).map fun (front, back) => (l :: front, back)

end Lexeme

end RecordSql
