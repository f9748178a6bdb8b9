import RecordSql.Text.Basic
import RecordSql.Text.Hidden

/-! # Quoted text

How messages show a text (`quoted`) or a single character (`quotedChar`): between quotation marks,
with the mark, the backslash and the common controls escaped by a letter, and hidden characters by
number. A long text is cut (`preview`). -/

namespace RecordSql.Text

/-- The character `c` inside quotation marks of the form `mark`: escaped by a letter, by `\u{…}`
with its number when `isHidden c`, or as it is. -/
def shown (mark c : Char) : Text :=
  if c = '\x00' then ['\\', '0']
  else if c = '\t' then ['\\', 't']
  else if c = '\r' then ['\\', 'r']
  else if c = '\n' then ['\\', 'n']
  else if c = '\\' || c = mark then ['\\', c]
  else if isHidden c then ['\\', 'u', '\x7b'] ++ paddedHex 0 c.toNat ++ ['\x7d']
  else [c]

/-- The text between double quotation marks. -/
def quoted (text : Text) : Text := ['\x22'] ++ text.flatMap (shown '\x22') ++ ['\x22']

/-- The character between single quotation marks. -/
def quotedChar (c : Char) : Text := ['\x27'] ++ shown '\x27' c ++ ['\x27']

/-- How many characters of a long text a preview shows. -/
def previewLength : Nat := 32

/-- The quoted text, cut with three dots after `previewLength` characters when it is longer. -/
def preview (text : Text) : Text :=
  if text.length ≤ previewLength then quoted text
  else quoted (text.take previewLength) ++ "...".toList

end RecordSql.Text
