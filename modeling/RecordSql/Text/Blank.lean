import RecordSql.Text.Basic
import RecordSql.Text.Span

/-! # Blanks

Blank characters are those with the property `White_Space` (`isBlank`). `trimmed` takes them off
both ends of a text, `trimEnd` off its end only. -/

namespace RecordSql.Text

/-- The ranges of the property `White_Space`, twenty-five characters in all. -/
def blankRanges : List (Nat × Nat) :=
  [(0x9, 0xD), (0x20, 0x20), (0x85, 0x85), (0xA0, 0xA0), (0x1680, 0x1680), (0x2000, 0x200A),
    (0x2028, 0x2029), (0x202F, 0x202F), (0x205F, 0x205F), (0x3000, 0x3000)]

/-- Whether `c` is a blank. -/
def isBlank (c : Char) : Bool := inRanges blankRanges c

/-- The text without the blanks at its end. -/
def trimEnd (text : Text) : Text := (text.reverse.dropWhile isBlank).reverse

/-- The text without the blanks at both ends. -/
def trimmed (text : Text) : Text := trimEnd (text.dropWhile isBlank)

@[simp] theorem trimmed_nil : trimmed [] = [] := rfl

end RecordSql.Text
