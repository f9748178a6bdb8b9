import RecordSql.Text.Alphanumeric
import RecordSql.Text.Basic
import RecordSql.Text.Casing

/-! # Names of constants

The constant of a field (`ConstantName.ofField`) is named by the words of the field's name in
capitals, with underscores between them: `userId` gives `COL_USER_ID`. Words end at characters that
are neither letters nor numerals (`runs`), between a small letter and a capital after it, and before
the last capital of a run that goes on with a small letter (`splitCase`). Numerals and letters
without case end no word. -/

namespace RecordSql.ConstantName

/-- The case of the letters last read in a word. -/
inductive LetterCase
  /-- No letter with case has been read. -/
  | unset
  /-- The last one was small. -/
  | small
  /-- The last one was a capital. -/
  | capital
  deriving DecidableEq, Repr

/-- The case after the character `c`, which keeps `m` when it has no case. -/
def LetterCase.next (m : LetterCase) (c : Char) : LetterCase :=
  if Text.isSmall c then .small else if Text.isCapital c then .capital else m

/-- The words of a run of letters and numerals: `word` has been read, in the case `m`. -/
def splitCase (m : LetterCase) (word : Text) : Text → List Text
  | [] => if word.isEmpty then [] else [word]
  | [c] => [word ++ [c]]
  | c :: d :: rest =>
    if m.next c = .small ∧ Text.isCapital d then
      -- `userId`: the capital begins a word
      (word ++ [c]) :: splitCase .unset [] (d :: rest)
    else if m = .capital ∧ Text.isCapital c ∧ Text.isSmall d then
      -- `HTTPServer`: the last capital of the run begins a word
      word :: splitCase .unset [c] (d :: rest)
    else splitCase (m.next c) (word ++ [c]) (d :: rest)

/-- The runs of letters and numerals of a text, which may be empty: `run` has been read. -/
def runs (run : Text) : Text → List Text
  | [] => [run]
  | c :: rest => if Text.isAlphanumeric c then runs (run ++ [c]) rest else run :: runs [] rest

/-- The words of a name: each of its `runs`, split by case. -/
def words (name : Text) : List Text := (runs [] name).flatMap (splitCase .unset [])

/-- What every constant begins with. -/
def initial : Text := "COL_".toList

/-- The name of the constant of a field: `initial`, then the words in capitals with underscores
between them. -/
def ofField (name : Text) : Text :=
  initial ++ Text.joined ['_'] ((words name).map Text.capitalized)

end RecordSql.ConstantName
