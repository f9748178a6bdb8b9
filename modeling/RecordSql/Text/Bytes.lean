import RecordSql.Text.Basic

/-! # Bytes of a text

Positions in a text count the bytes of its UTF-8 form `utf8 text`. A slice between two positions
where characters begin is the text between them: `takeBytes_append`, `dropBytes_append` and, from
both, `slice_append`. -/

namespace RecordSql.Text

/-- The bytes of the text in UTF-8. -/
def utf8 (text : Text) : List UInt8 := text.flatMap String.utf8EncodeChar

/-- How many bytes the text has. -/
def byteLength (text : Text) : Nat := text.utf8.length

/-- What is left of the text after its first `n` bytes, where a character begins at byte `n`. -/
def dropBytes : (n : Nat) → Text → Text
  | _, [] => []
  | n, c :: rest => if n = 0 then c :: rest else dropBytes (n - c.utf8Size) rest

/-- The first `n` bytes of the text, where a character ends at byte `n`. -/
def takeBytes : (n : Nat) → Text → Text
  | _, [] => []
  | n, c :: rest => if c.utf8Size ≤ n then c :: takeBytes (n - c.utf8Size) rest else []

/-- The text between the positions `start` and `stop`. -/
def slice (start stop : Nat) (text : Text) : Text := takeBytes (stop - start) (dropBytes start text)

/-- The number that decimal digits denote, given as bytes: `Text.ofDigits` of their characters. -/
def ofDigitBytes (digits : List UInt8) : Nat :=
  digits.foldl (fun n b => 10 * n + (b.toNat - 48)) 0

@[simp] theorem utf8_nil : utf8 [] = [] := rfl

@[simp] theorem utf8_cons (c : Char) (rest : Text) :
    utf8 (c :: rest) = String.utf8EncodeChar c ++ utf8 rest := rfl

@[simp] theorem utf8_append (a b : Text) : utf8 (a ++ b) = utf8 a ++ utf8 b := List.flatMap_append

@[simp] theorem byteLength_nil : byteLength [] = 0 := rfl

@[simp] theorem byteLength_cons (c : Char) (rest : Text) :
    byteLength (c :: rest) = c.utf8Size + byteLength rest := by
  simp [byteLength]

@[simp] theorem byteLength_append (a b : Text) :
    byteLength (a ++ b) = byteLength a + byteLength b := by
  simp [byteLength]

@[simp] theorem dropBytes_zero (text : Text) : dropBytes 0 text = text := by
  cases text <;> simp [dropBytes]

/-- `dropBytes (byteLength a) (a ++ b) = b`: dropping the bytes of a text drops that text. -/
@[simp] theorem dropBytes_append (a b : Text) : dropBytes (byteLength a) (a ++ b) = b := by
  induction a with
  | nil => simp
  | cons c a ih =>
    have hpos : c.utf8Size ≠ 0 := Nat.ne_of_gt c.utf8Size_pos
    simp [dropBytes, hpos, ih]

/-- `takeBytes (byteLength a) (a ++ b) = a`: taking the bytes of a text takes that text. -/
@[simp] theorem takeBytes_append (a b : Text) : takeBytes (byteLength a) (a ++ b) = a := by
  induction a with
  | nil =>
    cases b with
    | nil => rfl
    | cons c b => simp [takeBytes, Nat.ne_of_gt c.utf8Size_pos]
  | cons c a ih => simp [takeBytes, ih]

/-- The slice of `a ++ (b ++ c)` between the ends of `a` and `b` is `b`. -/
theorem slice_append (a b c : Text) :
    slice (byteLength a) (byteLength a + byteLength b) (a ++ (b ++ c)) = b := by
  simp [slice]

/-- Two splits `a ++ b = c ++ d` of one text after equally many bytes are the same. -/
theorem append_inj_of_byteLength_eq {a b c d : Text} (h : a ++ b = c ++ d)
    (hlength : byteLength a = byteLength c) : a = c ∧ b = d := by
  constructor
  · rw [← takeBytes_append a b, h, hlength, takeBytes_append]
  · rw [← dropBytes_append a b, h, hlength, dropBytes_append]

end RecordSql.Text
