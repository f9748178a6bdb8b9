import RecordSql.Proofs.Literal.Quoted
import RecordSql.Proofs.Template.Cut

/-! # Reading literals

Readers for what stands in a literal: a word (`readWord`), an integer (`readInt`), a quoted text
(`Dialect.readQuoted`), bytes (`Dialect.readBytes`). Each reads at the front of a text and gives
what is left of it. Each recovers what the dialect has written, whatever follows, as long as it does
not go on: a digit would go on with an integer, and a quotation mark with a quoted text. -/

namespace RecordSql

namespace Text

open Template (BeginsWithDigit takeWhile_isDigit_append dropWhile_isDigit_append)

/-! ### Words: `readWord` -/

/-- The `word` in front of a text, which stands for `meaning`, and what is left behind it. -/
def readWord {α : Type} (word : Text) (meaning : α) (text : Text) : Option (α × Text) :=
  (dropPrefix? word text).map fun rest => (meaning, rest)

@[simp] theorem readWord_append {α : Type} (word : Text) (meaning : α) (rest : Text) :
    readWord word meaning (word ++ rest) = some (meaning, rest) := by
  rw [readWord, dropPrefix?_eq_some_iff.2 rfl, Option.map_some]

/-- A word is not read where a character other than its first stands in front. -/
theorem readWord_of_ne {α : Type} {first c : Char} (h : first ≠ c) (word : Text) (meaning : α)
    (rest : Text) : readWord (first :: word) meaning (c :: rest) = none := by
  rw [readWord, dropPrefix?, if_neg h, Option.map_none]

/-- Of two words that begin differently the second is read where it stands. -/
theorem readWord_orElse {α : Type} {first c : Char} (h : first ≠ c) (word other : Text)
    (meaning meaning' : α) (rest : Text) :
    (readWord (first :: word) meaning (c :: other ++ rest)
      <|> readWord (c :: other) meaning' (c :: other ++ rest)) = some (meaning', rest) := by
  have hnone : readWord (first :: word) meaning (c :: other ++ rest) = none :=
    readWord_of_ne h _ _ _
  rw [hnone, readWord_append]
  rfl

/-! ### Integers: `readInt` -/

/-- The number of the longest run of digits in front of a text; `none` without a digit. -/
def readNat (text : Text) : Option (Nat × Text) :=
  let digits := text.takeWhile Char.isDigit
  if digits = [] then none else some (ofDigits digits, text.dropWhile Char.isDigit)

/-- An integer in front of a text: digits, behind a minus sign when it is negative. -/
def readInt : Text → Option (Int × Text)
  | [] => none
  | c :: rest =>
    if c = '-' then (readNat rest).map fun p => (-Int.ofNat p.1, p.2)
    else (readNat (c :: rest)).map fun p => (Int.ofNat p.1, p.2)

/-- A numeral begins with a digit. -/
theorem exists_ofNat_eq_cons (n : Nat) : ∃ c rest, ofNat n = c :: rest ∧ c.isDigit := by
  obtain ⟨c, rest, hcons⟩ := List.exists_cons_of_ne_nil (ofNat_ne_nil n)
  have hmem : c ∈ ofNat n := by
    rw [hcons]
    exact List.mem_cons_self
  exact ⟨c, rest, hcons, isDigit_of_mem_ofNat hmem⟩

/-- `readNat (ofNat n ++ rest) = some (n, rest)` when `rest` does not begin with a digit. -/
theorem readNat_ofNat (n : Nat) {rest : Text} (hrest : ¬ BeginsWithDigit rest) :
    readNat (ofNat n ++ rest) = some (n, rest) := by
  have hdigits : ∀ c ∈ ofNat n, c.isDigit := fun c hc => isDigit_of_mem_ofNat hc
  have hrun := takeWhile_isDigit_append hdigits hrest
  have hleft := dropWhile_isDigit_append hdigits hrest
  rw [readNat]
  simp only [hrun, hleft, if_neg (ofNat_ne_nil n), ofDigits_ofNat]

/-- **An integer is read back** when no digit follows it:
`readInt (ofInt n ++ rest) = some (n, rest)`. -/
theorem readInt_ofInt (n : Int) {rest : Text} (hrest : ¬ BeginsWithDigit rest) :
    readInt (ofInt n ++ rest) = some (n, rest) := by
  cases n with
  | ofNat n =>
    obtain ⟨c, tail, hcons, hdigit⟩ := exists_ofNat_eq_cons n
    have hsign : c ≠ '-' := by
      rintro rfl
      exact absurd hdigit (by decide)
    have hread := readNat_ofNat n hrest
    rw [hcons, List.cons_append] at hread
    rw [ofInt, hcons, List.cons_append, readInt, if_neg hsign, hread, Option.map_some]
  | negSucc n =>
    rw [ofInt, List.cons_append, readInt, if_pos rfl, readNat_ofNat (n + 1) hrest,
      Option.map_some]
    rfl

/-! ### Hexadecimal digits: `bytesOfHex?` -/

/-- The value of a hexadecimal digit, in either case. -/
def hexValue? (c : Char) : Option Nat :=
  if '0' ≤ c ∧ c ≤ '9' then some (c.toNat - '0'.toNat)
  else if 'a' ≤ c ∧ c ≤ 'f' then some (c.toNat - 'a'.toNat + 10)
  else if 'A' ≤ c ∧ c ≤ 'F' then some (c.toNat - 'A'.toNat + 10)
  else none

/-- The bytes of which a text has two hexadecimal digits each; `none` when a digit is left over. -/
def bytesOfHex? : Text → Option (List UInt8)
  | [] => some []
  | [_] => none
  | high :: low :: rest => do
    let h ← hexValue? high
    let l ← hexValue? low
    let bytes ← bytesOfHex? rest
    return UInt8.ofNat (16 * h + l) :: bytes

theorem hexValue?_digitChar : ∀ k < 16, hexValue? (Nat.digitChar k) = some k := by
  decide

/-- A byte has two digits, with a zero in front if it has to. -/
theorem paddedHex_two {n : Nat} (h : n < 256) :
    paddedHex 2 n = [Nat.digitChar (n / 16), Nat.digitChar (n % 16)] := by
  have hbase : (1 : Nat) < 16 := by decide
  rw [paddedHex, Nat.toDigits_eq_if hbase]
  split
  · next hsmall =>
    rw [Nat.div_eq_of_lt hsmall, Nat.mod_eq_of_lt hsmall]
    rfl
  · have hhigh : n / 16 < 16 := by omega
    rw [Nat.toDigits_eq_if hbase, if_pos hhigh]
    rfl

/-- **Bytes are read back** from their hexadecimal digits: `bytesOfHex?` undoes `hexOfBytes`. -/
theorem bytesOfHex?_hexOfBytes (bytes : List UInt8) : bytesOfHex? (hexOfBytes bytes) = some bytes := by
  induction bytes with
  | nil => rfl
  | cons b rest ih =>
    have hb : b.toNat < 256 := b.toNat_lt
    have hhigh := hexValue?_digitChar (b.toNat / 16) (by omega)
    have hlow := hexValue?_digitChar (b.toNat % 16) (by omega)
    have hvalue : 16 * (b.toNat / 16) + b.toNat % 16 = b.toNat := by omega
    have hdigits : hexOfBytes (b :: rest)
        = Nat.digitChar (b.toNat / 16) :: Nat.digitChar (b.toNat % 16) :: hexOfBytes rest := by
      rw [hexOfBytes, List.flatMap_cons, paddedHex_two hb]
      rfl
    rw [hdigits, bytesOfHex?, hhigh, hlow, ih]
    simp only [Option.bind_eq_bind, Option.bind_some, hvalue, UInt8.ofNat_toNat]
    rfl

end Text

namespace Dialect

variable {d : Dialect} {rest : Text}

/-! ### Quoted texts: `readQuoted` -/

/-- The content of a string literal whose opening mark has been read, and what is left behind the
closing one. A `quoteMark` is content when it comes twice and closes the literal when it does not;
where `escapesBackslash` a backslash has to come twice. -/
def readContent (d : Dialect) : Text → Option (Text × Text)
  | [] => none
  | c :: rest =>
    if c = quoteMark then
      match rest with
      | [] => some ([], [])
      | q :: after =>
        if q = quoteMark then (readContent d after).map fun p => (c :: p.1, p.2)
        else some ([], q :: after)
    else if d.escapesBackslash ∧ c = '\\' then
      match rest with
      | [] => none
      | b :: after => if b = '\\' then (readContent d after).map fun p => (c :: p.1, p.2) else none
    else (readContent d rest).map fun p => (c :: p.1, p.2)

/-- A string literal in front of a text. -/
def readQuoted (d : Dialect) : Text → Option (Text × Text)
  | [] => none
  | c :: rest => if c = quoteMark then d.readContent rest else none

theorem readContent_doubled (text : Text) :
    d.readContent (quoteMark :: quoteMark :: text)
      = (d.readContent text).map fun p => (quoteMark :: p.1, p.2) := by
  rw [readContent, if_pos rfl]
  exact if_pos rfl

theorem readContent_closing (h : rest.head? ≠ some quoteMark) :
    d.readContent (quoteMark :: rest) = some ([], rest) := by
  rw [readContent.eq_def]
  cases rest with
  | nil => rfl
  | cons c after =>
    have hc : c ≠ quoteMark := by simpa using h
    exact if_neg hc

theorem readContent_backslash (h : d.escapesBackslash) (text : Text) :
    d.readContent ('\\' :: '\\' :: text)
      = (d.readContent text).map fun p => ('\\' :: p.1, p.2) := by
  rw [readContent, if_neg (by decide)]
  exact (if_pos ⟨h, rfl⟩).trans (if_pos rfl)

theorem readContent_plain {c : Char} (hquote : c ≠ quoteMark)
    (hescape : ¬ (d.escapesBackslash ∧ c = '\\')) (text : Text) :
    d.readContent (c :: text) = (d.readContent text).map fun p => (c :: p.1, p.2) := by
  rw [readContent.eq_def]
  exact (if_neg hquote).trans (if_neg hescape)

/-- What stands for the character `c`, `d.escaped c`, is read as `c`. -/
theorem readContent_escaped_append (c : Char) (text : Text) :
    d.readContent (d.escaped c ++ text) = (d.readContent text).map fun p => (c :: p.1, p.2) := by
  rw [escaped]
  by_cases hc : d.isSpecial c
  · -- written twice and read as one
    rw [if_pos hc]
    rcases d.isSpecial_iff.1 hc with rfl | ⟨hescapes, rfl⟩
    · exact readContent_doubled text
    · exact readContent_backslash hescapes text
  · rw [if_neg hc]
    rw [isSpecial_iff, not_or] at hc
    exact readContent_plain hc.1 hc.2 text

/-- **A quoted text is read back** when no quotation mark follows it. The induction is on `content`,
one `readContent_escaped_append` for each character. -/
theorem readContent_escaped (content : Text) (h : rest.head? ≠ some quoteMark) :
    d.readContent (content.flatMap d.escaped ++ quoteMark :: rest) = some (content, rest) := by
  induction content with
  | nil => exact readContent_closing h
  | cons c content ih =>
    rw [List.flatMap_cons, List.append_assoc, readContent_escaped_append, ih, Option.map_some]

/-- A text between marks, its special characters doubled, is read back. -/
theorem readQuoted_escaped (content : Text) (h : rest.head? ≠ some quoteMark) :
    d.readQuoted (quoteMark :: content.flatMap d.escaped ++ [quoteMark] ++ rest)
      = some (content, rest) := by
  rw [List.append_assoc, List.cons_append, readQuoted, if_pos rfl]
  exact readContent_escaped content h

/-- What `ctx.quote content` gives, if it is not refused, is read back as `content`. -/
theorem readQuoted_of_result_quote {ctx : LiteralContext} {content s : Text}
    (hs : (ctx.quote content).result = .ok s) (h : rest.head? ≠ some quoteMark) :
    ctx.dialect.readQuoted (s ++ rest) = some (content, rest) := by
  rw [LiteralContext.eq_of_result_quote hs]
  exact readQuoted_escaped content h

/-! ### Bytes and truth values: `readBytes` and `readBool` -/

/-- Bytes in front of a text: a string literal of hexadecimal digits, with a letter before it or,
for PostgreSQL, a backslash and a letter inside. -/
def readBytes (d : Dialect) (text : Text) : Option (List UInt8 × Text) :=
  match d with
  | .postgres => do
    let (content, rest) ← d.readQuoted text
    let digits ← Text.dropPrefix? ['\\', 'x'] content
    let bytes ← Text.bytesOfHex? digits
    return (bytes, rest)
  | .mySql | .sqlite | .unknown => do
    let quoted ← Text.dropPrefix? ['X'] text
    let (digits, rest) ← d.readQuoted quoted
    let bytes ← Text.bytesOfHex? digits
    return (bytes, rest)

/-- A truth value in front of a text: a word for PostgreSQL and a digit for the others. -/
def readBool (d : Dialect) (text : Text) : Option (Bool × Text) :=
  match d with
  | .postgres =>
    Text.readWord "true".toList true text <|> Text.readWord "false".toList false text
  | .mySql | .sqlite | .unknown =>
    Text.readWord ['1'] true text <|> Text.readWord ['0'] false text

/-- Behind the letter `X` that announces bytes the digits are quoted. -/
theorem readBytes_of_ne (h : d ≠ postgres) (text : Text) :
    d.readBytes ('X' :: text) = (do
      let (digits, rest) ← d.readQuoted text
      let bytes ← Text.bytesOfHex? digits
      return (bytes, rest)) := by
  cases d with
  | postgres => exact absurd rfl h
  | mySql | sqlite | unknown => rfl

/-- **Bytes are read back** when no quotation mark follows them. -/
theorem readBytes_bytesText (content : List UInt8) (h : rest.head? ≠ some quoteMark) :
    d.readBytes (d.bytesText content ++ rest) = some (content, rest) := by
  by_cases hd : d = postgres
  · -- the announcement stands inside of the marks
    subst hd
    have hprefix : Text.dropPrefix? ['\\', 'x'] ('\\' :: 'x' :: Text.hexOfBytes content)
        = some (Text.hexOfBytes content) := Text.dropPrefix?_eq_some_iff.2 rfl
    rw [bytesText_postgres, readBytes, readQuoted_escaped _ h]
    simp only [Option.bind_eq_bind, Option.bind_some, hprefix, Text.bytesOfHex?_hexOfBytes]
    rfl
  · rw [bytesText_of_ne hd, List.cons_append, readBytes_of_ne hd, readQuoted_escaped _ h]
    simp only [Option.bind_eq_bind, Option.bind_some, Text.bytesOfHex?_hexOfBytes]
    rfl

/-- **A truth value is read back**, whatever follows it. -/
theorem readBool_boolText (b : Bool) (rest : Text) :
    d.readBool (d.boolText b ++ rest) = some (b, rest) := by
  cases d with
  | postgres =>
    cases b with
    | true => exact congrArg (· <|> _) (Text.readWord_append "true".toList true rest)
    | false => exact Text.readWord_orElse (by decide) _ _ true false rest
  | mySql | sqlite | unknown =>
    cases b with
    | true => exact congrArg (· <|> _) (Text.readWord_append ['1'] true rest)
    | false => exact Text.readWord_orElse (by decide) _ _ true false rest

end Dialect

end RecordSql
