/-! # Text

SQL text, names and templates are lists of characters (`Text`), so that every operation on them is a
recursion on the list. This module holds what the rest of the library asks of text: joining with a
separator (`joined`), the first occurrence of a pattern (`before?`, `includes`), decimal and
hexadecimal numerals (`ofNat`, `paddedHex`), padding (`padded`).

Main statements: `includes_iff` (the substring test is the infix relation),
`exists_of_before?_eq_some` (the pattern follows what precedes its first occurrence) and
`ofDigits_ofNat` (a numeral denotes its number). -/

namespace RecordSql

/-- Text, character by character. -/
abbrev Text := List Char

namespace Text

/-! ### Joining: `joined` -/

/-- The texts in order, with `sep` between neighbours:
`joined sep [t, u, v] = t ++ sep ++ u ++ sep ++ v`. -/
def joined (sep : Text) : List Text → Text
  | [] => []
  | [t] => t
  | t :: u :: rest => t ++ sep ++ joined sep (u :: rest)

@[simp] theorem joined_nil (sep : Text) : joined sep [] = [] := rfl

@[simp] theorem joined_singleton (sep t : Text) : joined sep [t] = t := rfl

@[simp] theorem joined_cons_cons (sep t u : Text) (rest : List Text) :
    joined sep (t :: u :: rest) = t ++ sep ++ joined sep (u :: rest) := rfl

/-- The texts in order, with a comma between neighbours. -/
def commaJoined (ts : List Text) : Text := joined [','] ts

/-! ### Occurrences: `before?` -/

/-- The text before the first occurrence of `pat`: `before? pat text = some head` when `pat` occurs
behind `head` and no earlier, `none` when it does not occur. -/
def before? (pat : Text) : Text → Option Text
  | [] => if pat.isEmpty then some [] else none
  | c :: rest =>
    if pat.isPrefixOf (c :: rest) then some [] else (before? pat rest).map (c :: ·)

/-- Whether `pat` occurs in the text. -/
def includes (pat text : Text) : Bool := (before? pat text).isSome

/-- `dropPrefix? pat text` is what is left of `text` when it begins with `pat`. -/
def dropPrefix? : (pat text : Text) → Option Text
  | [], text => some text
  | _ :: _, [] => none
  | p :: pat, c :: rest => if p = c then dropPrefix? pat rest else none

theorem dropPrefix?_eq_some_iff {pat text rest : Text} :
    dropPrefix? pat text = some rest ↔ text = pat ++ rest := by
  induction pat generalizing text with
  | nil => simp [dropPrefix?, eq_comm]
  | cons p pat ih =>
    cases text with
    | nil => simp [dropPrefix?]
    | cons c text =>
      by_cases h : p = c
      · simp [dropPrefix?, h, ih]
      · simp [dropPrefix?, h, Ne.symm h]

/-- `before? pat text = some head` gives `text = head ++ pat ++ tail`: the pattern follows what
comes before its first occurrence. -/
theorem exists_of_before?_eq_some {pat text head : Text} (h : before? pat text = some head) :
    ∃ tail, text = head ++ pat ++ tail := by
  induction text generalizing head with
  | nil =>
    cases pat with
    | nil => simp_all [before?]
    | cons p pat => simp [before?] at h
  | cons c rest ih =>
    rw [before?] at h
    split at h
    · rename_i hp
      obtain ⟨tail, ht⟩ := List.isPrefixOf_iff_prefix.1 hp
      cases h
      exact ⟨tail, by simp [ht]⟩
    · obtain ⟨u, hu, rfl⟩ := Option.map_eq_some_iff.1 h
      obtain ⟨tail, ht⟩ := ih hu
      exact ⟨tail, by simp [ht]⟩

/-- `before? pat text = none` means that `pat` is no infix of `text`. -/
theorem before?_eq_none_iff {pat text : Text} : before? pat text = none ↔ ¬ pat <:+: text := by
  induction text with
  | nil => cases pat <;> simp [before?]
  | cons c rest ih =>
    rw [before?, List.infix_cons_iff, ← List.isPrefixOf_iff_prefix]
    by_cases hp : pat.isPrefixOf (c :: rest) = true
    · simp [hp]
    · simp [hp, ih]

/-- The substring test is the infix relation `pat <:+: text`. -/
theorem includes_iff {pat text : Text} : includes pat text = true ↔ pat <:+: text := by
  rw [includes, Option.isSome_iff_ne_none, Ne, before?_eq_none_iff, Classical.not_not]

/-! ### Numerals: `ofNat` -/

/-- The decimal numeral of a natural number. -/
def ofNat (n : Nat) : Text := Nat.toDigits 10 n

/-- A numeral has at least one digit. -/
theorem ofNat_ne_nil (n : Nat) : ofNat n ≠ [] := Nat.toDigits_ne_nil

/-- A numeral is made of digits. -/
theorem isDigit_of_mem_ofNat {n : Nat} {c : Char} (h : c ∈ ofNat n) : c.isDigit :=
  Nat.isDigit_of_mem_toDigits (by decide) (by decide) h

/-- The number that decimal digits denote, whatever their count and leading zeros; left inverse to
`ofNat` by `ofDigits_ofNat`. -/
def ofDigits (digits : Text) : Nat := Nat.ofDigitChars 10 digits 0

/-- `ofDigits (ofNat n) = n`: a numeral denotes its number. -/
@[simp] theorem ofDigits_ofNat (n : Nat) : ofDigits (ofNat n) = n :=
  Nat.ofDigitChars_toDigits (by decide) (by decide)

/-- The decimal numeral of an integer, with a minus sign when it is negative. -/
def ofInt : Int → Text
  | .ofNat n => ofNat n
  | .negSucc n => '-' :: ofNat (n + 1)

/-- The decimal numeral of `n` with zeros in front up to `width` digits. -/
def padded (width n : Nat) : Text := (ofNat n).leftpad width '0'

/-- The hexadecimal numeral of `n`, letters in lower case, with zeros in front up to `width`
digits. -/
def paddedHex (width n : Nat) : Text := (Nat.toDigits 16 n).leftpad width '0'

/-- Two hexadecimal digits for each byte, as `paddedHex 2` writes them. -/
def hexOfBytes (bytes : List UInt8) : Text := bytes.flatMap fun b => paddedHex 2 b.toNat

/-! ### Letters -/

/-- The text with the twenty-six capital letters of ASCII made small. -/
def asciiLower (text : Text) : Text := text.map Char.toLower

end Text

end RecordSql
