import RecordSql.Template

/-! # Dollar signs and digits in bytes

In UTF-8 a character of ASCII is one byte and every byte of another character is at least 128. So
the bytes of dollar signs and digits stand for those characters and for nothing else, wherever they
stand in a text: `eq_dollarByte_iff`, `isDigitByte_of_mem`. -/

namespace RecordSql.Text

open Template

/-- A character of ASCII is one byte, its code `c.toNat`. -/
theorem utf8EncodeChar_of_lt {c : Char} (h : c.toNat < 128) :
    String.utf8EncodeChar c = [UInt8.ofNat c.toNat] := by
  have hle : c.val.toNat ≤ 127 := Nat.le_of_lt_succ h
  simp only [String.utf8EncodeChar, if_pos hle]
  rfl

/-- The bytes of a character beyond ASCII are at least 128, by each of the three lengths that it may
have. -/
theorem le_toNat_of_mem_utf8EncodeChar {c : Char} (h : 128 ≤ c.toNat) {b : UInt8}
    (hb : b ∈ String.utf8EncodeChar c) : 128 ≤ b.toNat := by
  have hc : ¬ c.val.toNat ≤ 127 := by
    have : c.toNat = c.val.toNat := rfl
    omega
  simp only [String.utf8EncodeChar, if_neg hc] at hb
  -- two, three or four bytes, each with its highest bit set
  split at hb
  · simp only [List.mem_cons, List.not_mem_nil, or_false] at hb
    rcases hb with rfl | rfl <;> simp only [UInt8.toNat_ofNat'] <;> omega
  · split at hb
    · simp only [List.mem_cons, List.not_mem_nil, or_false] at hb
      rcases hb with rfl | rfl | rfl <;> simp only [UInt8.toNat_ofNat'] <;> omega
    · simp only [List.mem_cons, List.not_mem_nil, or_false] at hb
      rcases hb with rfl | rfl | rfl | rfl <;> simp only [UInt8.toNat_ofNat'] <;> omega

/-- A byte of `c` is `dollarByte` just when `c` is the dollar sign. -/
theorem eq_dollarByte_iff {c : Char} {b : UInt8} (hb : b ∈ String.utf8EncodeChar c) :
    b = dollarByte ↔ c = '$' := by
  rw [← UInt8.toNat_inj, Char.ext_iff, ← UInt32.toNat_inj]
  change b.toNat = 0x24 ↔ c.toNat = 0x24
  rcases Nat.lt_or_ge c.toNat 128 with h | h
  · rw [utf8EncodeChar_of_lt h, List.mem_singleton] at hb
    subst hb
    rw [UInt8.toNat_ofNat']
    omega
  · have := le_toNat_of_mem_utf8EncodeChar h hb
    omega

/-- A byte of `c` is a digit just when `c` is one. -/
theorem isDigitByte_of_mem {c : Char} {b : UInt8} (hb : b ∈ String.utf8EncodeChar c) :
    isDigitByte b = c.isDigit := by
  have hbyte : isDigitByte b = decide (48 ≤ b.toNat ∧ b.toNat ≤ 57) := by
    simp [isDigitByte, UInt8.le_iff_toNat_le]
  have hchar : c.isDigit = decide (48 ≤ c.toNat ∧ c.toNat ≤ 57) := by
    simp [Char.isDigit, UInt32.le_iff_toNat_le]
  rw [hbyte, hchar, decide_eq_decide]
  rcases Nat.lt_or_ge c.toNat 128 with h | h
  · rw [utf8EncodeChar_of_lt h, List.mem_singleton] at hb
    subst hb
    rw [UInt8.toNat_ofNat']
    omega
  · have := le_toNat_of_mem_utf8EncodeChar h hb
    omega

/-- Digits belong to ASCII. -/
theorem toNat_lt_of_isDigit {c : Char} (h : c.isDigit) : c.toNat < 128 := by
  simp only [Char.isDigit, UInt32.le_iff_toNat_le, Bool.and_eq_true, decide_eq_true_eq] at h
  exact Nat.lt_of_le_of_lt h.2 (by decide)

/-- A digit is one byte, its code. -/
theorem utf8EncodeChar_of_isDigit {c : Char} (h : c.isDigit) :
    String.utf8EncodeChar c = [UInt8.ofNat c.toNat] :=
  utf8EncodeChar_of_lt (toNat_lt_of_isDigit h)

/-- The digits at the front of `text.utf8` are the bytes of the digits at the front of `text`. -/
theorem takeWhile_isDigitByte_utf8 (text : Text) :
    text.utf8.takeWhile isDigitByte = utf8 (text.takeWhile Char.isDigit) := by
  induction text with
  | nil => rfl
  | cons c rest ih =>
    by_cases hc : c.isDigit
    · -- a digit is one byte on both sides
      rw [utf8_cons, utf8EncodeChar_of_isDigit hc, List.takeWhile_cons_of_pos hc, utf8_cons,
        utf8EncodeChar_of_isDigit hc, ← ih, List.singleton_append, List.singleton_append,
        List.takeWhile_cons_of_pos]
      rw [isDigitByte_of_mem (c := c) (by simp [utf8EncodeChar_of_isDigit hc]), hc]
    · -- any other character stops the bytes with its first one
      obtain ⟨b, bytes, hbytes⟩ := List.exists_cons_of_ne_nil (String.utf8EncodeChar_ne_nil (c := c))
      have hb : ¬ isDigitByte b := by
        rw [isDigitByte_of_mem (c := c) (by simp [hbytes])]
        exact hc
      rw [utf8_cons, hbytes, List.cons_append, List.takeWhile_cons_of_neg hb,
        List.takeWhile_cons_of_neg hc, utf8_nil]

/-- `ofDigitBytes` of the bytes of digits is `ofDigits` of the digits. -/
theorem ofDigitBytes_utf8 {digits : Text} (h : ∀ c ∈ digits, c.isDigit) :
    ofDigitBytes digits.utf8 = ofDigits digits := by
  -- the two folds agree from any number read so far
  have hfold : ∀ n, digits.utf8.foldl (fun n b => 10 * n + (b.toNat - 48)) n
      = Nat.ofDigitChars 10 digits n := by
    induction digits with
    | nil => simp
    | cons c rest ih =>
      intro n
      obtain ⟨hc, hrest⟩ := List.forall_mem_cons.1 h
      have hlt : c.toNat < 128 := toNat_lt_of_isDigit hc
      rw [utf8_cons, utf8EncodeChar_of_isDigit hc, List.singleton_append, List.foldl_cons, ih hrest,
        Nat.ofDigitChars_cons, UInt8.toNat_ofNat', Nat.mod_eq_of_lt (by omega)]
      rfl
  exact hfold 0

/-- Digits are one byte each: `byteLength digits = digits.length`. -/
theorem byteLength_of_isDigit {digits : Text} (h : ∀ c ∈ digits, c.isDigit) :
    byteLength digits = digits.length := by
  induction digits with
  | nil => rfl
  | cons c rest ih =>
    obtain ⟨hc, hrest⟩ := List.forall_mem_cons.1 h
    rw [byteLength_cons, ← String.length_utf8EncodeChar, utf8EncodeChar_of_isDigit hc, ih hrest,
      List.length_singleton, List.length_cons, Nat.add_comm]

end RecordSql.Text
