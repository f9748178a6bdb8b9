import RecordSql.Literal

/-! # The characters of numerals

The text of an integer or a float, whatever its layout, is made of digits, signs, points and the
mark of an exponent (`Text.IsNumeral`), and that of bytes of hexadecimal digits. So neither holds a
quotation mark or a backslash. In positional form, without the sign in front, there are digits and
points alone (`Text.IsUnsigned`). -/

namespace RecordSql

namespace Text

/-- Whether a text is made of digits and the characters `-`, `+`, `.` and `e`. -/
def IsNumeral (text : Text) : Prop := ∀ c ∈ text, c.isDigit ∨ c ∈ ['-', '+', '.', 'e']

@[simp] theorem isNumeral_nil : IsNumeral [] := by
  simp [IsNumeral]

@[simp] theorem isNumeral_cons {c : Char} {text : Text} :
    IsNumeral (c :: text) ↔ (c.isDigit ∨ c ∈ ['-', '+', '.', 'e']) ∧ IsNumeral text :=
  List.forall_mem_cons

@[simp] theorem isNumeral_append {a b : Text} : IsNumeral (a ++ b) ↔ IsNumeral a ∧ IsNumeral b :=
  List.forall_mem_append

/-- Numerals hold no quotation mark. -/
theorem IsNumeral.quoteMark_not_mem {text : Text} (h : IsNumeral text) : quoteMark ∉ text :=
  fun hmem => absurd (h _ hmem) (by decide)

/-! ### Without a sign: `IsUnsigned` -/

/-- Whether a text is made of digits and points. -/
def IsUnsigned (text : Text) : Prop := ∀ c ∈ text, c.isDigit ∨ c = '.'

theorem IsUnsigned.isNumeral {text : Text} (h : IsUnsigned text) : IsNumeral text :=
  fun c hc => (h c hc).imp_right fun hpoint => by simp [hpoint]

/-- Digits and points are no hyphens. -/
theorem IsUnsigned.hyphen_not_mem {text : Text} (h : IsUnsigned text) : '-' ∉ text :=
  fun hmem => absurd (h _ hmem) (by decide)

theorem isUnsigned_append {a b : Text} : IsUnsigned (a ++ b) ↔ IsUnsigned a ∧ IsUnsigned b :=
  List.forall_mem_append

theorem isUnsigned_ofNat (n : Nat) : IsUnsigned (ofNat n) :=
  fun _ hc => Or.inl (isDigit_of_mem_ofNat hc)

theorem isUnsigned_padded (width n : Nat) : IsUnsigned (padded width n) := by
  rw [padded, List.leftpad, isUnsigned_append]
  refine ⟨fun c hc => ?_, isUnsigned_ofNat n⟩
  rw [List.eq_of_mem_replicate hc]
  exact Or.inl rfl

theorem isUnsigned_pointed (places n : Nat) : IsUnsigned (pointed places n) := by
  rw [pointed]
  split
  · exact isUnsigned_ofNat n
  · have hdigits := isUnsigned_padded (places + 1) n
    rw [isUnsigned_append, IsUnsigned, IsUnsigned, List.forall_mem_cons]
    exact ⟨fun c hc => hdigits c (List.mem_of_mem_take hc), Or.inr rfl,
      fun c hc => hdigits c (List.mem_of_mem_drop hc)⟩

theorem pointed_ne_nil (places n : Nat) : pointed places n ≠ [] := by
  rw [pointed]
  split
  · exact ofNat_ne_nil n
  · exact List.append_ne_nil_of_right_ne_nil _ (List.cons_ne_nil _ _)

/-! ### With a sign: `IsNumeral` -/

@[simp] theorem isNumeral_ofNat (n : Nat) : IsNumeral (ofNat n) := (isUnsigned_ofNat n).isNumeral

theorem isNumeral_ofInt (n : Int) : IsNumeral (ofInt n) := by
  cases n with
  | ofNat n => exact isNumeral_ofNat n
  | negSucc n => simp [ofInt]

theorem isNumeral_padded (width n : Nat) : IsNumeral (padded width n) :=
  (isUnsigned_padded width n).isNumeral

end Text

open Text

namespace ScaledDigits

theorem isUnsigned_positional (keepsDecimal : Bool) (d : ScaledDigits) :
    IsUnsigned (d.positional keepsDecimal) := by
  rw [positional]
  split
  · rw [isUnsigned_append]
    refine ⟨isUnsigned_ofNat _, ?_⟩
    cases keepsDecimal <;> simp [IsUnsigned]
  · exact isUnsigned_pointed _ _

theorem positional_ne_nil (keepsDecimal : Bool) (d : ScaledDigits) :
    d.positional keepsDecimal ≠ [] := by
  rw [positional]
  split
  · exact List.append_ne_nil_of_left_ne_nil (ofNat_ne_nil _) _
  · exact pointed_ne_nil _ _

theorem isNumeral_withExponent (d : ScaledDigits) : IsNumeral d.withExponent := by
  have hdigits := isNumeral_ofNat d.digits
  -- the exponent with its mark and sign stands behind the digits in every case
  have hmarked : IsNumeral (['e', if d.leadingExponent < 0 then '-' else '+']
      ++ ofNat d.leadingExponent.natAbs) := by
    split <;> simp
  rw [withExponent]
  split
  · exact hmarked
  · rename_i digit heq
    rw [heq, isNumeral_cons] at hdigits
    exact isNumeral_cons.2 ⟨hdigits.1, hmarked⟩
  · rename_i digit rest _ heq
    rw [heq, isNumeral_cons] at hdigits
    exact isNumeral_cons.2 ⟨hdigits.1,
      isNumeral_append.2 ⟨isNumeral_cons.2 ⟨by simp, hdigits.2⟩, hmarked⟩⟩

end ScaledDigits

/-- **Every layout writes numerals**, positionally and with an exponent. -/
theorem NumberLayout.isNumeral_write (layout : NumberLayout) (width : FloatWidth) (negative : Bool)
    (mantissa : Nat) (exponent : Int) :
    IsNumeral (layout.write width negative mantissa exponent) := by
  have hbody : ∀ d : ScaledDigits, IsNumeral (if layout.positional d.leadingExponent then
      d.positional layout.keepsDecimal else d.withExponent) := by
    intro d
    split
    · exact (d.isUnsigned_positional _).isNumeral
    · exact d.isNumeral_withExponent
  rw [NumberLayout.write]
  cases negative with
  | true => simpa using hbody _
  | false => simpa using hbody _

/-! ### Hexadecimal digits -/

namespace Text

/-- The digits of a number in base sixteen are `Nat.digitChar k` for `k < 16`. -/
theorem exists_digitChar_of_mem_toDigits {n : Nat} {c : Char} (h : c ∈ Nat.toDigits 16 n) :
    ∃ k < 16, c = Nat.digitChar k := by
  induction n using Nat.strongRecOn with
  | ind n ih =>
    rw [Nat.toDigits_eq_if (by decide)] at h
    split at h
    · rename_i hn
      exact ⟨n, hn, List.mem_singleton.1 h⟩
    · rename_i hn
      rcases List.mem_append.1 h with hfront | hlast
      · exact ih (n / 16) (Nat.div_lt_self (by omega) (by decide)) hfront
      · exact ⟨n % 16, Nat.mod_lt n (by decide), List.mem_singleton.1 hlast⟩

/-- A zero of the padding is one of them too. -/
theorem exists_digitChar_of_mem_paddedHex {width n : Nat} {c : Char} (h : c ∈ paddedHex width n) :
    ∃ k < 16, c = Nat.digitChar k := by
  rw [paddedHex, List.leftpad, List.mem_append] at h
  rcases h with hpad | hdigit
  · exact ⟨0, by decide, List.eq_of_mem_replicate hpad⟩
  · exact exists_digitChar_of_mem_toDigits hdigit

end Text

/-- No hexadecimal digit is special, by the sixteen cases. -/
theorem Dialect.not_isSpecial_digitChar (d : Dialect) :
    ∀ k < 16, ¬ d.isSpecial (Nat.digitChar k) := by
  cases d <;> decide

/-- Bytes are written without special characters. -/
theorem Dialect.not_isSpecial_of_mem_hexOfBytes (d : Dialect) {bytes : List UInt8} {c : Char}
    (h : c ∈ hexOfBytes bytes) : ¬ d.isSpecial c := by
  obtain ⟨b, -, hc⟩ := List.mem_flatMap.1 h
  obtain ⟨k, hk, rfl⟩ := exists_digitChar_of_mem_paddedHex hc
  exact d.not_isSpecial_digitChar k hk

end RecordSql
