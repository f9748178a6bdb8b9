import RecordSql.Proofs.Literal.Quoted
import RecordSql.Proofs.Literal.Masked

/-! # Signs of literals

The literal of a value ends outside of string literals, and has a hyphen there only in front, as the
sign of a negative number (`Dialect.IsSigned`): `Value.isSigned_of_render`. -/

namespace RecordSql

open LiteralState

namespace Dialect

/-- **Whether a text shows a hyphen only as its sign.** It ends outside of string literals, and what
it shows there (`d.masked outside text`) is not empty and has no hyphen but the one in front, if it
is `negative`. -/
structure IsSigned (d : Dialect) (negative : Bool) (text : Text) : Prop where
  closed : outside.after d text = outside
  exists_body : ∃ body : Text, body ≠ [] ∧ '-' ∉ body ∧
    d.masked outside text = if negative then '-' :: body else body

namespace IsSigned

variable {d : Dialect} {negative : Bool} {text : Text}

/-- A text with neither quotation marks nor hyphens shows as it is. -/
theorem of_plain (hne : text ≠ []) (hmark : quoteMark ∉ text) (hhyphen : '-' ∉ text) :
    d.IsSigned false text := by
  obtain ⟨hmasked, hafter⟩ := masked_of_not_mem (d := d) hmark
  exact ⟨hafter, text, hne, hhyphen, hmasked⟩

/-- A sign may stand in front of such a text. -/
theorem of_minus (hne : text ≠ []) (hmark : quoteMark ∉ text) (hhyphen : '-' ∉ text) :
    d.IsSigned true ('-' :: text) := by
  have hsigned : quoteMark ∉ '-' :: text := List.not_mem_cons_of_ne_of_not_mem (by decide) hmark
  obtain ⟨hmasked, hafter⟩ := masked_of_not_mem (d := d) hsigned
  exact ⟨hafter, text, hne, hhyphen, hmasked⟩

/-- Digits and points behind a sign. -/
theorem of_isUnsigned (hne : text ≠ []) (h : Text.IsUnsigned text) :
    d.IsSigned negative (if negative then '-' :: text else text) := by
  have hmark := h.isNumeral.quoteMark_not_mem
  cases negative with
  | false => exact of_plain hne hmark h.hyphen_not_mem
  | true => exact of_minus hne hmark h.hyphen_not_mem

/-- A quoted text shows nothing. -/
theorem of_quoted (content : Text) :
    d.IsSigned false (quoteMark :: content.flatMap d.escaped ++ [quoteMark]) := by
  obtain ⟨hmarks, hafter⟩ := masked_quoted (d := d) content
  refine ⟨hafter, _, ?_, ?_, rfl⟩
  · exact List.cons_ne_nil _ _
  · exact fun hmem => absurd (hmarks _ hmem) (by decide)

/-- A letter may announce a quoted text. -/
theorem cons {c : Char} (hmark : c ≠ quoteMark) (hhyphen : c ≠ '-') (h : d.IsSigned false text) :
    d.IsSigned false (c :: text) := by
  obtain ⟨hafter, body, -, hbody, hmasked⟩ := h
  refine ⟨by rw [after_cons, next_outside_of_ne hmark, hafter], c :: body, List.cons_ne_nil _ _,
    List.not_mem_cons_of_ne_of_not_mem hhyphen.symm hbody, ?_⟩
  rw [masked_cons, next_outside_of_ne hmark, hmasked]
  rfl

/-! ### Where the hyphen is -/

theorem masked_ne_nil (h : d.IsSigned negative text) : d.masked outside text ≠ [] := by
  obtain ⟨-, body, hne, -, hmasked⟩ := h
  rw [hmasked]
  cases negative with
  | false => exact hne
  | true => exact List.cons_ne_nil _ _

/-- A hyphen in front is the sign: there is one just when `negative`. -/
theorem head?_masked_iff (h : d.IsSigned negative text) :
    (d.masked outside text).head? = some '-' ↔ negative = true := by
  obtain ⟨-, body, -, hbody, hmasked⟩ := h
  rw [hmasked]
  cases negative with
  | false => exact iff_of_false (fun hhead => hbody (List.mem_of_head? hhead)) Bool.false_ne_true
  | true => exact iff_of_true rfl rfl

/-- No hyphen is at the end. -/
theorem getLast?_masked_ne (h : d.IsSigned negative text) :
    (d.masked outside text).getLast? ≠ some '-' := by
  obtain ⟨-, body, hne, hbody, hmasked⟩ := h
  have hlast : body.getLast? ≠ some '-' := fun hlast => hbody (List.mem_of_getLast? hlast)
  rw [hmasked]
  cases negative with
  | false => exact hlast
  | true =>
    cases body with
    | nil => exact absurd rfl hne
    | cons c body =>
      rw [if_pos rfl, List.getLast?_cons_cons]
      exact hlast

/-- A sign is one hyphen. -/
theorem not_pair_infix (h : d.IsSigned negative text) :
    ¬ ['-', '-'] <:+: d.masked outside text := by
  obtain ⟨-, body, -, hbody, hmasked⟩ := h
  have hpair : ¬ ['-', '-'] <:+: body := fun hpair => hbody (hpair.subset List.mem_cons_self)
  rw [hmasked]
  cases negative with
  | false => exact hpair
  | true =>
    rw [if_pos rfl, Text.pair_infix_cons_iff]
    exact not_or.2 ⟨fun hhead => hbody (List.mem_of_head? hhead.2), hpair⟩

/-! ### Between other texts -/

variable {a b : Text}

/-- A reader that is outside before the text is outside behind it, so that `text` does not matter to
where it ends. -/
theorem after_between (h : d.IsSigned negative text) (ha : outside.after d a = outside) (b : Text) :
    outside.after d (a ++ (text ++ b)) = outside.after d b := by
  rw [after_append, after_append, ha, h.closed]

theorem masked_between (h : d.IsSigned negative text) (ha : outside.after d a = outside)
    (b : Text) : d.masked outside (a ++ (text ++ b))
      = d.masked outside a ++ (d.masked outside text ++ d.masked outside b) := by
  rw [masked_append, masked_append, ha, h.closed]

/-- **Two hyphens are in the texts around, or meet in front**: those of `a ++ text ++ b` are in `a`,
in `b`, or at the end of `a` before a sign. -/
theorem pair_infix_between_iff (h : d.IsSigned negative text) (ha : outside.after d a = outside) :
    ['-', '-'] <:+: d.masked outside (a ++ (text ++ b)) ↔
      ['-', '-'] <:+: d.masked outside a ∨ ['-', '-'] <:+: d.masked outside b ∨
        (a.getLast? = some '-' ∧ negative = true) := by
  -- the text is not empty: it parts what stands in front from what stands behind
  have hhead : (d.masked outside text ++ d.masked outside b).head? = some '-' ↔ negative = true := by
    rw [List.head?_append_of_ne_nil _ h.masked_ne_nil, h.head?_masked_iff]
  have hbehind : ¬ ((d.masked outside text).getLast? = some '-' ∧
      (d.masked outside b).head? = some '-') := fun hboth => h.getLast?_masked_ne hboth.1
  rw [h.masked_between ha, Text.pair_infix_append_iff, Text.pair_infix_append_iff, hhead,
    getLast?_masked ha, or_iff_right h.not_pair_infix, or_iff_right hbehind,
    or_comm (a := a.getLast? = some '-' ∧ _)]

/-- A hyphen at the end is one of the text `b` behind. -/
theorem getLast?_between_iff (h : d.IsSigned negative text) (ha : outside.after d a = outside) :
    (d.masked outside (a ++ (text ++ b))).getLast? = some '-' ↔
      (d.masked outside b).getLast? = some '-' := by
  rw [h.masked_between ha]
  cases hb : d.masked outside b with
  | nil =>
    rw [List.append_nil, List.getLast?_append_of_ne_nil _ h.masked_ne_nil]
    exact iff_of_false h.getLast?_masked_ne (by decide)
  | cons c rest =>
    rw [← List.append_assoc, List.getLast?_append_of_ne_nil _ (List.cons_ne_nil c rest)]

end IsSigned

end Dialect

namespace Value

/-- Whether a value is a number with a minus sign, which a zero of the floats or of the decimals may
have too. -/
def isNegative : Value → Bool
  | int n => n < 0
  | float x =>
    match x.read with
    | .finite negative _ _ => negative
    | .infinite _ | .notANumber => false
  | decimal d => d.unscaled.negative
  | present v => v.isNegative
  | bool _ | char _ | text _ | bytes _ | date _ | time _ | dateTime _ | timestamp _ | uuid _
  | json _ | absent => false

variable {ctx : LiteralContext} {v : Value} {t : Text}

theorem isSigned_ofInt (d : Dialect) (n : Int) : d.IsSigned (int n).isNegative (Text.ofInt n) := by
  cases n with
  | ofNat n =>
    have hsign : (int (.ofNat n)).isNegative = false :=
      decide_eq_false (Int.not_lt_of_ge (Int.natCast_nonneg n))
    rw [hsign]
    exact .of_isUnsigned (Text.ofNat_ne_nil n) (Text.isUnsigned_ofNat n)
  | negSucc n =>
    have hsign : (int (.negSucc n)).isNegative = true := decide_eq_true (Int.negSucc_lt_zero n)
    rw [hsign]
    exact .of_isUnsigned (Text.ofNat_ne_nil (n + 1)) (Text.isUnsigned_ofNat (n + 1))

theorem isSigned_decimal (d : Dialect) (x : FixedPoint) :
    d.IsSigned (decimal x).isNegative x.write :=
  .of_isUnsigned (Text.pointed_ne_nil _ _) (Text.isUnsigned_pointed _ _)

/-- Floats are written positionally, so no sign of an exponent shows. -/
theorem isSigned_numberLayout (d : Dialect) (width : FloatWidth) (negative : Bool) (mantissa : Nat)
    (exponent : Int) : d.IsSigned negative (numberLayout.write width negative mantissa exponent) :=
  .of_isUnsigned (ScaledDigits.positional_ne_nil _ _) (ScaledDigits.isUnsigned_positional _ _)

theorem isSigned_bytesText (d : Dialect) (content : List UInt8) :
    d.IsSigned false (d.bytesText content) := by
  by_cases hd : d = .postgres
  · rw [hd, Dialect.bytesText_postgres]
    exact .of_quoted _
  · rw [Dialect.bytesText_of_ne hd]
    exact (Dialect.IsSigned.of_quoted _).cons (by decide) (by decide)

/-- **A literal shows a hyphen only as the sign of a negative number**: it is `IsSigned` with
`v.isNegative`. -/
theorem isSigned_of_render (h : v.render ctx = .ok t) : ctx.dialect.IsSigned v.isNegative t := by
  -- numbers have no marks, quoted texts show nothing else
  induction v with
  | int n =>
    obtain rfl := Except.ok.inj h
    exact isSigned_ofInt _ n
  | decimal x =>
    obtain rfl := Except.ok.inj h
    exact isSigned_decimal _ x
  | float x =>
    rw [render_eq_result, emit, LiteralContext.number] at h
    split at h
    · next negative mantissa exponent hread =>
      obtain rfl := Except.ok.inj h
      have hsign : (float x).isNegative = negative := by rw [isNegative, hread]
      rw [hsign]
      exact isSigned_numberLayout _ _ _ _ _
    · cases h
    · cases h
  | bool b =>
    obtain rfl := Except.ok.inj h
    change ctx.dialect.IsSigned false (ctx.dialect.boolText b)
    have hword : ctx.dialect.boolText b ≠ [] ∧ quoteMark ∉ ctx.dialect.boolText b ∧
        '-' ∉ ctx.dialect.boolText b := by
      cases ctx.dialect <;> cases b <;> decide
    exact .of_plain hword.1 hword.2.1 hword.2.2
  | absent =>
    obtain rfl := Except.ok.inj h
    change ctx.dialect.IsSigned false absentText
    exact .of_plain (by decide) (by decide) (by decide)
  | bytes content =>
    obtain rfl := Except.ok.inj h
    exact isSigned_bytesText _ content
  | char | text | date | time | dateTime | timestamp | uuid | json =>
    rw [render_eq_result] at h
    rw [LiteralContext.eq_of_result_quote h]
    exact .of_quoted _
  | present v ih => exact ih h

/-- **Every literal ends outside of string literals**: its scan has no `unclosed` one. -/
theorem unclosed_scan_of_render (h : v.render ctx = .ok t) :
    (ctx.dialect.scan t).unclosed = none :=
  Dialect.unclosed_scan_iff.2 (isSigned_of_render h).closed

end Value

end RecordSql
