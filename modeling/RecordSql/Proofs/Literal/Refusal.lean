import RecordSql.Proofs.Literal.Inert
import RecordSql.Proofs.Literal.Payload
import RecordSql.Proofs.Literal.Rendering
import RecordSql.Proofs.Literal.Scan

/-! # Refused values

A float is refused when it is no finite number. A quoted text is refused when it has the character
zero, and under the policy `reject` when it has a character that the dialect writes twice. No other
value is refused (`Value.exists_render_error_iff`), and what `reject` lets through `escape` writes
alike (`Value.render_escape_of_reject`). -/

namespace RecordSql

theorem Dialect.escapesBackslash_iff {d : Dialect} : d.escapesBackslash ↔ d = mySql := by
  cases d <;> decide

/-! ### Quoted texts: `RefusesText` -/

namespace LiteralContext

variable {ctx : LiteralContext} {content : Text}

/-- **Whether a text is refused between quotation marks**: for the character zero under every
policy, for a mark, or a backslash of MySQL, under `reject`. -/
def RefusesText (ctx : LiteralContext) (content : Text) : Prop :=
  '\x00' ∈ content ∨
    ctx.policy = .reject ∧ (quoteMark ∈ content ∨ ctx.dialect = .mySql ∧ '\\' ∈ content)

/-- The special characters of a dialect are the quotation mark and, for MySQL, the backslash. -/
theorem any_isSpecial_iff {d : Dialect} :
    content.any d.isSpecial ↔ quoteMark ∈ content ∨ d = .mySql ∧ '\\' ∈ content := by
  simp only [List.any_eq_true, Dialect.isSpecial_iff, Dialect.escapesBackslash_iff]
  constructor
  · rintro ⟨c, hc, rfl | ⟨rfl, rfl⟩⟩
    · exact Or.inl hc
    · exact Or.inr ⟨rfl, hc⟩
  · rintro (hmark | ⟨hd, hbackslash⟩)
    · exact ⟨quoteMark, hmark, Or.inl rfl⟩
    · exact ⟨'\\', hbackslash, Or.inr ⟨hd, rfl⟩⟩

/-- The character zero is refused before anything is written. -/
theorem quote_of_nul (h : '\x00' ∈ content) : ctx.quote content = .refused [] .nul :=
  if_pos (List.contains_iff_mem.2 h)

/-- A special character is refused after the opening mark, when there is no character zero. -/
theorem quote_of_special (hnul : '\x00' ∉ content) (hreject : ctx.policy = .reject)
    (hspecial : quoteMark ∈ content ∨ ctx.dialect = .mySql ∧ '\\' ∈ content) :
    ctx.quote content = .refused [quoteMark] (.quoteMark content) := by
  have hany : content.any ctx.dialect.isSpecial = true := any_isSpecial_iff.2 hspecial
  rw [quote, if_neg (mt List.contains_iff_mem.1 hnul), hany, hreject]
  rfl

/-- Any other text is written between marks, its special characters doubled. -/
theorem quote_of_not_refusesText (h : ¬ ctx.RefusesText content) :
    ctx.quote content
      = .whole (quoteMark :: content.flatMap ctx.dialect.escaped ++ [quoteMark]) := by
  obtain ⟨hnul, hspecial⟩ := not_or.1 h
  have hboth : ¬ (content.any ctx.dialect.isSpecial && ctx.policy == .reject) = true := by
    rw [Bool.and_eq_true, any_isSpecial_iff, beq_iff_eq]
    exact fun hboth => hspecial ⟨hboth.2, hboth.1⟩
  rw [quote, if_neg (mt List.contains_iff_mem.1 hnul), if_neg hboth]

/-- A text is refused just when `RefusesText` says so: the three equations of `quote` leave no other
case. -/
theorem exists_quote_error_iff :
    (∃ e, (ctx.quote content).result = .error e) ↔ ctx.RefusesText content := by
  by_cases h : ctx.RefusesText content
  · refine iff_of_true ?_ h
    by_cases hnul : '\x00' ∈ content
    · exact ⟨_, by rw [quote_of_nul hnul, Emission.result_refused]⟩
    · obtain ⟨hreject, hspecial⟩ := h.resolve_left hnul
      exact ⟨_, by rw [quote_of_special hnul hreject hspecial, Emission.result_refused]⟩
  · refine iff_of_false ?_ h
    rintro ⟨e, he⟩
    rw [quote_of_not_refusesText h, Emission.result_whole] at he
    cases he

/-- An inert text is written in every context. -/
theorem exists_quote_of_isInert (h : Text.IsInert content) :
    ∃ t, (ctx.quote content).result = .ok t := by
  have hinert : ¬ ctx.RefusesText content := by
    rintro (hnul | ⟨-, hmark | ⟨-, hbackslash⟩⟩)
    · exact h _ hnul (by decide)
    · exact h _ hmark (by decide)
    · exact h _ hbackslash (by decide)
  exact ⟨_, by rw [quote_of_not_refusesText hinert, Emission.result_whole]⟩

/-- **A text that is not refused under `reject` is the same literal under `escape`**: it has nothing
to be doubled. -/
theorem result_quote_escape {d : Dialect} {t : Text}
    (h : (quote ⟨d, .reject⟩ content).result = .ok t) :
    (quote ⟨d, .escape⟩ content).result = .ok t := by
  have hreject : ¬ RefusesText ⟨d, .reject⟩ content := by
    rw [← exists_quote_error_iff, h]
    rintro ⟨e, he⟩
    cases he
  have hescape : ¬ RefusesText ⟨d, .escape⟩ content := by
    rintro (hnul | ⟨hpolicy, -⟩)
    · exact hreject (Or.inl hnul)
    · cases hpolicy
  rw [quote_of_not_refusesText hreject] at h
  rw [quote_of_not_refusesText hescape]
  exact h

end LiteralContext

/-! ### Values: `Value.Refused` -/

/-- Whether a float is a finite number. -/
def BinaryFloat.IsFinite (x : BinaryFloat) : Prop :=
  ∃ negative mantissa exponent, x.read = .finite negative mantissa exponent

/-- A float is refused just when it is not `IsFinite`. -/
theorem LiteralContext.exists_number_error_iff {x : BinaryFloat} :
    (∃ e, (number x).result = .error e) ↔ ¬ x.IsFinite := by
  rw [number]
  split
  · next heq =>
    refine iff_of_false ?_ (not_not.2 ⟨_, _, _, heq⟩)
    rintro ⟨e, he⟩
    cases he
  · next heq =>
    refine iff_of_true ⟨_, rfl⟩ ?_
    rintro ⟨_, _, _, hfinite⟩
    cases heq.symm.trans hfinite
  · next heq =>
    refine iff_of_true ⟨_, rfl⟩ ?_
    rintro ⟨_, _, _, hfinite⟩
    cases heq.symm.trans hfinite

namespace Value

variable {ctx : LiteralContext} {v : Value}

/-- The text that a dialect puts between quotation marks for a value. Bytes are no text: their digits
are announced by other characters than a mark. -/
def quotedText? (d : Dialect) : Value → Option Text
  | char c => some [c]
  | text content => some content
  | date t => some t.write
  | time t => some t.write
  | dateTime t => some t.write
  | timestamp t => some (d.timestampText t)
  | uuid id => some (uuidText id)
  | json document => some document.compact
  | present v => v.quotedText? d
  | int _ | float _ | bool _ | bytes _ | decimal _ | absent => none

/-- **Whether a value is refused**: at the bottom of its options (`payload?`) stands a float that is
no finite number, or a text (`quotedText?`) that is refused between quotation marks. -/
def Refused (ctx : LiteralContext) (v : Value) : Prop :=
  (∃ x, v.payload? = some (.float x) ∧ ¬ x.IsFinite) ∨
    ∃ content, v.quotedText? ctx.dialect = some content ∧ ctx.RefusesText content

/-- Whether the value at the bottom of the options is of a kind that is never refused, or there is
none. -/
def isSafeKind : Value → Bool
  | int _ | bool _ | bytes _ | date _ | time _ | dateTime _ | timestamp _ | uuid _ | decimal _
  | absent => true
  | float _ | char _ | text _ | json _ => false
  | present v => v.isSafeKind

/-- A value that is neither a float nor a quoted text is not refused. -/
theorem not_refused (hfloat : ∀ x, v.payload? ≠ some (.float x))
    (hquoted : v.quotedText? ctx.dialect = none) : ¬ v.Refused ctx := by
  rintro (⟨x, hx, -⟩ | ⟨content, hcontent, -⟩)
  · exact hfloat x hx
  · cases hquoted.symm.trans hcontent

/-- A value with a quoted text is refused as that text is. -/
theorem refused_iff_of_quotedText? {content : Text} (hfloat : ∀ x, v.payload? ≠ some (.float x))
    (hquoted : v.quotedText? ctx.dialect = some content) :
    v.Refused ctx ↔ ctx.RefusesText content := by
  rw [Refused, hquoted]
  constructor
  · rintro (⟨x, hx, -⟩ | ⟨other, hother, hrefused⟩)
    · exact absurd hx (hfloat x)
    · rwa [Option.some.inj hother]
  · exact fun hrefused => Or.inr ⟨content, rfl, hrefused⟩

/-- **A value has no literal just when it is refused**: `Refused` is `render` failing, kind by
kind. -/
theorem exists_render_error_iff : (∃ e, v.render ctx = .error e) ↔ v.Refused ctx := by
  induction v with
  | int | bool | bytes | decimal | absent =>
    refine iff_of_false ?_ (not_refused (fun x hx => by cases hx) rfl)
    rintro ⟨e, he⟩
    cases he
  | float x =>
    rw [render_eq_result, emit, LiteralContext.exists_number_error_iff]
    constructor
    · exact fun hx => Or.inl ⟨x, rfl, hx⟩
    · rintro (⟨y, hy, hfinite⟩ | ⟨content, hcontent, -⟩)
      · cases hy
        exact hfinite
      · cases hcontent
  | char | text | date | time | dateTime | timestamp | uuid | json =>
    rw [refused_iff_of_quotedText? (fun x hx => by cases hx) rfl, render_eq_result]
    exact LiteralContext.exists_quote_error_iff
  | present v ih => exact ih

/-- **Every refusal is that of an unsafe literal**: the error is `SqlError.unsafeLiteral`, with a
fault. -/
theorem exists_fault_of_render {e : SqlError} (h : v.render ctx = .error e) :
    ∃ fault, e = .unsafeLiteral fault := by
  rw [render_eq_result] at h
  obtain ⟨fault, -, he⟩ := Emission.exists_fault_of_result h
  exact ⟨fault, he⟩

/-- **Most kinds of values are never refused**, those of `isSafeKind`: numbers other than floats,
truth values, bytes, days and times, identifiers, and no value at all. -/
theorem exists_render_of_isSafeKind (h : v.isSafeKind) : ∃ t, v.render ctx = .ok t := by
  rw [render_eq_result]
  induction v with
  | int | bool | bytes | decimal | absent => exact ⟨_, rfl⟩
  | date d => exact LiteralContext.exists_quote_of_isInert d.isInert_write
  | time t => exact LiteralContext.exists_quote_of_isInert t.isInert_write
  | dateTime t => exact LiteralContext.exists_quote_of_isInert t.isInert_write
  | timestamp t =>
    exact LiteralContext.exists_quote_of_isInert (ctx.dialect.isInert_timestampText t)
  | uuid id => exact LiteralContext.exists_quote_of_isInert (isInert_uuidText id)
  | float | char | text | json => cases h
  | present v ih => exact ih h

/-- **A JSON document is never refused for the character zero.** -/
theorem render_ne_nul {document : Json} (h : v.payload? = some (.json document)) :
    v.render ctx ≠ .error (.unsafeLiteral .nul) := by
  induction v with
  | json other =>
    intro hrender
    have hnul := other.nul_not_mem_compact
    rw [render_eq_result, emit] at hrender
    by_cases hrefused : ctx.RefusesText other.compact
    · -- refused, but for a mark or a backslash
      obtain ⟨hreject, hspecial⟩ := hrefused.resolve_left hnul
      rw [LiteralContext.quote_of_special hnul hreject hspecial] at hrender
      cases hrender
    · rw [LiteralContext.quote_of_not_refusesText hrefused] at hrender
      cases hrender
  | present v ih => exact ih h
  | int | float | bool | char | text | bytes | date | time | dateTime | timestamp | uuid | decimal
  | absent => cases h

/-- **What `reject` lets through `escape` writes alike**: the literal under `⟨d, .reject⟩` is that
under `⟨d, .escape⟩`. -/
theorem render_escape_of_reject {d : Dialect} {t : Text}
    (h : v.render ⟨d, .reject⟩ = .ok t) : v.render ⟨d, .escape⟩ = .ok t := by
  induction v with
  | int | float | bool | bytes | decimal | absent => exact h
  | char | text | date | time | dateTime | timestamp | uuid | json =>
    rw [render_eq_result] at h ⊢
    exact LiteralContext.result_quote_escape h
  | present v ih => exact ih h

/-! ### Several values: `renderAll` -/

/-- The refusal of several values is that of an unsafe literal too. -/
theorem exists_fault_of_renderAll {values : List Value} {e : SqlError}
    (h : renderAll ctx values = .error e) : ∃ fault, e = .unsafeLiteral fault := by
  obtain ⟨v, -, hv⟩ := exists_of_renderAll_error h
  exact exists_fault_of_render hv

/-- What `reject` lets through of several values `escape` writes alike. -/
theorem renderAll_escape_of_reject {d : Dialect} {values : List Value} {texts : List Text}
    (h : renderAll ⟨d, .reject⟩ values = .ok texts) :
    renderAll ⟨d, .escape⟩ values = .ok texts := by
  rw [← h]
  apply renderAll_congr
  intro v hv
  obtain ⟨t, ht⟩ := exists_render_of_mem h hv
  rw [ht, render_escape_of_reject ht]

end Value

end RecordSql
