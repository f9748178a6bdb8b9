import RecordSql.Proofs.Literal.Emission
import RecordSql.Proofs.Literal.Numeral
import RecordSql.Proofs.Literal.Scan

/-! # Quoted literals

The literal of a character, a text or a JSON document is one string literal with the content of the
value: `Value.scan_of_content?`. Bytes are one too, which a letter may announce. -/

namespace RecordSql

/-- The text that a character, a text or a JSON document stands for; `none` for the other kinds. -/
def Value.content? : Value → Option Text
  | .char c => some [c]
  | .text content => some content
  | .json document => some document.compact
  | .present v => v.content?
  | .int _ | .float _ | .bool _ | .bytes _ | .date _ | .time _ | .dateTime _ | .timestamp _
  | .uuid _ | .decimal _ | .absent => none

/-- A quoted text that is not refused stands between marks, its special characters doubled. -/
theorem LiteralContext.eq_of_result_quote {ctx : LiteralContext} {content t : Text}
    (h : (ctx.quote content).result = .ok t) :
    t = quoteMark :: content.flatMap ctx.dialect.escaped ++ [quoteMark] := by
  rw [quote] at h
  split at h
  · cases h
  · split at h
    · cases h
    · exact (Except.ok.inj h).symm

/-- A quoted text that is not refused is scanned as one literal with `content` for its content. -/
theorem LiteralContext.scan_of_result_quote {ctx : LiteralContext} {content t : Text}
    (h : (ctx.quote content).result = .ok t) :
    ctx.dialect.scan t = ⟨[.literal content], none⟩ := by
  rw [eq_of_result_quote h, Dialect.scan_quoted]

namespace Dialect

/-- PostgreSQL quotes bytes as a text: a backslash and a letter, then the digits. -/
theorem bytesText_postgres (content : List UInt8) :
    postgres.bytesText content
      = quoteMark :: ('\\' :: 'x' :: Text.hexOfBytes content).flatMap postgres.escaped
        ++ [quoteMark] := by
  have hbody : ∀ c ∈ '\\' :: 'x' :: Text.hexOfBytes content, ¬ postgres.isSpecial c := by
    -- the backslash before the digits is plain text for this dialect
    refine List.forall_mem_cons.2 ⟨by decide, List.forall_mem_cons.2 ⟨by decide, ?_⟩⟩
    exact fun c hc => postgres.not_isSpecial_of_mem_hexOfBytes hc
  rw [flatMap_escaped_of_not_isSpecial _ hbody]
  rfl

/-- The other dialects announce bytes by a letter and quote their digits. -/
theorem bytesText_of_ne {d : Dialect} (h : d ≠ postgres) (content : List UInt8) :
    d.bytesText content
      = 'X' :: (quoteMark :: (Text.hexOfBytes content).flatMap d.escaped ++ [quoteMark]) := by
  have hbody : ∀ c ∈ Text.hexOfBytes content, ¬ d.isSpecial c :=
    fun c hc => d.not_isSpecial_of_mem_hexOfBytes hc
  rw [flatMap_escaped_of_not_isSpecial _ hbody]
  cases d with
  | postgres => exact absurd rfl h
  | mySql | sqlite | unknown => rfl

end Dialect

namespace Value

variable {ctx : LiteralContext} {v : Value} {t : Text}

/-- **The literal of a character, a text or a JSON document is one string literal**, and
`Dialect.scan` finds the content of the value in it. -/
theorem scan_of_content? (h : v.render ctx = .ok t) {content : Text}
    (hcontent : v.content? = some content) :
    ctx.dialect.scan t = ⟨[.literal content], none⟩ := by
  induction v with
  | char | text | json =>
    rw [← Option.some.inj hcontent]
    rw [render_eq_result] at h
    exact LiteralContext.scan_of_result_quote h
  | present v ih => exact ih h hcontent
  | int | float | bool | bytes | date | time | dateTime | timestamp | uuid | decimal | absent =>
    cases hcontent

end Value

end RecordSql
