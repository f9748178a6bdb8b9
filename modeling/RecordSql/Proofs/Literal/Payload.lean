import RecordSql.Proofs.Literal.Emission

/-! # Values inside options

A value may stand inside any number of options. Its literal is that of the value at the bottom
(`Value.payload?`), and `NULL` when there is none. Which dialect writes it matters to few values
(`Value.render_congr`). -/

namespace RecordSql

namespace Value

/-- The value at the bottom of the options: `payload? (present v) = payload? v` and
`payload? absent = none`. -/
def payload? : Value → Option Value
  | absent => none
  | present v => v.payload?
  | v => some v

variable {ctx : LiteralContext} {v : Value}

@[simp] theorem payload?_absent : absent.payload? = none := rfl

@[simp] theorem payload?_present (v : Value) : (present v).payload? = v.payload? := rfl

/-- With `payload? v = none` the literal is `absentText`, in every context. -/
theorem render_of_payload?_eq_none (h : v.payload? = none) : v.render ctx = .ok absentText := by
  induction v with
  | absent => rfl
  | present v ih => exact ih h
  | int | float | bool | char | text | bytes | date | time | dateTime | timestamp | uuid | json
  | decimal => cases h

end Value

/-! ### Dialects with the same literals -/

namespace Dialect

variable {d : Dialect}

theorem escapesBackslash_of_ne (h : d ≠ mySql) : d.escapesBackslash = false := by
  cases d with
  | mySql => exact absurd rfl h
  | sqlite | postgres | unknown => rfl

theorem timestampText_of_ne (h : d ≠ mySql) (t : DateTime) :
    d.timestampText t = t.write ++ "+00:00".toList := by
  cases d with
  | mySql => exact absurd rfl h
  | sqlite | postgres | unknown => rfl

end Dialect

namespace LiteralContext

/-- Texts are quoted alike by dialects that agree on the backslash. -/
theorem quote_congr {d d' : Dialect} (h : d.escapesBackslash = d'.escapesBackslash)
    (policy : QuotePolicy) (content : Text) :
    quote ⟨d, policy⟩ content = quote ⟨d', policy⟩ content := by
  have hspecial : d.isSpecial = d'.isSpecial := by
    funext c
    rw [Dialect.isSpecial, Dialect.isSpecial, h]
  have hescaped : d.escaped = d'.escaped := by
    funext c
    rw [Dialect.escaped, Dialect.escaped, hspecial]
  rw [quote, quote, hspecial, hescaped]

end LiteralContext

namespace Value

/-- **Dialects other than MySQL write the same literals** of all values but truth values and bytes.
So `mySql` apart, `d` matters to two kinds of values only. -/
theorem render_congr {d d' : Dialect} (hd : d ≠ .mySql) (hd' : d' ≠ .mySql) (policy : QuotePolicy)
    {v : Value} (hbool : ∀ b, v.payload? ≠ some (.bool b))
    (hbytes : ∀ content, v.payload? ≠ some (.bytes content)) :
    v.render ⟨d, policy⟩ = v.render ⟨d', policy⟩ := by
  -- texts and times depend on the dialect only by being MySQL or not
  have hquote : ∀ content : Text,
      LiteralContext.quote ⟨d, policy⟩ content = LiteralContext.quote ⟨d', policy⟩ content := by
    intro content
    apply LiteralContext.quote_congr
    rw [Dialect.escapesBackslash_of_ne hd, Dialect.escapesBackslash_of_ne hd']
  have hzone : ∀ t, d.timestampText t = d'.timestampText t := by
    intro t
    rw [Dialect.timestampText_of_ne hd, Dialect.timestampText_of_ne hd']
  induction v with
  | int | float | decimal | absent => rfl
  | bool b => exact absurd rfl (hbool b)
  | bytes content => exact absurd rfl (hbytes content)
  | char | text | date | time | dateTime | uuid | json =>
    rw [render_eq_result, render_eq_result]
    exact congrArg Emission.result (hquote _)
  | timestamp t =>
    rw [render_eq_result, render_eq_result, emit, emit, hquote, hzone]
  | present v ih => exact ih hbool hbytes

end Value

end RecordSql
