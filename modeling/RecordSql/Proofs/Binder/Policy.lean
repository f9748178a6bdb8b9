import RecordSql.Proofs.Binder.Filling

/-! # The two quote policies

Which values are refused, and how the answers of a binder under the two policies are related:
`Binder.bind_policies`. The policy `reject` only refuses: a text that it binds is the one that
`escape` binds, and the numbers of marks and values are judged alike. -/

namespace RecordSql.Binder

open Template

variable {d : Dialect} {template : Text} {values : List Value}

/-- A text that is bound under `reject` is bound under `escape`, and is the same. -/
theorem bind_escape_of_bind_reject {bound : Text}
    (h : Binder.bind ⟨⟨d, .reject⟩⟩ template values = .ok bound) :
    Binder.bind ⟨⟨d, .escape⟩⟩ template values = .ok bound := by
  obtain ⟨cut, hcut⟩ := Cut.exists_isOf d.placeholderStyle template
  obtain ⟨hasks, texts, htexts, rfl⟩ := exists_of_bind_eq_ok hcut h
  have hescape := bind_of_asksFor (b := ⟨⟨d, .escape⟩⟩) hcut hasks
  rw [hescape, Value.renderAll_escape_of_reject htexts]
  rfl

/-- Whether a mismatch is reported does not depend on the policy, since values are looked at
later. -/
theorem bind_eq_mismatch_congr (policy policy' : QuotePolicy) {expected found : Nat} :
    Binder.bind ⟨⟨d, policy⟩⟩ template values = .error (.placeholderMismatch expected found) ↔
      Binder.bind ⟨⟨d, policy'⟩⟩ template values
        = .error (.placeholderMismatch expected found) := by
  obtain ⟨cut, hcut⟩ := Cut.exists_isOf d.placeholderStyle template
  rw [bind_eq_mismatch_iff (b := ⟨⟨d, policy⟩⟩) hcut, bind_eq_mismatch_iff (b := ⟨⟨d, policy'⟩⟩) hcut]
  rfl

/-- **Just the unsafe values are refused, and `reject` only restricts `escape`.** A value has no
literal when at the bottom of its options stands a float that is no finite number, or a quoted text
with the character zero or, under `reject`, with a quotation mark or, for MySQL, a backslash; the
error is always that of an unsafe literal. So integers, decimals, truth values, bytes, days, times,
identifiers and absent values have literals in every context, and no JSON document is refused for the
character zero. What `reject` lets through `escape` writes alike, a value as well as a bound text,
and a mismatch of marks and values is reported by both or by neither. -/
theorem bind_policies (d : Dialect) :
    (∀ (policy : QuotePolicy) (v : Value),
      ((∃ e, v.render ⟨d, policy⟩ = .error e) ↔
        (∃ x, v.payload? = some (.float x) ∧ ¬ x.IsFinite) ∨
          ∃ content, v.quotedText? d = some content ∧
            ('\x00' ∈ content ∨
              policy = .reject ∧ (quoteMark ∈ content ∨ d = .mySql ∧ '\\' ∈ content))) ∧
      (∀ e, v.render ⟨d, policy⟩ = .error e → ∃ fault, e = .unsafeLiteral fault) ∧
      (v.isSafeKind → ∃ t, v.render ⟨d, policy⟩ = .ok t) ∧
      ∀ document, v.payload? = some (.json document) →
        v.render ⟨d, policy⟩ ≠ .error (.unsafeLiteral .nul)) ∧
    (∀ (v : Value) (t : Text),
      v.render ⟨d, .reject⟩ = .ok t → v.render ⟨d, .escape⟩ = .ok t) ∧
    ∀ (template : Text) (values : List Value),
      (∀ bound, Binder.bind ⟨⟨d, .reject⟩⟩ template values = .ok bound →
        Binder.bind ⟨⟨d, .escape⟩⟩ template values = .ok bound) ∧
      ∀ expected found,
        Binder.bind ⟨⟨d, .reject⟩⟩ template values
            = .error (.placeholderMismatch expected found) ↔
          Binder.bind ⟨⟨d, .escape⟩⟩ template values
            = .error (.placeholderMismatch expected found) := by
  refine ⟨fun policy v => ⟨?_, ?_, ?_, ?_⟩, ?_, fun template values => ⟨?_, ?_⟩⟩
  · exact Value.exists_render_error_iff
  · exact fun e he => Value.exists_fault_of_render he
  · exact Value.exists_render_of_isSafeKind
  · exact fun document hdocument => Value.render_ne_nul hdocument
  · exact fun v t ht => Value.render_escape_of_reject ht
  · exact fun bound hbound => bind_escape_of_bind_reject hbound
  · exact fun expected found => bind_eq_mismatch_congr .reject .escape

end RecordSql.Binder
