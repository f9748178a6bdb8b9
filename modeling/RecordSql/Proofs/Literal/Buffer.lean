import RecordSql.Proofs.Literal.Refusal

/-! # Writing behind other text

A literal is written behind the text so far and does not depend on it (`Value.appendTo_eq`). A
refusal leaves that text as it was, with one exception: what is refused for a character that is to
be written twice has its opening mark there already (`Value.appendTo_exact`). -/

namespace RecordSql

namespace LiteralContext

variable {ctx : LiteralContext} {content : Text}

/-- Whether `content` is refused for a character that is to be written twice. The character zero is
looked for first. -/
def LeavesMark (ctx : LiteralContext) (content : Text) : Prop :=
  '\x00' ∉ content ∧ ctx.policy = .reject ∧
    (quoteMark ∈ content ∨ ctx.dialect = .mySql ∧ '\\' ∈ content)

/-- A refused text leaves its opening mark or nothing: `[quoteMark]` just when `LeavesMark`
holds. -/
theorem text_quote_of_fault (h : (ctx.quote content).fault ≠ none) :
    ctx.LeavesMark content ∧ (ctx.quote content).text = [quoteMark] ∨
      ¬ ctx.LeavesMark content ∧ (ctx.quote content).text = [] := by
  by_cases hnul : '\x00' ∈ content
  · refine Or.inr ⟨fun hleft => hleft.1 hnul, ?_⟩
    rw [quote_of_nul hnul]
    rfl
  · by_cases hrefused : ctx.RefusesText content
    · obtain ⟨hreject, hspecial⟩ := hrefused.resolve_left hnul
      refine Or.inl ⟨⟨hnul, hreject, hspecial⟩, ?_⟩
      rw [quote_of_special hnul hreject hspecial]
      rfl
    · rw [quote_of_not_refusesText hrefused] at h
      exact absurd rfl h

/-- A refused float leaves nothing. -/
theorem text_number_of_fault {x : BinaryFloat} (h : (number x).fault ≠ none) :
    (number x).text = [] := by
  rw [number] at h ⊢
  split at h
  · exact absurd rfl h
  · rfl
  · rfl

end LiteralContext

namespace Value

variable {ctx : LiteralContext} {v : Value}

/-- **Whether a value leaves an opening mark**: it is refused for a character of its text that is to
be written twice. -/
def LeavesMark (ctx : LiteralContext) (v : Value) : Prop :=
  ∃ content, v.quotedText? ctx.dialect = some content ∧ ctx.LeavesMark content

theorem leavesMark_iff_of_quotedText? {content : Text}
    (h : v.quotedText? ctx.dialect = some content) :
    v.LeavesMark ctx ↔ ctx.LeavesMark content := by
  rw [LeavesMark, h]
  constructor
  · rintro ⟨other, hother, hleft⟩
    rwa [Option.some.inj hother]
  · exact fun hleft => ⟨content, rfl, hleft⟩

/-- What is written of a refused value is its opening mark or nothing, as `LeavesMark` says. -/
theorem text_emit_of_fault (h : (v.emit ctx).fault ≠ none) :
    v.LeavesMark ctx ∧ (v.emit ctx).text = [quoteMark] ∨
      ¬ v.LeavesMark ctx ∧ (v.emit ctx).text = [] := by
  induction v with
  | int | bool | bytes | decimal | absent => exact absurd rfl h
  | float x =>
    refine Or.inr ⟨?_, LiteralContext.text_number_of_fault h⟩
    rintro ⟨content, hcontent, -⟩
    cases hcontent
  | char | text | date | time | dateTime | timestamp | uuid | json =>
    rw [leavesMark_iff_of_quotedText? rfl]
    exact LiteralContext.text_quote_of_fault h
  | present v ih => exact ih h

/-! ### Behind any text: `appendTo` -/

/-- **The text so far does not matter**: `out` stays in front, and the outcome is that of
`v.appendTo ctx []`. -/
theorem appendTo_eq (ctx : LiteralContext) (out : Text) (v : Value) :
    v.appendTo ctx out = (out ++ (v.appendTo ctx []).1, (v.appendTo ctx []).2) := by
  rw [appendTo_eq_emit, appendTo_eq_emit, List.nil_append]

/-- A value with the literal `t` has it behind the text: `out ++ t`. -/
theorem appendTo_of_render_ok {t : Text} (h : v.render ctx = .ok t) (out : Text) :
    v.appendTo ctx out = (out ++ t, .ok ()) := by
  rw [render_eq_result, Emission.result] at h
  rw [appendTo_eq_emit, Emission.result]
  cases hfault : (v.emit ctx).fault with
  | some fault =>
    rw [hfault] at h
    cases h
  | none =>
    rw [hfault] at h
    rw [← Except.ok.inj h]
    rfl

/-- **What writing leaves behind a text.** A value with a literal has it there, `out ++ t`. A
refused one has its opening mark there, `out ++ [quoteMark]`, when it is refused for a character
that is to be written twice, and leaves `out` as it was when it is refused for another reason. -/
theorem appendTo_exact (ctx : LiteralContext) (out : Text) (v : Value) :
    (∀ t, v.render ctx = .ok t → v.appendTo ctx out = (out ++ t, .ok ())) ∧
      ∀ e, v.render ctx = .error e →
        v.LeavesMark ctx ∧ v.appendTo ctx out = (out ++ [quoteMark], .error e) ∨
          ¬ v.LeavesMark ctx ∧ v.appendTo ctx out = (out, .error e) := by
  refine ⟨fun t ht => appendTo_of_render_ok ht out, fun e he => ?_⟩
  rw [render_eq_result] at he
  obtain ⟨fault, hfault, rfl⟩ := Emission.exists_fault_of_result he
  have hrefused : (v.emit ctx).fault ≠ none := by
    rw [hfault]
    exact Option.some_ne_none fault
  have hwritten : v.appendTo ctx out = (out ++ (v.emit ctx).text, .error (.unsafeLiteral fault)) := by
    rw [appendTo_eq_emit, Emission.result, hfault]
    rfl
  rcases text_emit_of_fault hrefused with ⟨hleft, htext⟩ | ⟨hleft, htext⟩
  · exact Or.inl ⟨hleft, by rw [hwritten, htext]⟩
  · exact Or.inr ⟨hleft, by rw [hwritten, htext, List.append_nil]⟩

/-- A text with a quotation mark is refused and leaves its opening mark, which then stands before the
next value that is written. -/
theorem appendAll_behind_mark :
    let ctx : LiteralContext := ⟨.sqlite, .reject⟩
    let refused : Value := .text "it's".toList
    (∃ e, refused.render ctx = .error e) ∧
      (refused.appendTo ctx "x=".toList).1 ≠ "x=".toList ∧
      (appendAll ctx "x=".toList [refused, .int 2]).map Prod.snd
        = ["x='".toList, "x='2".toList] := by
  refine ⟨⟨_, rfl⟩, by decide, by decide⟩

end Value

end RecordSql
