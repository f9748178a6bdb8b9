import Mathlib.Logic.ExistsUnique
import RecordSql.Proofs.Binder.Filling

/-! # Binding to marks with an index

What a binder for PostgreSQL answers, for every template and all values: `Binder.bind_postgres`. The
template has one cut at its marks with an index, and the answer is said of that cut: the filled
template, the error of the first value without a literal, or a mismatch. -/

namespace RecordSql.Binder

open Template

/-- **Binding to marks with an index.** A template has one cut at its marks. If these ask for the
values from one to the last, each of them and no other, the marks are replaced by the literals of
their values, or the first value without a literal gives its error. Otherwise the answer is a
mismatch, whatever the values are; the greatest index is what was expected, up to sixty-four bits,
and zero without a mark. -/
theorem bind_postgres (policy : QuotePolicy) (template : Text) (values : List Value) :
    let ctx : LiteralContext := ⟨.postgres, policy⟩
    let outcome := Binder.bind ⟨ctx⟩ template values
    (∃! cut : Cut, cut.IsOf .indexed template) ∧
      ∀ cut : Cut, cut.IsOf .indexed template →
        (cut.AsksFor values.length →
          (∀ literal : Nat → Text,
            (∀ i (hi : i < values.length), values[i].render ctx = .ok (literal (i + 1))) →
              outcome = .ok (cut.filled literal)) ∧
          (∀ i (hi : i < values.length) e, values[i].render ctx = .error e →
            (∀ u ∈ values.take i, ∃ t, u.render ctx = .ok t) → outcome = .error e)) ∧
        (¬ cut.AsksFor values.length →
          outcome = .error (.placeholderMismatch
            (min (cut.numbers.max?.getD 0) greatestIndex) values.length)) := by
  intro ctx outcome
  constructor
  · obtain ⟨cut, hcut⟩ := Cut.exists_isOf .indexed template
    exact ⟨cut, hcut, fun other hother => hother.unique hcut⟩
  · intro cut hcut
    refine ⟨fun hasks => ?_, fun hasks => ?_⟩
    · have hbind : outcome = _ := bind_of_asksFor hcut hasks
      constructor
      · -- the literals by number are those of the list that the binder renders
        intro literal hliteral
        rw [hbind, Value.renderAll_of_literal hliteral, Except.map, Except.ok.injEq]
        apply Cut.filled_congr
        intro n hn
        obtain ⟨hone, hlast⟩ := (hasks n).1 hn
        rw [List.getD_eq_getElem _ _ (by simp; omega), List.getElem_map, List.getElem_range,
          Nat.sub_add_cancel hone]
      · intro i hi e he hbefore
        rw [hbind, Value.renderAll_of_first_error hi he hbefore]
        rfl
    · exact bind_of_not_asksFor hcut hasks

example :
    Binder.bind ⟨⟨.postgres, .reject⟩⟩ "a=$02 or $$1=$2$".toList [.text "$2".toList, .int 10]
      = .ok "a=10 or $'$2'=10$".toList := by
  decide

end RecordSql.Binder
