import RecordSql.Proofs.Binder.Filling
import RecordSql.Proofs.Literal.Buffer

/-! # Binding to question marks

What a binder for marks without an index answers, for every template and all values:
`Binder.bind_unindexed`. The template is split at its question marks; the answer is the pieces with
the literals between them, the error of the first value without a literal, or a mismatch. -/

namespace RecordSql

namespace Template

namespace Cut

variable {cut : Cut}

/-- The pieces of a cut at question marks are those of `splitOn '?'`. -/
theorem splitOn_source (h : cut.Fits .unindexed) : cut.source.splitOn '?' = cut.pieces := by
  obtain ⟨head, slots⟩ := cut
  obtain ⟨hhead, hslots, -⟩ := h
  rw [source, pieces]
  simp only at hhead hslots ⊢
  -- along the slots, the head being the piece that stands before them
  induction slots generalizing head with
  | nil => rw [List.flatMap_nil, List.append_nil, List.splitOn_eq_singleton hhead, List.map_nil]
  | cons s rest ih =>
    obtain ⟨hs, hrest⟩ := List.forall_mem_cons.1 hslots
    rw [List.flatMap_cons, hs.mark_eq, List.append_assoc, List.singleton_append,
      List.splitOn_append_cons_self, List.splitOn_eq_singleton hhead, ih _ hs.plain hrest,
      List.singleton_append, List.map_cons]

/-- A cut with the numbers from one on is filled by weaving the texts into its pieces: number `n`
takes `texts[n - 1]`. -/
theorem filled_eq_woven (hnumbers : cut.numbers = List.range' 1 cut.slots.length)
    {texts : List Text} (hlength : texts.length = cut.slots.length) :
    cut.filled (fun n => texts.getD (n - 1) []) = woven texts cut.pieces := by
  have htexts : cut.numbers.map (fun n => texts.getD (n - 1) []) = texts := by
    rw [hnumbers, ← hlength]
    apply List.ext_getElem
    · simp
    · intro i _ hi
      simp [hi]
  rw [← woven_numbers, htexts]

end Cut

end Template

namespace Binder

open Template

/-- **The text in the buffer does not matter** to what is filled in behind it: `front` stays in
front. -/
theorem fillUnindexed_append (ctx : LiteralContext) (rest : Text) (values : List Value)
    (front out : Text) :
    fillUnindexed ctx rest values (front ++ out)
      = (fillUnindexed ctx rest values out).map (front ++ ·) := by
  induction rest generalizing values out with
  | nil => rfl
  | cons c rest ih =>
    by_cases hc : c = '?'
    · subst hc
      cases values with
      -- no value is left for the mark, which is dropped
      | nil => exact ih [] out
      | cons v values =>
        rw [fillUnindexed_mark, fillUnindexed_mark]
        cases v.render ctx with
        | error e => rfl
        | ok t =>
          simp only
          -- `front ++ out ++ t`, and the induction hypothesis with `out ++ t`
          rw [List.append_assoc, ih]
    · rw [fillUnindexed_cons_of_ne ctx hc, fillUnindexed_cons_of_ne ctx hc, List.append_assoc, ih]

/-- **Binding to question marks.** A mismatch is reported just when the question marks of the template
are not as many as the values, whatever these are, and with those two numbers. Otherwise the template
is split at its question marks, and the answer is the pieces with the literals of the values between
them, in order, or the error of the first value without a literal. What is in the buffer already
changes neither a literal nor what the rest of a template is filled with. -/
theorem bind_unindexed (d : Dialect) (hd : d ≠ .postgres) (policy : QuotePolicy) (template : Text)
    (values : List Value) :
    let ctx : LiteralContext := ⟨d, policy⟩
    let outcome := Binder.bind ⟨ctx⟩ template values
    let marks := template.count '?'
    (∀ expected found, outcome = .error (.placeholderMismatch expected found) ↔
      marks ≠ values.length ∧ expected = marks ∧ found = values.length) ∧
    (marks = values.length →
      (∀ texts : List Text, values.map (Value.render ctx) = texts.map .ok →
        outcome = .ok (woven texts (template.splitOn '?'))) ∧
      (∀ before v after e, values = before ++ v :: after →
        (∀ u ∈ before, ∃ t, u.render ctx = .ok t) → v.render ctx = .error e →
          outcome = .error e)) ∧
    (∀ (out : Text) (v : Value),
      v.appendTo ctx out = (out ++ (v.appendTo ctx []).1, (v.appendTo ctx []).2)) ∧
    ∀ (out rest : Text) (others : List Value),
      fillUnindexed ctx rest others out = (fillUnindexed ctx rest others []).map (out ++ ·) := by
  intro ctx outcome marks
  have hstyle : d.placeholderStyle = .unindexed := by
    cases d with
    | postgres => exact absurd rfl hd
    | mySql | sqlite | unknown => rfl
  obtain ⟨cut, hfits, hsource⟩ := Cut.exists_isOf .unindexed template
  -- the cut at the question marks, with numbers `1, …, marks` by `hnumbers`
  have hcut : cut.IsOf (Binder.dialect ⟨ctx⟩).placeholderStyle template := by
    change cut.IsOf d.placeholderStyle template
    rw [hstyle]
    exact ⟨hfits, hsource⟩
  have hmarks : marks = cut.slots.length := by
    rw [← markCount_source hfits, hsource]
    rfl
  have hnumbers := hfits.2.2
  have hasks : cut.AsksFor values.length ↔ marks = values.length := by
    rw [Cut.asksFor_iff_of_numbers hnumbers, hmarks]
  refine ⟨fun expected found => ?_, fun hcount => ?_, fun out v => Value.appendTo_eq ctx out v,
    fun out rest others => ?_⟩
  · have hexpected : cut.expected (Binder.dialect ⟨ctx⟩).placeholderStyle = marks := by
      change cut.expected d.placeholderStyle = marks
      rw [hstyle, hmarks, Cut.expected]
    rw [bind_eq_mismatch_iff hcut, hasks, hexpected]
  · -- the counts agree, so `bind` renders the values and fills them in
    have hbind : outcome = _ := bind_of_asksFor hcut (hasks.2 hcount)
    constructor
    · intro texts htexts
      have hrender := Value.renderAll_eq_ok_iff.2 htexts
      have hlength : texts.length = cut.slots.length := by
        rw [Value.length_of_renderAll hrender, ← hcount, hmarks]
      -- a cut with numbers `1, …, marks` is filled in the order of the texts
      rw [hbind, hrender, Except.map, Cut.filled_eq_woven hnumbers hlength, ← hsource,
        Cut.splitOn_source hfits]
    · rintro before v after e rfl hbefore hv
      rw [hbind, Value.renderAll_append_of_error hbefore hv]
      rfl
  · have hfill := fillUnindexed_append ctx rest others out []
    rwa [List.append_nil] at hfill

/-- Marks side by side and at the end, a question mark inside a value, and a value that is refused
when the marks are as many as the values. -/
theorem bind_unindexed_adjacent :
    let outcome := Binder.bind ⟨⟨.mySql, .reject⟩⟩ "a in (??) or b=?".toList
    let values : List Value := [.text "?".toList, .present .absent, .int 7]
    outcome values = .ok "a in ('?'NULL) or b=7".toList ∧
      outcome [.text "it's".toList] = .error (.placeholderMismatch 3 1) ∧
      ∃ e, outcome [.int 7, .text "it's".toList, .text "\x00".toList] = .error e ∧
        (Value.text "it's".toList).render ⟨.mySql, .reject⟩ = .error e := by
  intro outcome values
  obtain ⟨-, hfilled, -⟩ :=
    bind_unindexed .mySql (by decide) .reject "a in (??) or b=?".toList values
  obtain ⟨hmismatch, -⟩ :=
    bind_unindexed .mySql (by decide) .reject "a in (??) or b=?".toList [.text "it's".toList]
  obtain ⟨-, hrefused, -⟩ := bind_unindexed .mySql (by decide) .reject "a in (??) or b=?".toList
    [.int 7, .text "it's".toList, .text "\x00".toList]
  refine ⟨?_, ?_, ?_⟩
  · exact (hfilled (by decide)).1 ["'?'".toList, "NULL".toList, "7".toList] rfl
  · exact (hmismatch 3 1).2 (by decide)
  · have hbefore : ∀ u ∈ [Value.int 7], ∃ t, u.render ⟨.mySql, .reject⟩ = .ok t := by
      intro u hu
      rw [List.mem_singleton.1 hu]
      exact ⟨_, rfl⟩
    exact ⟨_, (hrefused (by decide)).2 [.int 7] _ _ _ rfl hbefore rfl, rfl⟩

end Binder

end RecordSql
