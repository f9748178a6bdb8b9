import Mathlib.Data.List.Basic
import Mathlib.Data.List.GetD
import RecordSql.Binder
import RecordSql.Proofs.Literal.Refusal
import RecordSql.Proofs.Template.Markers

/-! # Binding fills a cut

In either style a binder fills the cut of its template with the literals of the values, if the marks
ask for these values and no others (`Cut.AsksFor`), and otherwise reports how many it expected and
found. The two main statements, `bind_of_asksFor` and `bind_of_not_asksFor`, speak of cuts alone. -/

namespace RecordSql

namespace Template.Cut

/-- Fillings agree when `text` and `text'` agree on the numbers of the marks. -/
theorem filled_congr {cut : Cut} {text text' : Nat → Text}
    (h : ∀ n ∈ cut.numbers, text n = text' n) : cut.filled text = cut.filled text' := by
  have hslots : ∀ s ∈ cut.slots, text s.number ++ s.after = text' s.number ++ s.after := by
    intro s hs
    rw [h _ (List.mem_map_of_mem hs)]
  rw [filled, filled, List.flatMap_congr hslots]

/-- Marks with the numbers `1, …, marks` ask for as many values as there are marks. -/
theorem asksFor_iff_of_numbers {cut : Cut} {marks : Nat} (h : cut.numbers = List.range' 1 marks)
    {count : Nat} : cut.AsksFor count ↔ marks = count := by
  rw [AsksFor, h]
  simp only [List.mem_range'_1]
  constructor
  · -- with too few marks the last value is not asked for, with too many a missing one is
    intro hasks
    by_contra hne
    rcases Nat.lt_or_gt_of_ne hne with hlt | hgt
    · have := (hasks count).2 (by omega)
      omega
    · have := (hasks marks).1 (by omega)
      omega
  · rintro rfl n
    omega

/-- Marks that ask for all values ask for none beyond the last, so that `count` is the greatest
number. -/
theorem max?_of_asksFor {cut : Cut} {count : Nat} (h : cut.AsksFor count) :
    cut.numbers.max?.getD 0 = count := by
  cases hmax : cut.numbers.max? with
  | none =>
    -- no mark at all, so there is no value either
    have hnil := List.max?_eq_none_iff.1 hmax
    have hcount := h count
    rw [hnil] at hcount
    simp only [List.not_mem_nil, false_iff] at hcount
    rw [Option.getD_none]
    omega
  | some n =>
    obtain ⟨hmem, hle⟩ := List.max?_eq_some_iff.1 hmax
    have hn := (h n).1 hmem
    have hcount := hle count ((h count).2 (by omega))
    rw [Option.getD_some]
    omega

/-- Marks with the numbers `1, …, marks` expect as many values as there are marks, in either
style. -/
theorem expected_of_numbers {cut : Cut} {marks : Nat} (h : cut.numbers = List.range' 1 marks)
    (hmarks : marks ≤ greatestIndex) (style : PlaceholderStyle) : cut.expected style = marks := by
  cases style with
  | unindexed =>
    have hlength := congrArg List.length h
    rwa [numbers, List.length_map, List.length_range'] at hlength
  | indexed =>
    rw [expected, max?_of_asksFor ((asksFor_iff_of_numbers h).2 rfl), Nat.min_eq_left hmarks]

end Template.Cut

namespace Binder

open Template

/-! ### Marks without an index: `fillUnindexed` -/

/-- The question marks of a template are those of its slots, one each. -/
theorem markCount_source {cut : Cut} (h : cut.Fits .unindexed) :
    markCount cut.source = cut.slots.length := by
  have hslots : ∀ slots : List Slot, (∀ s ∈ slots, s.IsUnindexed) →
      (slots.flatMap fun s => s.mark ++ s.after).count '?' = slots.length := by
    intro slots hslots
    induction slots with
    | nil => rfl
    | cons s rest ih =>
      obtain ⟨hs, hrest⟩ := List.forall_mem_cons.1 hslots
      rw [List.flatMap_cons, List.count_append, List.count_append, hs.mark_eq, ih hrest,
        List.count_eq_zero_of_not_mem hs.plain, List.count_singleton_self, List.length_cons]
      omega
  rw [markCount, Cut.source, List.count_append, List.count_eq_zero_of_not_mem h.1, hslots _ h.2.1,
    Nat.zero_add]

/-- A character other than a question mark is copied. -/
theorem fillUnindexed_cons_of_ne (ctx : LiteralContext) {c : Char} (h : c ≠ '?') (rest : Text)
    (values : List Value) (out : Text) :
    fillUnindexed ctx (c :: rest) values out = fillUnindexed ctx rest values (out ++ [c]) := by
  rw [fillUnindexed.eq_def]
  exact if_neg h

/-- Text without a question mark is copied to `out`. -/
theorem fillUnindexed_plain (ctx : LiteralContext) {piece : Text} (h : '?' ∉ piece) (rest : Text)
    (values : List Value) (out : Text) :
    fillUnindexed ctx (piece ++ rest) values out = fillUnindexed ctx rest values (out ++ piece) := by
  induction piece generalizing out with
  | nil => rw [List.nil_append, List.append_nil]
  | cons c piece ih =>
    rw [List.mem_cons, not_or] at h
    rw [List.cons_append, fillUnindexed_cons_of_ne ctx (Ne.symm h.1), ih h.2, List.append_assoc,
      List.singleton_append]

/-- A question mark is replaced by the literal of the next value, or its error ends the binding. -/
theorem fillUnindexed_mark (ctx : LiteralContext) (rest : Text) (v : Value) (values : List Value)
    (out : Text) :
    fillUnindexed ctx ('?' :: rest) (v :: values) out =
      match v.render ctx with
      | .ok t => fillUnindexed ctx rest values (out ++ t)
      | .error e => .error e := by
  rw [fillUnindexed, if_pos rfl, Value.appendTo_eq_emit, Value.render_eq_result, Emission.result]
  cases (v.emit ctx).fault <;> rfl

/-- Slots are filled with the literals of the values that are left. `done` are the literals of the
values before them, whose count the numbers of the slots go on from. -/
theorem fillUnindexed_slots (ctx : LiteralContext) {slots : List Slot}
    (hslots : ∀ s ∈ slots, s.IsUnindexed) (done : List Text)
    (hnumbers : slots.map Slot.number = List.range' (done.length + 1) slots.length)
    {values : List Value} (hlength : slots.length = values.length) (out : Text) :
    fillUnindexed ctx (slots.flatMap fun s => s.mark ++ s.after) values out
      = (Value.renderAll ctx values).map fun texts =>
        out ++ slots.flatMap fun s => (done ++ texts).getD (s.number - 1) [] ++ s.after := by
  induction slots generalizing done values out with
  | nil =>
    cases values with
    | nil => simp [fillUnindexed, Except.map]
    | cons v values => simp at hlength
  | cons s rest ih =>
    cases values with
    | nil => simp at hlength
    | cons v values =>
      obtain ⟨hs, hrest⟩ := List.forall_mem_cons.1 hslots
      rw [List.map_cons, List.length_cons, List.range'_succ, List.cons.injEq] at hnumbers
      obtain ⟨hnumber, hnumbers⟩ := hnumbers
      rw [List.length_cons, List.length_cons, Nat.add_right_cancel_iff] at hlength
      rw [List.flatMap_cons, hs.mark_eq, List.append_assoc, List.singleton_append,
        fillUnindexed_mark, Value.renderAll_cons]
      cases v.render ctx with
      | error e => rfl
      | ok t =>
        have hnext : rest.map Slot.number
            = List.range' ((done ++ [t]).length + 1) rest.length := by
          rw [hnumbers, List.length_append, List.length_singleton]
        -- the literal counts as written, so the marks behind it find theirs at the same numbers
        change fillUnindexed ctx _ values (out ++ t) = _
        rw [fillUnindexed_plain ctx hs.plain, ih hrest _ hnext hlength]
        cases Value.renderAll ctx values with
        | error e => rfl
        | ok texts =>
          have hown : (done ++ t :: texts).getD (s.number - 1) [] = t := by
            rw [hnumber, Nat.add_sub_cancel, List.getD_append_right _ _ _ _ (Nat.le_refl _),
              Nat.sub_self]
            rfl
          simp only [Except.map, List.flatMap_cons, hown, List.append_assoc, List.singleton_append]

/-- The template's cut is filled with the literals of the values, as many as there are marks. -/
theorem fillUnindexed_source (ctx : LiteralContext) {cut : Cut} (h : cut.Fits .unindexed)
    {values : List Value} (hlength : cut.slots.length = values.length) :
    fillUnindexed ctx cut.source values []
      = (Value.renderAll ctx values).map fun texts => cut.filled fun n => texts.getD (n - 1) [] := by
  obtain ⟨hhead, hslots, hnumbers⟩ := h
  rw [Cut.source, fillUnindexed_plain ctx hhead,
    fillUnindexed_slots ctx hslots [] hnumbers hlength]
  rfl

/-! ### Marks with an index: `bindIndexed` -/

/-- The greatest of some numbers and zero, as a fold and as `List.max?`. -/
theorem foldl_max_eq (ns : List Nat) : ns.foldl max 0 = ns.max?.getD 0 := by
  cases ns with
  | nil => rfl
  | cons n rest => rw [List.foldl_cons, Nat.zero_max, List.max?_cons', Option.getD_some]

/-- A bound on each number bounds the greatest: `min · bound` comes out of the fold. -/
theorem foldl_max_map_min (ns : List Nat) (start bound : Nat) :
    (ns.map (min · bound)).foldl max (min start bound) = min (ns.foldl max start) bound := by
  induction ns generalizing start with
  | nil => rfl
  | cons n rest ih =>
    have hstart : max (min start bound) (min n bound) = min (max start n) bound := by omega
    rw [List.map_cons, List.foldl_cons, List.foldl_cons, hstart, ih]

/-- The greatest number that the markers of a cut ask for is that of `cut.numbers`. -/
theorem highestNumber_markers (cut : Cut) :
    highestNumber cut.markers = cut.numbers.max?.getD 0 := by
  rw [highestNumber, Cut.map_number_markers, foldl_max_eq]

/-- The greatest index is the greatest number up to `greatestIndex`. -/
theorem highestIndex_eq_min (ms : List Marker) :
    highestIndex ms = min (highestNumber ms) greatestIndex := by
  have hbound := foldl_max_map_min (ms.map Marker.number) 0 greatestIndex
  rw [Nat.zero_min, List.map_map] at hbound
  exact hbound

/-- The greatest index of the markers of a cut is what the cut is said to expect. -/
theorem highestIndex_markers (cut : Cut) :
    highestIndex cut.markers = cut.expected .indexed := by
  rw [highestIndex_eq_min, highestNumber_markers, Cut.expected]

/-- A binder for indexed marks fills the cut if the marks ask for the values. -/
theorem bindIndexed_of_asksFor (b : Binder) {cut : Cut} (h : cut.Fits .indexed)
    {values : List Value} (hasks : cut.AsksFor values.length) :
    b.bindIndexed cut.source values
      = (Value.renderAll b.context values).map fun texts =>
        cut.filled fun n => texts.getD (n - 1) [] := by
  obtain ⟨used, hflagged, hall⟩ := exists_flagged_all_iff.2 hasks
  -- the check after the loop passes too: the last value is the greatest number
  have hhighest : highestNumber cut.markers = values.length := by
    rw [highestNumber_markers, Cut.max?_of_asksFor hasks]
  have hfill : fillMarkers cut.source (markers cut.source)
      = fun texts => cut.filled fun n => texts.getD (n - 1) [] :=
    funext (fillMarkers_source h)
  rw [← markers_source h] at hflagged hhighest
  rw [bindIndexed, bindMarkers]
  simp only [hflagged, hhighest, hall, and_self, if_true, hfill]

/-- Otherwise it reports the greatest index, `cut.expected .indexed`, and the count of the
values. -/
theorem bindIndexed_of_not_asksFor (b : Binder) {cut : Cut} (h : cut.Fits .indexed)
    {values : List Value} (hasks : ¬ cut.AsksFor values.length) :
    b.bindIndexed cut.source values
      = .error (.placeholderMismatch (cut.expected .indexed) values.length) := by
  rw [bindIndexed, bindMarkers]
  simp only [markers_source h, highestIndex_markers]
  cases hflagged : flagged cut.markers (List.replicate values.length false) with
  | none => rfl
  | some used =>
    -- no number was out of range, so a value is left without a mark
    have hall : ¬ used.all id := fun hall => hasks (exists_flagged_all_iff.1 ⟨used, hflagged, hall⟩)
    exact if_neg fun hboth => hall hboth.2

/-! ### Either style: `bind` -/

variable {b : Binder} {template : Text} {cut : Cut} {values : List Value}

/-- **Binding fills the cut** with the literals of the values if the marks ask for these values:
`cut.filled`, with the literal of `values[n - 1]` for the mark of number `n`. -/
theorem bind_of_asksFor (h : cut.IsOf b.dialect.placeholderStyle template)
    (hasks : cut.AsksFor values.length) :
    b.bind template values = (Value.renderAll b.context values).map fun texts =>
      cut.filled fun n => texts.getD (n - 1) [] := by
  obtain ⟨hfits, rfl⟩ := h
  cases hstyle : b.dialect.placeholderStyle with
  | unindexed =>
    rw [hstyle] at hfits
    have hlength := (Cut.asksFor_iff_of_numbers hfits.2.2).1 hasks
    simp only [bind, hstyle, bindUnindexed, markCount_source hfits, hlength, if_true]
    exact fillUnindexed_source b.context hfits hlength
  | indexed =>
    rw [hstyle] at hfits
    simp only [bind, hstyle]
    exact b.bindIndexed_of_asksFor hfits hasks

/-- **Binding reports a mismatch** if the marks do not ask for the values, whatever these are:
`cut.expected` and the count of the values. -/
theorem bind_of_not_asksFor (h : cut.IsOf b.dialect.placeholderStyle template)
    (hasks : ¬ cut.AsksFor values.length) :
    b.bind template values = .error
      (.placeholderMismatch (cut.expected b.dialect.placeholderStyle) values.length) := by
  obtain ⟨hfits, rfl⟩ := h
  cases hstyle : b.dialect.placeholderStyle with
  | unindexed =>
    rw [hstyle] at hfits
    have hlength := fun heq => hasks ((Cut.asksFor_iff_of_numbers hfits.2.2).2 heq)
    simp only [bind, hstyle, bindUnindexed, markCount_source hfits, if_neg hlength, Cut.expected]
  | indexed =>
    rw [hstyle] at hfits
    simp only [bind, hstyle]
    exact b.bindIndexed_of_not_asksFor hfits hasks

/-- **A mismatch is reported just when the marks do not ask for the values**: the refusal of a value
is another error. -/
theorem bind_eq_mismatch_iff (h : cut.IsOf b.dialect.placeholderStyle template)
    {expected found : Nat} :
    b.bind template values = .error (.placeholderMismatch expected found) ↔
      ¬ cut.AsksFor values.length ∧
        expected = cut.expected b.dialect.placeholderStyle ∧ found = values.length := by
  by_cases hasks : cut.AsksFor values.length
  · -- all values are asked for: the error, if any, is that of a literal
    refine iff_of_false ?_ fun hboth => hboth.1 hasks
    rw [bind_of_asksFor h hasks]
    cases hrender : Value.renderAll b.context values with
    | error e =>
      obtain ⟨fault, rfl⟩ := Value.exists_fault_of_renderAll hrender
      intro herror
      cases herror
    | ok texts =>
      intro herror
      cases herror
  · -- `bind` is the mismatch itself
    rw [bind_of_not_asksFor h hasks]
    simp only [Except.error.injEq, SqlError.placeholderMismatch.injEq]
    constructor
    · rintro ⟨rfl, rfl⟩
      exact ⟨hasks, rfl, rfl⟩
    · rintro ⟨-, rfl, rfl⟩
      exact ⟨rfl, rfl⟩

/-- **A bound text is a filled cut**: the marks ask for the values, each value has a literal, and
the literals stand in the places of the marks. -/
theorem exists_of_bind_eq_ok (h : cut.IsOf b.dialect.placeholderStyle template) {bound : Text}
    (hbound : b.bind template values = .ok bound) :
    cut.AsksFor values.length ∧ ∃ texts, Value.renderAll b.context values = .ok texts ∧
      bound = cut.filled fun n => texts.getD (n - 1) [] := by
  by_cases hasks : cut.AsksFor values.length
  · refine ⟨hasks, ?_⟩
    rw [bind_of_asksFor h hasks] at hbound
    cases hrender : Value.renderAll b.context values with
    | error e => rw [hrender] at hbound; cases hbound
    | ok texts =>
      rw [hrender, Except.map, Except.ok.injEq] at hbound
      exact ⟨texts, rfl, hbound.symm⟩
  · rw [bind_of_not_asksFor h hasks] at hbound
    cases hbound

/-! ### Two templates -/

/-- **Bindings of two templates correspond** when the cuts ask for the same values, which have the
same literals, and are said to expect as many: the bound texts then differ as the filled cuts do, and
the errors are the same. -/
theorem bind_eq_map {b' : Binder} {template' : Text} {cut' : Cut} {change : Text → Text}
    (h : cut.IsOf b.dialect.placeholderStyle template)
    (h' : cut'.IsOf b'.dialect.placeholderStyle template')
    (hnumbers : cut'.numbers = cut.numbers)
    (hexpected : cut'.expected b'.dialect.placeholderStyle = cut.expected b.dialect.placeholderStyle)
    (hrender : Value.renderAll b'.context values = Value.renderAll b.context values)
    (hfilled : ∀ text, cut'.filled text = change (cut.filled text)) :
    b'.bind template' values = (b.bind template values).map change := by
  by_cases hasks : cut.AsksFor values.length
  · have hasks' : cut'.AsksFor values.length := by
      rwa [Cut.AsksFor, hnumbers]
    rw [bind_of_asksFor h hasks, bind_of_asksFor h' hasks', hrender]
    cases Value.renderAll b.context values with
    | error e => rfl
    | ok texts =>
      simp only [Except.map, hfilled]
  · have hasks' : ¬ cut'.AsksFor values.length := by
      rwa [Cut.AsksFor, hnumbers]
    rw [bind_of_not_asksFor h hasks, bind_of_not_asksFor h' hasks', hexpected]
    rfl

end Binder

end RecordSql
