import Mathlib.Data.List.Basic
import Mathlib.Tactic.Choose
import RecordSql.Proofs.Binder.Filling
import RecordSql.Proofs.Template.Listed
import RecordSql.Statement.Insert

/-! # Inserting rows

The columns of an insert and the values of a row are chosen by two passes over the fields. Both keep
the same positions (`StatementWriter.retainedPositions`), so the mark of each column gets the
literal of the value in its own place, for rows of any length: `StatementWriter.boundInsert_row`. -/

namespace RecordSql

/-! ### Positions: `positionsOf` -/

/-- The positions of the items with the property `p`, in order. -/
def positionsOf {α : Type} (p : α → Bool) (items : List α) : List Nat :=
  (List.range items.length).filter fun i => items[i]?.any p

section Positions

variable {α β : Type} {p : α → Bool}

/-- Positions grow. -/
theorem pairwise_positionsOf (items : List α) : (positionsOf p items).Pairwise (· < ·) :=
  List.pairwise_lt_range.filter _

/-- The positions in a longer list: `0` if `x` has the property, then those behind it, each one
greater. -/
theorem positionsOf_cons (x : α) (items : List α) :
    positionsOf p (x :: items)
      = (if p x then [0] else []) ++ (positionsOf p items).map Nat.succ := by
  rw [positionsOf, positionsOf, List.length_cons, List.range_succ_eq_map, List.filter_cons,
    List.filter_map]
  cases hx : p x <;> simp [hx, Function.comp_def]

/-- Filtered items are those at the `positionsOf` the property. -/
theorem filter_eq_filterMap (items : List α) :
    items.filter p = (positionsOf p items).filterMap (items[·]?) := by
  induction items with
  | nil => rfl
  | cons x rest ih =>
    rw [positionsOf_cons, List.filterMap_append, List.filterMap_map, List.filter_cons, ih]
    cases p x <;> simp

/-- Companions of filtered items are those at the positions, as far as they reach: zipping and
filtering is looking up. -/
theorem filter_zip_eq_filterMap (items : List α) (companions : List β) :
    ((items.zip companions).filter fun pair => p pair.1).map Prod.snd
      = (positionsOf p items).filterMap (companions[·]?) := by
  induction items generalizing companions with
  | nil => rfl
  | cons x rest ih =>
    rw [positionsOf_cons, List.filterMap_append, List.filterMap_map]
    cases companions with
    | nil => cases p x <;> simp
    | cons y companions =>
      rw [List.zip_cons_cons, List.filter_cons]
      have hrest := ih companions
      cases p x <;> simp [hrest]

/-- A filtered list has as many items as there are positions. -/
theorem length_filter_eq (items : List α) :
    (items.filter p).length = (positionsOf p items).length := by
  induction items with
  | nil => rfl
  | cons x rest ih =>
    rw [positionsOf_cons, List.filter_cons]
    cases p x <;> simp [ih]

end Positions

namespace StatementWriter

open Template

/-! ### The text of an insert: `insertText` -/

/-- The positions of the fields that an insert writes: those whose name is not the auto key of
`e.name`. -/
def retainedPositions (w : StatementWriter) (e : Entity) : List Nat :=
  positionsOf (fun f : Field => w.registry.autoKey? e.name != some f.name) e.fields

/-- The columns of an insert, each by `Dialect.quoteName`. -/
def insertColumns (w : StatementWriter) (e : Entity) : List Text :=
  (w.retainedPositions e).filterMap fun i => e.fields[i]?.map fun f => w.dialect.quoteName f.name

/-- The text of an insert with `marks` in the places of its marks. Without columns there are no such
places. -/
def insertText (w : StatementWriter) (verb : Text) (e : Entity) (marks : List Text) : Text :=
  verb ++ w.dialect.quoteName e.name ++
    if w.retainedPositions e = [] then generatedOnly w.dialect
    else
      " (".toList ++ Text.commaJoined (w.insertColumns e) ++ ") values(".toList
        ++ Text.commaJoined marks ++ ")".toList

variable {w : StatementWriter} {e : Entity} {row : List Value}

/-- A position is written if it has a field that is not the auto key. -/
theorem mem_retainedPositions {i : Nat} :
    i ∈ w.retainedPositions e ↔
      ∃ f, e.fields[i]? = some f ∧ w.registry.autoKey? e.name ≠ some f.name := by
  rw [retainedPositions, positionsOf, List.mem_filter, List.mem_range, Option.any_eq_true]
  simp only [bne_iff_ne]
  constructor
  · exact fun h => h.2
  · rintro ⟨f, hf, hkey⟩
    exact ⟨(List.getElem?_eq_some_iff.1 hf).1, f, hf, hkey⟩

/-- The fields of an insert are those at its `retainedPositions`. -/
theorem retainedFields_eq (w : StatementWriter) (e : Entity) :
    w.retainedFields e = (w.retainedPositions e).filterMap (e.fields[·]?) :=
  filter_eq_filterMap e.fields

/-- The columns of an insert are those of its fields. -/
theorem insertColumns_eq (w : StatementWriter) (e : Entity) :
    w.insertColumns e = (w.retainedFields e).map fun f => w.dialect.quoteName f.name := by
  rw [retainedFields_eq, List.map_filterMap, insertColumns]

/-- The values of an insert are those at its `retainedPositions`, as far as the row reaches. -/
theorem insertValues_eq (w : StatementWriter) (e : Entity) (row : List Value) :
    w.insertValues e row = (w.retainedPositions e).filterMap (row[·]?) :=
  filter_zip_eq_filterMap e.fields row

/-- An insert has a field for each of its positions. -/
theorem length_retainedFields (w : StatementWriter) (e : Entity) :
    (w.retainedFields e).length = (w.retainedPositions e).length :=
  length_filter_eq e.fields

/-- A quoted name is not empty. -/
theorem quoteName_ne_nil (d : Dialect) {name : Text} (h : name ≠ []) : d.quoteName name ≠ [] := by
  rw [Dialect.quoteName]
  split
  · exact List.cons_ne_nil _ _
  · exact h

/-- A list of texts is empty only if it lists nothing, or nothing but an empty text. -/
theorem commaJoined_ne_nil {texts : List Text} (hne : texts ≠ []) (h : ∀ t ∈ texts, t ≠ []) :
    Text.commaJoined texts ≠ [] := by
  rw [Text.commaJoined]
  cases texts with
  | nil => exact absurd rfl hne
  | cons t rest =>
    have ht := h t List.mem_cons_self
    cases rest with
    | nil => exact ht
    | cons u rest =>
      rw [Text.joined_cons_cons, List.append_assoc]
      exact List.append_ne_nil_of_left_ne_nil ht _

/-- **The template of an insert** is `insertText` with the marks of its dialect, one for each
column. -/
theorem insertTemplate_eq (hnames : ∀ f ∈ e.fields, f.name ≠ []) (verb : Text) :
    w.insertTemplate verb e
      = w.insertText verb e (w.dialect.placeholders (w.retainedPositions e).length) := by
  -- the writer asks whether the list of columns is empty; with named fields that is whether no
  -- field is left
  have hcolumns : Text.commaJoined (w.insertColumns e) = [] ↔ w.retainedPositions e = [] := by
    rw [← List.length_eq_zero_iff (l := w.retainedPositions e), ← length_retainedFields,
      List.length_eq_zero_iff, insertColumns_eq]
    constructor
    · intro hnil
      by_contra hfields
      refine commaJoined_ne_nil ?_ ?_ hnil
      · rwa [Ne, List.map_eq_nil_iff]
      · intro t ht
        obtain ⟨f, hf, rfl⟩ := List.mem_map.1 ht
        exact quoteName_ne_nil _ (hnames f (List.mem_filter.1 hf).1)
    · intro hnil
      rw [hnil]
      rfl
  rw [insertTemplate, insertText, ← length_retainedFields]
  simp only [← insertColumns_eq, List.isEmpty_iff, hcolumns]

/-- With a column the template lists the columns and as many marks, between brackets. -/
theorem insertTemplate_of_columns (hnames : ∀ f ∈ e.fields, f.name ≠ [])
    (hsome : w.retainedFields e ≠ []) (verb : Text) :
    w.insertTemplate verb e
      = verb ++ w.dialect.quoteName e.name ++ " (".toList
        ++ Text.commaJoined ((w.retainedFields e).map fun f => w.dialect.quoteName f.name)
        ++ ") values(".toList
        ++ Text.commaJoined (w.dialect.placeholders (w.retainedFields e).length) ++ ")".toList := by
  have hpositions : w.retainedPositions e ≠ [] := by
    rwa [Ne, ← List.length_eq_zero_iff, ← length_retainedFields, List.length_eq_zero_iff]
  rw [insertTemplate_eq hnames, insertText, if_neg hpositions, insertColumns_eq,
    length_retainedFields]
  simp only [List.append_assoc]

/-! ### The cut of an insert: `insertCut` -/

/-- The text of an insert with columns up to its first mark. -/
def insertHead (w : StatementWriter) (e : Entity) : Text :=
  insertVerb ++ w.dialect.quoteName e.name ++ " (".toList
    ++ Text.commaJoined (w.insertColumns e) ++ ") values(".toList

/-- The cut of an insert: a slot for each column, with commas between them, or no slot. -/
def insertCut (w : StatementWriter) (e : Entity) : Cut :=
  if w.retainedPositions e = [] then
    Cut.plain (insertVerb ++ w.dialect.quoteName e.name ++ generatedOnly w.dialect)
  else Cut.listing w.dialect (w.insertHead e) ")".toList (w.retainedPositions e).length

/-- The marks of an insert are numbered in the order of its columns, from one on. -/
theorem numbers_insertCut (w : StatementWriter) (e : Entity) :
    (w.insertCut e).numbers = List.range' 1 (w.retainedPositions e).length := by
  rw [insertCut]
  split
  · next hnone =>
    rw [hnone]
    rfl
  · exact Cut.numbers_listing _ _ _ _

/-- Texts in the places of the marks give the `insertText` with these. -/
theorem filled_insertCut (w : StatementWriter) (e : Entity) (text : Nat → Text) :
    (w.insertCut e).filled text = w.insertText insertVerb e
      ((List.range (w.retainedPositions e).length).map fun i => text (i + 1)) := by
  rw [insertCut, insertText]
  split
  · simp [Cut.plain, Cut.filled]
  · next hsome =>
    rw [Cut.filled_listing _ _ _ (mt List.length_eq_zero_iff.1 hsome), insertHead]
    simp only [List.append_assoc]

/-- The cut is one of the template: its source is `insertTemplate insertVerb e`. -/
theorem source_insertCut (hnames : ∀ f ∈ e.fields, f.name ≠ []) :
    (w.insertCut e).source = w.insertTemplate insertVerb e := by
  have hfilled := w.filled_insertCut e w.dialect.placeholder
  rw [insertTemplate_eq hnames, Dialect.placeholders, ← hfilled, insertCut]
  split
  · simp [Cut.plain, Cut.filled, Cut.source]
  · exact Cut.source_listing _ _ _ _

/-- The cut fits the style of the writer's dialect, if no name has a character of a mark. -/
theorem fits_insertCut (hmarks : ∀ name ∈ e.name :: e.fieldNames, Unmarked name) :
    (w.insertCut e).Fits w.dialect.placeholderStyle := by
  obtain ⟨hname, hfields⟩ := List.forall_mem_cons.1 hmarks
  have hbegin : Unmarked (insertVerb ++ w.dialect.quoteName e.name) :=
    unmarked_append.2 ⟨by decide, unmarked_quoteName _ hname⟩
  -- the columns are quoted names of fields, and none of these holds a mark
  have hcolumns : Unmarked (Text.commaJoined (w.insertColumns e)) := by
    refine unmarked_commaJoined fun t ht => ?_
    rw [insertColumns_eq] at ht
    obtain ⟨f, hf, rfl⟩ := List.mem_map.1 ht
    exact unmarked_quoteName _ (hfields _ (List.mem_map_of_mem (List.mem_filter.1 hf).1))
  rw [insertCut]
  split
  · -- no column: a text without marks
    have hend : Unmarked (generatedOnly w.dialect) := by
      cases w.dialect <;> decide
    exact Cut.fits_plain (unmarked_append.2 ⟨hbegin, hend⟩) _
  · -- the marks stand between `insertHead` and the closing bracket
    refine Cut.fits_listing _ ?_ (by decide) (beginsWithDigit_cons.not.2 (by decide)) _
    rw [insertHead, unmarked_append, unmarked_append, unmarked_append]
    exact ⟨⟨⟨hbegin, by decide⟩, hcolumns⟩, by decide⟩

/-! ### Binding a row: `boundInsert` -/

/-- The values of an insert have the literals `literal i` when those at its positions `i` have. -/
theorem renderAll_insertValues {ctx : LiteralContext} {literal : Nat → Text}
    (h : ∀ i ∈ w.retainedPositions e, ∃ v, row[i]? = some v ∧ v.render ctx = .ok (literal i)) :
    Value.renderAll ctx (w.insertValues e row)
      = .ok ((w.retainedPositions e).map literal) := by
  rw [Value.renderAll_eq_ok_iff, insertValues_eq]
  generalize w.retainedPositions e = positions at h
  induction positions with
  | nil => rfl
  | cons i rest ih =>
    obtain ⟨⟨v, hv, hrender⟩, hrest⟩ := List.forall_mem_cons.1 h
    rw [List.filterMap_cons_some hv, List.map_cons, hrender, ih hrest]
    rfl

/-- The first position in which a value has no literal decides. -/
theorem renderAll_insertValues_of_error {ctx : LiteralContext} {i : Nat} {v : Value} {err : SqlError}
    (hi : i ∈ w.retainedPositions e) (hv : row[i]? = some v) (herr : v.render ctx = .error err)
    (hbefore : ∀ j ∈ w.retainedPositions e, j < i →
      ∃ u t, row[j]? = some u ∧ u.render ctx = .ok t) :
    Value.renderAll ctx (w.insertValues e row) = .error err := by
  -- positions grow, so those before `i` in the list are the lesser ones
  have hsorted : (w.retainedPositions e).Pairwise (· < ·) := pairwise_positionsOf e.fields
  obtain ⟨before, after, hsplit⟩ := List.append_of_mem hi
  rw [insertValues_eq, hsplit, List.filterMap_append, List.filterMap_cons_some hv]
  refine Value.renderAll_append_of_error (fun u hu => ?_) herr
  obtain ⟨j, hj, hju⟩ := List.mem_filterMap.1 hu
  rw [hsplit, List.pairwise_append] at hsorted
  obtain ⟨u', t, hu', ht⟩ := hbefore j (hsplit ▸ List.mem_append_left _ hj)
    (hsorted.2.2 j hj i List.mem_cons_self)
  rw [hju, Option.some.injEq] at hu'
  exact ⟨t, hu' ▸ ht⟩

/-- As many values go into an insert as positions lie in the row. -/
theorem length_insertValues (w : StatementWriter) (e : Entity) (row : List Value) :
    (w.insertValues e row).length
      = ((w.retainedPositions e).filter fun i => i < row.length).length := by
  rw [insertValues_eq, List.length_filterMap_eq_countP, List.countP_eq_length_filter]
  refine congrArg List.length (List.filter_congr fun i _ => ?_)
  by_cases hi : i < row.length
  · rw [List.getElem?_eq_getElem hi, decide_eq_true hi, Option.isSome_some]
  · rw [List.getElem?_eq_none (Nat.not_lt.1 hi), decide_eq_false hi, Option.isSome_none]

/-- The values are as many as the columns if each position lies in the row. -/
theorem length_insertValues_eq_iff {w : StatementWriter} {e : Entity} {row : List Value} :
    (w.retainedPositions e).length = (w.insertValues e row).length
      ↔ ∀ i ∈ w.retainedPositions e, i < row.length := by
  rw [length_insertValues, eq_comm, List.length_filter_eq_length_iff]
  simp

section Outcome

variable (hnames : ∀ f ∈ e.fields, f.name ≠ [])
  (hmarks : ∀ name ∈ e.name :: e.fieldNames, Unmarked name)

include hnames hmarks

/-- A row that reaches every position is bound by its literals, or gives the error of the first
value without one. -/
theorem boundInsert_of_reaches (hreaches : ∀ i ∈ w.retainedPositions e, i < row.length) :
    w.boundInsert e row = (Value.renderAll w.config.literalContext (w.insertValues e row)).map
      (w.insertText insertVerb e) := by
  have hlength := length_insertValues_eq_iff.2 hreaches
  have hasks := (Cut.asksFor_iff_of_numbers (w.numbers_insertCut e)).2 hlength
  have hbind := Binder.bind_of_asksFor (b := w.binder)
    ⟨fits_insertCut hmarks, source_insertCut hnames⟩ hasks
  rw [boundInsert, hbind]
  change (Value.renderAll w.config.literalContext _).map _ = _
  cases hrender : Value.renderAll w.config.literalContext (w.insertValues e row) with
  | error err => rfl
  | ok texts =>
    -- there is a text for each mark, so reading them by number gives them back
    have htexts : texts.length = (w.retainedPositions e).length := by
      rw [Value.length_of_renderAll hrender, hlength]
    have hmap : (List.range texts.length).map (fun i => texts.getD (i + 1 - 1) []) = texts := by
      apply List.ext_getElem
      · rw [List.length_map, List.length_range]
      · intro i _ hi
        rw [List.getElem_map, List.getElem_range, Nat.add_sub_cancel,
          List.getD_eq_getElem _ _ hi]
    simp only [Except.map, filled_insertCut, ← htexts, hmap]

/-- A row that does not is refused for the number of its values, by `bind_of_not_asksFor`. -/
theorem boundInsert_of_not_reaches (hshort : ¬ ∀ i ∈ w.retainedPositions e, i < row.length) :
    w.boundInsert e row = .error (.placeholderMismatch
      ((w.insertCut e).expected w.dialect.placeholderStyle) (w.insertValues e row).length) := by
  have hasks := (Cut.asksFor_iff_of_numbers (w.numbers_insertCut e)).not.2
    (mt length_insertValues_eq_iff.1 hshort)
  exact Binder.bind_of_not_asksFor (b := w.binder)
    ⟨fits_insertCut hmarks, source_insertCut hnames⟩ hasks

/-- A row with literals at all positions is bound by these. -/
theorem boundInsert_of_literal {literal : Nat → Text}
    (h : ∀ i ∈ w.retainedPositions e,
      ∃ v, row[i]? = some v ∧ v.render w.config.literalContext = .ok (literal i)) :
    w.boundInsert e row
      = .ok (w.insertText insertVerb e ((w.retainedPositions e).map literal)) := by
  have hreaches : ∀ i ∈ w.retainedPositions e, i < row.length := by
    intro i hi
    obtain ⟨v, hv, -⟩ := h i hi
    exact (List.getElem?_eq_some_iff.1 hv).1
  rw [boundInsert_of_reaches hnames hmarks hreaches, renderAll_insertValues h]
  rfl

/-- A bound row has a value with a literal at each position. -/
theorem exists_render_of_boundInsert {sql : Text} (h : w.boundInsert e row = .ok sql) {i : Nat}
    (hi : i ∈ w.retainedPositions e) :
    ∃ v t, row[i]? = some v ∧ v.render w.config.literalContext = .ok t := by
  by_cases hreaches : ∀ i ∈ w.retainedPositions e, i < row.length
  · rw [boundInsert_of_reaches hnames hmarks hreaches] at h
    have hlt := hreaches i hi
    have hv : row[i]? = some row[i] := List.getElem?_eq_getElem hlt
    -- a value at a retained position is one of those rendered
    have hmem : row[i] ∈ w.insertValues e row := by
      rw [insertValues_eq]
      exact List.mem_filterMap.2 ⟨i, hi, hv⟩
    cases hrender : Value.renderAll w.config.literalContext (w.insertValues e row) with
    | error err => rw [hrender] at h; cases h
    | ok texts =>
      obtain ⟨t, ht⟩ := Value.exists_render_of_mem hrender hmem
      exact ⟨_, t, hv, ht⟩
  · rw [boundInsert_of_not_reaches hnames hmarks hreaches] at h
    cases h

end Outcome

/-- **Inserting a row.** Let the `positions` be those of the fields other than the auto key. The
template has a mark for each of them, and a row is bound exactly if it has a value with a literal at
each: the literals then stand in the places of the marks. If the row does not reach a position, the
answer is a mismatch between the positions and those that it reaches. Otherwise the first value at a
position that has no literal gives its error. What the row has elsewhere never matters. -/
theorem boundInsert_row (w : StatementWriter) (e : Entity) (row : List Value)
    (hnames : ∀ f ∈ e.fields, f.name ≠ [])
    (hmarks : ∀ name ∈ e.name :: e.fieldNames, Unmarked name) :
    let positions := w.retainedPositions e
    let ctx := w.config.literalContext
    let outcome := w.boundInsert e row
    w.insertTemplate insertVerb e
        = w.insertText insertVerb e (w.dialect.placeholders positions.length) ∧
      ((∃ sql, outcome = .ok sql) ↔
        ∀ i ∈ positions, ∃ v t, row[i]? = some v ∧ v.render ctx = .ok t) ∧
      (∀ literal : Nat → Text,
        (∀ i ∈ positions, ∃ v, row[i]? = some v ∧ v.render ctx = .ok (literal i)) →
          outcome = .ok (w.insertText insertVerb e (positions.map literal))) ∧
      ((∃ i ∈ positions, row.length ≤ i) →
        ∃ expected, outcome = .error (.placeholderMismatch expected
            (positions.filter fun i => i < row.length).length) ∧
          (positions.length ≤ greatestIndex → expected = positions.length)) ∧
      ((∀ i ∈ positions, i < row.length) →
        ∀ i ∈ positions, ∀ v err, row[i]? = some v → v.render ctx = .error err →
          (∀ j ∈ positions, j < i → ∃ u t, row[j]? = some u ∧ u.render ctx = .ok t) →
            outcome = .error err) ∧
      ∀ row' : List Value, (∀ i ∈ positions, row'[i]? = row[i]?) →
        w.boundInsert e row' = outcome := by
  intro positions ctx outcome
  refine ⟨insertTemplate_eq hnames insertVerb, ⟨?_, ?_⟩,
    fun literal hliteral => boundInsert_of_literal hnames hmarks hliteral, ?_, ?_, ?_⟩
  · rintro ⟨sql, hsql⟩ i hi
    exact exists_render_of_boundInsert hnames hmarks hsql hi
  · intro hall
    choose! v t hv ht using hall
    exact ⟨_, boundInsert_of_literal hnames hmarks fun i hi => ⟨v i, hv i hi, ht i hi⟩⟩
  · -- the row ends before a position: the marks outnumber the values
    rintro ⟨i, hi, hlong⟩
    have hbound : outcome = _ := boundInsert_of_not_reaches hnames hmarks
      fun hreaches => absurd (hreaches i hi) (Nat.not_lt.2 hlong)
    rw [length_insertValues] at hbound
    refine ⟨_, hbound, fun hcount => ?_⟩
    exact Cut.expected_of_numbers (w.numbers_insertCut e) hcount _
  · intro hreaches i hi v err hv herr hbefore
    have hbound : outcome = _ := boundInsert_of_reaches hnames hmarks hreaches
    rw [hbound, renderAll_insertValues_of_error hi hv herr hbefore]
    rfl
  · -- the values of the insert are read at the positions alone
    intro row' hrow'
    have hvalues : w.insertValues e row' = w.insertValues e row := by
      rw [insertValues_eq, insertValues_eq]
      exact List.filterMap_congr hrow'
    change w.binder.bind _ (w.insertValues e row') = w.binder.bind _ (w.insertValues e row)
    rw [hvalues]

/-- PostgreSQL, with the auto key last: a row that stops before it is bound, and a mark inside a
value is left alone. A row that stops earlier is refused. -/
theorem boundInsert_row_user :
    let w : StatementWriter := ⟨⟨[("User".toList, "id".toList)], []⟩, ⟨.postgres, .reject, false⟩⟩
    let e : Entity := ⟨"User".toList, "User".toList,
      [⟨"name".toList, .text, false⟩, ⟨"age".toList, .int32, false⟩, ⟨"id".toList, .int64, false⟩]⟩
    w.boundInsert e [.text "$2".toList, .int 30]
        = .ok "insert into User (name,age) values('$2',30)".toList ∧
      w.boundInsert e [.text "$2".toList] = .error (.placeholderMismatch 2 1) := by
  intro w e
  have hnames : ∀ f ∈ e.fields, f.name ≠ [] := by decide
  have hmarks : ∀ name ∈ e.name :: e.fieldNames, Unmarked name := by decide
  constructor
  · obtain ⟨-, -, hok, -⟩ := boundInsert_row w e [.text "$2".toList, .int 30] hnames hmarks
    refine hok (fun i => if i = 0 then "'$2'".toList else "30".toList) fun i hi => ?_
    have hpositions : w.retainedPositions e = [0, 1] := by decide
    rw [hpositions] at hi
    rcases List.mem_cons.1 hi with rfl | hi
    · exact ⟨_, rfl, rfl⟩
    · obtain rfl := List.mem_singleton.1 hi
      exact ⟨_, rfl, rfl⟩
  · obtain ⟨-, -, -, hshort, -⟩ := boundInsert_row w e [.text "$2".toList] hnames hmarks
    obtain ⟨expected, hbound, hexpected⟩ := hshort ⟨1, by decide, by decide⟩
    rw [hbound, hexpected (by decide)]
    rfl

end StatementWriter

end RecordSql
