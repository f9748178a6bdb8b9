import RecordSql.Proofs.Text.Occurrence
import RecordSql.Statement.Query

/-! # Joining an argument to a query

An argument that stands for no query of its own is joined to what it leaves of the text
(`QueryArgs.left`), which for an ordering is the part before the first `where`. In a text without
`where` up to some space, both happen behind that space; the select of an entity is such a text
unless a name has that word: `StatementWriter.not_infix_selectText`. -/

namespace RecordSql

namespace QueryArgs

/-- The word at which an ordering cuts. -/
def cutWord : Text := "where".toList

/-- What an argument leaves of the text that it is joined to: all of it, or for an ordering the part
before the first `cutWord`. -/
def left (sql arg : Text) : Text :=
  if isOrdering arg then (Text.before? cutWord sql).getD sql else sql

variable {sql arg base tail : Text} {w : Written} {c : Char}

/-- **Joining one argument**: it stands for the query, or comes behind what it leaves,
`left w.sql arg`. -/
theorem sql_applyOne (w : Written) (arg : Text) :
    (applyOne w arg).sql = if isQuery arg then arg else spaced (left w.sql arg) arg := by
  rw [applyOne, left]
  by_cases hquery : isQuery arg = true
  · rw [if_pos hquery, if_pos hquery]
  · rw [if_neg hquery, if_neg hquery]
    by_cases horder : isOrdering arg = true
    · rw [if_pos horder, if_pos horder]
      rw [cutWord]
      cases Text.before? "where".toList w.sql <;> rfl
    · rw [if_neg horder, if_neg horder]

/-- An argument that stands for the query is all that is left, and is reported. -/
theorem applyOne_of_isQuery (w : Written) (hquery : isQuery arg = true) :
    applyOne w arg = ⟨arg, w.events ++ [.queryReplaced arg]⟩ := by
  rw [applyOne, if_pos hquery]

/-- An argument that finds nothing to cut comes behind the text, and nothing is reported. -/
theorem applyOne_of_whole (hquery : isQuery arg = false)
    (hwhole : isOrdering arg = true → ¬ cutWord <:+: w.sql) :
    applyOne w arg = ⟨spaced w.sql arg, w.events⟩ := by
  rw [applyOne, hquery, if_neg Bool.false_ne_true]
  split
  · next head hhead =>
    rw [Option.ite_none_right_eq_some] at hhead
    obtain ⟨horder, hhead⟩ := hhead
    have hnone : Text.before? cutWord w.sql = none := Text.before?_eq_none_iff.2 (hwhole horder)
    rw [← cutWord, hnone] at hhead
    cases hhead
  · rfl

/-- An ordering that finds a `where` comes behind the `head` before it, and the cut is reported. -/
theorem applyOne_of_cut (hquery : isQuery arg = false) (horder : isOrdering arg = true) {head : Text}
    (hhead : Text.before? cutWord w.sql = some head) :
    applyOne w arg = ⟨spaced head arg, w.events ++ [.conditionsDropped arg]⟩ := by
  rw [applyOne, hquery, if_neg Bool.false_ne_true, if_pos horder, ← cutWord, hhead]

/-- What is joined and reported does not depend on what has been reported before: `events` stay in
front. -/
theorem applyOne_eq_append (sql : Text) (events : List Event) (arg : Text) :
    applyOne ⟨sql, events⟩ arg
      = ⟨(applyOne ⟨sql, []⟩ arg).sql, events ++ (applyOne ⟨sql, []⟩ arg).events⟩ := by
  rw [applyOne, applyOne]
  dsimp only
  split
  · rfl
  · cases if isOrdering arg = true then Text.before? "where".toList sql else none with
    | none => exact congrArg (Written.mk _) (List.append_nil events).symm
    | some head => rfl

/-! ### What an argument leaves: `left` -/

/-- What is left is the beginning of the text: `left sql arg <+: sql`. -/
theorem isPrefix_left (sql arg : Text) : left sql arg <+: sql := by
  rw [left]
  split
  · cases hcut : Text.before? cutWord sql with
    | none => exact List.prefix_refl _
    | some head =>
      obtain ⟨rest, hsql⟩ := Text.exists_of_before?_eq_some hcut
      exact ⟨cutWord ++ rest, by rw [hsql, List.append_assoc]; rfl⟩
  · exact List.prefix_refl _

/-- A `base` without `where` is left whole, and so is the space behind it. -/
theorem left_append (hbase : ¬ cutWord <:+: base) (tail arg : Text) :
    left (base ++ ' ' :: tail) arg = base ++ ' ' :: left tail arg := by
  rw [left, left]
  split
  · rw [Text.before?_append_cons (by decide) hbase,
      Text.before?_cons_of_not_mem (by decide) (by decide)]
    cases Text.before? cutWord tail <;> rfl
  · rfl

/-- An ordering leaves no `where`. -/
theorem not_infix_left (horder : isOrdering arg = true) (sql : Text) :
    ¬ cutWord <:+: left sql arg := by
  rw [left, if_pos horder]
  cases hcut : Text.before? cutWord sql with
  | none => exact Text.before?_eq_none_iff.1 hcut
  | some head => exact Text.not_infix_of_before? (by decide) hcut

/-! ### The space between: `spaced` -/

/-- There is one space before the argument, perhaps the last character of the text. -/
theorem exists_spaced_eq (sql arg : Text) :
    ∃ front, front <+: sql ∧ spaced sql arg = front ++ ' ' :: arg := by
  rw [spaced]
  split
  · next hspace =>
    obtain ⟨front, rfl⟩ := List.getLast?_eq_some_iff.1 hspace
    exact ⟨front, List.prefix_append _ _, by simp⟩
  · exact ⟨sql, List.prefix_refl _, rfl⟩

/-- No `where` arises between a text and an argument. -/
theorem not_infix_spaced (hsql : ¬ cutWord <:+: sql) (harg : ¬ cutWord <:+: arg) :
    ¬ cutWord <:+: spaced sql arg := by
  obtain ⟨front, hfront, hspaced⟩ := exists_spaced_eq sql arg
  rw [hspaced, Text.infix_append_cons_iff (by decide) (by decide)]
  exact not_or.2 ⟨fun h => hsql (h.trans hfront.isInfix), harg⟩

/-- A text takes an argument at its end: `base` in front does not matter to the space. -/
theorem spaced_append (base : Text) (htail : tail ≠ []) (arg : Text) :
    spaced (base ++ tail) arg = base ++ spaced tail arg := by
  rw [spaced, spaced, List.getLast?_append_of_ne_nil _ htail]
  split <;> rw [List.append_assoc]

/-- An argument brings its own characters and perhaps a space. -/
theorem mem_of_mem_spaced (h : c ∈ spaced sql arg) : c ∈ sql ∨ c = ' ' ∨ c ∈ arg := by
  rw [spaced] at h
  split at h
  · rw [List.mem_append] at h
    exact h.imp_right Or.inr
  · rwa [List.mem_append, List.mem_cons] at h

/-- What begins with a space still does with an argument behind it. -/
theorem exists_spaced_cons (tail arg : Text) :
    ∃ more, spaced (' ' :: tail) arg = ' ' :: (tail ++ more) := by
  rw [spaced]
  split
  · exact ⟨arg, rfl⟩
  · exact ⟨' ' :: arg, rfl⟩

end QueryArgs

/-! ### The select of an entity -/

/-- A word without `nameMark` is in a quoted name only if it is in the name. -/
theorem Dialect.not_infix_quoteName (d : Dialect) {pat name : Text} (hne : pat ≠ [])
    (hmark : Dialect.nameMark ∉ pat) (h : ¬ pat <:+: name) : ¬ pat <:+: d.quoteName name := by
  rw [quoteName]
  split
  · have hend : ¬ pat <:+: name ++ [Dialect.nameMark] := by
      rw [Text.infix_append_cons_iff hne hmark, List.infix_nil]
      exact not_or.2 ⟨h, hne⟩
    have hfront := Text.infix_append_cons_iff (a := []) (b := name ++ [Dialect.nameMark]) hne hmark
    rw [List.nil_append, List.infix_nil] at hfront
    exact hfront.not.2 (not_or.2 ⟨hne, hend⟩)
  · exact h

namespace StatementWriter

/-- The select of an entity has no `where` to cut at if no name has. -/
theorem not_infix_selectText (w : StatementWriter)
    (hnames : ∀ name ∈ e.name :: e.fieldNames, ¬ QueryArgs.cutWord <:+: name) :
    ¬ QueryArgs.cutWord <:+: w.selectText (e.columnList w.dialect) e := by
  obtain ⟨hname, hfields⟩ := List.forall_mem_cons.1 hnames
  have hne : QueryArgs.cutWord ≠ [] := by decide
  have hspace : ' ' ∉ QueryArgs.cutWord := by decide
  have hmark : Dialect.nameMark ∉ QueryArgs.cutWord := by decide
  have hcolumns : ¬ QueryArgs.cutWord <:+: e.columnList w.dialect := by
    refine Text.not_infix_commaJoined hne (by decide) fun t ht => ?_
    obtain ⟨name, hmem, rfl⟩ := List.mem_map.1 ht
    exact Dialect.not_infix_quoteName _ hne hmark (hfields name hmem)
  have htable : ¬ QueryArgs.cutWord <:+: w.dialect.quoteName e.name :=
    Dialect.not_infix_quoteName _ hne hmark hname
  -- spaces divide the text into its two words, the columns and the table
  have hparts : w.selectText (e.columnList w.dialect) e = "select".toList ++ ' ' ::
      (e.columnList w.dialect ++ ' ' :: ("from".toList ++ ' ' :: w.dialect.quoteName e.name)) := by
    have hselect : "select ".toList = "select".toList ++ [' '] := by decide
    have hfrom : " from ".toList = ' ' :: ("from".toList ++ [' ']) := by decide
    unfold selectText
    rw [hselect, hfrom]
    simp only [List.append_assoc, List.cons_append, List.nil_append]
  rw [hparts, Text.infix_append_cons_iff hne hspace, Text.infix_append_cons_iff hne hspace,
    Text.infix_append_cons_iff hne hspace]
  exact not_or.2 ⟨by decide, not_or.2 ⟨hcolumns, not_or.2 ⟨by decide, htable⟩⟩⟩

end StatementWriter

end RecordSql
