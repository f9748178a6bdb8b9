import RecordSql.Proofs.ColumnCache.Sharing
import RecordSql.Proofs.Statement.Arguments

/-! # Selects with plain arguments

Arguments without `select` and `where` are joined to the select of an entity in one of three ways:
`StatementWriter.perform_select_plain`. Without any that counts the select stays. Conditions alone
come behind the condition that is always true. An ordering makes that condition and all conditions
before it go, and from there on every argument is kept, since no `where` is left for a later
ordering to cut at. -/

namespace RecordSql

namespace QueryArgs

variable {base arg : Text} {args : List Text}

theorem isQuery_eq_false_iff : isQuery arg = false ↔ ¬ "select".toList <:+: arg := by
  rw [← Bool.not_eq_true, isQuery, Text.includes_iff]

/-- Behind a `base` without `where` the first one is that of the `sentinel`. -/
theorem before?_appended_sentinel (hbase : ¬ cutWord <:+: base) (conditions : List Text) :
    Text.before? cutWord (appended (base ++ sentinel) conditions) = some (base ++ [' ']) := by
  obtain ⟨more, hmore⟩ := isPrefix_appended sentinel conditions
  have hparts : sentinel ++ more = ' ' :: (cutWord ++ (" 1=1 and".toList ++ more)) := rfl
  rw [appended_append base (by decide), ← hmore, hparts,
    Text.before?_append_cons (by decide) hbase, Text.before?_cons_of_not_mem (by decide) (by decide),
    Text.before?_append_self (by decide)]
  rfl

section Plain

variable (hbase : ¬ cutWord <:+: base)
  (hargs : ∀ arg ∈ args, isQuery arg = false ∧ ¬ cutWord <:+: arg)

include hargs

/-- Conditions alone come behind the `sentinel`, and nothing is reported. -/
theorem apply_of_conditions (hsome : given args ≠ [])
    (hconditions : ∀ arg ∈ given args, isOrdering arg = false) :
    apply base args = ⟨appended (base ++ sentinel) (given args), []⟩ := by
  rw [apply_of_given_ne_nil base hsome]
  refine foldl_applyOne_of_conditions _ fun arg hmem => ?_
  exact ⟨(hargs arg (mem_of_mem_given hmem)).1, hconditions arg hmem⟩

include hbase

/-- The first ordering makes the conditions before it go, and is the only one reported. -/
theorem apply_of_firstOrdering {conditions rest : List Text} {first : Text}
    (hgiven : given args = conditions ++ first :: rest)
    (hconditions : ∀ arg ∈ conditions, isOrdering arg = false) (hfirst : isOrdering first = true) :
    apply base args
      = ⟨appended (base ++ [' ']) (first :: rest), [.conditionsDropped first]⟩ := by
  have hplain : ∀ arg ∈ conditions ++ first :: rest, isQuery arg = false ∧ ¬ cutWord <:+: arg :=
    fun arg hmem => hargs arg (mem_of_mem_given (hgiven ▸ hmem))
  obtain ⟨hbefore, hafter⟩ := List.forall_mem_append.1 hplain
  obtain ⟨⟨hquery, hcut⟩, hrest⟩ := List.forall_mem_cons.1 hafter
  have hfound : conditions.foldl applyOne ⟨base ++ sentinel, []⟩
      = ⟨appended (base ++ sentinel) conditions, []⟩ :=
    foldl_applyOne_of_conditions _ fun arg hmem => ⟨(hbefore arg hmem).1, hconditions arg hmem⟩
  -- behind the space that is left there is no `where` any more, so nothing is cut again
  have hspace : ¬ cutWord <:+: base ++ [' '] := by
    rw [Text.infix_append_cons_iff (by decide) (by decide), List.infix_nil]
    exact not_or.2 ⟨hbase, by decide⟩
  rw [apply_of_given_ne_nil base (by rw [hgiven]; simp), hgiven, List.foldl_append, hfound,
    List.foldl_cons, applyOne_of_cut hquery hfirst (before?_appended_sentinel hbase conditions),
    foldl_applyOne_of_whole _ (not_infix_spaced hspace hcut) hrest]
  rfl

end Plain

end QueryArgs

namespace StatementWriter

open QueryArgs

/-- **Selecting with plain arguments.** Let no name of the entity have `where` in it and no argument
`select` or `where`, whatever the writers of the cache have been asked before. Without arguments
that count the select is answered as it is. If none of them orders or limits, they come behind the
condition that is always true. Otherwise those from the first that does come behind the select, and
the condition and all arguments before it are gone. This cut is reported once, for that argument;
nothing else is, apart from the statement. -/
theorem perform_select_plain (w : StatementWriter) {e : Entity} {args : List Text}
    (hnames : ∀ name ∈ e.name :: e.fieldNames, ¬ "where".toList <:+: name)
    (hargs : ∀ arg ∈ args, ¬ "select".toList <:+: arg ∧ ¬ "where".toList <:+: arg)
    (earlier : List (StatementWriter × Call)) :
    let base := "select ".toList ++ Text.commaJoined (e.fieldNames.map w.dialect.quoteName)
      ++ " from ".toList ++ w.dialect.quoteName e.name
    let reply := (w.perform (cacheAfter .empty earlier) (.select e args)).reply
    let answered := fun (sql : Text) (cuts : List Event) => (Answer.statement sql, cuts ++
      if w.config.tracing then [.statementWritten .select e.name w.dialect sql] else [])
    (given args = [] → reply = answered base []) ∧
    (given args ≠ [] → (∀ arg ∈ given args, isOrdering arg = false) →
      reply = answered (appended (base ++ " where 1=1 and".toList) (given args)) []) ∧
    (∀ (conditions rest : List Text) (first : Text), given args = conditions ++ first :: rest →
      (∀ arg ∈ conditions, isOrdering arg = false) → isOrdering first = true →
        reply = answered (appended (base ++ " ".toList) (first :: rest))
          [.conditionsDropped first]) := by
  intro base reply answered
  have hbase : ¬ cutWord <:+: base := w.not_infix_selectText hnames
  have hplain : ∀ arg ∈ args, isQuery arg = false ∧ ¬ cutWord <:+: arg :=
    fun arg hmem => ⟨isQuery_eq_false_iff.2 (hargs arg hmem).1, (hargs arg hmem).2⟩
  -- the cache of the earlier calls makes no difference
  have hreply : reply = answered (apply base args).sql (apply base args).events :=
    w.reply_perform_cacheAfter earlier (.select e args)
  refine ⟨fun hnone => ?_, fun hsome hconditions => ?_,
    fun conditions rest first hgiven hconditions hfirst => ?_⟩
  · rw [hreply, apply_of_given_eq_nil base hnone]
  · rw [hreply, apply_of_conditions hplain hsome hconditions]
    rfl
  · rw [hreply, apply_of_firstOrdering hbase hplain hgiven hconditions hfirst]
    rfl

/-- SQLite, with a cache that MySQL has filled: the condition goes, and the `limit` finds nothing to
cut. -/
theorem perform_select_plain_user :
    let w : StatementWriter := ⟨.empty, (Config.ofDialect .sqlite).enableTracing⟩
    let other : StatementWriter := ⟨.empty, Config.ofDialect .mySql⟩
    let e : Entity := ⟨"User".toList, "User".toList,
      [⟨"id".toList, .int64, false⟩, ⟨"name".toList, .text, false⟩]⟩
    let args := ["id > 1".toList, [], "order by name".toList, "limit 5".toList]
    let sql := "select id,name from User order by name limit 5".toList
    (w.perform (cacheAfter .empty [(other, .columnList e)]) (.select e args)).reply
      = (.statement sql, [.conditionsDropped "order by name".toList,
          .statementWritten .select "User".toList .sqlite sql]) := by
  intro w other e args sql
  have hnames : ∀ name ∈ e.name :: e.fieldNames, ¬ "where".toList <:+: name := by decide
  have hargs : ∀ arg ∈ args, ¬ "select".toList <:+: arg ∧ ¬ "where".toList <:+: arg := by decide
  obtain ⟨-, -, hordering⟩ := perform_select_plain w hnames hargs [(other, .columnList e)]
  exact hordering ["id > 1".toList] ["limit 5".toList] "order by name".toList
    (by decide) (by decide) (by decide)

end StatementWriter

end RecordSql
