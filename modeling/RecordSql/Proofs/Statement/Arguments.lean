import RecordSql.Proofs.Statement.Query

/-! # Joining arguments in a row

Arguments are joined one after the other to the text that those before them have left. An argument
that stands for the query takes the place of that text, so nothing before it is seen again
(`apply_query`). The last ordering has no `where` in front of it, wherever such a word came from,
and what comes behind is kept as it is (`apply_lastOrdering`). -/

namespace RecordSql.QueryArgs

/-- The arguments that count: all but the empty ones, as `apply` takes them. -/
def given (args : List Text) : List Text := args.filter fun arg => !arg.isEmpty

/-- A text with arguments behind it in order, each after one space: the fold of `spaced`. -/
def appended (text : Text) (args : List Text) : Text := args.foldl spaced text

variable {arg : Text} {args : List Text}

@[simp] theorem appended_nil (text : Text) : appended text [] = text := rfl

@[simp] theorem appended_cons (text arg : Text) (rest : List Text) :
    appended text (arg :: rest) = appended (spaced text arg) rest := rfl

@[simp] theorem given_append (before after : List Text) :
    given (before ++ after) = given before ++ given after := List.filter_append ..

theorem given_cons (harg : arg ≠ []) (rest : List Text) : given (arg :: rest) = arg :: given rest :=
  List.filter_cons_of_pos (by simpa using harg)

theorem mem_of_mem_given (h : arg ∈ given args) : arg ∈ args := (List.mem_filter.1 h).1

/-- A query is not empty, since it holds `select`. -/
theorem ne_nil_of_isQuery (h : isQuery arg = true) : arg ≠ [] := by
  rintro rfl
  exact absurd h (by decide)

/-- An ordering is not empty, since it holds `order by` or `limit`. -/
theorem ne_nil_of_isOrdering (h : isOrdering arg = true) : arg ≠ [] := by
  rintro rfl
  exact absurd h (by decide)

/-! ### Texts with arguments behind them: `appended` -/

/-- What is appended comes behind the text: `text <+: appended text args`. -/
theorem isPrefix_appended (text : Text) (args : List Text) : text <+: appended text args := by
  induction args generalizing text with
  | nil => exact List.prefix_refl _
  | cons arg rest ih =>
    have hspaced : text <+: spaced text arg := by
      rw [spaced]
      split <;> exact List.prefix_append _ _
    exact hspaced.trans (ih _)

/-- What comes before a text that is not empty does not matter to the spaces behind it: `base` stays
in front. -/
theorem appended_append (base : Text) (htext : text ≠ []) (args : List Text) :
    appended (base ++ text) args = base ++ appended text args := by
  induction args generalizing text with
  | nil => rfl
  | cons arg rest ih =>
    have hspaced : spaced text arg ≠ [] := by
      obtain ⟨front, -, heq⟩ := exists_spaced_eq text arg
      rw [heq]
      exact List.append_ne_nil_of_right_ne_nil _ (List.cons_ne_nil _ _)
    rw [appended_cons, appended_cons, spaced_append base htext, ih hspaced]

/-! ### Runs of arguments -/

/-- What a run joins and reports does not depend on what has been reported before: `events` stay in
front. -/
theorem foldl_applyOne_eq_append (sql : Text) (events : List Event) (args : List Text) :
    args.foldl applyOne ⟨sql, events⟩
      = ⟨(args.foldl applyOne ⟨sql, []⟩).sql, events ++ (args.foldl applyOne ⟨sql, []⟩).events⟩ := by
  induction args generalizing sql events with
  | nil => exact congrArg (Written.mk sql) (List.append_nil events).symm
  | cons arg rest ih =>
    rw [List.foldl_cons, List.foldl_cons, applyOne_eq_append]
    obtain ⟨text, reported⟩ := applyOne ⟨sql, []⟩ arg
    rw [ih text (events ++ reported), ih text reported, List.append_assoc]

/-- Arguments of which none stands for the query are each joined to what it leaves,
`left text arg`. -/
theorem sql_foldl_applyOne (w : Written) (h : ∀ arg ∈ args, isQuery arg = false) :
    (args.foldl applyOne w).sql = args.foldl (fun text arg => spaced (left text arg) arg) w.sql := by
  induction args generalizing w with
  | nil => rfl
  | cons arg rest ih =>
    obtain ⟨harg, hrest⟩ := List.forall_mem_cons.1 h
    rw [List.foldl_cons, List.foldl_cons, ih _ hrest, sql_applyOne, harg,
      if_neg Bool.false_ne_true]

/-- Conditions are `appended`, and nothing is reported. -/
theorem foldl_applyOne_of_conditions (w : Written)
    (h : ∀ arg ∈ args, isQuery arg = false ∧ isOrdering arg = false) :
    args.foldl applyOne w = ⟨appended w.sql args, w.events⟩ := by
  induction args generalizing w with
  | nil => rfl
  | cons arg rest ih =>
    obtain ⟨⟨hquery, horder⟩, hrest⟩ := List.forall_mem_cons.1 h
    have hstep : applyOne w arg = ⟨spaced w.sql arg, w.events⟩ :=
      applyOne_of_whole hquery fun h => absurd (horder.symm.trans h) Bool.false_ne_true
    rw [List.foldl_cons, hstep, ih _ hrest, appended_cons]

/-- Where no `where` is, arguments without one are `appended`, and nothing is reported. -/
theorem foldl_applyOne_of_whole (w : Written) (hsql : ¬ cutWord <:+: w.sql)
    (h : ∀ arg ∈ args, isQuery arg = false ∧ ¬ cutWord <:+: arg) :
    args.foldl applyOne w = ⟨appended w.sql args, w.events⟩ := by
  induction args generalizing w with
  | nil => rfl
  | cons arg rest ih =>
    obtain ⟨⟨hquery, hcut⟩, hrest⟩ := List.forall_mem_cons.1 h
    have hstep : applyOne w arg = ⟨spaced w.sql arg, w.events⟩ :=
      applyOne_of_whole hquery fun _ => hsql
    rw [List.foldl_cons, hstep, ih _ (not_infix_spaced hsql hcut) hrest, appended_cons]

/-! ### The whole run: `apply` -/

/-- Without arguments that count the text stays. -/
theorem apply_of_given_eq_nil (sql : Text) (h : given args = []) : apply sql args = ⟨sql, []⟩ := by
  rw [given] at h
  rw [apply, h]

/-- Otherwise they are joined to `sql ++ sentinel`, the text with the condition that is always
true. -/
theorem apply_of_given_ne_nil (sql : Text) (h : given args ≠ []) :
    apply sql args = (given args).foldl applyOne ⟨sql ++ sentinel, []⟩ := by
  rw [given] at h ⊢
  rw [apply]
  cases hfilter : args.filter fun arg => !arg.isEmpty with
  | nil => exact absurd hfilter h
  | cons first rest => rfl

/-- What is reported is what joining to that text reports, also without arguments that count. -/
theorem events_apply (sql : Text) (args : List Text) :
    (apply sql args).events = ((given args).foldl applyOne ⟨sql ++ sentinel, []⟩).events := by
  by_cases h : given args = []
  · rw [apply_of_given_eq_nil sql h, h]
    rfl
  · rw [apply_of_given_ne_nil sql h]

/-- A run is cut at an argument that counts, and goes on from what `applyOne` makes of it. -/
theorem apply_append_cons (sql : Text) (before after : List Text) (harg : arg ≠ []) :
    apply sql (before ++ arg :: after) = (given after).foldl applyOne
      (applyOne ((given before).foldl applyOne ⟨sql ++ sentinel, []⟩) arg) := by
  have hgiven : given (before ++ arg :: after) = given before ++ arg :: given after := by
    rw [given_append, given_cons harg]
  rw [apply_of_given_ne_nil sql (by rw [hgiven]; simp), hgiven, List.foldl_append, List.foldl_cons]

/-! ### A query among the arguments -/

/-- From a query on, a run is one over the query alone; only the events before it are kept. -/
theorem apply_append_query (sql : Text) (before after : List Text) (hquery : isQuery arg = true) :
    apply sql (before ++ arg :: after)
      = ⟨((given after).foldl applyOne ⟨arg, []⟩).sql,
          (apply sql before).events
            ++ .queryReplaced arg :: ((given after).foldl applyOne ⟨arg, []⟩).events⟩ := by
  rw [apply_append_cons sql before after (ne_nil_of_isQuery hquery), applyOne_of_isQuery _ hquery,
    foldl_applyOne_eq_append, ← events_apply, List.append_assoc, List.singleton_append]

/-- **A query among the arguments makes forget all before it.** Two runs over any texts and any
arguments, which go on with one query and the same arguments behind it, give the same `text` and
report the same from the query on (`since`). Unless one of those arguments stands for the query
itself, the text is made of the query and of these: each is joined to what it leaves, and nothing
else is added. If none of them orders or limits either, the query is kept as it is and they come
behind it. -/
theorem apply_query (sql₁ sql₂ : Text) (before₁ before₂ after : List Text) {query : Text}
    (hquery : isQuery query = true) :
    ∃ (text : Text) (since : List Event),
      apply sql₁ (before₁ ++ [query] ++ after)
          = ⟨text, (apply sql₁ before₁).events ++ .queryReplaced query :: since⟩ ∧
      apply sql₂ (before₂ ++ [query] ++ after)
          = ⟨text, (apply sql₂ before₂).events ++ .queryReplaced query :: since⟩ ∧
      ((∀ arg ∈ after, isQuery arg = false) →
        text = (given after).foldl (fun text arg => spaced (left text arg) arg) query) ∧
      ((∀ arg ∈ after, isQuery arg = false ∧ isOrdering arg = false) →
        text = appended query (given after) ∧ query <+: text) := by
  simp only [List.append_assoc, List.singleton_append]
  refine ⟨_, _, apply_append_query sql₁ before₁ after hquery,
    apply_append_query sql₂ before₂ after hquery, ?_, ?_⟩
  · intro hafter
    exact sql_foldl_applyOne _ fun arg hmem => hafter arg (mem_of_mem_given hmem)
  · intro hafter
    rw [foldl_applyOne_of_conditions _ fun arg hmem => hafter arg (mem_of_mem_given hmem)]
    exact ⟨rfl, isPrefix_appended query _⟩

/-- A `limit` behind a query cuts it at its own `where`, whatever stands before the query. -/
theorem apply_query_limit :
    let query := "select b from u where b = 2".toList
    let after := [[], "limit 1".toList]
    let text := "select b from u limit 1".toList
    let since := [Event.queryReplaced query, .conditionsDropped "limit 1".toList]
    isQuery query = true ∧
      apply [] ([] ++ [query] ++ after) = ⟨text, since⟩ ∧
      apply "select a from t".toList (["a > 1".toList, "order by a".toList] ++ [query] ++ after)
        = ⟨text, .conditionsDropped "order by a".toList :: since⟩ := by
  intro query after text since
  have hquery : isQuery query = true := by decide
  obtain ⟨text', since', hempty, hrun, htext, -⟩ :=
    apply_query [] "select a from t".toList [] ["a > 1".toList, "order by a".toList] after hquery
  obtain rfl : text' = text := (htext (by decide)).trans (by decide)
  have hsince : since = .queryReplaced query :: since' :=
    (show since = (apply [] ([] ++ [query] ++ after)).events by decide).trans
      (congrArg Written.events hempty)
  have hbefore : (apply "select a from t".toList ["a > 1".toList, "order by a".toList]).events
      = [.conditionsDropped "order by a".toList] := by decide
  rw [← hsince] at hempty hrun
  rw [hbefore] at hrun
  exact ⟨hquery, hempty, hrun⟩

/-! ### The last ordering -/

/-- **No `where` survives before the last ordering.** Let the last argument that orders or limits
and is no query be followed by no query. Then the text is `u ++ ordering ++ w`: the part `u` before
that argument has no `where`, also none that reaches out of it, and the part `w` behind it are the
later arguments in order. -/
theorem apply_lastOrdering (sql : Text) (before after : List Text) {ordering : Text}
    (horder : isOrdering ordering = true) (hquery : isQuery ordering = false)
    (hlast : ∀ arg ∈ after, isOrdering arg = true → isQuery arg = true)
    (hafter : ∀ arg ∈ after, isQuery arg = false) :
    ∃ u w : Text,
      (apply sql (before ++ [ordering] ++ after)).sql = u ++ ordering ++ w ∧
      ¬ "where".toList <:+: u ∧
      u ++ ordering ++ w = appended (u ++ ordering) (given after) ∧
      ("where".toList <:+: u ++ ordering ++ w ↔ "where".toList <:+: ordering ++ w) := by
  have hne : cutWord ≠ [] := by decide
  have hspace : ' ' ∉ cutWord := by decide
  have hconditions : ∀ arg ∈ given after, isQuery arg = false ∧ isOrdering arg = false := by
    intro arg hmem
    have hquery := hafter arg (mem_of_mem_given hmem)
    refine ⟨hquery, ?_⟩
    rw [← Bool.not_eq_true]
    intro horder
    exact absurd (hquery.symm.trans (hlast arg (mem_of_mem_given hmem) horder)) Bool.false_ne_true
  -- the ordering leaves a beginning without `where` of the text that it finds, whatever that is
  let found := (given before).foldl applyOne ⟨sql ++ sentinel, []⟩
  obtain ⟨front, hfront, hspaced⟩ := exists_spaced_eq (left found.sql ordering) ordering
  have hfree : ¬ cutWord <:+: front :=
    fun h => not_infix_left horder found.sql (h.trans hfront.isInfix)
  have hsql : (apply sql (before ++ [ordering] ++ after)).sql
      = appended (front ++ [' '] ++ ordering) (given after) := by
    rw [List.append_assoc, List.singleton_append,
      apply_append_cons sql before after (ne_nil_of_isOrdering horder),
      foldl_applyOne_of_conditions _ hconditions, sql_applyOne, hquery, if_neg Bool.false_ne_true,
      hspaced, List.append_assoc, List.singleton_append]
  obtain ⟨w, hw⟩ := isPrefix_appended (front ++ [' '] ++ ordering) (given after)
  refine ⟨front ++ [' '], w, hsql.trans hw.symm, ?_, hw, ?_⟩
  · rw [← cutWord, Text.infix_append_cons_iff hne hspace, List.infix_nil]
    exact not_or.2 ⟨hfree, hne⟩
  · have hparts : front ++ [' '] ++ ordering ++ w = front ++ ' ' :: (ordering ++ w) := by simp
    rw [hparts, ← cutWord, Text.infix_append_cons_iff hne hspace]
    exact or_iff_right hfree

/-- Neither the condition nor the earlier ordering is left, and a later `where` is. -/
theorem apply_lastOrdering_conditions :
    let before := ["b = 'where'".toList, "order by b".toList, "and c".toList]
    let ordering := "limit 1".toList
    let after := [[], "for update where".toList]
    ∃ u w : Text,
      (apply "select a from where".toList (before ++ [ordering] ++ after)).sql
          = u ++ ordering ++ w ∧
      ¬ "where".toList <:+: u ∧
      u ++ ordering ++ w
        = "select a from order by b and c limit 1 for update where".toList := by
  intro before ordering after
  have horder : isOrdering ordering = true := by decide
  have hquery : isQuery ordering = false := by decide
  have hlast : ∀ arg ∈ after, isOrdering arg = true → isQuery arg = true := by decide
  have hafter : ∀ arg ∈ after, isQuery arg = false := by decide
  obtain ⟨u, w, hsql, hfree, -, -⟩ :=
    apply_lastOrdering "select a from where".toList before after horder hquery hlast hafter
  exact ⟨u, w, hsql, hfree, hsql.symm.trans (by decide)⟩

end RecordSql.QueryArgs
