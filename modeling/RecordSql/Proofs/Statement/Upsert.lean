import RecordSql.Proofs.Binder.Framing
import RecordSql.Statement.Insert

/-! # Binding upserts and replacing inserts

An upsert is an insert with a conflict clause behind it, and a replacing insert is one with another
verb. Neither the clause nor a verb has marks (`unmarked_conflictClause`), so both templates take
the values of the insert, and the answers differ from that of the insert by the clause or the verb
alone. -/

namespace RecordSql.StatementWriter

open Template

/-! ### The conflict clause -/

/-- Of two texts without marks either has none. -/
theorem unmarked_ite {c : Prop} [Decidable c] {a b : Text} (ha : Unmarked a) (hb : Unmarked b) :
    Unmarked (if c then a else b) := by
  split
  · exact ha
  · exact hb

/-- A column set to the value of the row has no marks if its name has none. -/
theorem unmarked_assignment (d : Dialect) {name : Text} (h : Unmarked name) :
    Unmarked (assignment d name) := by
  have hname : Unmarked (d.quoteName name) := unmarked_quoteName d h
  cases d with
  | mySql =>
    change Unmarked (Dialect.mySql.quoteName name ++ "=values(".toList
      ++ Dialect.mySql.quoteName name ++ ")".toList)
    simp only [unmarked_append]
    exact ⟨⟨⟨hname, by decide⟩, hname⟩, by decide⟩
  | sqlite | postgres | unknown =>
    rw [assignment, unmarked_append, unmarked_append]
    exact ⟨⟨hname, by decide⟩, hname⟩

/-- Assignments of columns without marks have none. -/
theorem unmarked_assignments (d : Dialect) {columns : List Text}
    (h : ∀ name ∈ columns, Unmarked name) :
    Unmarked (Text.commaJoined (columns.map (assignment d))) := by
  apply unmarked_commaJoined
  intro t ht
  obtain ⟨name, hname, rfl⟩ := List.mem_map.1 ht
  exact unmarked_assignment d (h name hname)

/-- **The conflict clause has no marks** when neither keys nor columns have, in any dialect. -/
theorem unmarked_conflictClause (d : Dialect) {keys columns : List Text}
    (hkeys : ∀ key ∈ keys, Unmarked key) (hcolumns : ∀ name ∈ columns, Unmarked name) :
    Unmarked (conflictClause d keys columns) := by
  have hassignments : Unmarked (Text.commaJoined (columns.map (assignment d))) :=
    unmarked_assignments d hcolumns
  have htarget : Unmarked (Text.commaJoined (keys.map d.quoteName)) := by
    apply unmarked_commaJoined
    intro t ht
    obtain ⟨key, hkey, rfl⟩ := List.mem_map.1 ht
    exact unmarked_quoteName d (hkeys key hkey)
  -- the first key stands for the row when there is nothing to set
  have hfirst : Unmarked (d.quoteName (keys.headD [])) := by
    apply unmarked_quoteName
    cases keys with
    | nil => decide
    | cons key rest => exact hkeys key List.mem_cons_self
  unfold conflictClause
  cases d with
  | mySql =>
    rw [unmarked_append]
    refine ⟨by decide, unmarked_ite ?_ hassignments⟩
    rw [unmarked_append, unmarked_append]
    exact ⟨⟨hfirst, by decide⟩, hfirst⟩
  | sqlite | postgres | unknown =>
    rw [unmarked_append, unmarked_append, unmarked_append]
    refine ⟨⟨⟨by decide, htarget⟩, by decide⟩, unmarked_ite (by decide) ?_⟩
    rw [unmarked_append]
    exact ⟨by decide, hassignments⟩

/-- The conflict clause begins with a space, so the last mark of the insert does not grow. -/
theorem not_beginsWithDigit_conflictClause (d : Dialect) (keys columns : List Text) :
    ¬ BeginsWithDigit (conflictClause d keys columns) := by
  rintro ⟨c, hhead, hdigit⟩
  have hspace : (conflictClause d keys columns).head? = some ' ' := by
    cases d <;> rfl
  rw [hspace] at hhead
  obtain rfl := Option.some.inj hhead
  exact absurd hdigit (by decide)

/-- What an upsert has behind the insert: the `conflictClause`, or nothing without conflict keys. -/
def conflictTail (w : StatementWriter) (e : Entity) : Text :=
  let keys := w.registry.conflictKeys e.name
  if keys.isEmpty then [] else conflictClause w.dialect keys (w.updatedColumns e keys)

theorem upsertTemplate_eq (w : StatementWriter) (e : Entity) :
    w.upsertTemplate e = w.insertTemplate insertVerb e ++ w.conflictTail e := rfl

/-- The names of the columns of an insert: those of the fields other than the auto key. -/
theorem names_retainedFields (w : StatementWriter) (e : Entity) :
    (w.retainedFields e).map Field.name
      = e.fieldNames.filter fun name => w.registry.autoKey? e.name != some name := by
  rw [Entity.fieldNames, List.filter_map]
  rfl

/-- A column is set if it is a field and neither the auto key nor among `keys`. -/
theorem mem_updatedColumns {w : StatementWriter} {e : Entity} {keys : List Text} {name : Text} :
    name ∈ w.updatedColumns e keys
      ↔ name ∈ e.fieldNames ∧ w.registry.autoKey? e.name ≠ some name ∧ name ∉ keys := by
  rw [updatedColumns, names_retainedFields, List.mem_filter, List.mem_filter, bne_iff_ne,
    Bool.not_eq_true', ← Bool.not_eq_true, List.contains_iff_mem, and_assoc]

theorem unmarked_conflictTail {w : StatementWriter} {e : Entity}
    (hfields : ∀ name ∈ e.fieldNames, Unmarked name)
    (hkeys : ∀ key ∈ w.registry.conflictKeys e.name, Unmarked key) : Unmarked (w.conflictTail e) := by
  refine unmarked_ite (by decide) (unmarked_conflictClause _ hkeys ?_)
  intro name hname
  exact hfields name (mem_updatedColumns.1 hname).1

theorem not_beginsWithDigit_conflictTail (w : StatementWriter) (e : Entity) :
    ¬ BeginsWithDigit (w.conflictTail e) := by
  rw [conflictTail]
  split
  · exact not_beginsWithDigit_nil
  · exact not_beginsWithDigit_conflictClause _ _ _

/-! ### Templates of one body: `insertBody` -/

/-- What follows the verb of an insert: the template with the empty verb. -/
def insertBody (w : StatementWriter) (e : Entity) : Text := w.insertTemplate [] e

/-- Inserts differ by their verb alone: `verb ++ w.insertBody e`. -/
theorem insertTemplate_eq_append (w : StatementWriter) (verb : Text) (e : Entity) :
    w.insertTemplate verb e = verb ++ w.insertBody e := by
  rw [insertBody, insertTemplate, insertTemplate]
  simp only [List.append_assoc, List.nil_append]

/-- A bound insert is the bound body behind the verb, by `Binder.bind_prepend`. -/
theorem bind_insertTemplate (w : StatementWriter) {verb : Text} (hverb : Unmarked verb) (e : Entity)
    (values : List Value) :
    w.binder.bind (w.insertTemplate verb e) values
      = (w.binder.bind (w.insertBody e) values).map (verb ++ ·) := by
  rw [insertTemplate_eq_append, Binder.bind_prepend _ hverb]

/-- PostgreSQL has no replacing insert. -/
theorem replace_of_postgres {w : StatementWriter} (h : w.dialect = .postgres) (e : Entity) :
    w.replace e = w.upsert e := by
  rw [replace, h]

/-- The other dialects have a replacing insert, with the verb `replaceVerb`. -/
theorem sql_replace {w : StatementWriter} (h : w.dialect ≠ .postgres) (e : Entity) :
    (w.replace e).sql = w.insertTemplate replaceVerb e := by
  rw [replace]
  cases hdialect : w.dialect with
  | postgres => exact absurd hdialect h
  | mySql | sqlite | unknown => rfl

/-- **Binding an upsert and a replacing insert.** The values of an insert go into the template of
the upsert too, and the answer is that of the insert with the conflict clause behind it, or the same
error. They go into the template of the replacing insert, and the answer is that of the insert with
`replace into ` for `insert into `, or the same error; for PostgreSQL that template is the upsert. -/
theorem bind_upsert_replace (w : StatementWriter) (e : Entity) (row : List Value)
    (hfields : ∀ name ∈ e.fieldNames, Unmarked name)
    (hkeys : ∀ key ∈ w.registry.conflictKeys e.name, Unmarked key) :
    let bound := fun template => w.binder.bind template (w.insertValues e row)
    (∃ clause, (w.upsert e).sql = (w.insert e).sql ++ clause ∧
      bound (w.upsert e).sql = (w.boundInsert e row).map (· ++ clause)) ∧
    (w.dialect ≠ .postgres → ∃ outcome : Except SqlError Text,
      w.boundInsert e row = outcome.map ("insert into ".toList ++ ·) ∧
      bound (w.replace e).sql = outcome.map ("replace into ".toList ++ ·)) ∧
    (w.dialect = .postgres → bound (w.replace e).sql = bound (w.upsert e).sql) := by
  intro bound
  refine ⟨⟨w.conflictTail e, upsertTemplate_eq w e, ?_⟩, ?_, ?_⟩
  · -- the clause has no marks, and does not prolong the number of the last one
    have htail : Unmarked (w.conflictTail e) := unmarked_conflictTail hfields hkeys
    exact Binder.bind_append _ _ htail (w.not_beginsWithDigit_conflictTail e) _
  · intro hdialect
    have hinsert : w.boundInsert e row = _ := w.bind_insertTemplate (by decide) e _
    refine ⟨_, hinsert, ?_⟩
    change w.binder.bind (w.replace e).sql _ = _
    rw [sql_replace hdialect, bind_insertTemplate w (by decide)]
    rfl
  · intro hdialect
    change w.binder.bind (w.replace e).sql _ = w.binder.bind (w.upsert e).sql _
    rw [replace_of_postgres hdialect]

/-- A key list that leaves one column to set, and a value that looks like a mark: the upsert of
PostgreSQL and the replacing insert of MySQL, whose names are quoted. -/
theorem bind_upsert_replace_user :
    let registry : KeyRegistry :=
      ⟨[("User".toList, "id".toList)], [("User".toList, ["name".toList])]⟩
    let w : StatementWriter := ⟨registry, Config.ofDialect .postgres⟩
    let w' : StatementWriter := ⟨registry, Config.ofDialect .mySql⟩
    let e : Entity := ⟨"User".toList, "User".toList,
      [⟨"id".toList, .int64, false⟩, ⟨"name".toList, .text, false⟩, ⟨"age".toList, .int32, false⟩]⟩
    let row : List Value := [.int 9, .text "$2?".toList, .int 30]
    w.binder.bind (w.upsert e).sql (w.insertValues e row)
        = .ok ("insert into User (name,age) values('$2?',30)".toList
          ++ " on conflict (name) do update set age=excluded.age".toList) ∧
      w'.binder.bind (w'.replace e).sql (w'.insertValues e row)
        = .ok "replace into `User` (`name`,`age`) values('$2?',30)".toList := by
  intro registry w w' e row
  have hfields : ∀ name ∈ e.fieldNames, Unmarked name := by decide
  have hkeys : ∀ key ∈ registry.conflictKeys e.name, Unmarked key := by decide
  obtain ⟨⟨clause, hsql, hbound⟩, -, -⟩ := bind_upsert_replace w e row hfields hkeys
  obtain ⟨-, hreplace, -⟩ := bind_upsert_replace w' e row hfields hkeys
  have hclause : clause = " on conflict (name) do update set age=excluded.age".toList :=
    List.append_cancel_left (hsql.symm.trans (by decide))
  have hinsert : w.boundInsert e row
      = .ok "insert into User (name,age) values('$2?',30)".toList := by
    decide +kernel
  have hinsert' : w'.boundInsert e row
      = .ok ("insert into ".toList ++ "`User` (`name`,`age`) values('$2?',30)".toList) := by
    decide +kernel
  obtain ⟨outcome, houtcome, hreplaced⟩ := hreplace (by decide)
  rw [hclause, hinsert] at hbound
  refine ⟨hbound, hreplaced.trans ?_⟩
  -- both answers go on alike behind their verbs
  rw [hinsert'] at houtcome
  cases outcome with
  | error err => cases houtcome
  | ok body =>
    rw [← List.append_cancel_left (Except.ok.inj houtcome)]
    rfl

end RecordSql.StatementWriter
