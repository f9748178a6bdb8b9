import RecordSql.Proofs.KeyRegistry.Run
import RecordSql.Proofs.Statement.Conflict

/-! # The columns of an insert

An insert lists every field but one: the auto key registered under the name of its entity. Behind
the columns stand as many marks, which PostgreSQL numbers from one on. What has been registered
under other names plays no part, whatever the fields are called:
`StatementWriter.insert_columns`. -/

namespace RecordSql

namespace KeyRegistry

variable {name : Text}

/-- Calls under other names do not decide who comes first under `name`. -/
theorem firstValid?_filter (kind : KeyKind) (name : Text) (requests : List Registration) :
    firstValid? kind name (requests.filter fun q => q.entity.name = name)
      = firstValid? kind name requests := by
  rw [firstValid?, firstValid?, List.find?_filter]
  congr 1
  funext q
  by_cases hname : q.entity.name = name <;> simp [hname]

/-- Calls under other names do not change the auto key of `name`. -/
theorem autoKey?_run_filter (name : Text) (requests : List Registration) :
    (empty.run (requests.filter fun q => q.entity.name = name)).autoKey? name
      = (empty.run requests).autoKey? name := by
  rw [autoKey?_run, autoKey?_run, firstValid?_filter]

end KeyRegistry

namespace Dialect

/-- A name as MySQL writes it stands between two `nameMark`s, and as the others write it stands
alone. -/
theorem quoteName_eq_ite (d : Dialect) (name : Text) :
    d.quoteName name = if d = .mySql then nameMark :: name ++ [nameMark] else name := by
  cases d <;> rfl

/-- The marks of PostgreSQL count from one on: `$1`, …, `$count`. -/
theorem placeholders_postgres (count : Nat) :
    postgres.placeholders count = (List.range' 1 count).map fun i => '$' :: Text.ofNat i := by
  rw [List.range'_eq_map_range, List.map_map, placeholders]
  refine List.map_congr_left fun i _ => ?_
  show '$' :: Text.ofNat (i + 1) = '$' :: Text.ofNat (1 + i)
  rw [Nat.add_comm]

/-- The marks of the others are question marks, all alike. -/
theorem placeholders_of_ne {d : Dialect} (hd : d ≠ .postgres) (count : Nat) :
    d.placeholders count = List.replicate count ['?'] := by
  have hmark : ∀ i, d.placeholder i = ['?'] := by
    intro i
    cases d with
    | postgres => exact absurd rfl hd
    | mySql | sqlite | unknown => rfl
  simp [placeholders, hmark, List.map_const']

end Dialect

namespace StatementWriter

variable {w w' : StatementWriter} {e : Entity}

/-- Without columns an insert ends in the words of `generatedOnly`. -/
theorem insertTemplate_of_no_columns (hnone : w.retainedFields e = []) (verb : Text) :
    w.insertTemplate verb e = verb ++ w.dialect.quoteName e.name ++ generatedOnly w.dialect := by
  simp [insertTemplate, hnone, Text.commaJoined]

/-- **An insert in full**: behind the name of the entity it lists its columns and a mark for each,
or has the words for generated values. The `body` is one for every verb. -/
theorem exists_insertTemplate_body (w : StatementWriter)
    (hnames : ∀ name ∈ e.fieldNames, name ≠ []) :
    let columns := (w.retainedFields e).map Field.name
    ∃ body, (∀ verb, w.insertTemplate verb e = verb ++ w.dialect.quoteName e.name ++ body) ∧
      (columns = [] → body = generatedOnly w.dialect) ∧
      (columns ≠ [] → ∃ list marks, Text.Lists list (columns.map w.dialect.quoteName) ∧
        Text.Lists marks (w.dialect.placeholders columns.length) ∧
        body = " (".toList ++ list ++ ") values(".toList ++ marks ++ ")".toList) := by
  intro columns
  by_cases hnone : w.retainedFields e = []
  · -- no column is left, and the body is `generatedOnly`
    have hcolumns : columns = [] := List.map_eq_nil_iff.2 hnone
    exact ⟨_, insertTemplate_of_no_columns hnone, fun _ => rfl, fun hsome => absurd hcolumns hsome⟩
  · have hcolumns : columns ≠ [] := mt List.map_eq_nil_iff.1 hnone
    obtain ⟨list, marks, hlist, hmarks, htemplate⟩ := w.exists_insertTemplate_lists hnames hnone
    refine ⟨_, fun verb => ?_, fun hnil => absurd hnil hcolumns,
      fun _ => ⟨list, marks, hlist, ?_, rfl⟩⟩
    · rw [htemplate verb]
      simp only [List.append_assoc]
    · rwa [List.length_map]

/-- Inserts of writers that agree on the dialect and on the auto key of the entity are the same. -/
theorem insertTemplate_congr (hdialect : w.dialect = w'.dialect)
    (hkey : w.registry.autoKey? e.name = w'.registry.autoKey? e.name) (verb : Text) :
    w.insertTemplate verb e = w'.insertTemplate verb e := by
  have hretained : w.retainedFields e = w'.retainedFields e := by
    refine List.filter_congr fun f _ => ?_
    rw [retains, retains, KeyRegistry.isAutoKey, KeyRegistry.isAutoKey, hkey]
  rw [insertTemplate, insertTemplate, hretained, hdialect]

/-- **Inserts list the columns.** After any run of registrations the columns of an entity with named
fields are its fields in declared order, without the auto key: the field of the first valid call for
one under the entity's name, made by whichever entity of the name. An insert lists the columns and
as many marks, which PostgreSQL numbers without a gap; with no column it has the words of the
dialect for generated values. Where there is a replacing insert, it differs by its verb alone. The
calls under other names might as well not have been made. -/
theorem insert_columns (requests : List Registration) (config : Config) {e : Entity}
    (hnames : ∀ name ∈ e.fieldNames, name ≠ []) :
    let w : StatementWriter := ⟨KeyRegistry.empty.run requests, config⟩
    let key := (KeyRegistry.firstValid? .auto e.name requests).bind fun q => q.fields.head?
    let columns := e.fieldNames.filter fun name => key != some name
    let quoted := fun name : Text =>
      if config.dialect = .mySql then Dialect.nameMark :: name ++ [Dialect.nameMark] else name
    let marks :=
      if config.dialect = .postgres then
        (List.range' 1 columns.length).map fun i => '$' :: Text.ofNat i
      else List.replicate columns.length ['?']
    (∃ body, (w.insert e).sql = "insert into ".toList ++ quoted e.name ++ body ∧
      (config.dialect ≠ .postgres →
        (w.replace e).sql = "replace into ".toList ++ quoted e.name ++ body) ∧
      (columns ≠ [] → ∃ list places, Text.Lists list (columns.map quoted) ∧
        Text.Lists places marks ∧
        body = " (".toList ++ list ++ ") values(".toList ++ places ++ ")".toList) ∧
      (columns = [] → body =
        if config.dialect = .mySql then " () values()".toList else " default values".toList)) ∧
    (w.registry.autoKey? e.name = key ∧ ∀ field ∈ key, field ∉ columns) ∧
    let own : StatementWriter :=
      ⟨KeyRegistry.empty.run (requests.filter fun q => q.entity.name = e.name), config⟩
    (own.insert e).sql = (w.insert e).sql ∧
      (config.dialect ≠ .postgres → (own.replace e).sql = (w.replace e).sql) := by
  intro w key columns quoted marks
  have hkey : w.registry.autoKey? e.name = key := KeyRegistry.autoKey?_run requests e.name
  have hcolumns : (w.retainedFields e).map Field.name = columns := by
    rw [w.names_retainedFields, hkey]
  have hquoted : w.dialect.quoteName = quoted := by
    funext name
    exact Dialect.quoteName_eq_ite _ name
  have hmarks : w.dialect.placeholders columns.length = marks := by
    show config.dialect.placeholders columns.length = _
    by_cases hpostgres : config.dialect = .postgres
    · simp only [marks, if_pos hpostgres, hpostgres, Dialect.placeholders_postgres]
    · simp only [marks, if_neg hpostgres, Dialect.placeholders_of_ne hpostgres]
  obtain ⟨body, htemplate, hnone, hsome⟩ := w.exists_insertTemplate_body hnames
  rw [hcolumns, hquoted, hmarks] at hsome
  rw [hcolumns] at hnone
  rw [hquoted] at htemplate
  refine ⟨⟨body, htemplate insertVerb, fun hdialect => ?_, hsome, fun hnil => ?_⟩,
    ⟨hkey, fun field hfield hmem => ?_⟩, ?_⟩
  · exact (sql_replace (w := w) hdialect e).trans (htemplate replaceVerb)
  · rw [hnone hnil]
    show generatedOnly config.dialect = _
    cases config.dialect <;> rfl
  · -- the auto key is what the columns are filtered by
    simp only [columns, List.mem_filter, bne_iff_ne, ne_eq] at hmem
    exact hmem.2 hfield
  · intro own
    have hsame : ∀ verb, own.insertTemplate verb e = w.insertTemplate verb e :=
      insertTemplate_congr rfl (KeyRegistry.autoKey?_run_filter e.name requests)
    refine ⟨hsame insertVerb, fun hdialect => ?_⟩
    rw [sql_replace (w := own) hdialect, sql_replace (w := w) hdialect]
    exact hsame replaceVerb

/-- An auto key that another entity of the name has registered and one of the same field under another
name: the first takes its column away, the second none. PostgreSQL numbers the marks; MySQL quotes
the names and has a replacing insert. -/
theorem insert_columns_users :
    let user : Entity := ⟨"UserRow".toList, "users".toList,
      [⟨"id".toList, .int64, false⟩, ⟨"age".toList, .int32, false⟩]⟩
    let summary : Entity := ⟨"UserSummary".toList, "users".toList,
      [⟨"age".toList, .int32, false⟩, ⟨"name".toList, .text, false⟩, ⟨"id".toList, .int64, false⟩]⟩
    let other : Entity := ⟨"Person".toList, "people".toList, [⟨"age".toList, .int32, false⟩]⟩
    let requests : List Registration := [.autoKey other "age".toList,
      .autoKey user "email".toList, .autoKey user "id".toList]
    let w : StatementWriter := ⟨KeyRegistry.empty.run requests, Config.ofDialect .postgres⟩
    let w' : StatementWriter := ⟨KeyRegistry.empty.run requests, Config.ofDialect .mySql⟩
    (w.insert summary).sql = "insert into users (age,name) values($1,$2)".toList ∧
      (w'.insert summary).sql = "insert into `users` (`age`,`name`) values(?,?)".toList ∧
      (w'.replace summary).sql = "replace into `users` (`age`,`name`) values(?,?)".toList := by
  intro user summary other requests w w'
  have hnames : ∀ name ∈ summary.fieldNames, name ≠ [] := by decide
  obtain ⟨⟨body, hinsert, -, hsome, -⟩, -, -⟩ :=
    insert_columns requests (Config.ofDialect .postgres) hnames
  obtain ⟨list, places, hlist, hplaces, rfl⟩ := hsome (by decide)
  rw [hlist.eq_commaJoined, hplaces.eq_commaJoined] at hinsert
  obtain ⟨⟨body', hinsert', hreplace', hsome', -⟩, -, -⟩ :=
    insert_columns requests (Config.ofDialect .mySql) hnames
  obtain ⟨list', places', hlist', hplaces', rfl⟩ := hsome' (by decide)
  rw [hlist'.eq_commaJoined, hplaces'.eq_commaJoined] at hinsert' hreplace'
  exact ⟨hinsert.trans (by decide), hinsert'.trans (by decide),
    (hreplace' (by decide)).trans (by decide)⟩

end StatementWriter

end RecordSql
