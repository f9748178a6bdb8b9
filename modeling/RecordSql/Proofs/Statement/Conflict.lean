import Mathlib.Data.List.Nodup
import RecordSql.Proofs.Statement.Insert
import RecordSql.Proofs.Statement.Upsert
import RecordSql.Proofs.Text.Parts

/-! # What an upsert sets

The columns of an insert fall into two parts when a row is met: the conflict keys, by which it is
met, and the others, each of which is set once (`updatedColumns`). The auto key is in neither part,
and a key that the entity does not declare takes no column away:
`StatementWriter.upsert_partition`. -/

namespace RecordSql

namespace StatementWriter

variable {w : StatementWriter} {e : Entity} {keys : List Text}

/-! ### Columns: `updatedColumns` -/

/-- No column is set twice, since no two fields have one name. -/
theorem nodup_updatedColumns (hdistinct : e.fieldNames.Nodup) (keys : List Text) :
    (w.updatedColumns e keys).Nodup := by
  rw [updatedColumns, names_retainedFields]
  exact (hdistinct.filter _).filter _

/-- An insert with columns lists them behind the name of the entity, and then a mark for each, in
the sense of `Text.Lists`. -/
theorem exists_insertTemplate_lists (w : StatementWriter)
    (hnames : ∀ name ∈ e.fieldNames, name ≠ []) (hretained : w.retainedFields e ≠ []) :
    ∃ list marks,
      Text.Lists list (((w.retainedFields e).map Field.name).map w.dialect.quoteName) ∧
      Text.Lists marks (w.dialect.placeholders (w.retainedFields e).length) ∧
      ∀ verb, w.insertTemplate verb e = verb ++ w.dialect.quoteName e.name ++ " (".toList ++ list
        ++ ") values(".toList ++ marks ++ ")".toList := by
  have hmarks : w.dialect.placeholders (w.retainedFields e).length ≠ [] := by
    simpa [Dialect.placeholders] using hretained
  rw [List.map_map]
  refine ⟨_, _, Text.lists_commaJoined (mt List.map_eq_nil_iff.1 hretained),
    Text.lists_commaJoined hmarks, fun verb => ?_⟩
  exact insertTemplate_of_columns (fun f hf => hnames f.name (List.mem_map_of_mem hf)) hretained verb

/-- The columns of an insert that has some are listed behind the name of the entity. -/
theorem exists_insert_list (w : StatementWriter) (hnames : ∀ name ∈ e.fieldNames, name ≠ [])
    (hretained : w.retainedFields e ≠ []) :
    ∃ list marks,
      Text.Lists list (((w.retainedFields e).map Field.name).map w.dialect.quoteName) ∧
      (w.insert e).sql = "insert into ".toList ++ w.dialect.quoteName e.name ++ " (".toList ++ list
        ++ ") values(".toList ++ marks ++ ")".toList := by
  obtain ⟨list, marks, hlist, -, htemplate⟩ := w.exists_insertTemplate_lists hnames hretained
  exact ⟨list, marks, hlist, htemplate insertVerb⟩

/-! ### The clause: `conflictClause` -/

/-- The clause of MySQL has no keys, and without columns to set falls back on the first. -/
theorem exists_conflictClause_mySql (keys columns : List Text) :
    let marked := fun name : Text => Dialect.nameMark :: name ++ [Dialect.nameMark]
    (∀ key rest, keys = key :: rest → columns = [] →
      conflictClause .mySql keys columns
        = " on duplicate key update ".toList ++ marked key ++ "=".toList ++ marked key) ∧
    (columns ≠ [] → ∃ list,
      Text.Lists list
        (columns.map fun name => marked name ++ "=values(".toList ++ marked name ++ ")".toList) ∧
      conflictClause .mySql keys columns = " on duplicate key update ".toList ++ list) := by
  intro marked
  have hquote : Dialect.mySql.quoteName = marked := rfl
  have hassign : assignment .mySql
      = fun name => marked name ++ "=values(".toList ++ marked name ++ ")".toList := rfl
  have hclause : conflictClause .mySql keys columns
      = " on duplicate key update ".toList
        ++ if columns.isEmpty then marked (keys.headD []) ++ "=".toList ++ marked (keys.headD [])
          else Text.commaJoined (columns.map (assignment .mySql)) := by
    unfold conflictClause
    simp only [hquote]
  rw [hclause, hassign]
  refine ⟨?_, fun hset => ⟨_, Text.lists_commaJoined (mt List.map_eq_nil_iff.1 hset), ?_⟩⟩
  · -- nothing to set: the first key is assigned to itself
    rintro key rest rfl rfl
    rw [List.isEmpty_nil, if_pos rfl, List.headD_cons]
    simp only [List.append_assoc]
  · rw [List.isEmpty_eq_false_iff.2 hset, if_neg Bool.false_ne_true]

/-- The clause of the others lists the keys, and has names without marks around them. -/
theorem exists_conflictClause_of_ne {d : Dialect} (hd : d ≠ .mySql) (hkeys : keys ≠ [])
    (columns : List Text) :
    ∃ target, Text.Lists target keys ∧
      (columns = [] →
        conflictClause d keys columns
          = " on conflict (".toList ++ target ++ ") do nothing".toList) ∧
      (columns ≠ [] → ∃ list,
        Text.Lists list (columns.map fun name => name ++ "=excluded.".toList ++ name) ∧
        conflictClause d keys columns
          = " on conflict (".toList ++ target ++ ") do update set ".toList ++ list) := by
  -- the other dialects write a name as it is
  have hquote : d.quoteName = id := by
    funext name
    cases d with
    | mySql => exact absurd rfl hd
    | sqlite | postgres | unknown => rfl
  have hassign : assignment d = fun name => name ++ "=excluded.".toList ++ name := by
    funext name
    cases d with
    | mySql => exact absurd rfl hd
    | sqlite | postgres | unknown => rfl
  have hclause : conflictClause d keys columns
      = " on conflict (".toList ++ Text.commaJoined keys ++ ")".toList
        ++ if columns.isEmpty then " do nothing".toList
          else " do update set ".toList
            ++ Text.commaJoined (columns.map fun name => name ++ "=excluded.".toList ++ name) := by
    unfold conflictClause
    cases d with
    | mySql => exact absurd rfl hd
    | sqlite | postgres | unknown => simp only [hquote, hassign, List.map_id]
  -- the bracket stands outside the case split in `hclause`
  have hnothing : ") do nothing".toList = ")".toList ++ " do nothing".toList := by decide
  have hset : ") do update set ".toList = ")".toList ++ " do update set ".toList := by decide
  rw [hclause, hnothing, hset]
  refine ⟨_, Text.lists_commaJoined hkeys, ?_,
    fun hsome => ⟨_, Text.lists_commaJoined (mt List.map_eq_nil_iff.1 hsome), ?_⟩⟩
  · rintro rfl
    rw [List.isEmpty_nil, if_pos rfl, List.append_assoc]
  · rw [List.isEmpty_eq_false_iff.2 hsome, if_neg Bool.false_ne_true]
    simp only [List.append_assoc]

/-- Without conflict keys an upsert is the insert. -/
theorem upsertTemplate_of_nil (hkeys : w.registry.conflictKeys e.name = []) :
    w.upsertTemplate e = w.insertTemplate insertVerb e := by
  have htail : w.conflictTail e = [] := if_pos (List.isEmpty_iff.2 hkeys)
  rw [upsertTemplate_eq, htail, List.append_nil]

/-- With conflict keys the `conflictClause` stands behind the insert. -/
theorem upsertTemplate_of_ne_nil (hkeys : w.registry.conflictKeys e.name ≠ []) :
    w.upsertTemplate e = w.insertTemplate insertVerb e ++ conflictClause w.dialect
      (w.registry.conflictKeys e.name) (w.updatedColumns e (w.registry.conflictKeys e.name)) := by
  have htail : w.conflictTail e = conflictClause w.dialect (w.registry.conflictKeys e.name)
      (w.updatedColumns e (w.registry.conflictKeys e.name)) := if_neg (mt List.isEmpty_iff.1 hkeys)
  rw [upsertTemplate_eq, htail]

/-! ### Upserts -/

/-- **An upsert parts the columns.** Let the fields of an entity have names of their own that are
not empty, and let the columns be those of the insert, which are the fields other than the auto key.
Without conflict keys an upsert is the insert. Otherwise a clause stands behind it, which lists the
keys as they are registered and sets the columns that are no keys in declared order; without such a
column it does nothing, or in MySQL, whose clause has no keys, sets the first key to itself. The
insert lists its columns, if it has any. So a column is either a conflict key or set once, and
neither a conflict key nor the auto key is set to a value of the row. -/
theorem upsert_partition (w : StatementWriter) {e : Entity}
    (hnames : ∀ name ∈ e.fieldNames, name ≠ []) (hdistinct : e.fieldNames.Nodup) :
    let keys := w.registry.conflictKeys e.name
    let columns := e.fieldNames.filter fun name => w.registry.autoKey? e.name != some name
    let updated := columns.filter fun name => !keys.contains name
    let marked := fun name : Text => Dialect.nameMark :: name ++ [Dialect.nameMark]
    let insert := (w.insert e).sql
    let upsert := (w.upsert e).sql
    (keys = [] → upsert = insert) ∧
    (keys ≠ [] → ∃ clause, upsert = insert ++ clause ∧
      (w.dialect ≠ .mySql → ∃ target, Text.Lists target keys ∧
        (updated = [] →
          clause = " on conflict (".toList ++ target ++ ") do nothing".toList) ∧
        (updated ≠ [] → ∃ list,
          Text.Lists list (updated.map fun name => name ++ "=excluded.".toList ++ name) ∧
          clause = " on conflict (".toList ++ target ++ ") do update set ".toList ++ list)) ∧
      (w.dialect = .mySql →
        (∀ key rest, keys = key :: rest → updated = [] →
          clause
            = " on duplicate key update ".toList ++ marked key ++ "=".toList ++ marked key) ∧
        (updated ≠ [] → ∃ list,
          Text.Lists list (updated.map fun name =>
            marked name ++ "=values(".toList ++ marked name ++ ")".toList) ∧
          clause = " on duplicate key update ".toList ++ list))) ∧
    (columns ≠ [] → ∃ list marks, Text.Lists list (columns.map w.dialect.quoteName) ∧
      insert = "insert into ".toList ++ w.dialect.quoteName e.name ++ " (".toList ++ list
        ++ ") values(".toList ++ marks ++ ")".toList) ∧
    (∀ name ∈ columns, name ∈ keys ∧ name ∉ updated ∨ name ∉ keys ∧ updated.count name = 1) ∧
    (∀ key ∈ keys, key ∉ updated) ∧
    ∀ key ∈ w.registry.autoKey? e.name, key ∉ updated := by
  intro keys columns updated marked insert upsert
  have hcolumns : (w.retainedFields e).map Field.name = columns := w.names_retainedFields e
  have hupdated : w.updatedColumns e keys = updated := by
    rw [updatedColumns, hcolumns]
  have hapart : ∀ key ∈ keys, key ∉ updated := by
    rw [← hupdated]
    exact fun key hkey hmem => (mem_updatedColumns.1 hmem).2.2 hkey
  refine ⟨upsertTemplate_of_nil, fun hsome => ?_, fun hsome => ?_, fun name hname => ?_, hapart, ?_⟩
  · -- with keys there is a clause, MySQL's or that of the other dialects
    rw [← hupdated]
    refine ⟨_, upsertTemplate_of_ne_nil hsome, fun hdialect => ?_, fun hdialect => ?_⟩
    · exact exists_conflictClause_of_ne hdialect hsome _
    · rw [hdialect]
      exact exists_conflictClause_mySql keys _
  · rw [← hcolumns] at hsome ⊢
    exact w.exists_insert_list hnames (mt List.map_eq_nil_iff.2 hsome)
  · by_cases hkey : name ∈ keys
    · exact .inl ⟨hkey, hapart name hkey⟩
    · obtain ⟨hfield, hauto⟩ := List.mem_filter.1 hname
      have hmem : name ∈ w.updatedColumns e keys :=
        mem_updatedColumns.2 ⟨hfield, bne_iff_ne.1 hauto, hkey⟩
      rw [← hupdated]
      exact .inr ⟨hkey, List.count_eq_one_of_mem (nodup_updatedColumns hdistinct keys) hmem⟩
  · rw [← hupdated]
    exact fun key hkey hmem => (mem_updatedColumns.1 hmem).2.1 hkey

/-- A key list that another entity of the name has registered: the key that this one does not
declare takes no column away, and the auto key is not set. PostgreSQL lists the keys; MySQL does not,
and quotes the names. -/
theorem upsert_partition_user :
    let registry : KeyRegistry := ⟨[("User".toList, "id".toList)],
      [("User".toList, ["email".toList, "tenant".toList])]⟩
    let w : StatementWriter := ⟨registry, Config.ofDialect .postgres⟩
    let w' : StatementWriter := ⟨registry, Config.ofDialect .mySql⟩
    let e : Entity := ⟨"User".toList, "User".toList, [⟨"id".toList, .int64, false⟩,
      ⟨"email".toList, .text, false⟩, ⟨"name".toList, .text, false⟩]⟩
    (w.upsert e).sql = "insert into User (email,name) values($1,$2)".toList
        ++ " on conflict (email,tenant) do update set name=excluded.name".toList ∧
      (w'.upsert e).sql = "insert into `User` (`email`,`name`) values(?,?)".toList
        ++ " on duplicate key update `name`=values(`name`)".toList ∧
      "email".toList ∉ w.updatedColumns e ["email".toList, "tenant".toList] := by
  intro registry w w' e
  have hnames : ∀ name ∈ e.fieldNames, name ≠ [] := by decide
  have hdistinct : e.fieldNames.Nodup := by decide
  obtain ⟨-, hsome, -, -, hkeys, -⟩ := upsert_partition w hnames hdistinct
  obtain ⟨-, hsome', -⟩ := upsert_partition w' hnames hdistinct
  obtain ⟨clause, hsql, hothers, -⟩ := hsome (by decide)
  obtain ⟨target, htarget, -, hset⟩ := hothers (by decide)
  obtain ⟨list, hlist, rfl⟩ := hset (by decide)
  rw [htarget.eq_commaJoined, hlist.eq_commaJoined] at hsql
  obtain ⟨clause', hsql', -, hmySql⟩ := hsome' (by decide)
  obtain ⟨list', hlist', rfl⟩ := (hmySql rfl).2 (by decide)
  rw [hlist'.eq_commaJoined] at hsql'
  exact ⟨hsql.trans (by decide), hsql'.trans (by decide), hkeys _ (by decide)⟩

end StatementWriter

end RecordSql
