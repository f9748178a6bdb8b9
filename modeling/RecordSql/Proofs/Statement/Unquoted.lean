import RecordSql.Proofs.ColumnCache.Sharing
import RecordSql.Proofs.Statement.Insert
import RecordSql.Proofs.Statement.Query
import RecordSql.Proofs.Statement.Upsert

/-! # Statements without name marks

MySQL puts names between marks, and SQLite does not. Without the marks (`Text.unquoted`) the
statements are the same: arguments find the same words to cut at, since no such word is in a name or
reaches over a mark, and they are joined with the same spaces. -/

namespace RecordSql

namespace Text

/-! ### Texts without name marks: `Text.unquoted` -/

/-- The text without the marks around names: every `nameMark` is taken out. -/
def unquoted (text : Text) : Text := text.filter (· != Dialect.nameMark)

@[simp] theorem unquoted_append (a b : Text) : unquoted (a ++ b) = unquoted a ++ unquoted b :=
  List.filter_append ..

/-- A text that has no marks stays. -/
theorem unquoted_of_not_mem {text : Text} (h : Dialect.nameMark ∉ text) : unquoted text = text := by
  rw [unquoted, List.filter_eq_self]
  intro c hc
  rw [bne_iff_ne]
  exact fun heq => h (heq ▸ hc)

/-- `unquoted` goes through `commaJoined`: a comma is no mark. -/
theorem unquoted_commaJoined (texts : List Text) :
    unquoted (commaJoined texts) = commaJoined (texts.map unquoted) := by
  rw [commaJoined, commaJoined]
  induction texts with
  | nil => rfl
  | cons t rest ih =>
    cases rest with
    | nil => rfl
    | cons u rest =>
      rw [joined_cons_cons, unquoted_append, unquoted_append, ih]
      rfl

end Text

/-- The answer whose text is without the marks around names; literals and errors stay. -/
def Answer.unquoted : Answer → Answer
  | statement sql => statement sql.unquoted
  | columns list => columns list.unquoted
  | literals texts => literals texts
  | failure error => failure error

namespace Dialect

/-- A quoted name is `name` between two marks, so that `unquoted` gives it back. -/
theorem unquoted_quoteName (d : Dialect) {name : Text} (h : nameMark ∉ name) :
    (d.quoteName name).unquoted = name := by
  have hname := Text.unquoted_of_not_mem h
  rw [quoteName]
  split
  · rw [← List.singleton_append, List.append_assoc, Text.unquoted_append, Text.unquoted_append,
      hname]
    exact List.append_nil name
  · exact hname

/-- Without quoting a name stays. -/
theorem quoteName_of_not_quotes {d : Dialect} (h : d.quotesNames = false) (name : Text) :
    d.quoteName name = name := by
  rw [quoteName, h]
  rfl

/-- The marks for values are no marks around names. -/
theorem unquoted_placeholders (d : Dialect) (count : Nat) :
    (Text.commaJoined (d.placeholders count)).unquoted
      = Text.commaJoined (d.placeholders count) := by
  rw [Text.unquoted_commaJoined, placeholders, List.map_map]
  refine congrArg Text.commaJoined (List.map_congr_left fun i _ => Text.unquoted_of_not_mem ?_)
  change nameMark ∉ d.placeholder (i + 1)
  rw [placeholder]
  split
  · rintro (_ | ⟨_, hmem⟩)
    exact absurd (Text.isDigit_of_mem_ofNat hmem) (by decide)
  · decide

/-- Dialects of one style mark the places of values alike. -/
theorem placeholders_congr {d d' : Dialect} (h : d.placeholderStyle = d'.placeholderStyle) :
    d.placeholders = d'.placeholders := by
  funext count
  rw [placeholders, placeholders]
  refine List.map_congr_left fun i _ => ?_
  rw [placeholder, placeholder, h]

end Dialect

/-! ### Queries of two bases: `Alike` -/

namespace QueryArgs

/-- **Whether two texts differ in their bases alone**: the same text without marks stands behind
both, with a space first, or the bases are gone and the texts are the same. -/
inductive Alike (base base' : Text) : Text → Text → Prop
  /-- The bases are there, and the same text behind them. -/
  | behind (tail : Text) (h : Dialect.nameMark ∉ tail) :
    Alike base base' (base ++ ' ' :: tail) (base' ++ ' ' :: tail)
  /-- An argument has taken the place of the bases. -/
  | whole (text : Text) (h : Dialect.nameMark ∉ text) : Alike base base' text text

variable {base base' : Text} {w w' : Written} {arg : Text}

/-- An argument without marks brings none. -/
theorem nameMark_not_mem_spaced {sql : Text} (hsql : Dialect.nameMark ∉ sql)
    (harg : Dialect.nameMark ∉ arg) : Dialect.nameMark ∉ spaced (left sql arg) arg := by
  intro h
  rcases mem_of_mem_spaced h with hleft | hspace | hmem
  · exact hsql ((isPrefix_left sql arg).subset hleft)
  · exact absurd hspace (by decide)
  · exact harg hmem

/-- **Joining an argument to texts that differ in their bases alone** gives such texts: one step of
`Alike.foldl`. -/
theorem Alike.applyOne (hbase : ¬ cutWord <:+: base) (hbase' : ¬ cutWord <:+: base')
    (harg : Dialect.nameMark ∉ arg) (h : Alike base base' w.sql w'.sql) :
    Alike base base' (applyOne w arg).sql (applyOne w' arg).sql := by
  rw [sql_applyOne, sql_applyOne]
  split
  · exact .whole arg harg
  · generalize w.sql = sql at h
    generalize w'.sql = sql' at h
    cases h with
    | whole _ hsql => exact .whole _ (nameMark_not_mem_spaced hsql harg)
    | behind tail htail =>
      -- both bases are left whole, so what is joined is joined behind the same space
      have hmarks : Dialect.nameMark ∉ spaced (left (' ' :: tail) arg) arg :=
        nameMark_not_mem_spaced (List.not_mem_cons_of_ne_of_not_mem (by decide) htail) harg
      have hempty : ¬ cutWord <:+: [] := by decide
      have hspace : left (' ' :: tail) arg = ' ' :: left tail arg := left_append hempty tail arg
      rw [hspace] at hmarks
      obtain ⟨more, hmore⟩ := exists_spaced_cons (left tail arg) arg
      rw [left_append hbase, left_append hbase', spaced_append _ (List.cons_ne_nil _ _),
        spaced_append _ (List.cons_ne_nil _ _), hmore]
      rw [hmore] at hmarks
      exact .behind _ fun hmem => hmarks (List.mem_cons_of_mem _ hmem)

/-- Joining arguments, one after the other; by induction on the arguments. -/
theorem Alike.foldl (hbase : ¬ cutWord <:+: base) (hbase' : ¬ cutWord <:+: base') {args : List Text}
    (hargs : ∀ arg ∈ args, Dialect.nameMark ∉ arg) (h : Alike base base' w.sql w'.sql) :
    Alike base base' (args.foldl QueryArgs.applyOne w).sql
      (args.foldl QueryArgs.applyOne w').sql := by
  induction args generalizing w w' with
  | nil => exact h
  | cons arg rest ih =>
    obtain ⟨harg, hrest⟩ := List.forall_mem_cons.1 hargs
    exact ih hrest (h.applyOne hbase hbase' harg)

/-- Texts that differ in their bases alone are the same without marks if the bases are. -/
theorem Alike.unquoted_eq {a b : Text} (h : Alike base base' a b) (hbases : base.unquoted = base') :
    a.unquoted = b := by
  cases h with
  | behind tail htail =>
    have hspace : Dialect.nameMark ∉ ' ' :: tail :=
      List.not_mem_cons_of_ne_of_not_mem (by decide) htail
    rw [Text.unquoted_append, hbases, Text.unquoted_of_not_mem hspace]
  | whole _ h => exact Text.unquoted_of_not_mem h

/-- **Arguments do not see marks**: joined to `base` and to the base without its marks, they give
texts that are the same without marks. -/
theorem unquoted_apply (hbase : ¬ cutWord <:+: base) (hbase' : ¬ cutWord <:+: base')
    (hbases : base.unquoted = base') {args : List Text}
    (hargs : ∀ arg ∈ args, Dialect.nameMark ∉ arg) :
    (apply base args).sql.unquoted = (apply base' args).sql := by
  rw [apply, apply]
  cases hfilter : args.filter fun arg => !arg.isEmpty with
  | nil => exact hbases
  | cons first rest =>
    have hmarks : ∀ arg ∈ first :: rest, Dialect.nameMark ∉ arg := by
      intro arg hmem
      rw [← hfilter] at hmem
      exact hargs arg (List.mem_filter.1 hmem).1
    have hstart : Alike base base' (base ++ sentinel) (base' ++ sentinel) :=
      .behind "where 1=1 and".toList (by decide)
    exact (Alike.foldl hbase hbase' hmarks hstart).unquoted_eq hbases

end QueryArgs

/-! ### Statements of two dialects -/

variable {e : Entity} {d d' : Dialect}

/-- A list of quoted names is without marks the list of the names. -/
theorem unquoted_quoteNames (hplain : d'.quotesNames = false) {names : List Text}
    (hmarks : ∀ name ∈ names, Dialect.nameMark ∉ name) :
    (Text.commaJoined (names.map d.quoteName)).unquoted
      = Text.commaJoined (names.map d'.quoteName) := by
  rw [Text.unquoted_commaJoined, List.map_map]
  refine congrArg Text.commaJoined (List.map_congr_left fun name hname => ?_)
  rw [Function.comp_apply, Dialect.unquoted_quoteName d (hmarks name hname),
    Dialect.quoteName_of_not_quotes hplain]

namespace StatementWriter

variable {w w' : StatementWriter}

/-- A select of columns has the names of the entity and no other word of the caller. -/
theorem unquoted_selectText (hplain : w'.dialect.quotesNames = false)
    (hmarks : ∀ name ∈ e.name :: e.fieldNames, Dialect.nameMark ∉ name) :
    (w.selectText (e.columnList w.dialect) e).unquoted
      = w'.selectText (e.columnList w'.dialect) e := by
  obtain ⟨hname, hfields⟩ := List.forall_mem_cons.1 hmarks
  have hcolumns : (e.columnList w.dialect).unquoted = e.columnList w'.dialect :=
    unquoted_quoteNames hplain hfields
  have hselect : Text.unquoted "select ".toList = "select ".toList := by decide
  have hfrom : Text.unquoted " from ".toList = " from ".toList := by decide
  unfold selectText
  simp only [Text.unquoted_append]
  rw [hselect, hcolumns, hfrom, Dialect.unquoted_quoteName _ hname,
    Dialect.quoteName_of_not_quotes hplain]

/-- A deletion has the name of the entity and the condition. -/
theorem unquoted_deleteText (hplain : w'.dialect.quotesNames = false)
    (hname : Dialect.nameMark ∉ e.name) {condition : Option Text}
    (hcondition : ∀ c ∈ condition, Dialect.nameMark ∉ c) :
    (w.deleteText e condition).unquoted = w'.deleteText e condition := by
  have hdelete : Text.unquoted "delete from ".toList = "delete from ".toList := by decide
  have hwhere : Text.unquoted " where ".toList = " where ".toList := by decide
  unfold deleteText
  rw [Text.unquoted_append, Text.unquoted_append, hdelete, Dialect.unquoted_quoteName _ hname,
    Dialect.quoteName_of_not_quotes hplain]
  rcases condition with _ | _ | ⟨c, rest⟩
  · rfl
  · rfl
  · rw [Text.unquoted_append, Text.unquoted_of_not_mem (hcondition _ rfl), hwhere]

/-- An insert of at least one column has the names, and the same marks for values in one style. -/
theorem unquoted_insertTemplate (hregistry : w.registry = w'.registry)
    (hplain : w'.dialect.quotesNames = false)
    (hstyle : w.dialect.placeholderStyle = w'.dialect.placeholderStyle)
    (hnames : ∀ name ∈ e.name :: e.fieldNames, name ≠ [] ∧ Dialect.nameMark ∉ name)
    (hfield : ∃ f ∈ e.fields, w.registry.isAutoKey e.name f.name = false)
    {verb : Text} (hverb : Dialect.nameMark ∉ verb) :
    (w.insertTemplate verb e).unquoted = w'.insertTemplate verb e := by
  obtain ⟨⟨-, hname⟩, hfields⟩ := List.forall_mem_cons.1 hnames
  have hnonempty : ∀ f ∈ e.fields, f.name ≠ [] :=
    fun f hf => (hfields f.name (List.mem_map_of_mem hf)).1
  -- both writers keep the same fields, and at least one
  have hpositions : w'.retainedPositions e = w.retainedPositions e := by
    rw [retainedPositions, retainedPositions, hregistry]
  have hsome : w.retainedPositions e ≠ [] := by
    obtain ⟨f, hf, hkey⟩ := hfield
    obtain ⟨i, hi⟩ := List.getElem?_of_mem hf
    have hretained : w.registry.autoKey? e.name ≠ some f.name := by
      rwa [← beq_eq_false_iff_ne]
    exact List.ne_nil_of_mem (mem_retainedPositions.2 ⟨f, hi, hretained⟩)
  have hcolumns : (Text.commaJoined (w.insertColumns e)).unquoted
      = Text.commaJoined (w'.insertColumns e) := by
    have hretained : w'.retainedFields e = w.retainedFields e := by
      rw [retainedFields_eq, retainedFields_eq, hpositions]
    have hnames : ∀ name ∈ (w.retainedFields e).map Field.name, Dialect.nameMark ∉ name := by
      intro name hmem
      obtain ⟨f, hf, rfl⟩ := List.mem_map.1 hmem
      exact (hfields f.name (List.mem_map_of_mem (List.mem_filter.1 hf).1)).2
    have hlist := unquoted_quoteNames (d := w.dialect) hplain hnames
    rw [List.map_map, List.map_map] at hlist
    rw [insertColumns_eq, insertColumns_eq, hretained]
    exact hlist
  have hopen : Text.unquoted " (".toList = " (".toList := by decide
  have hvalues : Text.unquoted ") values(".toList = ") values(".toList := by decide
  have hclose : Text.unquoted ")".toList = ")".toList := by decide
  rw [insertTemplate_eq hnonempty, insertTemplate_eq hnonempty, insertText, insertText, hpositions,
    if_neg hsome, if_neg hsome, ← Dialect.placeholders_congr hstyle]
  simp only [Text.unquoted_append]
  rw [Text.unquoted_of_not_mem hverb, Dialect.unquoted_quoteName _ hname, hopen, hcolumns, hvalues,
    Dialect.unquoted_placeholders, hclose, Dialect.quoteName_of_not_quotes hplain]

/-- Calls before it leave the answer to a call as it is. -/
theorem answer_perform_cacheAfter (w : StatementWriter) (earlier : List (StatementWriter × Call))
    (call : Call) :
    (w.perform (cacheAfter .empty earlier) call).answer = (w.perform .empty call).answer :=
  congrArg Prod.fst (w.reply_perform_cacheAfter earlier call)

/-- **MySQL and SQLite differ in the marks around names alone.** Let a writer for MySQL and one for
SQLite, or for no particular backend, know the same keys, whatever else they have been asked before.
For an entity whose names are not empty and have neither marks nor `where` in them, and for
arguments and a condition without marks, both give the same column list, select and deletion once
the marks are taken out, and the same insert and replacing insert if some field is not the auto
key. -/
theorem unquoted_perform {w w' : StatementWriter} (hregistry : w.registry = w'.registry)
    (hquoted : w.dialect = .mySql) (hplain : w'.dialect = .sqlite ∨ w'.dialect = .unknown)
    {e : Entity}
    (hnames : ∀ name ∈ e.name :: e.fieldNames,
      name ≠ [] ∧ Dialect.nameMark ∉ name ∧ ¬ "where".toList <:+: name)
    {args : List Text} (hargs : ∀ arg ∈ args, Dialect.nameMark ∉ arg)
    {condition : Option Text} (hcondition : ∀ c ∈ condition, Dialect.nameMark ∉ c)
    (earlier earlier' : List (StatementWriter × Call)) :
    let answer := fun call => (w.perform (cacheAfter .empty earlier) call).answer
    let answer' := fun call => (w'.perform (cacheAfter .empty earlier') call).answer
    (answer (.columnList e)).unquoted = answer' (.columnList e) ∧
    (answer (.select e args)).unquoted = answer' (.select e args) ∧
    (answer (.delete e condition)).unquoted = answer' (.delete e condition) ∧
    ((∃ f ∈ e.fields, w.registry.isAutoKey e.name f.name = false) →
      (answer (.insert e)).unquoted = answer' (.insert e) ∧
      (answer (.replace e)).unquoted = answer' (.replace e)) := by
  intro answer answer'
  have hquotes : w'.dialect.quotesNames = false := by
    rcases hplain with h | h <;> rw [h] <;> rfl
  have hstyle : w.dialect.placeholderStyle = w'.dialect.placeholderStyle := by
    rcases hplain with h | h <;> rw [hquoted, h] <;> rfl
  have hmarks : ∀ name ∈ e.name :: e.fieldNames, Dialect.nameMark ∉ name :=
    fun name hname => (hnames name hname).2.1
  have hwords : ∀ name ∈ e.name :: e.fieldNames, ¬ QueryArgs.cutWord <:+: name :=
    fun name hname => (hnames name hname).2.2
  have hcolumns : ∀ name ∈ e.name :: e.fieldNames, name ≠ [] ∧ Dialect.nameMark ∉ name :=
    fun name hname => ⟨(hnames name hname).1, hmarks name hname⟩
  have hinsert : Dialect.nameMark ∉ insertVerb := by decide
  have hreplace : Dialect.nameMark ∉ replaceVerb := by decide
  obtain ⟨hname, hfields⟩ := List.forall_mem_cons.1 hmarks
  simp only [answer, answer', answer_perform_cacheAfter]
  refine ⟨?_, ?_, ?_, fun hfield => ⟨?_, ?_⟩⟩
  · exact congrArg Answer.columns (unquoted_quoteNames hquotes hfields)
  · exact congrArg Answer.statement (QueryArgs.unquoted_apply (w.not_infix_selectText hwords)
      (w'.not_infix_selectText hwords) (unquoted_selectText hquotes hmarks) hargs)
  · exact congrArg Answer.statement (unquoted_deleteText hquotes hname hcondition)
  · exact congrArg Answer.statement
      (unquoted_insertTemplate hregistry hquotes hstyle hcolumns hfield hinsert)
  · -- neither dialect is PostgreSQL, so both have a replacing insert
    have hsql : (w.replace e).sql.unquoted = (w'.replace e).sql := by
      rw [sql_replace (by rw [hquoted]; decide),
        sql_replace (by rcases hplain with h | h <;> rw [h] <;> decide)]
      exact unquoted_insertTemplate hregistry hquotes hstyle hcolumns hfield hreplace
    exact congrArg Answer.statement hsql

/-- An ordering cuts the condition off, in both dialects at the same place, and the column behind
the auto key is left for the insert. MySQL has marks around the names. -/
theorem unquoted_perform_user :
    let registry : KeyRegistry := ⟨[("User".toList, "id".toList)], []⟩
    let w : StatementWriter := ⟨registry, Config.ofDialect .mySql⟩
    let w' : StatementWriter := ⟨registry, Config.ofDialect .sqlite⟩
    let e : Entity := ⟨"User".toList, "User".toList,
      [⟨"id".toList, .int64, false⟩, ⟨"name".toList, .text, false⟩]⟩
    let args := ["id > 1".toList, "order by name".toList]
    (w.perform .empty (.select e args)).answer
        = .statement "select `id`,`name` from `User` order by name".toList ∧
      (w.perform .empty (.select e args)).answer.unquoted
        = .statement "select id,name from User order by name".toList ∧
      (w.perform .empty (.insert e)).answer
        = .statement "insert into `User` (`name`) values(?)".toList ∧
      (w.perform .empty (.insert e)).answer.unquoted = (w'.perform .empty (.insert e)).answer := by
  intro registry w w' e args
  have hnames : ∀ name ∈ e.name :: e.fieldNames,
      name ≠ [] ∧ Dialect.nameMark ∉ name ∧ ¬ "where".toList <:+: name := by decide
  have hargs : ∀ arg ∈ args, Dialect.nameMark ∉ arg := by decide
  have hcondition : ∀ c ∈ (none : Option Text), Dialect.nameMark ∉ c := by decide
  have hregistry : w.registry = w'.registry := rfl
  have hquoted : w.dialect = .mySql := rfl
  have hplain : w'.dialect = .sqlite ∨ w'.dialect = .unknown := Or.inl rfl
  obtain ⟨-, hselect, -, hinserts⟩ :=
    unquoted_perform hregistry hquoted hplain hnames hargs hcondition [] []
  refine ⟨by decide, hselect.trans (by decide), by decide, (hinserts ?_).1⟩
  exact ⟨⟨"name".toList, .text, false⟩, by decide, by decide⟩

end StatementWriter

end RecordSql
