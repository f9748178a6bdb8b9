import RecordSql.Proofs.ColumnCache.Sharing

/-! # Reported statements

A writer that reports its statements answers as one that does not: the reports are all that the two
differ in (`performAll_silent`). Each call for a template is reported once, with the text that it
returns (`StatementWriter.Reports`), and the calls that take a row are not reported at all, so no
value of a row is. -/

namespace RecordSql

/-- Whether an event reports a statement: it is a `statementWritten`. -/
def Event.isStatement : Event → Bool
  | statementWritten .. => true
  | registryFrozen .. | queryReplaced _ | conditionsDropped _ => false

/-- A call with an empty row in the place of its own. -/
def Call.withoutRow : Call → Call
  | boundInsert e _ => boundInsert e []
  | insertLiterals e _ => insertLiterals e []
  | insert e => insert e
  | replace e => replace e
  | upsert e => upsert e
  | delete e condition => delete e condition
  | select e args => select e args
  | columnList e => columnList e

/-- A result without the reports of statements. -/
def CallResult.unreported (r : CallResult) : CallResult :=
  { r with events := r.events.filter fun event => !event.isStatement }

/-! ### Queries -/

namespace QueryArgs

/-- Joining an argument reports no statement, only a `queryReplaced` or a `conditionsDropped`. -/
theorem isStatement_of_mem_applyOne {w : Written} {arg : Text}
    (h : ∀ event ∈ w.events, event.isStatement = false) :
    ∀ event ∈ (applyOne w arg).events, event.isStatement = false := by
  rw [applyOne]
  split
  · exact List.forall_mem_append.2 ⟨h, List.forall_mem_singleton.2 rfl⟩
  · split
    · exact List.forall_mem_append.2 ⟨h, List.forall_mem_singleton.2 rfl⟩
    · exact h

/-- Joining arguments reports no statement; by induction on the arguments. -/
theorem isStatement_of_mem_foldl {w : Written} (args : List Text)
    (h : ∀ event ∈ w.events, event.isStatement = false) :
    ∀ event ∈ (args.foldl applyOne w).events, event.isStatement = false := by
  induction args generalizing w with
  | nil => exact h
  | cons arg rest ih => exact ih (isStatement_of_mem_applyOne h)

/-- The events of a query before its own report tell of the arguments alone. -/
theorem isStatement_of_mem_apply (sql : Text) (args : List Text) :
    ∀ event ∈ (apply sql args).events, event.isStatement = false := by
  rw [apply]
  split
  · exact fun _ hmem => absurd hmem List.not_mem_nil
  · exact isStatement_of_mem_foldl _ fun _ hmem => absurd hmem List.not_mem_nil

/-- None of the events of `apply` reports a statement. -/
theorem filter_isStatement (sql : Text) (args : List Text) :
    (apply sql args).events.filter Event.isStatement = [] := by
  rw [List.filter_eq_nil_iff]
  intro event hmem
  rw [isStatement_of_mem_apply sql args event hmem]
  exact Bool.false_ne_true

/-- All events of `apply` stay when reports of statements go. -/
theorem filter_not_isStatement (sql : Text) (args : List Text) :
    (apply sql args).events.filter (fun event => !event.isStatement) = (apply sql args).events := by
  rw [List.filter_eq_self]
  intro event hmem
  rw [isStatement_of_mem_apply sql args event hmem]
  rfl

end QueryArgs

namespace StatementWriter

/-! ### One call: `perform` -/

/-- The writer that reports its statements. -/
def reporting (w : StatementWriter) : StatementWriter := ⟨w.registry, w.config.enableTracing⟩

/-- The writer that does not. -/
def silent (w : StatementWriter) : StatementWriter := ⟨w.registry, w.config.disableTracing⟩

@[simp] theorem dialect_reporting (w : StatementWriter) : w.reporting.dialect = w.dialect := rfl

@[simp] theorem dialect_silent (w : StatementWriter) : w.silent.dialect = w.dialect := rfl

/-- What an upsert is reported as: `insert` without conflict keys, else `upsert`. -/
def upsertKind (w : StatementWriter) (e : Entity) : StatementKind :=
  if w.registry.conflictKeys e.name = [] then .insert else .upsert

/-- The entity of the template that a call is for, if it is for one, and what the template is
reported as. PostgreSQL has no replacing insert, only the upsert. -/
def template? (w : StatementWriter) : Call → Option (Entity × StatementKind)
  | .insert e => some (e, .insert)
  | .replace e => some (e, if w.dialect = .postgres then w.upsertKind e else .replace)
  | .upsert e => some (e, w.upsertKind e)
  | .delete e _ => some (e, .delete)
  | .select e _ => some (e, .select)
  | .boundInsert _ _ | .insertLiterals _ _ | .columnList _ => none

/-- **Whether a call is reported as it should be**: a call with a `template?` by one report, which
has the text returned, the name of the entity and the kind; any other call by none. -/
def Reports (w : StatementWriter) (call : Call) (result : CallResult) : Prop :=
  match w.template? call with
  | some (e, kind) => ∃ sql, result.answer = .statement sql ∧
      result.events.filter Event.isStatement = [.statementWritten kind e.name w.dialect sql]
  | none => result.events.filter Event.isStatement = []

variable (w : StatementWriter) (cache : ColumnCache)

/-- **One call without reports**: a silent writer answers as one that reports, and leaves the same
cache. -/
theorem perform_silent (call : Call) :
    w.silent.perform cache call = (w.reporting.perform cache call).unreported := by
  cases call with
  | insert | upsert | delete | boundInsert | insertLiterals | columnList => rfl
  | replace e =>
    change ofWritten cache (w.silent.replace e)
      = (ofWritten cache (w.reporting.replace e)).unreported
    rw [replace, replace, dialect_silent, dialect_reporting]
    cases w.dialect <;> rfl
  | select e args =>
    -- the arguments have events of their own, which stay: only `report` goes
    let query := QueryArgs.apply (w.selectText (cache.columns e w.dialect).1 e) args
    let report : Event := .statementWritten .select e.name w.dialect query.sql
    have hevents : (query.events ++ [report]).filter (fun event => !event.isStatement)
        = query.events ++ [] := by
      rw [List.filter_append, QueryArgs.filter_not_isStatement]
      rfl
    change CallResult.mk (.statement query.sql) (query.events ++ [])
      (cache.columns e w.dialect).2 = _
    rw [← hevents]
    rfl

/-- An upsert is reported as an insert or as an upsert, by `upsertKind`. -/
theorem events_upsert (e : Entity) :
    (w.reporting.upsert e).events
      = [.statementWritten (w.upsertKind e) e.name w.dialect (w.reporting.upsert e).sql] := by
  rw [upsertKind]
  simp only [← List.isEmpty_iff]
  rfl

/-- A replacing insert is reported as one, or for PostgreSQL as the upsert that it is. -/
theorem events_replace (e : Entity) :
    (w.reporting.replace e).events
      = [.statementWritten (if w.dialect = .postgres then w.upsertKind e else .replace) e.name
          w.dialect (w.reporting.replace e).sql] := by
  rw [replace, dialect_reporting]
  cases hdialect : w.dialect with
  | postgres => rw [if_pos rfl, events_upsert, hdialect]
  | mySql | sqlite | unknown =>
    rw [if_neg Dialect.noConfusion]
    change [Event.statementWritten _ _ w.dialect _] = _
    rw [hdialect]
    rfl

/-- **One call with reports**: it is reported as it should be. -/
theorem reports_perform (call : Call) : w.Reports call (w.reporting.perform cache call) := by
  cases call with
  | insert | delete => exact ⟨_, rfl, rfl⟩
  | boundInsert | insertLiterals | columnList => exact List.filter_nil
  | upsert e =>
    refine ⟨_, rfl, ?_⟩
    change (w.reporting.upsert e).events.filter _ = _
    rw [events_upsert]
    rfl
  | replace e =>
    refine ⟨_, rfl, ?_⟩
    change (w.reporting.replace e).events.filter _ = _
    rw [events_replace]
    rfl
  | select e args =>
    refine ⟨_, rfl, ?_⟩
    rw [perform_select]
    dsimp only
    rw [List.filter_append, QueryArgs.filter_isStatement]
    rfl

/-- A row changes the answer to a call alone: neither what is reported nor what the next call finds
depends on it. -/
theorem perform_withoutRow (call : Call) :
    (w.perform cache call.withoutRow).events = (w.perform cache call).events ∧
      (w.perform cache call.withoutRow).cache = (w.perform cache call).cache := by
  cases call <;> exact ⟨rfl, rfl⟩

/-! ### Runs of calls: `performAll` -/

/-- A silent run answers as one with reports; by induction on the calls, with `perform_silent` for
each. -/
theorem performAll_silent (calls : List Call) :
    w.silent.performAll cache calls
      = (w.reporting.performAll cache calls).map CallResult.unreported := by
  induction calls generalizing cache with
  | nil => rfl
  | cons call rest ih =>
    rw [performAll_cons, performAll_cons, List.map_cons, perform_silent, ih]
    rfl

/-- Each call of a run is reported as it should be; by induction on the calls, with
`reports_perform` for each. -/
theorem reports_performAll (calls : List Call) :
    List.Forall₂ w.Reports calls (w.reporting.performAll cache calls) := by
  induction calls generalizing cache with
  | nil => exact .nil
  | cons call rest ih =>
    rw [performAll_cons]
    exact .cons (w.reports_perform cache call) (ih _)

/-- The events of a run are those of the run without rows, by `perform_withoutRow`. -/
theorem events_performAll_withoutRow (calls : List Call) :
    (w.performAll cache (calls.map Call.withoutRow)).flatMap CallResult.events
      = (w.performAll cache calls).flatMap CallResult.events := by
  induction calls generalizing cache with
  | nil => rfl
  | cons call rest ih =>
    obtain ⟨hevents, hcache⟩ := w.perform_withoutRow cache call
    rw [List.map_cons, performAll_cons, performAll_cons, List.flatMap_cons, List.flatMap_cons,
      hevents, hcache, ih]

/-- **Reports of statements.** In a run of calls by one writer, with any cache, the answers are the
same whether statements are reported or not. Without reports no event reports a statement. With them
each call for a template reports one: the text that it returns, the name of its entity and the kind
of the call, where an upsert without conflict keys counts as an insert and a replacing insert for
PostgreSQL as the upsert that it is; the other calls report none. Two runs whose calls differ in
their rows alone have the same events. -/
theorem performAll_reporting (w : StatementWriter) (cache : ColumnCache) (calls : List Call) :
    let results := w.reporting.performAll cache calls
    let unreported := w.silent.performAll cache calls
    unreported.map CallResult.answer = results.map CallResult.answer ∧
    (∀ event ∈ unreported.flatMap CallResult.events, event.isStatement = false) ∧
    List.Forall₂ w.Reports calls results ∧
    ∀ others : List Call, others.map Call.withoutRow = calls.map Call.withoutRow →
      (w.performAll cache others).flatMap CallResult.events
        = (w.performAll cache calls).flatMap CallResult.events := by
  intro results unreported
  have hsilent : unreported = results.map CallResult.unreported := w.performAll_silent cache calls
  refine ⟨?_, ?_, w.reports_performAll cache calls, ?_⟩
  · rw [hsilent, List.map_map]
    rfl
  · rw [hsilent]
    intro event hmem
    obtain ⟨result, hresult, hevent⟩ := List.mem_flatMap.1 hmem
    obtain ⟨full, -, rfl⟩ := List.mem_map.1 hresult
    simpa using (List.mem_filter.1 hevent).2
  · intro others hrows
    rw [← events_performAll_withoutRow, hrows, events_performAll_withoutRow]

example :
    let w : StatementWriter := ⟨.empty, Config.ofDialect .postgres⟩
    let e : Entity := ⟨"Tag".toList, "Tag".toList, [⟨"label".toList, .text, false⟩]⟩
    (w.reporting.performAll .empty [.replace e, .boundInsert e [.text "secret".toList]]).flatMap
        CallResult.events
      = [.statementWritten .insert "Tag".toList .postgres
          "insert into Tag (label) values($1)".toList] := by
  decide

end StatementWriter

end RecordSql
