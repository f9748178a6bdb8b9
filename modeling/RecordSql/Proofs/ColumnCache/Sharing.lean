import Mathlib.Data.List.Dedup
import RecordSql.Statement.Call

/-! # Writers that share a cache

Any number of writers, of any dialects, answer calls with one cache of column lists between them
(`performShared`). A cache that has kept what was asked for (`ColumnCache.Keeps`) answers as an
empty one would, since a list depends on its entity and on the quoting of names alone, and both are
the key under which it is kept. -/

namespace RecordSql

/-- A column list is the same for all dialects with the same `quotesNames`. -/
theorem Entity.columnList_congr (e : Entity) {d d' : Dialect}
    (h : d.quotesNames = d'.quotesNames) : e.columnList d = e.columnList d' := by
  have hquote : d.quoteName = d'.quoteName := by
    funext name
    rw [Dialect.quoteName, Dialect.quoteName, h]
  rw [columnList, columnList, hquote]

namespace ColumnCache

/-! ### What a cache `Keeps` -/

/-- The keys of the lists kept: each entity with whether names are quoted. -/
def keys (c : ColumnCache) : List (Entity × Bool) := c.entries.map Prod.fst

/-- **Whether a cache keeps what has been requested**: one list under each key, for the keys
requested and no others, and each list the column list of its entity in every dialect that quotes
names as the key says. -/
structure Keeps (c : ColumnCache) (requested : List (Entity × Bool)) : Prop where
  nodup : c.keys.Nodup
  mem_keys_iff : ∀ key, key ∈ c.keys ↔ key ∈ requested
  list_eq : ∀ (e : Entity) (d : Dialect) (list : Text),
    ((e, d.quotesNames), list) ∈ c.entries → list = e.columnList d

variable {c : ColumnCache} {requested : List (Entity × Bool)} {e : Entity} {d : Dialect}

theorem keeps_empty : empty.Keeps [] where
  nodup := List.nodup_nil
  mem_keys_iff _ := Iff.rfl
  list_eq _ _ _ hmem := absurd hmem List.not_mem_nil

/-- A list found is kept under its key. -/
theorem mem_entries_of_lookup? {quoted : Bool} {list : Text} (h : c.lookup? e quoted = some list) :
    ((e, quoted), list) ∈ c.entries := by
  obtain ⟨before, after, hentries, -⟩ := List.lookup_eq_some_iff.1 h
  rw [hentries]
  exact List.mem_append_right _ List.mem_cons_self

/-- A key under which no list is found is no key of the cache. -/
theorem not_mem_keys_of_lookup? {quoted : Bool} (h : c.lookup? e quoted = none) :
    (e, quoted) ∉ c.keys := by
  intro hmem
  obtain ⟨entry, hentry, hkey⟩ := List.mem_map.1 hmem
  have hne := List.lookup_eq_none_iff.1 h entry hentry
  rw [hkey] at hne
  simp at hne

/-- A key that has a list already changes nothing when it is requested again. -/
theorem Keeps.again (h : c.Keeps requested) {key : Entity × Bool} (hkey : key ∈ c.keys) :
    c.Keeps (requested ++ [key]) where
  nodup := h.nodup
  mem_keys_iff other := by
    rw [List.mem_append, List.mem_singleton, h.mem_keys_iff]
    constructor
    · exact Or.inl
    · rintro (hother | rfl)
      · exact hother
      · exact (h.mem_keys_iff other).1 hkey
  list_eq := h.list_eq

/-- A key that has no list gets its column list, and the cache keeps one request more. -/
theorem Keeps.store (h : c.Keeps requested) (hnew : (e, d.quotesNames) ∉ c.keys) :
    Keeps ⟨c.entries ++ [((e, d.quotesNames), e.columnList d)]⟩
      (requested ++ [(e, d.quotesNames)]) := by
  have hkeys : keys ⟨c.entries ++ [((e, d.quotesNames), e.columnList d)]⟩
      = c.keys ++ [(e, d.quotesNames)] := by
    simp only [keys, List.map_append, List.map_cons, List.map_nil]
  refine ⟨?_, ?_, ?_⟩
  · rw [hkeys, List.nodup_append]
    refine ⟨h.nodup, List.nodup_singleton _, ?_⟩
    intro key hkey other hother heq
    rw [List.mem_singleton.1 hother] at heq
    exact hnew (heq ▸ hkey)
  · intro key
    rw [hkeys, List.mem_append, List.mem_append, h.mem_keys_iff]
  · intro e' d' list hmem
    rcases List.mem_append.1 hmem with hold | hlast
    · exact h.list_eq e' d' list hold
    · -- the new list serves every dialect that quotes as the one that asked for it
      have heq := List.mem_singleton.1 hlast
      simp only [Prod.mk.injEq] at heq
      obtain ⟨⟨rfl, hquotes⟩, rfl⟩ := heq
      exact e'.columnList_congr hquotes.symm

/-- **A cache gives the column list of the entity itself**, `e.columnList d`, and keeps what has
been requested. -/
theorem Keeps.columns (h : c.Keeps requested) (e : Entity) (d : Dialect) :
    (c.columns e d).1 = e.columnList d ∧
      (c.columns e d).2.Keeps (requested ++ [(e, d.quotesNames)]) := by
  rw [ColumnCache.columns]
  cases hlookup : c.lookup? e d.quotesNames with
  | some list =>
    have hmem := mem_entries_of_lookup? hlookup
    exact ⟨h.list_eq e d list hmem, h.again (List.mem_map_of_mem hmem)⟩
  | none => exact ⟨rfl, h.store (not_mem_keys_of_lookup? hlookup)⟩

/-- A cache keeps as many lists as different keys have been requested, `requested.dedup.length`. -/
theorem Keeps.size_eq (h : c.Keeps requested) : c.size = requested.dedup.length := by
  have hperm : c.keys.Perm requested.dedup := by
    rw [List.perm_ext_iff_of_nodup h.nodup requested.nodup_dedup]
    intro key
    rw [List.mem_dedup, h.mem_keys_iff]
  rw [← hperm.length_eq, keys, List.length_map, size]

end ColumnCache

/-- What the caller sees of a result: the answer and the events. -/
def CallResult.reply (r : CallResult) : Answer × List Event := (r.answer, r.events)

namespace StatementWriter

/-! ### One call: `perform` -/

/-- The key of the column list that a call asks for; only `select` and `columnList` do. -/
def columnKey? (w : StatementWriter) : Call → Option (Entity × Bool)
  | .select e _ | .columnList e => some (e, w.dialect.quotesNames)
  | .insert _ | .replace _ | .upsert _ | .delete _ _ | .boundInsert _ _ | .insertLiterals _ _ => none

variable (w : StatementWriter) (cache : ColumnCache) (e : Entity) (args : List Text)

theorem perform_columnList :
    w.perform cache (.columnList e)
      = ⟨.columns (cache.columns e w.dialect).1, [], (cache.columns e w.dialect).2⟩ := rfl

theorem perform_select :
    w.perform cache (.select e args)
      = let query := QueryArgs.apply (w.selectText (cache.columns e w.dialect).1 e) args
        ⟨.statement query.sql, query.events ++ (w.traced .select e query.sql).events,
          (cache.columns e w.dialect).2⟩ := rfl

variable {cache}

/-- **A call is answered as with an empty cache**, and what it asks for is kept: one step of
`performShared`. -/
theorem perform_of_keeps {requested : List (Entity × Bool)} (h : cache.Keeps requested)
    (call : Call) :
    (w.perform cache call).reply = (w.perform .empty call).reply ∧
      (w.perform cache call).cache.Keeps (requested ++ (w.columnKey? call).toList) := by
  have hempty := ColumnCache.keeps_empty.columns
  cases call with
  | select e args =>
    obtain ⟨hlist, hkeeps⟩ := h.columns e w.dialect
    rw [perform_select, perform_select, hlist, (hempty e w.dialect).1]
    exact ⟨rfl, hkeeps⟩
  | columnList e =>
    obtain ⟨hlist, hkeeps⟩ := h.columns e w.dialect
    rw [perform_columnList, perform_columnList, hlist, (hempty e w.dialect).1]
    exact ⟨rfl, hkeeps⟩
  | insert | replace | upsert | delete | boundInsert | insertLiterals =>
    -- the others leave the cache alone
    refine ⟨rfl, ?_⟩
    rw [columnKey?, Option.toList_none, List.append_nil]
    exact h

/-! ### Runs of calls: `performShared` -/

/-- Answer calls in order, each by its own writer and with the cache that the one before has left. -/
def performShared (cache : ColumnCache) : List (StatementWriter × Call) → List CallResult
  | [] => []
  | (w, call) :: rest =>
    let result := w.perform cache call
    result :: performShared result.cache rest

/-- The cache after the calls, which each found it as the one before had left it. -/
def cacheAfter (cache : ColumnCache) (calls : List (StatementWriter × Call)) : ColumnCache :=
  calls.foldl (fun cache c => (c.1.perform cache c.2).cache) cache

/-- The column lists that calls ask for, in order. -/
def requestedBy (calls : List (StatementWriter × Call)) : List (Entity × Bool) :=
  calls.filterMap fun c => c.1.columnKey? c.2

theorem requestedBy_cons (w : StatementWriter) (call : Call)
    (rest : List (StatementWriter × Call)) :
    requestedBy ((w, call) :: rest) = (w.columnKey? call).toList ++ requestedBy rest := by
  rw [requestedBy, requestedBy, List.filterMap_cons]
  cases w.columnKey? call <;> rfl

variable {requested : List (Entity × Bool)} (calls : List (StatementWriter × Call))

/-- A run keeps what it asks for, in addition to what was kept before; by induction on the calls. -/
theorem keeps_cacheAfter (h : cache.Keeps requested) :
    (cacheAfter cache calls).Keeps (requested ++ requestedBy calls) := by
  induction calls generalizing cache requested with
  | nil =>
    rw [requestedBy, List.filterMap_nil, List.append_nil]
    exact h
  | cons c rest ih =>
    obtain ⟨w, call⟩ := c
    have hrest := ih (w.perform_of_keeps h call).2
    rw [requestedBy_cons, ← List.append_assoc]
    exact hrest

/-- Calls before it leave the reply to a call as it is. -/
theorem reply_perform_cacheAfter (w : StatementWriter) (earlier : List (StatementWriter × Call))
    (call : Call) :
    (w.perform (cacheAfter .empty earlier) call).reply = (w.perform .empty call).reply :=
  (w.perform_of_keeps (keeps_cacheAfter earlier ColumnCache.keeps_empty) call).1

/-- Every call of a run is answered as with an empty cache; by induction on the calls. -/
theorem reply_performShared (h : cache.Keeps requested) :
    (performShared cache calls).map CallResult.reply
      = calls.map fun c => (c.1.perform .empty c.2).reply := by
  induction calls generalizing cache requested with
  | nil => rfl
  | cons c rest ih =>
    obtain ⟨w, call⟩ := c
    obtain ⟨hreply, hkeeps⟩ := w.perform_of_keeps h call
    rw [performShared, List.map_cons, List.map_cons, hreply, ih hkeeps]

/-- **Sharing a cache changes no answer.** In a run of calls through any writers that begin with one
empty cache, every call is answered as by its writer with an empty cache of its own: the names of
the fields of that very entity in declared order, quoted for the dialect and joined by commas, and a
select of them. At every moment of the run the cache gives that text for an entity and a dialect.
After the run it keeps one list for each entity and way of quoting that has been asked for, and none
exactly if nothing has. -/
theorem performShared_empty (calls : List (StatementWriter × Call)) :
    let columns := fun (e : Entity) (d : Dialect) => Text.commaJoined (e.fieldNames.map d.quoteName)
    (performShared .empty calls).map CallResult.reply
        = calls.map (fun c => (c.1.perform .empty c.2).reply) ∧
      (∀ (w : StatementWriter) (e : Entity),
        (w.perform .empty (.columnList e)).reply = (.columns (columns e w.dialect), [])) ∧
      (∀ (w : StatementWriter) (e : Entity) (args : List Text),
        (w.perform .empty (.select e args)).answer = .statement
          (QueryArgs.apply ("select ".toList ++ columns e w.dialect ++ " from ".toList
            ++ w.dialect.quoteName e.name) args).sql) ∧
      (∀ (moment : Nat) (e : Entity) (d : Dialect),
        ((cacheAfter .empty (calls.take moment)).columns e d).1 = columns e d) ∧
      (cacheAfter .empty calls).size = (requestedBy calls).dedup.length ∧
      ((cacheAfter .empty calls).size = 0 ↔ requestedBy calls = []) := by
  intro columns
  -- the invariant `Keeps` after all calls, and below after the first `moment` of them
  have hkeeps := keeps_cacheAfter calls ColumnCache.keeps_empty
  rw [List.nil_append] at hkeeps
  refine ⟨reply_performShared calls ColumnCache.keeps_empty, ?_, ?_, ?_, hkeeps.size_eq, ?_⟩
  · intro w e
    rfl
  · intro w e args
    rfl
  · intro moment e d
    have hmoment := keeps_cacheAfter (calls.take moment) ColumnCache.keeps_empty
    exact (hmoment.columns e d).1
  · rw [hkeeps.size_eq, List.length_eq_zero_iff, List.dedup_eq_nil]

/-- Two entities of one name, asked for in MySQL and in SQLite by turns: each keeps its own list for
each way of quoting, and the last two calls find theirs. -/
theorem performShared_empty_users :
    let user : Entity := ⟨"UserRow".toList, "users".toList,
      [⟨"id".toList, .int64, false⟩, ⟨"age".toList, .int32, false⟩]⟩
    let summary : Entity := ⟨"UserSummary".toList, "users".toList,
      [⟨"id".toList, .int64, false⟩, ⟨"name".toList, .text, false⟩]⟩
    let w : StatementWriter := ⟨.empty, Config.ofDialect .mySql⟩
    let w' : StatementWriter := ⟨.empty, Config.ofDialect .sqlite⟩
    let calls := [(w, .columnList user), (w', .columnList user), (w, .columnList summary),
      (w', .select summary ["limit 1".toList]), (w', .columnList user), (w, .select summary [])]
    (performShared .empty calls).map (fun result => result.answer)
        = [.columns "`id`,`age`".toList, .columns "id,age".toList, .columns "`id`,`name`".toList,
          .statement "select id,name from users limit 1".toList, .columns "id,age".toList,
          .statement "select `id`,`name` from `users`".toList] ∧
      (cacheAfter .empty calls).size = 4 := by
  intro user summary w w' calls
  obtain ⟨hreplies, -, -, -, hsize, -⟩ := performShared_empty calls
  have hanswers := congrArg (List.map Prod.fst) hreplies
  rw [List.map_map, List.map_map] at hanswers
  exact ⟨hanswers.trans (by decide), hsize.trans (by decide)⟩

end StatementWriter

end RecordSql
