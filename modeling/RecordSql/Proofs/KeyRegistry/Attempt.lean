import RecordSql.KeyRegistry

/-! # One registration

What a registration does to a registry, of either kind and in one statement: `attempt_eq`. The call
by itself may be wrong (`Registration.complaint?`); otherwise the first key of its kind under the
name of its entity is recorded, and a later one is a duplicate. A registration that is refused
changes nothing. -/

namespace RecordSql

namespace Registration

/-- The kind of key that a call registers. -/
def kind : Registration → KeyKind
  | autoKey .. => .auto
  | conflictKey .. => .conflict

/-- The entity whose key a call registers. -/
def entity : Registration → Entity
  | autoKey e _ | conflictKey e _ => e

/-- The fields of the key; an auto key has one. -/
def fields : Registration → List Text
  | autoKey _ field => [field]
  | conflictKey _ fields => fields

/-- What is wrong with a call by itself: it names no field, or one that its own entity does not
declare, of which the first is reported. -/
def complaint? (q : Registration) : Option SqlError :=
  if q.fields = [] then some (.invalid (KeyRegistry.emptyListReason q.entity.name))
  else (q.fields.find? fun f => f ∉ q.entity.fieldNames).map (.unknownField q.entity.name)

/-- Whether nothing is wrong with a call by itself: `complaint?_eq_none_iff`. -/
def IsValid (q : Registration) : Prop := q.fields ≠ [] ∧ ∀ f ∈ q.fields, f ∈ q.entity.fieldNames

instance (q : Registration) : Decidable q.IsValid := inferInstanceAs (Decidable (_ ∧ _))

theorem complaint?_eq_none_iff {q : Registration} : q.complaint? = none ↔ q.IsValid := by
  rw [complaint?, IsValid]
  by_cases hnil : q.fields = []
  · simp [hnil]
  · rw [if_neg hnil]
    simp [hnil]

/-- A call that names no field is reported as such. -/
theorem complaint?_of_nil {q : Registration} (h : q.fields = []) :
    q.complaint? = some (.invalid (KeyRegistry.emptyListReason q.entity.name)) := if_pos h

/-- Otherwise the first field that is not declared is reported. -/
theorem complaint?_of_undeclared {q : Registration} {declared rest : List Text} {field : Text}
    (hfields : q.fields = declared ++ field :: rest)
    (hdeclared : ∀ f ∈ declared, f ∈ q.entity.fieldNames) (hfield : field ∉ q.entity.fieldNames) :
    q.complaint? = some (.unknownField q.entity.name field) := by
  have hfind : (q.fields.find? fun f => f ∉ q.entity.fieldNames) = some field := by
    rw [hfields, List.find?_eq_some_iff_append]
    exact ⟨by simpa using hfield, declared, rest, rfl, by simpa using hdeclared⟩
  have hsome : q.fields ≠ [] := by
    rw [hfields]
    exact List.append_ne_nil_of_right_ne_nil _ (List.cons_ne_nil _ _)
  rw [complaint?, if_neg hsome, hfind]
  rfl

theorem complaint?_autoKey (e : Entity) (field : Text) :
    (autoKey e field).complaint? =
      if field ∈ e.fieldNames then none else some (.unknownField e.name field) := by
  rw [complaint?, fields, if_neg (List.cons_ne_nil _ _), List.find?_singleton, entity]
  by_cases hfield : field ∈ e.fieldNames <;> simp [hfield]

end Registration

namespace Recording

variable (r : KeyRegistry) (e : Entity)

/-- Of two changes the second is made only if the first has not been refused. -/
theorem run_bind (x y : Recording) :
    ((x >>= fun _ => y).run).run r =
      match (x.run).run r with
      | (.ok (), next) => (y.run).run next
      | (.error err, next) => (.error err, next) := by
  unfold ExceptT.run StateT.run
  simp only [bind, ExceptT.bind, ExceptT.mk, StateT.bind]
  cases x r with
  | mk outcome next => cases outcome <;> rfl

/-- The field is refused if the entity does not declare it; the registry stays in either case. -/
theorem run_ensureField (field : Text) :
    ((ensureField e field).run).run r =
      (if field ∈ e.fieldNames then .ok () else .error (.unknownField e.name field), r) := by
  rw [ensureField]
  by_cases h : field ∈ e.fieldNames
  · rw [if_pos (Entity.declares_iff.2 h), if_pos h]
    rfl
  · rw [if_neg (mt Entity.declares_iff.1 h), if_neg h]
    rfl

/-- Of several fields the first that the entity does not declare is refused. -/
theorem run_ensureFields (fields : List Text) :
    ((fields.forM (ensureField e)).run).run r =
      (match fields.find? fun f => f ∉ e.fieldNames with
        | some f => .error (.unknownField e.name f)
        | none => .ok (), r) := by
  -- the checks read the registry and leave it alone, so the next one starts from the same
  induction fields with
  | nil => rfl
  | cons f rest ih =>
    change ((ensureField e f >>= fun _ => rest.forM (ensureField e)).run).run r = _
    rw [run_bind, run_ensureField, List.find?_cons]
    by_cases h : f ∈ e.fieldNames
    · simp only [h, if_true, not_true, decide_false, ih]
    · simp only [h, if_false, not_false_eq_true, decide_true]

/-- A name with an entry is refused, and otherwise the `change` is made. -/
theorem run_ensureFree_modify {α : Type} (kind : KeyKind)
    (entries : KeyRegistry → List (Text × α)) (change : KeyRegistry → KeyRegistry) :
    ((ensureFree kind e entries >>= fun _ => modify change).run).run r =
      if ((entries r).lookup e.name).isSome then
        (.error (.duplicateRegistration e.name kind.name), r)
      else (.ok (), change r) := by
  have hfree : ((ensureFree kind e entries).run).run r =
      (if ((entries r).lookup e.name).isSome then
        .error (.duplicateRegistration e.name kind.name) else .ok (), r) := by
    change ((if ((entries r).lookup e.name).isSome then
      (throw (.duplicateRegistration e.name kind.name) : Recording) else pure ()).run).run r = _
    split <;> rfl
  rw [run_bind, hfree]
  cases ((entries r).lookup e.name).isSome <;> rfl

end Recording

namespace KeyRegistry

/-- The keys of a kind under a name, in one form for both kinds. -/
def keys? (r : KeyRegistry) (kind : KeyKind) (name : Text) : Option (List Text) :=
  match kind with
  | .auto => (r.autoKey? name).map fun field => [field]
  | .conflict => r.conflictList? name

/-- The auto key of a name is the one field of its key of that kind. -/
theorem autoKey?_eq_head? (r : KeyRegistry) (name : Text) :
    r.autoKey? name = (r.keys? .auto name).bind List.head? := by
  rw [keys?, Option.bind_map]
  cases r.autoKey? name <;> rfl

/-- The registry with the key of one more registration, which has not been looked at. -/
def recorded (r : KeyRegistry) : Registration → KeyRegistry
  | .autoKey e field => { r with autoKeys := (e.name, field) :: r.autoKeys }
  | .conflictKey e fields => { r with conflictLists := (e.name, fields) :: r.conflictLists }

/-- `stored` has nothing to remove when it stores the first value of a key. -/
theorem stored_of_lookup_eq_none {α : Type} {key : Text} {entries : List (Text × α)}
    (h : entries.lookup key = none) (value : α) :
    stored key value entries = (key, value) :: entries := by
  rw [stored, List.filter_eq_self.2]
  intro entry hentry
  have hne := List.lookup_eq_none_iff.1 h entry hentry
  rw [bne_iff_ne]
  exact fun heq => by simp [heq] at hne

/-- A field that the entity declares is recorded as its auto key, unless the name has one. -/
theorem attempt_autoKey (r : KeyRegistry) (e : Entity) (field : Text) :
    r.attempt (.autoKey e field) =
      if field ∈ e.fieldNames then
        if (r.autoKey? e.name).isSome then
          (.error (.duplicateRegistration e.name KeyKind.auto.name), r)
        else (.ok (), r.recorded (.autoKey e field))
      else (.error (.unknownField e.name field), r) := by
  change ((Recording.autoKey e field).run).run r = _
  rw [Recording.autoKey, Recording.run_bind, Recording.run_ensureField]
  by_cases hfield : field ∈ e.fieldNames
  · rw [if_pos hfield, if_pos hfield]
    change ((Recording.ensureFree .auto e autoKeys >>= fun _ => modify _).run).run r = _
    rw [Recording.run_ensureFree_modify, autoKey?]
    cases hlookup : r.autoKeys.lookup e.name with
    | some _ => rfl
    | none =>
      -- no older value has to go
      rw [stored_of_lookup_eq_none hlookup]
      rfl
  · rw [if_neg hfield, if_neg hfield]

/-- A list of fields that the entity declares is recorded as its conflict keys, unless it is empty
or the name has some. -/
theorem attempt_conflictKey (r : KeyRegistry) (e : Entity) (fields : List Text) :
    r.attempt (.conflictKey e fields) =
      if fields = [] then (.error (.invalid (emptyListReason e.name)), r)
      else match fields.find? fun f => f ∉ e.fieldNames with
        | some f => (.error (.unknownField e.name f), r)
        | none =>
          if (r.conflictList? e.name).isSome then
            (.error (.duplicateRegistration e.name KeyKind.conflict.name), r)
          else (.ok (), r.recorded (.conflictKey e fields)) := by
  change ((Recording.conflictKey e fields).run).run r = _
  rw [Recording.conflictKey]
  by_cases hnil : fields = []
  · rw [if_pos (List.isEmpty_iff.2 hnil), if_pos hnil]
    rfl
  · rw [if_neg (mt List.isEmpty_iff.1 hnil), if_neg hnil, Recording.run_bind,
      Recording.run_ensureFields]
    cases fields.find? fun f => f ∉ e.fieldNames with
    | some f => rfl
    | none =>
      -- both checks passed: what is left looks the name up and stores the list
      change ((Recording.ensureFree .conflict e conflictLists >>= fun _ => modify _).run).run r = _
      rw [Recording.run_ensureFree_modify, conflictList?]
      cases hlookup : r.conflictLists.lookup e.name with
      | some _ => rfl
      | none =>
        rw [stored_of_lookup_eq_none hlookup]
        rfl

/-- **One registration.** A call that is wrong by itself is refused for its `complaint?`; then a key
of the same kind under the same name makes it a duplicate; otherwise its key is `recorded`. -/
theorem attempt_eq (r : KeyRegistry) (q : Registration) :
    r.attempt q =
      match q.complaint? with
      | some err => (.error err, r)
      | none =>
        if (r.keys? q.kind q.entity.name).isSome then
          (.error (.duplicateRegistration q.entity.name q.kind.name), r)
        else (.ok (), r.recorded q) := by
  cases q with
  | autoKey e field =>
    rw [attempt_autoKey, Registration.complaint?_autoKey]
    by_cases hfield : field ∈ e.fieldNames
    · rw [if_pos hfield, if_pos hfield]
      change _ = if ((r.autoKey? e.name).map fun field => [field]).isSome then _ else _
      rw [Option.isSome_map]
      rfl
    · rw [if_neg hfield, if_neg hfield]
  | conflictKey e fields =>
    rw [attempt_conflictKey, Registration.complaint?, Registration.fields, Registration.entity]
    by_cases hnil : fields = []
    · rw [if_pos hnil, if_pos hnil]
    · rw [if_neg hnil, if_neg hnil]
      cases fields.find? fun f => f ∉ e.fieldNames <;> rfl

end KeyRegistry

end RecordSql
