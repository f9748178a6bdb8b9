import RecordSql.Proofs.KeyRegistry.Attempt

/-! # Runs of registrations

A registry after any run of registrations, some of them refused: under each name it has the key of
the first valid call of each kind (`keys?_run`), and it counts the calls that have succeeded
(`count_run`). Both come by induction from what one call does, `keys?_attempt` and
`count_recorded`. -/

namespace RecordSql.KeyRegistry

/-- The first valid call of a run for a key of a kind under a name. -/
def firstValid? (kind : KeyKind) (name : Text) (requests : List Registration) :
    Option Registration :=
  requests.find? fun q => q.IsValid ∧ q.kind = kind ∧ q.entity.name = name

/-- The calls of a run that are not refused, in order. -/
def succeeded (r : KeyRegistry) : List Registration → List Registration
  | [] => []
  | q :: rest =>
    match r.attempt q with
    | (.ok (), next) => q :: next.succeeded rest
    | (.error _, next) => next.succeeded rest

/-- How many keys of a kind are on record. -/
def count (r : KeyRegistry) : KeyKind → Nat
  | .auto => r.autoKeys.length
  | .conflict => r.conflictLists.length

variable {r : KeyRegistry} {q : Registration} {kind : KeyKind} {name : Text}

/-! ### One step: `attempt` -/

/-- The entry in front decides for its own key, and the others for theirs. -/
theorem lookup_cons_ite {α : Type} (key name : Text) (value : α) (entries : List (Text × α)) :
    ((key, value) :: entries).lookup name
      = if key = name then some value else entries.lookup name := by
  by_cases h : key = name
  · rw [h, List.lookup_cons_self, if_pos rfl]
  · rw [List.lookup_cons, if_neg h, beq_false_of_ne (Ne.symm h)]

/-- What `recorded` adds is the key of its kind under its name; the others stay. -/
theorem keys?_recorded (r : KeyRegistry) (q : Registration) (kind : KeyKind) (name : Text) :
    (r.recorded q).keys? kind name =
      if q.kind = kind ∧ q.entity.name = name then some q.fields else r.keys? kind name := by
  cases q with
  | autoKey e field =>
    cases kind with
    | auto =>
      change (List.lookup name ((e.name, field) :: r.autoKeys)).map _ = _
      rw [lookup_cons_ite]
      by_cases h : e.name = name <;> simp [Registration.kind, Registration.entity,
        Registration.fields, keys?, autoKey?, h]
    | conflict => rfl
  | conflictKey e fields =>
    cases kind with
    | auto => rfl
    | conflict =>
      change List.lookup name ((e.name, fields) :: r.conflictLists) = _
      rw [lookup_cons_ite]
      by_cases h : e.name = name <;> simp [Registration.kind, Registration.entity,
        Registration.fields, keys?, conflictList?, h]

/-- One more key of its kind is on record. -/
theorem count_recorded (r : KeyRegistry) (q : Registration) (kind : KeyKind) :
    (r.recorded q).count kind = r.count kind + if q.kind = kind then 1 else 0 := by
  cases q <;> cases kind <;> rfl

/-- A call is refused and changes nothing, or it is valid and records the first key of its kind
under its name. -/
theorem attempt_cases (r : KeyRegistry) (q : Registration) :
    (∃ err, r.attempt q = (.error err, r) ∧
        ¬ (q.IsValid ∧ r.keys? q.kind q.entity.name = none)) ∨
      (r.attempt q = (.ok (), r.recorded q) ∧ q.IsValid ∧ r.keys? q.kind q.entity.name = none) := by
  rw [attempt_eq]
  cases hcomplaint : q.complaint? with
  | some err =>
    refine Or.inl ⟨err, rfl, fun h => ?_⟩
    rw [Registration.complaint?_eq_none_iff.2 h.1] at hcomplaint
    cases hcomplaint
  | none =>
    have hvalid := Registration.complaint?_eq_none_iff.1 hcomplaint
    cases hkeys : r.keys? q.kind q.entity.name with
    | some keys => exact Or.inl ⟨_, rfl, fun h => by cases h.2⟩
    | none => exact Or.inr ⟨rfl, hvalid, rfl⟩

/-- **One step**: a key on record stays, and otherwise a valid call brings its own, `q.fields`. -/
theorem keys?_attempt (r : KeyRegistry) (q : Registration) (kind : KeyKind) (name : Text) :
    (r.attempt q).2.keys? kind name =
      (r.keys? kind name).or
        (if q.IsValid ∧ q.kind = kind ∧ q.entity.name = name then some q.fields else none) := by
  rcases r.attempt_cases q with ⟨err, hattempt, hnot⟩ | ⟨hattempt, hvalid, hfree⟩
  · -- refused: if the call was valid, a key was there before it
    rw [hattempt]
    split
    · next h =>
      obtain ⟨hvalid, rfl, rfl⟩ := h
      cases hkeys : r.keys? q.kind q.entity.name with
      | none => exact absurd ⟨hvalid, hkeys⟩ hnot
      | some keys => rfl
    · rw [Option.or_none]
  · -- recorded: its own key is new, any other is the old one
    rw [hattempt]
    change (r.recorded q).keys? kind name = _
    rw [keys?_recorded]
    by_cases h : q.kind = kind ∧ q.entity.name = name
    · obtain ⟨rfl, rfl⟩ := h
      simp [hvalid, hfree]
    · rw [if_neg h, if_neg (fun hboth => h hboth.2), Option.or_none]

/-! ### Runs: `run` -/

@[simp] theorem run_nil (r : KeyRegistry) : r.run [] = r := rfl

@[simp] theorem run_cons (r : KeyRegistry) (q : Registration) (rest : List Registration) :
    r.run (q :: rest) = (r.attempt q).2.run rest := rfl

/-- **A run**: a key on record stays, and otherwise the first valid call (`firstValid?`) brings its
own. -/
theorem keys?_run (r : KeyRegistry) (requests : List Registration) (kind : KeyKind) (name : Text) :
    (r.run requests).keys? kind name =
      (r.keys? kind name).or ((firstValid? kind name requests).map Registration.fields) := by
  -- along the calls, from any registry: what is on record only ever shadows what follows
  induction requests generalizing r with
  | nil => rw [run_nil, firstValid?, List.find?_nil, Option.map_none, Option.or_none]
  | cons q rest ih =>
    rw [run_cons, ih, keys?_attempt, Option.or_assoc]
    by_cases h : q.IsValid ∧ q.kind = kind ∧ q.entity.name = name
    · rw [if_pos h, firstValid?, firstValid?, List.find?_cons_of_pos (by simpa using h)]
      rfl
    · rw [if_neg h, firstValid?, firstValid?, List.find?_cons_of_neg (by simpa using h)]
      rfl

/-- A key is on record after a run exactly if it was before or a call for it has `succeeded`. -/
theorem isSome_keys?_run (r : KeyRegistry) (requests : List Registration) (kind : KeyKind)
    (name : Text) :
    ((r.run requests).keys? kind name).isSome ↔ (r.keys? kind name).isSome ∨
      ∃ q ∈ r.succeeded requests, q.kind = kind ∧ q.entity.name = name := by
  induction requests generalizing r with
  | nil => simp [succeeded]
  | cons q rest ih =>
    rw [run_cons, ih, succeeded]
    rcases r.attempt_cases q with ⟨err, hattempt, -⟩ | ⟨hattempt, -, hfree⟩
    · rw [hattempt]
    · rw [hattempt]
      change ((r.recorded q).keys? kind name).isSome ∨ _ ↔ _
      rw [keys?_recorded]
      by_cases h : q.kind = kind ∧ q.entity.name = name
      · simp [h]
      · simp [h]

/-- A run adds a key for each call that succeeds. -/
theorem count_run (r : KeyRegistry) (requests : List Registration) (kind : KeyKind) :
    (r.run requests).count kind
      = r.count kind + (r.succeeded requests).countP (·.kind = kind) := by
  induction requests generalizing r with
  | nil => rfl
  | cons q rest ih =>
    rw [run_cons, ih, succeeded]
    rcases r.attempt_cases q with ⟨err, hattempt, -⟩ | ⟨hattempt, -, -⟩
    · rw [hattempt]
    · rw [hattempt]
      simp only [count_recorded, List.countP_cons, decide_eq_true_eq]
      omega

/-! ### Runs from the start -/

theorem keys?_empty (kind : KeyKind) (name : Text) : empty.keys? kind name = none := by
  cases kind <;> rfl

/-- The keys of a name are those of its first valid call. -/
theorem keys?_run_empty (requests : List Registration) (kind : KeyKind) (name : Text) :
    (empty.run requests).keys? kind name
      = (firstValid? kind name requests).map Registration.fields := by
  rw [keys?_run, keys?_empty, Option.none_or]

/-- A refused call leaves the registry as it was. -/
theorem attempt_of_error (r : KeyRegistry) (q : Registration) {err : SqlError}
    (h : (r.attempt q).1 = .error err) : (r.attempt q).2 = r := by
  rcases r.attempt_cases q with ⟨_, hattempt, -⟩ | ⟨hattempt, -⟩
  · rw [hattempt]
  · rw [hattempt] at h
    cases h

/-- The outcome of a call after a run: its own `complaint?`, or else a duplicate exactly if a call
of its kind under its name has succeeded before. -/
theorem outcome_attempt_run (before : List Registration) (q : Registration) :
    ((empty.run before).attempt q).1 =
      match q.complaint? with
      | some err => .error err
      | none =>
        if ∃ p ∈ empty.succeeded before, p.kind = q.kind ∧ p.entity.name = q.entity.name then
          .error (.duplicateRegistration q.entity.name q.kind.name)
        else .ok () := by
  have hearlier := isSome_keys?_run empty before q.kind q.entity.name
  rw [keys?_empty, Option.isSome_none, Bool.false_eq_true, false_or] at hearlier
  rw [attempt_eq]
  cases q.complaint? with
  | some err => rfl
  | none =>
    by_cases h : ∃ p ∈ empty.succeeded before, p.kind = q.kind ∧ p.entity.name = q.entity.name
    · simp only [if_pos h, if_pos (hearlier.2 h)]
    · simp only [if_neg h, if_neg (mt hearlier.1 h)]

/-- The auto key of a name is the field of its first valid call of that kind. -/
theorem autoKey?_run (requests : List Registration) (name : Text) :
    (empty.run requests).autoKey? name
      = (firstValid? .auto name requests).bind fun q => q.fields.head? := by
  rw [autoKey?_eq_head?, keys?_run_empty, Option.bind_map]
  rfl

/-- The conflict keys of a name are the fields of its first valid call of that kind, or its auto
key. -/
theorem conflictKeys_run (requests : List Registration) (name : Text) :
    (empty.run requests).conflictKeys name =
      match firstValid? .conflict name requests with
      | some q => q.fields
      | none => ((empty.run requests).autoKey? name).toList := by
  have hconflict : (empty.run requests).conflictList? name = _ :=
    keys?_run_empty requests .conflict name
  rw [conflictKeys, hconflict]
  cases firstValid? .conflict name requests <;> rfl

/-- The event `frozen` counts the calls that have succeeded, kind by kind. -/
theorem frozen_run (requests : List Registration) :
    (empty.run requests).frozen =
      .registryFrozen ((empty.succeeded requests).countP (·.kind = .auto))
        ((empty.succeeded requests).countP (·.kind = .conflict)) := by
  have hauto := count_run empty requests .auto
  have hconflict := count_run empty requests .conflict
  change _ = 0 + _ at hauto
  change _ = 0 + _ at hconflict
  rw [Nat.zero_add] at hauto hconflict
  rw [← hauto, ← hconflict]
  rfl

/-- **A registry after a run of registrations.** A call of the run is refused if it names no field, or
else for the first field that its own entity does not declare, or else as a duplicate if a call of
its kind under its name has succeeded before it; otherwise it succeeds. A refusal leaves the registry
as it was. In the end each name has the keys of its first valid call of each kind, and those of its
auto key where it has no conflict keys. The event of the finished registry counts the calls that have
succeeded. -/
theorem run_empty (requests : List Registration) :
    (∀ before q after, requests = before ++ q :: after →
      let r := empty.run before
      let outcome := (r.attempt q).1
      (∀ err, outcome = .error err → (r.attempt q).2 = r) ∧
      (q.fields = [] → outcome = .error (.invalid ("conflict key for '".toList ++ q.entity.name
        ++ "' must name at least one field".toList))) ∧
      (∀ declared field rest, q.fields = declared ++ field :: rest →
        (∀ f ∈ declared, f ∈ q.entity.fieldNames) → field ∉ q.entity.fieldNames →
          outcome = .error (.unknownField q.entity.name field)) ∧
      (q.fields ≠ [] → (∀ f ∈ q.fields, f ∈ q.entity.fieldNames) →
        outcome =
          if ∃ p ∈ empty.succeeded before, p.kind = q.kind ∧ p.entity.name = q.entity.name then
            .error (.duplicateRegistration q.entity.name q.kind.name)
          else .ok ())) ∧
    (∀ name,
      let r := empty.run requests
      r.autoKey? name = (firstValid? .auto name requests).bind (·.fields.head?) ∧
      (∀ field, r.isAutoKey name field ↔ r.autoKey? name = some field) ∧
      r.conflictKeys name =
        match firstValid? .conflict name requests with
        | some q => q.fields
        | none => (r.autoKey? name).toList) ∧
    (empty.run requests).frozen =
      .registryFrozen ((empty.succeeded requests).countP (·.kind = .auto))
        ((empty.succeeded requests).countP (·.kind = .conflict)) := by
  -- the outcome of an attempt is told by its complaint, and without one by the places taken before
  refine ⟨fun before q after _ => ⟨fun err => attempt_of_error _ q, fun hnil => ?_,
      fun declared field rest hfields hdeclared hfield => ?_, fun hsome hdeclared => ?_⟩,
    fun name => ⟨autoKey?_run requests name, fun field => ?_, conflictKeys_run requests name⟩,
    frozen_run requests⟩
  · rw [outcome_attempt_run, Registration.complaint?_of_nil hnil]
    rfl
  · rw [outcome_attempt_run, Registration.complaint?_of_undeclared hfields hdeclared hfield]
  · rw [outcome_attempt_run, Registration.complaint?_eq_none_iff.2 ⟨hsome, hdeclared⟩]
  · rw [isAutoKey, beq_iff_eq]

end RecordSql.KeyRegistry
