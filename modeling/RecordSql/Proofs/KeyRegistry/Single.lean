import Mathlib.Data.List.Find
import RecordSql.Proofs.KeyRegistry.Order

/-! # The registrations of one declaration

A declaration asks for one key of each kind at most, so its registrations do not stand in the way of
one another (`nodup_places`). If they are valid, they fail exactly if the registry has a key of a
kind that is asked for (`collect_singleton`); otherwise the registry has these keys in addition
(`keys?_run_registrations`). -/

namespace RecordSql

namespace KeyDeclaration

variable {d : KeyDeclaration}

/-- The key of a kind that a declaration asks for, as `KeyRegistry.keys?` gives it. -/
def keys? (d : KeyDeclaration) : KeyKind → Option (List Text)
  | .auto => d.autoKey.map fun field => [field]
  | .conflict => d.conflictKeys

/-- The registrations are the keys asked for, each with its kind and the entity of the
declaration. -/
theorem mem_registrations {q : Registration} :
    q ∈ d.registrations ↔ q.entity = d.entity ∧ d.keys? q.kind = some q.fields := by
  obtain ⟨e, autoKey, conflictKeys⟩ := d
  cases q <;> cases autoKey <;> cases conflictKeys <;>
    simp [registrations, keys?, Registration.entity, Registration.kind, Registration.fields,
      eq_comm]

/-- For each key asked for there is a registration. -/
theorem exists_mem_registrations {kind : KeyKind} (h : (d.keys? kind).isSome = true) :
    ∃ q ∈ d.registrations, q.kind = kind := by
  cases kind with
  | auto =>
    obtain ⟨field, hfield⟩ := Option.isSome_iff_exists.1 ((Option.isSome_map).symm.trans h)
    exact ⟨.autoKey d.entity field, mem_registrations.2 ⟨rfl, congrArg (Option.map _) hfield⟩, rfl⟩
  | conflict =>
    obtain ⟨fields, hfields⟩ := Option.isSome_iff_exists.1 h
    exact ⟨.conflictKey d.entity fields, mem_registrations.2 ⟨rfl, hfields⟩, rfl⟩

/-- No two registrations ask for one place, because their kinds differ. -/
theorem nodup_places (d : KeyDeclaration) : (d.registrations.map Registration.place).Nodup := by
  obtain ⟨e, autoKey, conflictKeys⟩ := d
  cases autoKey <;> cases conflictKeys <;>
    simp [registrations, Registration.place, Registration.kind]

end KeyDeclaration

namespace KeyRegistry

variable {r : KeyRegistry} {d : KeyDeclaration} {q : Registration}
  {requests rest : List Registration}

/-- Whether the registry has a key already at the place that a registration asks for. -/
def holds (r : KeyRegistry) (q : Registration) : Bool := (r.keys? q.kind q.entity.name).isSome

/-- A valid registration is a duplicate if its place is taken, and otherwise its key is recorded. -/
theorem attempt_of_isValid (hvalid : q.IsValid) :
    r.attempt q =
      if r.holds q then (.error (.duplicateRegistration q.entity.name q.kind.name), r)
      else (.ok (), r.recorded q) := by
  rw [attempt_eq, Registration.complaint?_eq_none_iff.2 hvalid]
  rfl

/-- What is recorded at one place does not change what `holds` at another. -/
theorem holds_recorded {p : Registration} (h : q.place ≠ p.place) :
    (r.recorded q).holds p = r.holds p := by
  rw [holds, keys?_recorded, if_neg, holds]
  exact fun heq => h (Prod.ext heq.1 heq.2)

/-- **Valid registrations for different places**: the first whose place is taken is a duplicate, and
without such a one they succeed and leave `r.run requests`. -/
theorem registerAll_of_isValid (hvalid : ∀ q ∈ requests, q.IsValid)
    (hnodup : (requests.map Registration.place).Nodup) (r : KeyRegistry) :
    r.registerAll requests =
      match requests.find? r.holds with
      | some q => .error (.duplicateRegistration q.entity.name q.kind.name)
      | none => .ok (r.run requests) := by
  -- along the registrations, from any registry: what is recorded leaves the places ahead as they are
  induction requests generalizing r with
  | nil => rfl
  | cons q rest ih =>
    rw [List.forall_mem_cons] at hvalid
    rw [List.map_cons, List.nodup_cons] at hnodup
    rw [registerAll_cons, run_cons, attempt_of_isValid hvalid.1]
    by_cases hholds : r.holds q = true
    · rw [if_pos hholds, List.find?_cons_of_pos hholds]
    · -- recorded, and none of the places that follow is the one recorded
      have hrest : rest.find? (r.recorded q).holds = rest.find? r.holds :=
        List.find?_congr fun p hp =>
          holds_recorded fun hplace => hnodup.1 (hplace ▸ List.mem_map_of_mem hp)
      rw [if_neg hholds, List.find?_cons_of_neg hholds, ← hrest]
      exact ih hvalid.2 hnodup.2 (r.recorded q)

/-- **One declaration.** The first of its valid registrations whose place is taken is a duplicate,
and without such a one the declaration succeeds. -/
theorem collect_singleton (hvalid : ∀ q ∈ d.registrations, q.IsValid) (r : KeyRegistry) :
    r.collect [d] =
      match d.registrations.find? r.holds with
      | some q => .error (.duplicateRegistration q.entity.name q.kind.name)
      | none => .ok (r.run d.registrations) := by
  rw [collect, List.flatMap_singleton, registerAll_of_isValid hvalid d.nodup_places]

/-- A registry without keys under the name of the entity takes a declaration up. -/
theorem collect_of_free (hvalid : ∀ q ∈ d.registrations, q.IsValid)
    (hfree : ∀ kind, r.keys? kind d.entity.name = none) :
    r.collect [d] = .ok (r.run d.registrations) := by
  have hnone : d.registrations.find? r.holds = none := by
    refine List.find?_eq_none.2 fun q hq => ?_
    rw [holds, (KeyDeclaration.mem_registrations.1 hq).1, hfree]
    exact Bool.false_ne_true
  rw [collect_singleton hvalid, hnone]

/-- A registry with a key of a kind that is asked for refuses a declaration because of a
duplicate. -/
theorem collect_of_taken (hvalid : ∀ q ∈ d.registrations, q.IsValid) {kind : KeyKind}
    (hasked : (d.keys? kind).isSome = true) (htaken : (r.keys? kind d.entity.name).isSome = true) :
    ∃ held, (d.keys? held).isSome = true ∧ (r.keys? held d.entity.name).isSome = true ∧
      r.collect [d] = .error (.duplicateRegistration d.entity.name held.name) := by
  obtain ⟨q, hq, rfl⟩ := KeyDeclaration.exists_mem_registrations hasked
  rw [collect_singleton hvalid]
  cases hfound : d.registrations.find? r.holds with
  | none =>
    rw [← (KeyDeclaration.mem_registrations.1 hq).1] at htaken
    exact absurd htaken (List.find?_eq_none.1 hfound q hq)
  | some p =>
    obtain ⟨hentity, hkeys⟩ :=
      KeyDeclaration.mem_registrations.1 (List.mem_of_find?_eq_some hfound)
    have hholds : r.holds p = true := List.find?_some hfound
    rw [← hentity]
    exact ⟨p.kind, by rw [hkeys, Option.isSome_some], hholds, rfl⟩

/-- **The keys after one declaration**: those before it, and where there was none its own. -/
theorem keys?_run_registrations (hvalid : ∀ q ∈ d.registrations, q.IsValid) (r : KeyRegistry)
    (kind : KeyKind) (name : Text) :
    (r.run d.registrations).keys? kind name =
      (r.keys? kind name).or (if d.entity.name = name then d.keys? kind else none) := by
  rw [keys?_run]
  congr 1
  obtain ⟨e, autoKey, conflictKeys⟩ := d
  by_cases hname : e.name = name <;> cases kind <;> cases autoKey <;> cases conflictKeys <;>
    simp_all [KeyDeclaration.registrations, firstValid?, KeyDeclaration.keys?, Registration.kind,
      Registration.entity, Registration.fields]

end KeyRegistry

end RecordSql
