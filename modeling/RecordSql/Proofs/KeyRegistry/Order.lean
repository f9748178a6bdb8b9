import Mathlib.Data.List.Nodup
import Mathlib.Data.List.Perm.Basic
import RecordSql.Proofs.KeyRegistry.Run

/-! # Registrations in any order

Entities ask for their keys in an order that nobody chooses. A list of registrations succeeds if
each is valid by itself and no place, a kind of key under a name, is asked for twice or taken
already: `Admits`. No part of that depends on the order, and neither do the keys in the end:
`collect_perm`. -/

namespace RecordSql

/-- The place that a registration asks for: a kind of key under the name of its entity. -/
def Registration.place (q : Registration) : KeyKind × Text := (q.kind, q.entity.name)

namespace KeyRegistry

/-- **Whether a registry admits registrations**: each is valid by itself, its place is free, and no
two ask for the same place. -/
structure Admits (r : KeyRegistry) (requests : List Registration) : Prop where
  valid : ∀ q ∈ requests, q.IsValid
  free : ∀ q ∈ requests, r.keys? q.kind q.entity.name = none
  nodup : (requests.map Registration.place).Nodup

variable {r s : KeyRegistry} {q : Registration} {requests rest other : List Registration}

/-! ### What is admitted succeeds: `Admits` -/

theorem admits_nil (r : KeyRegistry) : r.Admits [] where
  valid _ hq := absurd hq List.not_mem_nil
  free _ hq := absurd hq List.not_mem_nil
  nodup := List.nodup_nil

/-- A place is free after a registration if it was before and is not the one recorded. -/
theorem keys?_recorded_eq_none_iff {p : Registration} :
    (r.recorded q).keys? p.kind p.entity.name = none
      ↔ r.keys? p.kind p.entity.name = none ∧ q.place ≠ p.place := by
  rw [keys?_recorded]
  by_cases h : q.kind = p.kind ∧ q.entity.name = p.entity.name
  · simp [Registration.place, h]
  · rw [if_neg h, Registration.place, Registration.place, Ne, Prod.mk.injEq]
    exact (and_iff_left h).symm

/-- The first registration has to succeed, and `r.recorded q` has to admit the rest. -/
theorem admits_cons : r.Admits (q :: rest) ↔
    (q.IsValid ∧ r.keys? q.kind q.entity.name = none) ∧ (r.recorded q).Admits rest := by
  constructor
  · rintro ⟨hvalid, hfree, hnodup⟩
    rw [List.forall_mem_cons] at hvalid hfree
    rw [List.map_cons, List.nodup_cons] at hnodup
    refine ⟨⟨hvalid.1, hfree.1⟩, hvalid.2, fun p hp => ?_, hnodup.2⟩
    -- recording `q` takes its own place only, which no later registration has
    refine keys?_recorded_eq_none_iff.2 ⟨hfree.2 p hp, fun hplace => hnodup.1 ?_⟩
    rw [hplace]
    exact List.mem_map_of_mem hp
  · rintro ⟨⟨hvalid, hfree⟩, hrest⟩
    refine ⟨List.forall_mem_cons.2 ⟨hvalid, hrest.valid⟩, List.forall_mem_cons.2 ⟨hfree, ?_⟩, ?_⟩
    · exact fun p hp => (keys?_recorded_eq_none_iff.1 (hrest.free p hp)).1
    · rw [List.map_cons, List.nodup_cons]
      refine ⟨fun hmem => ?_, hrest.nodup⟩
      obtain ⟨p, hp, hplace⟩ := List.mem_map.1 hmem
      exact (keys?_recorded_eq_none_iff.1 (hrest.free p hp)).2 hplace.symm

@[simp] theorem registerAll_nil (r : KeyRegistry) : r.registerAll [] = .ok r := rfl

/-- Registrations go on from the registry that the first has left, if it has not been refused. -/
theorem registerAll_cons (r : KeyRegistry) (q : Registration) (rest : List Registration) :
    r.registerAll (q :: rest) =
      match (r.attempt q).1 with
      | .ok () => (r.attempt q).2.registerAll rest
      | .error err => .error err := by
  rw [registerAll, List.foldlM_cons, register]
  cases (r.attempt q).1 <;> rfl

/-- **Registrations all succeed exactly if the registry `Admits` them**, and what they leave is the
registry after the `run` of them. -/
theorem registerAll_eq_ok_iff :
    r.registerAll requests = .ok s ↔ r.Admits requests ∧ r.run requests = s := by
  -- along the registrations, from any registry: the first is admitted exactly if it succeeds
  induction requests generalizing r with
  | nil => rw [registerAll_nil, run_nil, Except.ok.injEq, and_iff_right (admits_nil r)]
  | cons q rest ih =>
    rw [registerAll_cons, run_cons, admits_cons]
    rcases r.attempt_cases q with ⟨err, hattempt, hnot⟩ | ⟨hattempt, hadmitted⟩
    · rw [hattempt]
      constructor
      · exact fun h => nomatch h
      · exact fun h => absurd h.1.1 hnot
    · rw [hattempt, and_iff_right hadmitted]
      exact ih

theorem exists_registerAll_iff : (∃ s, r.registerAll requests = .ok s) ↔ r.Admits requests := by
  simp only [registerAll_eq_ok_iff, exists_and_left, exists_eq', and_true]

/-! ### Order -/

/-- What is admitted in one order is admitted in any: each field of `Admits` is stable under
permutation. -/
theorem Admits.perm (h : r.Admits requests) (hperm : requests.Perm other) : r.Admits other where
  valid q hq := h.valid q (hperm.mem_iff.2 hq)
  free q hq := h.free q (hperm.mem_iff.2 hq)
  nodup := (hperm.map Registration.place).nodup_iff.1 h.nodup

/-- Of admitted registrations the first valid one for a place is the only one. -/
theorem Admits.firstValid?_eq_some_iff (h : r.Admits requests) {kind : KeyKind} {name : Text} :
    firstValid? kind name requests = some q
      ↔ q ∈ requests ∧ q.kind = kind ∧ q.entity.name = name := by
  have hfound : ∀ {p : Registration}, firstValid? kind name requests = some p →
      p ∈ requests ∧ p.kind = kind ∧ p.entity.name = name := by
    intro p hp
    have hprop : p.IsValid ∧ p.kind = kind ∧ p.entity.name = name := by
      simpa using List.find?_some hp
    exact ⟨List.mem_of_find?_eq_some hp, hprop.2⟩
  refine ⟨hfound, fun ⟨hq, hkind, hname⟩ => ?_⟩
  cases hfirst : firstValid? kind name requests with
  | none =>
    have hnone := List.find?_eq_none.1 hfirst q hq
    exact absurd (decide_eq_true ⟨h.valid q hq, hkind, hname⟩) hnone
  | some p =>
    -- both ask for the same place, and no place is asked for twice
    obtain ⟨hp, hkind', hname'⟩ := hfound hfirst
    have hplace : p.place = q.place := by
      rw [Registration.place, Registration.place, hkind, hname, hkind', hname']
    rw [List.inj_on_of_nodup_map h.nodup hp hq hplace]

/-- The keys after admitted registrations are the same for any order, though the lists that hold
them are not. -/
theorem Admits.keys?_run_perm (h : r.Admits requests) (hperm : requests.Perm other)
    (kind : KeyKind) (name : Text) :
    (r.run requests).keys? kind name = (r.run other).keys? kind name := by
  have hfirst : firstValid? kind name requests = firstValid? kind name other := by
    ext q
    rw [h.firstValid?_eq_some_iff, (h.perm hperm).firstValid?_eq_some_iff, hperm.mem_iff]
  rw [keys?_run, keys?_run, hfirst]

/-- Registries with the same `keys?` of a name give the same answers about it. -/
theorem answers_congr {name : Text} (h : ∀ kind, r.keys? kind name = s.keys? kind name) :
    r.autoKey? name = s.autoKey? name ∧
      (∀ field, r.isAutoKey name field = s.isAutoKey name field) ∧
      r.conflictKeys name = s.conflictKeys name := by
  have hauto : r.autoKey? name = s.autoKey? name := by
    rw [autoKey?_eq_head?, autoKey?_eq_head?, h]
  have hconflict : r.conflictList? name = s.conflictList? name := h .conflict
  refine ⟨hauto, fun field => ?_, ?_⟩
  · rw [isAutoKey, isAutoKey, hauto]
  · rw [conflictKeys, conflictKeys, hauto, hconflict]

/-! ### Declarations: `collect` -/

/-- The registrations of a declaration are valid if each key it asks for has fields and these are
declared. -/
theorem forall_registrations_isValid_iff {d : KeyDeclaration} :
    (∀ q ∈ d.registrations, q.IsValid) ↔
      (∀ field ∈ d.autoKey, field ∈ d.entity.fieldNames) ∧
        ∀ fields ∈ d.conflictKeys, fields ≠ [] ∧ ∀ f ∈ fields, f ∈ d.entity.fieldNames := by
  obtain ⟨e, autoKey, conflictKeys⟩ := d
  cases autoKey <;> cases conflictKeys <;>
    simp [KeyDeclaration.registrations, Registration.IsValid, Registration.fields,
      Registration.entity]

/-- **The order of declarations does not matter.** Collecting them succeeds in one order exactly if
it does in another, and the two registries then give the same answers for all names. It succeeds
exactly if every declared key has fields and these are fields of its entity, no two keys of one kind
are declared under one name, and the registry has none of them already. -/
theorem collect_perm (r : KeyRegistry) {declarations other : List KeyDeclaration}
    (hperm : declarations.Perm other) :
    let places := (declarations.flatMap KeyDeclaration.registrations).map Registration.place
    ((∃ s, r.collect declarations = .ok s) ↔ ∃ s, r.collect other = .ok s) ∧
    (∀ s s', r.collect declarations = .ok s → r.collect other = .ok s' → ∀ name,
      s.autoKey? name = s'.autoKey? name ∧
      (∀ field, s.isAutoKey name field = s'.isAutoKey name field) ∧
      s.conflictKeys name = s'.conflictKeys name) ∧
    ((∃ s, r.collect declarations = .ok s) ↔
      (∀ d ∈ declarations, (∀ field ∈ d.autoKey, field ∈ d.entity.fieldNames) ∧
        ∀ fields ∈ d.conflictKeys, fields ≠ [] ∧ ∀ f ∈ fields, f ∈ d.entity.fieldNames) ∧
      places.Nodup ∧ ∀ place ∈ places, r.keys? place.1 place.2 = none) := by
  intro places
  -- the declarations' registrations are permuted as they are
  have hrequests := hperm.flatMap_right KeyDeclaration.registrations
  refine ⟨?_, ?_, ?_⟩
  · simp only [collect, exists_registerAll_iff]
    exact ⟨fun h => h.perm hrequests, fun h => h.perm hrequests.symm⟩
  · intro s s' hs hs' name
    rw [collect, registerAll_eq_ok_iff] at hs hs'
    -- both registries are runs of permuted registrations that are admitted
    obtain ⟨hadmits, rfl⟩ := hs
    obtain ⟨-, rfl⟩ := hs'
    exact answers_congr fun kind => hadmits.keys?_run_perm hrequests kind name
  · rw [collect, exists_registerAll_iff]
    simp only [← forall_registrations_isValid_iff]
    constructor
    · rintro ⟨hvalid, hfree, hnodup⟩
      refine ⟨fun d hd q hq => hvalid q (List.mem_flatMap.2 ⟨d, hd, hq⟩), hnodup,
        fun place hplace => ?_⟩
      obtain ⟨q, hq, rfl⟩ := List.mem_map.1 hplace
      exact hfree q hq
    · rintro ⟨hvalid, hnodup, hfree⟩
      refine ⟨fun q hq => ?_, fun q hq => hfree q.place (List.mem_map_of_mem hq), hnodup⟩
      obtain ⟨d, hd, hqd⟩ := List.mem_flatMap.1 hq
      exact hvalid d hd q hqd

/-- Two entities of one name: the one that declares the auto key and the one that declares the
conflict keys go together in either order, two that declare the auto key in none. -/
theorem collect_perm_orders :
    let row : KeyDeclaration := ⟨⟨"OrderRow".toList, "orders".toList,
      [⟨"id".toList, .int64, false⟩, ⟨"total".toList, .float64, false⟩]⟩, some "id".toList, none⟩
    let part : KeyDeclaration := ⟨⟨"OrderRef".toList, "orders".toList,
      [⟨"id".toList, .int64, false⟩, ⟨"code".toList, .text, false⟩]⟩, none, some ["code".toList]⟩
    let rival : KeyDeclaration := ⟨part.entity, some "id".toList, none⟩
    [row, part].Perm [part, row] ∧ [row, rival].Perm [rival, row] ∧
      (∃ s, empty.collect [part, row] = .ok s) ∧ ¬ ∃ s, empty.collect [rival, row] = .ok s := by
  intro row part rival
  have hpart : [row, part].Perm [part, row] := List.Perm.swap _ _ _
  have hrival : [row, rival].Perm [rival, row] := List.Perm.swap _ _ _
  refine ⟨hpart, hrival, ?_, ?_⟩
  · obtain ⟨horder, -, hiff⟩ := collect_perm empty hpart
    exact horder.1 (hiff.2 (by decide))
  · obtain ⟨horder, -, hiff⟩ := collect_perm empty hrival
    rw [← horder, hiff]
    decide

end KeyRegistry

end RecordSql
