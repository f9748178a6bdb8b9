import RecordSql.Proofs.Declaration.Fields
import RecordSql.Proofs.KeyRegistry.Single

/-! # Accepted declarations

What is accepted of a declaration is what its attributes and fields say (`mapping_of_accept`), and
the keys that it declares are fields of its own (`mem_names_of_accept`). So the registry has nothing
to object to them: the registrations of an accepted declaration can only fail because another has
come before, `collect_of_accept`. -/

namespace RecordSql

/-- **Entities of a mapping**: they have its name and its fields. -/
structure Mapping.Describes (m : Mapping) (e : Entity) : Prop where
  name : e.name = m.name
  fieldNames : e.fieldNames = m.fieldNames

/-- There is a key to register exactly if `keyDeclaration` asks for some. -/
theorem Mapping.registers_iff {m : Mapping} {e : Entity} :
    m.registers = true ↔ (m.keyDeclaration e).registrations ≠ [] := by
  obtain ⟨name, accessors, autoKey, conflictKeys⟩ := m
  cases autoKey <;> cases conflictKeys <;>
    simp [registers, keyDeclaration, KeyDeclaration.registrations]

namespace Declaration

open FieldDeclaration (names marked)

variable {d : Declaration} {fields : List FieldDeclaration} {m : Mapping} {e : Entity}
  {o : RecordOptions} {s : FieldScan} {keys : List Text}

/-- What the attributes of the record say by their items, whether or not they can be read. -/
def options (d : Declaration) : RecordOptions :=
  RecordOptions.stated (d.attributes.flatMap Attribute.items)

/-- The name of the entity: the one given in an attribute, or else that of the record. -/
def entityName (d : Declaration) : Text := d.options.name.getD d.ident.name

/-- **The keys that a record with these fields declares.** The auto key is the field `marked` so.
The conflict keys are those listed in an attribute of the record, or else the fields marked so. -/
def declaredKeys (d : Declaration) (fields : List FieldDeclaration) : KeyKind → List Text
  | .auto => marked FieldMarks.autoKey fields
  | .conflict => d.options.conflictKeys.getD (marked FieldMarks.conflictKey fields)

/-- Conflict keys that pass are those listed, which then are fields, or else those marked. -/
theorem conflictKeys_eq_ok (h : conflictKeys o s = .ok keys) :
    keys = o.conflictKeys.getD s.conflictKeys ∧
      ∀ listed, o.conflictKeys = some listed →
        ∀ key ∈ listed, key ∈ s.accessors.map Ident.name := by
  rw [conflictKeys] at h
  split at h
  · -- no list of its own: `keys = s.conflictKeys`
    next hnone =>
    cases h
    rw [hnone]
    exact ⟨rfl, fun _ hlisted => nomatch hlisted⟩
  · -- a list: `keys = listed`, once every key is found among the fields
    next listed hlisted =>
    split at h
    · split at h
      · cases h
      · next hfields =>
        cases h
        rw [hlisted]
        refine ⟨rfl, fun _ hkeys => ?_⟩
        cases hkeys
        simpa using hfields
    · cases h

/-- **An accepted declaration** has attributes and fields that can be read, and conflict keys that
agree with the fields. -/
theorem accept_eq_ok (hshape : d.shape = .named fields) (h : d.accept = .ok m) :
    (∀ item ∈ d.attributes.flatMap Attribute.items, RecordOptions.Admits item) ∧
      ∃ scan keys, fields.foldlM FieldScan.add .empty = .ok scan ∧
        conflictKeys d.options scan = .ok keys ∧
        m = ⟨d.entityName, scan.accessors, scan.autoKey, keys⟩ := by
  rw [accept] at h
  split at h
  · cases h
  · obtain ⟨found, hfound, h⟩ := bind_eq_ok.1 h
    rw [namedFields, hshape] at hfound
    cases hfound
    obtain ⟨o, hoptions, h⟩ := bind_eq_ok.1 h
    obtain ⟨scan, hscan, h⟩ := bind_eq_ok.1 h
    obtain ⟨keys, hkeys, h⟩ := bind_eq_ok.1 h
    cases h
    obtain ⟨hadmits, rfl⟩ := RecordOptions.ofAttributes_eq_ok hoptions
    exact ⟨hadmits, scan, keys, hscan, hkeys, rfl⟩

/-- The mapping of an accepted declaration has the name, the fields and the `declaredKeys` of the
declaration. -/
theorem mapping_of_accept (hshape : d.shape = .named fields) (h : d.accept = .ok m) :
    m.name = d.entityName ∧ m.fieldNames = names fields ∧
      m.autoKey.toList = d.declaredKeys fields .auto ∧
      m.conflictKeys = d.declaredKeys fields .conflict := by
  obtain ⟨-, scan, keys, hscan, hkeys, rfl⟩ := accept_eq_ok hshape h
  obtain ⟨haccessors, hauto, hconflict⟩ := FieldScan.foldlM_add_eq_ok hscan
  refine ⟨rfl, ?_, hauto, ?_⟩
  · rw [Mapping.fieldNames, haccessors]
    exact List.map_map
  · rw [declaredKeys, (conflictKeys_eq_ok hkeys).1, hconflict]
    rfl

/-- The keys that an accepted declaration declares are fields of its own, in whichever form. -/
theorem mem_names_of_accept (hshape : d.shape = .named fields) (h : d.accept = .ok m)
    (kind : KeyKind) : ∀ key ∈ d.declaredKeys fields kind, key ∈ names fields := by
  obtain ⟨-, scan, keys, hscan, hkeys, rfl⟩ := accept_eq_ok hshape h
  have hmarked : ∀ mark, ∀ key ∈ marked mark fields, key ∈ names fields := fun mark _ hkey =>
    (FieldDeclaration.marked_sublist mark fields).subset hkey
  cases kind with
  | auto => exact hmarked _
  | conflict =>
    rw [declaredKeys]
    cases hlisted : d.options.conflictKeys with
    | none => exact hmarked _
    | some listed =>
      -- a listed name may be any text, so each has been looked up among the fields
      intro key hkey
      have hfield := (conflictKeys_eq_ok hkeys).2 listed hlisted key hkey
      rw [(FieldScan.foldlM_add_eq_ok hscan).1] at hfield
      simpa [FieldScan.empty, names] using hfield

/-- An accepted declaration declares no key twice. -/
theorem nodup_declaredKeys (hshape : d.shape = .named fields) (hdistinct : (names fields).Nodup)
    (h : d.accept = .ok m) (kind : KeyKind) : (d.declaredKeys fields kind).Nodup := by
  have hmarked : ∀ mark, (marked mark fields).Nodup := fun mark =>
    hdistinct.sublist (FieldDeclaration.marked_sublist mark fields)
  cases kind with
  | auto => exact hmarked _
  | conflict =>
    rw [declaredKeys]
    cases hlisted : d.options.conflictKeys with
    | none => exact hmarked _
    | some listed =>
      exact (RecordOptions.conflictKeys_stated (accept_eq_ok hshape h).1 hlisted).2

/-! ### Registration -/

/-- What the mapping asks for are the `declaredKeys`, if there are some of the kind. -/
theorem keys?_keyDeclaration (hshape : d.shape = .named fields) (h : d.accept = .ok m) (e : Entity)
    (kind : KeyKind) :
    (m.keyDeclaration e).keys? kind =
      if d.declaredKeys fields kind = [] then none else some (d.declaredKeys fields kind) := by
  obtain ⟨-, -, hauto, hconflict⟩ := mapping_of_accept hshape h
  cases kind with
  | auto =>
    rw [← hauto]
    change m.autoKey.map _ = _
    cases m.autoKey <;> rfl
  | conflict =>
    rw [← hconflict]
    change (if m.conflictKeys.isEmpty then _ else _) = _
    cases m.conflictKeys <;> rfl

/-- The mapping asks for a key of a kind exactly if one is declared. -/
theorem isSome_keys?_keyDeclaration (hshape : d.shape = .named fields) (h : d.accept = .ok m)
    (e : Entity) (kind : KeyKind) :
    ((m.keyDeclaration e).keys? kind).isSome = true ↔ d.declaredKeys fields kind ≠ [] := by
  rw [keys?_keyDeclaration hshape h]
  by_cases hnil : d.declaredKeys fields kind = [] <;> simp [hnil]

/-- The registrations of an accepted declaration are valid, for every entity that the mapping
`Describes`. -/
theorem isValid_of_accept (hshape : d.shape = .named fields) (h : d.accept = .ok m)
    (he : m.Describes e) : ∀ q ∈ (m.keyDeclaration e).registrations, q.IsValid := by
  intro q hq
  obtain ⟨hentity, hkeys⟩ := KeyDeclaration.mem_registrations.1 hq
  rw [keys?_keyDeclaration hshape h] at hkeys
  split at hkeys
  · cases hkeys
  · next hne =>
    have hfields : d.declaredKeys fields q.kind = q.fields := Option.some.inj hkeys
    rw [Registration.IsValid, ← hfields, hentity]
    refine ⟨hne, fun key hkey => ?_⟩
    change key ∈ e.fieldNames
    rw [he.fieldNames, (mapping_of_accept hshape h).2.1]
    exact mem_names_of_accept hshape h q.kind key hkey

/-- The registrations are the auto key declared and then the conflict keys declared, if there are
some. -/
theorem registrations_keyDeclaration (hshape : d.shape = .named fields) (h : d.accept = .ok m)
    (e : Entity) :
    (m.keyDeclaration e).registrations =
      (d.declaredKeys fields .auto).map (Registration.autoKey e) ++
        if d.declaredKeys fields .conflict = [] then []
        else [.conflictKey e (d.declaredKeys fields .conflict)] := by
  obtain ⟨-, -, hauto, hconflict⟩ := mapping_of_accept hshape h
  rw [← hauto, ← hconflict, KeyDeclaration.registrations]
  congr 1
  · change (m.autoKey.map _).toList = _
    cases m.autoKey <;> rfl
  · change (Option.map _ (if m.conflictKeys.isEmpty then _ else _)).toList = _
    cases m.conflictKeys <;> rfl

/-- A registry without keys under the name of the entity takes up the keys declared, and an auto key
stands in for conflict keys. -/
theorem answers_run_of_accept {r : KeyRegistry} (hshape : d.shape = .named fields)
    (h : d.accept = .ok m) (he : m.Describes e) (hfree : ∀ kind, r.keys? kind e.name = none) :
    let s := r.run (m.keyDeclaration e).registrations
    (s.autoKey? e.name).toList = d.declaredKeys fields .auto ∧
      s.conflictKeys e.name =
        if d.declaredKeys fields .conflict = [] then d.declaredKeys fields .auto
        else d.declaredKeys fields .conflict := by
  intro s
  -- the name was free, so the registry has the keys of this declaration for it
  have hkeys : ∀ kind, s.keys? kind e.name = (m.keyDeclaration e).keys? kind := fun kind => by
    rw [KeyRegistry.keys?_run_registrations (isValid_of_accept hshape h he), hfree, Option.none_or]
    exact if_pos rfl
  have hauto : (s.autoKey? e.name).toList = d.declaredKeys fields .auto := by
    rw [KeyRegistry.autoKey?_eq_head?, hkeys, ← (mapping_of_accept hshape h).2.2.1]
    change ((m.autoKey.map _).bind _).toList = _
    cases m.autoKey <;> rfl
  have hconflict : s.conflictList? e.name = _ :=
    (hkeys .conflict).trans (keys?_keyDeclaration hshape h e .conflict)
  refine ⟨hauto, ?_⟩
  rw [KeyRegistry.conflictKeys, hconflict, hauto]
  split <;> rfl

/-- **What is accepted can be registered.** The conflict keys that an accepted declaration declares
are fields of its own, and none comes twice. Its registrations are the auto key and then the
conflict keys, or none if it declares no key. A registry without keys under the name of the entity
takes them up (`collect` succeeds), and nothing changes under other names: the auto key is the field
marked so, and the conflict keys are those declared, or else the auto key. If the registry has a key
of a kind that is declared, the registrations fail because of a duplicate. -/
theorem collect_of_accept (hshape : d.shape = .named fields) (hdistinct : (names fields).Nodup)
    (haccept : d.accept = .ok m) (hentity : m.Describes e) (r : KeyRegistry) :
    let declared := d.declaredKeys fields
    let requests := (m.keyDeclaration e).registrations
    let outcome := r.collect [m.keyDeclaration e]
    ((∀ key ∈ declared .conflict, key ∈ names fields) ∧ (declared .conflict).Nodup) ∧
    (requests = (declared .auto).map (Registration.autoKey e) ++
        (if declared .conflict = [] then [] else [.conflictKey e (declared .conflict)]) ∧
      (m.registers = true ↔ requests ≠ [])) ∧
    ((∀ kind, r.keys? kind d.entityName = none) → ∃ s, outcome = .ok s ∧
      (∀ name, name ≠ d.entityName → ∀ kind, s.keys? kind name = r.keys? kind name) ∧
      (s.autoKey? d.entityName).toList = declared .auto ∧
      s.conflictKeys d.entityName =
        if declared .conflict = [] then declared .auto else declared .conflict) ∧
    ∀ kind, declared kind ≠ [] → (r.keys? kind d.entityName).isSome →
      ∃ held, declared held ≠ [] ∧ (r.keys? held d.entityName).isSome ∧
        outcome = .error (.duplicateRegistration d.entityName held.name) := by
  intro declared requests outcome
  have hname : e.name = d.entityName := hentity.name.trans (mapping_of_accept hshape haccept).1
  have hvalid := isValid_of_accept hshape haccept hentity
  rw [← hname]
  refine ⟨⟨mem_names_of_accept hshape haccept .conflict,
    nodup_declaredKeys hshape hdistinct haccept .conflict⟩,
    ⟨registrations_keyDeclaration hshape haccept e, Mapping.registers_iff⟩, fun hfree => ?_,
    fun kind hne htaken => ?_⟩
  · -- valid registrations for free places succeed, and change no other name
    refine ⟨_, KeyRegistry.collect_of_free hvalid hfree, fun name hother kind => ?_,
      answers_run_of_accept hshape haccept hentity hfree⟩
    rw [KeyRegistry.keys?_run_registrations hvalid]
    exact (congrArg _ (if_neg hother.symm)).trans Option.or_none
  · -- they are valid all the same, so that a duplicate is all that can be wrong
    have hdeclared := isSome_keys?_keyDeclaration hshape haccept e
    obtain ⟨held, hasked, hheld, houtcome⟩ :=
      KeyRegistry.collect_of_taken hvalid ((hdeclared kind).2 hne) htaken
    exact ⟨held, (hdeclared held).1 hasked, hheld, houtcome⟩

/-- A record with conflict keys listed on it, one of them a raw identifier: an empty registry takes
its keys up, and one that has an auto key under the name given to it refuses them. -/
theorem collect_of_accept_account :
    let key : FieldDeclaration := ⟨⟨false, "id".toList⟩, .path [] (.mk ⟨false, "i64".toList⟩ []),
      [⟨"orm".toList, .arguments [.ident ⟨false, "auto_key".toList⟩]⟩]⟩
    let kind : FieldDeclaration := ⟨⟨true, "type".toList⟩,
      .path [] (.mk ⟨false, "String".toList⟩ []), []⟩
    let d : Declaration := ⟨⟨false, "Account".toList⟩, [],
      [⟨"orm".toList, .arguments [.ident ⟨false, "name".toList⟩, .punct '=',
        .string "accounts".toList]⟩, ⟨"orm".toList, .arguments
        [.ident ⟨false, "conflict_key".toList⟩, .punct '=', .string " type ,id".toList]⟩],
      .named [key, kind]⟩
    let m : Mapping := ⟨"accounts".toList, [key.ident, kind.ident], some "id".toList,
      ["type".toList, "id".toList]⟩
    let e : Entity := ⟨"Account".toList, "accounts".toList,
      [⟨"id".toList, .int64, false⟩, ⟨"type".toList, .text, false⟩]⟩
    let taken : KeyRegistry := ⟨[("accounts".toList, "code".toList)], []⟩
    d.accept = .ok m ∧
      (∃ s, KeyRegistry.empty.collect [m.keyDeclaration e] = .ok s ∧
        (s.autoKey? d.entityName).toList = ["id".toList] ∧
        s.conflictKeys d.entityName = ["type".toList, "id".toList]) ∧
      taken.collect [m.keyDeclaration e] =
        .error (.duplicateRegistration d.entityName KeyKind.auto.name) := by
  intro key kind d m e taken
  have haccept : d.accept = .ok m := by decide
  have hdistinct : (names [key, kind]).Nodup := by decide
  have hentity : m.Describes e := ⟨rfl, by decide⟩
  obtain ⟨-, -, hfree, -⟩ :=
    collect_of_accept rfl hdistinct haccept hentity KeyRegistry.empty
  obtain ⟨-, -, -, hheld⟩ := collect_of_accept rfl hdistinct haccept hentity taken
  obtain ⟨s, hs, -, hauto, hconflict⟩ := hfree fun kind => KeyRegistry.keys?_empty kind _
  obtain ⟨held, -, hin, herror⟩ := hheld .auto (by decide) (by decide)
  refine ⟨haccept, ⟨s, hs, hauto.trans ?_, hconflict.trans ?_⟩, ?_⟩
  · decide
  · decide
  · cases held with
    | auto => exact herror
    | conflict => exact absurd hin (by decide)

end Declaration

end RecordSql
