import RecordSql.Proofs.Declaration.Acceptance
import RecordSql.Proofs.Declaration.Spreading

/-! # The faults of a declaration

A declaration is accepted exactly if it is valid (`Declaration.IsValid`): nothing is wrong with its
parameters, its kind, its attributes and those of its fields, its auto key and its conflict keys.
What is wrong with any of these is a fault (`Declaration.faults`), and of all the faults of a
declaration the first in this order is reported: `exists_accept_eq_verdict`. -/

namespace RecordSql

/-! ### Attributes in order: `Reads` -/

/-- **Whether an attribute of a record is in order**: between parentheses it lists items, each of a
known key with a value that is in order. -/
def RecordOptions.Reads (a : Attribute) : Prop :=
  ∃ tokens items, a.form = .arguments tokens ∧ Token.Lists written tokens items ∧
    ∀ item ∈ items, Admits item

/-- **Whether an attribute of a field is in order**: between parentheses it lists known marks. -/
def FieldMarks.Reads (a : Attribute) : Prop :=
  ∃ tokens words, a.form = .arguments tokens ∧ Token.Lists written tokens words ∧
    ∀ word ∈ words, Admits word

/-- The attributes of a record that can be read are those with `Reads`. -/
theorem RecordOptions.exists_ofAttribute_iff {a : Attribute} :
    (∃ o, ofAttribute a = .ok o) ↔ Reads a := by
  rw [Reads]
  simp only [← complaint?_eq_none_iff]
  exact reading.exists_one_iff

/-- The attributes of a field that can be read are those with `Reads`. -/
theorem FieldMarks.exists_ofAttribute_iff {a : Attribute} :
    (∃ m, ofAttribute a = .ok m) ↔ Reads a := by
  rw [Reads]
  simp only [← complaint?_eq_none_iff]
  exact reading.exists_one_iff

/-! ### Fields in order: `allFaults` -/

/-- Fields have no fault if their attributes can be read, at most one of them is marked as auto key,
counting one `before` them, and what is marked so is an integer. -/
theorem FieldDeclaration.allFaults_eq_nil_iff {before : Bool} {fields : List FieldDeclaration} :
    allFaults before fields = [] ↔
      (∀ f ∈ fields, ∀ a ∈ f.attributes, a.isOwn = true → FieldMarks.Reads a) ∧
        before.toNat + fields.countP (·.marks.autoKey) ≤ 1 ∧
        ∀ f ∈ fields, f.marks.autoKey = true → f.type.isInteger = true := by
  induction fields generalizing before with
  | nil => simp [allFaults, Bool.toNat_le]
  | cons f rest ih =>
    rw [allFaults, List.append_eq_nil_iff, faults_eq_nil_iff, ih, List.countP_cons,
      List.forall_mem_cons, List.forall_mem_cons]
    simp only [FieldMarks.exists_ofAttribute_iff]
    -- the field counts for those behind it, and if it is marked then no field before it was
    by_cases hauto : f.marks.autoKey = true
    · cases before
      · simp [hauto]
        grind
      · simp [hauto]
    · simp [hauto]
      grind

namespace Declaration

open FieldDeclaration (names marked)

variable {d : Declaration} {m : Mapping}

/-- The fields of a declaration, or none if it has no named ones. -/
def fields (d : Declaration) : List FieldDeclaration :=
  match d.shape with
  | .named fields => fields
  | .tuple | .unit | .enumeration | .union => []

/-- **What a valid declaration is.** -/
structure IsValid (d : Declaration) : Prop where
  /-- It has no parameters. -/
  plain : d.isGeneric = false
  /-- It is a record with named fields. -/
  named : ∃ fields, d.shape = .named fields
  /-- Its attributes are in order. -/
  attributes : ∀ a ∈ d.attributes, a.isOwn = true → RecordOptions.Reads a
  /-- The attributes of its fields are in order. -/
  fieldAttributes : ∀ f ∈ d.fields, ∀ a ∈ f.attributes, a.isOwn = true → FieldMarks.Reads a
  /-- At most one field is marked as auto key. -/
  oneAutoKey : d.fields.countP (·.marks.autoKey) ≤ 1
  /-- The auto key is an integer. -/
  integer : ∀ f ∈ d.fields, f.marks.autoKey = true → f.type.isInteger = true
  /-- Conflict keys are not listed on the record and marked on fields. -/
  oneForm : d.options.conflictKeys ≠ none → ∀ f ∈ d.fields, f.marks.conflictKey = false
  /-- The conflict keys listed on the record are fields. -/
  known : ∀ keys ∈ d.options.conflictKeys, ∀ key ∈ keys, key ∈ names d.fields

/-- The faults in what is declared: its shape is not that of named fields. -/
def shapeFaults (d : Declaration) : List DeclarationRefusal :=
  match d.shape with
  | .named _ => []
  | .tuple | .unit => [.unnamedFields]
  | .enumeration | .union => [.notRecord]

/-- The faults in the conflict keys: they are declared in both forms, or what is listed is no
field. -/
def keyFaults (d : Declaration) : List DeclarationRefusal :=
  match d.options.conflictKeys with
  | none => []
  | some keys =>
    (if marked FieldMarks.conflictKey d.fields = [] then [] else [.twoConflictForms])
      ++ (keys.filter fun key => !(names d.fields).contains key).map .unknownConflictKey

/-- **The faults of a declaration** in the order in which they are looked for: parameters, the kind
of declaration, the attributes of the record, field by field the attributes and the auto key, both
forms of conflict keys, and listed conflict keys that are no fields. -/
def faults (d : Declaration) : List DeclarationRefusal :=
  (if d.isGeneric then [.generic] else []) ++ (d.shapeFaults
    ++ (Attribute.faults RecordOptions.ofAttribute d.attributes
      ++ (FieldDeclaration.allFaults false d.fields ++ d.keyFaults)))

theorem shapeFaults_eq_nil_iff : d.shapeFaults = [] ↔ ∃ fields, d.shape = .named fields := by
  rw [shapeFaults]
  cases d.shape <;> simp

theorem keyFaults_eq_nil_iff :
    d.keyFaults = [] ↔
      (d.options.conflictKeys ≠ none → ∀ f ∈ d.fields, f.marks.conflictKey = false) ∧
        ∀ keys ∈ d.options.conflictKeys, ∀ key ∈ keys, key ∈ names d.fields := by
  rw [keyFaults]
  cases d.options.conflictKeys with
  | none => simp
  | some keys => simp [marked, names]

/-- **A declaration has no fault exactly if it is valid**, by one equivalence for each part of
`faults`. -/
theorem faults_eq_nil_iff : d.faults = [] ↔ d.IsValid := by
  simp only [faults, List.append_eq_nil_iff, shapeFaults_eq_nil_iff, Attribute.faults_eq_nil_iff,
    RecordOptions.exists_ofAttribute_iff, FieldDeclaration.allFaults_eq_nil_iff,
    keyFaults_eq_nil_iff]
  constructor
  · rintro ⟨hplain, hnamed, hattributes, ⟨hfields, hone, hinteger⟩, hform, hknown⟩
    exact ⟨by simpa using hplain, hnamed, hattributes, hfields, by simpa using hone, hinteger,
      hform, hknown⟩
  · rintro ⟨hplain, hnamed, hattributes, hfields, hone, hinteger, hform, hknown⟩
    exact ⟨by simp [hplain], hnamed, hattributes, ⟨hfields, by simpa using hone, hinteger⟩, hform,
      hknown⟩

/-! ### Acceptance: `accept` -/

/-- The fields of a declaration are found, or its kind is its fault, as `namedFields` looks for
them. -/
theorem namedFields_eq_verdict (d : Declaration) :
    d.namedFields = verdict d.shapeFaults d.fields := by
  rw [namedFields, shapeFaults, fields]
  cases d.shape <;> rfl

/-- The conflict keys are those listed, or else those marked, or the first of `keyFaults` is
reported. -/
theorem conflictKeys_eq_verdict {s : FieldScan} (haccessors : s.accessors = d.fields.map (·.ident))
    (hconflict : s.conflictKeys = marked FieldMarks.conflictKey d.fields) :
    conflictKeys d.options s
      = verdict d.keyFaults (d.options.conflictKeys.getD s.conflictKeys) := by
  have hnames : s.accessors.map Ident.name = names d.fields := by
    rw [haccessors, List.map_map]
    rfl
  rw [conflictKeys, keyFaults, hnames, ← hconflict]
  cases d.options.conflictKeys with
  | none => rfl
  | some keys =>
    by_cases hmarked : s.conflictKeys = []
    · simp only [hmarked, List.isEmpty_nil, if_true, List.nil_append, Option.getD_some]
      cases hfound : keys.find? fun key => !(names d.fields).contains key with
      | none =>
        have hnone : keys.filter (fun key => !(names d.fields).contains key) = [] :=
          List.filter_eq_nil_iff.2 (List.find?_eq_none.1 hfound)
        rw [hnone]
        rfl
      | some key =>
        -- the first unknown key is the head of the unknown ones
        rw [← List.head?_filter] at hfound
        obtain ⟨rest, hrest⟩ := List.head?_eq_some_iff.1 hfound
        rw [hrest]
        rfl
    · simp [hmarked]

/-- **The verdict on a declaration**: it is accepted if it has no fault, and otherwise the first is
reported. Step by step the verdicts are joined by `bind_verdict`. -/
theorem exists_accept_eq_verdict (d : Declaration) : ∃ m, d.accept = verdict d.faults m := by
  let s : FieldScan := d.fields.foldl FieldScan.after .empty
  obtain ⟨haccessors, hconflict⟩ := FieldScan.foldl_after d.fields .empty
  have hkeys := conflictKeys_eq_verdict (d := d) (s := s) haccessors hconflict
  refine ⟨⟨d.entityName, s.accessors, s.autoKey, d.options.conflictKeys.getD s.conflictKeys⟩, ?_⟩
  have hplain : d.accept = (if d.isGeneric then .error .generic else .ok ()) >>= fun _ =>
      d.namedFields >>= fun fields =>
        RecordOptions.ofAttributes d.attributes >>= fun options =>
          fields.foldlM FieldScan.add .empty >>= fun scan =>
            conflictKeys options scan >>= fun keys =>
              .ok ⟨options.name.getD d.ident.name, scan.accessors, scan.autoKey, keys⟩ := by
    rw [accept]
    split <;> rfl
  have hgeneric : (if d.isGeneric then .error .generic else .ok () : Except DeclarationRefusal Unit)
      = verdict (if d.isGeneric then [.generic] else []) () := by
    split <;> rfl
  rw [hplain, hgeneric, faults]
  -- check by check: the faults of one come before those of the next
  refine bind_verdict ?_
  rw [namedFields_eq_verdict]
  refine bind_verdict ?_
  rw [RecordOptions.ofAttributes_eq]
  refine bind_verdict ?_
  rw [FieldScan.foldlM_add_eq_verdict]
  refine bind_verdict ?_
  rw [← List.append_nil d.keyFaults]
  exact (congrArg (· >>= _) hkeys).trans (bind_verdict rfl)

/-- A declaration that is accepted is a record with named fields. -/
theorem shape_of_accept (h : d.accept = .ok m) : d.shape = .named d.fields := by
  obtain ⟨decided, hverdict⟩ := d.exists_accept_eq_verdict
  rw [hverdict, verdict_eq_ok_iff, faults_eq_nil_iff] at h
  obtain ⟨found, hfound⟩ := h.1.named
  rw [fields, hfound]

/-- **Which declarations are accepted.** They are the valid ones; of any other the first fault is
reported, in the order in which the faults are looked for. What is accepted has the fields in
declared order, raw identifiers without their mark, both as columns and as constants, and the fields
themselves as they are written. Its name is given by the last item for it, or else is that of the
record. Its auto key is the field marked so, and its conflict keys are those listed on the record,
or else the fields marked so. -/
theorem accept_iff_isValid (d : Declaration) :
    let items := d.attributes.flatMap Attribute.items
    ((∃ m, d.accept = .ok m) ↔ d.IsValid) ∧
    (∀ refusal, d.accept = .error refusal ↔ d.faults.head? = some refusal) ∧
    ∀ m, d.accept = .ok m →
      (m.fieldNames = d.fields.map (·.ident.name) ∧ m.accessors = d.fields.map (·.ident) ∧
        m.constants = d.fields.map fun f => (ConstantName.ofField f.ident.name, f.ident.name)) ∧
      (∀ before item after, items = before ++ item :: after → item.1.isWord "name" = true →
        (∀ later ∈ after, later.1.isWord "name" = false) →
          PlainName.read item.2 = .ok m.name) ∧
      ((∀ item ∈ items, item.1.isWord "name" = false) → m.name = d.ident.name) ∧
      m.autoKey.toList = marked FieldMarks.autoKey d.fields ∧
      m.conflictKeys = d.options.conflictKeys.getD (marked FieldMarks.conflictKey d.fields) := by
  intro items
  -- `d.accept = verdict d.faults decided`, which gives the first two parts
  obtain ⟨decided, hverdict⟩ := d.exists_accept_eq_verdict
  refine ⟨?_, fun refusal => ?_, fun m h => ?_⟩
  · simp only [hverdict, verdict_eq_ok_iff, exists_and_left, exists_eq', and_true,
      faults_eq_nil_iff]
  · rw [hverdict, verdict_eq_error_iff]
  · have hshape := shape_of_accept h
    obtain ⟨hadmits, scan, keys, hscan, -, rfl⟩ := accept_eq_ok hshape h
    obtain ⟨hname, hnames, hauto, hconflict⟩ := mapping_of_accept hshape h
    refine ⟨⟨hnames, (FieldScan.foldlM_add_eq_ok hscan).1, ?_⟩, ?_, fun hnone => ?_, hauto,
      hconflict⟩
    · rw [Mapping.constants, hnames, names, List.map_map]
      rfl
    · -- the last item of the word: it is admitted, so `PlainName.read` gives its name
      intro before item after hitems hword hlast
      have hitem : RecordOptions.Admits item := by
        refine hadmits item ?_
        show item ∈ items
        simp [hitems]
      have hlastValue : RecordOptions.lastValue? "name" items = some item.2 := by
        rw [hitems]
        exact RecordOptions.lastValue?_append_cons hword hlast
      rw [RecordOptions.read_of_admits hword hitem, hname, entityName, options,
        RecordOptions.stated, hlastValue]
      rfl
    · -- no item of the word: the name of the type
      have hlastValue : RecordOptions.lastValue? "name" items = none :=
        RecordOptions.lastValue?_eq_none hnone
      rw [hname, entityName, options, RecordOptions.stated, hlastValue]
      rfl

/-- Of several faults the first is reported: a second auto key that is no integer is a second one,
and the conflict key that is no field is not looked at. -/
example :
    let auto : Attribute := ⟨"orm".toList, .arguments [.ident ⟨false, "auto_key".toList⟩]⟩
    let field := fun name type : String =>
      (⟨⟨false, name.toList⟩, .path [] (.mk ⟨false, type.toList⟩ []), [auto]⟩ : FieldDeclaration)
    let d : Declaration := ⟨⟨false, "Twice".toList⟩, [],
      [⟨"orm".toList, .arguments [.ident ⟨false, "conflict_key".toList⟩, .punct '=',
        .string "missing".toList]⟩], .named [field "a" "i64", field "b" "String"]⟩
    d.accept = .error .secondAutoKey ∧
      d.faults = [.secondAutoKey, .autoKeyNotInteger, .unknownConflictKey "missing".toList] := by
  decide

end Declaration

end RecordSql
