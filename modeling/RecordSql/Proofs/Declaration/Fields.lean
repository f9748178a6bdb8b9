import RecordSql.Declaration.Mapping
import RecordSql.Proofs.Declaration.Options

/-! # What the fields of a record say

A field is marked with a word if the word stands in one of its attributes, in whichever and however
often (`FieldMarks.stated`). Fields that can be read give the auto key, which is the one field
marked so, and the conflict keys, which are the fields marked so in declared order:
`FieldScan.foldlM_add_eq_ok`. -/

namespace RecordSql

/-! ### Marks -/

/-- The words among tokens; commas between them are passed over. -/
def Token.words : List Token → List Ident
  | .ident word :: rest => word :: words rest
  | _ :: rest => words rest
  | [] => []

/-- The words of an attribute, if it counts. -/
def Attribute.words (a : Attribute) : List Ident := Token.words a.ownTokens

namespace FieldMarks

/-- **What words say**: a mark is there if its word is. -/
def stated (words : List Ident) : FieldMarks :=
  ⟨words.any (·.isWord "auto_key"), words.any (·.isWord "conflict_key")⟩

/-- Whether a word is in order: it is one of the marks. -/
def Admits (word : Ident) : Prop :=
  word.isWord "auto_key" = true ∨ word.isWord "conflict_key" = true

variable {m m' : FieldMarks} {mark : Ident} {tokens : List Token}

/-- Marks add up: those of `words ++ more` are the union of the two. -/
theorem stated_append (words more : List Ident) :
    stated (words ++ more) = (stated words).union (stated more) := by
  rw [stated, List.any_append, List.any_append]
  rfl

theorem union_assoc (m m' m'' : FieldMarks) :
    (m.union m').union m'' = m.union (m'.union m'') := by
  simp only [union, Bool.or_assoc]

theorem union_empty (m : FieldMarks) : m.union empty = m := by
  simp only [union, empty, Bool.or_false]

theorem empty_union (m : FieldMarks) : empty.union m = m := by
  simp only [union, empty, Bool.false_or]

/-- A mark as it is written. -/
def written (mark : Ident) : List Token := [.ident mark]

/-- What is wrong with a mark: it is a keyword or unknown. -/
def complaint? (mark : Ident) : Option DeclarationRefusal :=
  if mark.isKeyword then some (.item (.keyword mark.name))
  else if mark.isWord "auto_key" || mark.isWord "conflict_key" then none
  else some (.unknownMark mark)

/-- A mark has no `complaint?` if it is in order, and otherwise it has one. -/
theorem complaint?_eq_none_iff : complaint? mark = none ↔ Admits mark := by
  rw [complaint?, Admits]
  by_cases hauto : mark.isWord "auto_key" = true
  · simp [hauto, RecordOptions.not_isKeyword_of_isWord hauto (by decide)]
  · by_cases hconflict : mark.isWord "conflict_key" = true
    · simp [hconflict, RecordOptions.not_isKeyword_of_isWord hconflict (by decide)]
    · by_cases hkeyword : mark.isKeyword = true <;> simp [hauto, hconflict, hkeyword]

/-- **One mark** is refused for its `complaint?`, and otherwise is there in the end. -/
theorem add_eq_verdict (m : FieldMarks) (mark : Ident) :
    (if mark.isKeyword then .error (.item (.keyword mark.name)) else m.add mark)
      = verdict (complaint? mark).toList (m.union (stated [mark])) := by
  rw [complaint?, add]
  by_cases hkeyword : mark.isKeyword = true
  · simp [hkeyword]
  · by_cases hauto : mark.isWord "auto_key" = true
    · have hother : mark.isWord "conflict_key" = false := by
        rw [← Bool.not_eq_true]
        exact fun hconflict => absurd (RecordOptions.eq_of_isWord hauto hconflict) (by decide)
      simp [hkeyword, hauto, hother, stated, union]
    · by_cases hconflict : mark.isWord "conflict_key" = true <;>
        simp [hkeyword, hauto, hconflict, stated, union]

/-- **Listed marks** add up to those before, or the first that is not in order is reported; one case
of `Token.Lists.read_eq`. -/
theorem readItems_eq_verdict {words : List Ident} (h : Token.Lists written tokens words)
    (m : FieldMarks) :
    readItems m tokens = verdict (words.filterMap complaint?) (m.union (stated words)) := by
  rw [h.read_eq readItems fun m mark =>
    if mark.isKeyword then .error (.item (.keyword mark.name)) else m.add mark]
  · exact foldlM_eq_verdict stated (fun m before after => by rw [union_assoc, stated_append])
      union_empty fun mark _ m => add_eq_verdict m mark
  · intro m
    rfl
  · -- the last word, with nothing behind it
    intro m mark
    unfold readItems
    by_cases hkeyword : mark.isKeyword = true
    · simp [written, hkeyword]
    · cases hadd : m.add mark <;> simp [written, hkeyword, hadd]
  · -- a word with a comma behind it
    intro m mark rest
    show readItems m (.ident mark :: .punct ',' :: rest) = _
    by_cases hkeyword : mark.isKeyword = true
    · unfold readItems
      simp [hkeyword, bind, Except.bind]
    · cases hadd : m.add mark <;> simp [readItems, hkeyword, hadd, bind, Except.bind]

/-- Tokens that pass list their words. -/
theorem lists_of_readItems (h : readItems m tokens = .ok m') :
    Token.Lists written tokens (Token.words tokens) := by
  fun_induction readItems m tokens with
  | case1 => exact .nil
  | case4 m mark => exact Token.Lists.last mark
  | case5 m mark _ next rest hadd ih => exact Token.Lists.cons mark (ih h)
  | case2 | case3 | case6 | case7 => cases h

/-- Marks are read one by one, so that all that holds of an `Attribute.Reading` holds of them. -/
theorem reading :
    Attribute.Reading written complaint? stated union Token.words readItems where
  merge_say m before after := by rw [union_assoc, stated_append]
  merge_nothing := union_empty
  nothing_merge := empty_union
  parts_nil := rfl
  read_of_lists m _ _ h := readItems_eq_verdict h m
  lists_of_read _ _ _ := lists_of_readItems

/-- **The attributes of a field** say what all their words say, or the first that cannot be read is
reported. -/
theorem ofAttributes_eq (attributes : List Attribute) :
    ofAttributes attributes
      = verdict (Attribute.faults ofAttribute attributes)
          (stated (attributes.flatMap Attribute.words)) :=
  reading.all_eq_verdict attributes

end FieldMarks

/-! ### Fields -/

namespace FieldDeclaration

/-- What the attributes of a field say, whether or not they can be read. -/
def marks (f : FieldDeclaration) : FieldMarks :=
  FieldMarks.stated (f.attributes.flatMap Attribute.words)

/-- The names of the fields. -/
def names (fields : List FieldDeclaration) : List Text := fields.map (·.ident.name)

/-- The names of the fields that have the `mark`, in declared order. -/
def marked (mark : FieldMarks → Bool) (fields : List FieldDeclaration) : List Text :=
  names (fields.filter fun f => mark f.marks)

variable (mark : FieldMarks → Bool) (f : FieldDeclaration) (fields : List FieldDeclaration)

theorem marked_cons :
    marked mark (f :: fields)
      = (if mark f.marks then [f.ident.name] else []) ++ marked mark fields := by
  by_cases h : mark f.marks = true <;> simp [marked, names, h]

/-- The faults of a field, given whether a field before it is marked as auto key: its attributes
that cannot be read, a second auto key, an auto key that is no integer. -/
def faults (before : Bool) (f : FieldDeclaration) : List DeclarationRefusal :=
  Attribute.faults FieldMarks.ofAttribute f.attributes
    ++ ((if f.marks.autoKey && before then [.secondAutoKey] else [])
      ++ if f.marks.autoKey && !f.type.isInteger then [.autoKeyNotInteger] else [])

/-- A field has no fault if its attributes can be read and it is marked as auto key only as the
first, and as an integer. -/
theorem faults_eq_nil_iff {before : Bool} :
    f.faults before = [] ↔
      (∀ a ∈ f.attributes, a.isOwn = true → ∃ m, FieldMarks.ofAttribute a = .ok m) ∧
        (f.marks.autoKey = true → before = false ∧ f.type.isInteger = true) := by
  rw [faults, List.append_eq_nil_iff, List.append_eq_nil_iff, Attribute.faults_eq_nil_iff]
  by_cases hauto : f.marks.autoKey = true <;> simp [hauto]

/-- The faults of fields, one field behind the other; a field marked as auto key is one `before`
those behind it. -/
def allFaults (before : Bool) : List FieldDeclaration → List DeclarationRefusal
  | [] => []
  | f :: rest => f.faults before ++ allFaults (before || f.marks.autoKey) rest

theorem marked_sublist : (marked mark fields).Sublist (names fields) := List.filter_sublist.map _

end FieldDeclaration

namespace Declaration.FieldScan

open FieldDeclaration (marked)

variable {s s' : FieldScan} {f : FieldDeclaration} {fields : List FieldDeclaration}

/-- What is read of the fields with one more. -/
def after (s : FieldScan) (f : FieldDeclaration) : FieldScan :=
  ⟨s.accessors ++ [f.ident], if f.marks.autoKey then some f.ident.name else s.autoKey,
    if f.marks.conflictKey then s.conflictKeys ++ [f.ident.name] else s.conflictKeys⟩

/-- **One field** comes behind those before, and so do the keys that its marks say (`s.after f`), or
its first fault is reported. -/
theorem add_eq_verdict (s : FieldScan) (f : FieldDeclaration) :
    s.add f = verdict (f.faults s.autoKey.isSome) (s.after f) := by
  have hmarks : FieldMarks.ofAttributes f.attributes
      = verdict (Attribute.faults FieldMarks.ofAttribute f.attributes) f.marks :=
    FieldMarks.ofAttributes_eq f.attributes
  rw [add, hmarks, FieldDeclaration.faults]
  refine bind_verdict ?_
  -- the attributes can be read: a second auto key comes before one that is no integer
  by_cases hauto : f.marks.autoKey = true
  · by_cases hsecond : s.autoKey.isSome = true
    · simp [hauto, hsecond]
    · by_cases hinteger : f.type.isInteger = true <;> simp [hauto, hsecond, hinteger, after]
  · simp [hauto, after]

/-- **The fields** come in declared order, with the keys that their marks say, or the first fault is
reported: one `add_eq_verdict` after the other. -/
theorem foldlM_add_eq_verdict (fields : List FieldDeclaration) (s : FieldScan) :
    fields.foldlM add s
      = verdict (FieldDeclaration.allFaults s.autoKey.isSome fields) (fields.foldl after s) := by
  induction fields generalizing s with
  | nil => rfl
  | cons f rest ih =>
    have hmarked : (s.after f).autoKey.isSome = (s.autoKey.isSome || f.marks.autoKey) := by
      by_cases hauto : f.marks.autoKey = true <;> simp [after, hauto]
    rw [List.foldlM_cons, List.foldl_cons, add_eq_verdict, FieldDeclaration.allFaults, ← hmarked]
    exact bind_verdict (ih (s.after f))

/-- What is read of the fields follows their order and their marks. -/
theorem foldl_after (fields : List FieldDeclaration) (s : FieldScan) :
    (fields.foldl after s).accessors = s.accessors ++ fields.map FieldDeclaration.ident ∧
      (fields.foldl after s).conflictKeys
        = s.conflictKeys ++ marked FieldMarks.conflictKey fields := by
  induction fields generalizing s with
  | nil => exact ⟨(List.append_nil _).symm, (List.append_nil _).symm⟩
  | cons f rest ih =>
    obtain ⟨haccessors, hconflict⟩ := ih (s.after f)
    rw [List.foldl_cons, haccessors, hconflict, FieldDeclaration.marked_cons]
    by_cases hmark : f.marks.conflictKey = true <;> simp [after, hmark]

/-- Without a fault no field is marked as auto key behind another, so the auto key read is the one
marked so. -/
theorem toList_autoKey_foldl_after {fields : List FieldDeclaration} {s : FieldScan}
    (h : FieldDeclaration.allFaults s.autoKey.isSome fields = []) :
    (fields.foldl after s).autoKey.toList
      = s.autoKey.toList ++ marked FieldMarks.autoKey fields := by
  induction fields generalizing s with
  | nil => exact (List.append_nil _).symm
  | cons f rest ih =>
    rw [FieldDeclaration.allFaults, List.append_eq_nil_iff] at h
    obtain ⟨hfield, hrest⟩ := h
    -- `allFaults` runs on with this flag
    have hmarked : (s.after f).autoKey.isSome = (s.autoKey.isSome || f.marks.autoKey) := by
      by_cases hauto : f.marks.autoKey = true <;> simp [after, hauto]
    rw [← hmarked] at hrest
    rw [List.foldl_cons, ih hrest, FieldDeclaration.marked_cons, ← List.append_assoc]
    by_cases hauto : f.marks.autoKey = true
    · -- a second auto key would be a fault of `f`
      have hnone : s.autoKey = none := by
        simpa using ((FieldDeclaration.faults_eq_nil_iff f).1 hfield).2 hauto |>.1
      simp [after, hauto, hnone]
    · simp [after, hauto]

/-- **Fields** that pass come in declared order, with the keys that their marks say. -/
theorem foldlM_add_eq_ok (h : fields.foldlM add s = .ok s') :
    s'.accessors = s.accessors ++ fields.map FieldDeclaration.ident ∧
      s'.autoKey.toList = s.autoKey.toList ++ marked FieldMarks.autoKey fields ∧
      s'.conflictKeys = s.conflictKeys ++ marked FieldMarks.conflictKey fields := by
  rw [foldlM_add_eq_verdict, verdict_eq_ok_iff] at h
  obtain ⟨hfaults, rfl⟩ := h
  obtain ⟨haccessors, hconflict⟩ := foldl_after fields s
  exact ⟨haccessors, toList_autoKey_foldl_after hfaults, hconflict⟩

end Declaration.FieldScan

end RecordSql
