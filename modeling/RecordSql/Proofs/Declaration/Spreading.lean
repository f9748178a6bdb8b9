import RecordSql.Proofs.Declaration.Fields

/-! # Items spread over attributes

The items of a record may stand in one attribute or in several, and so may the marks of a field
(`Attribute.Spreads`). It makes no difference: attributes are read as if all that they list stood in
one. So the first item that is not in order is reported, also when a later one would take its place;
otherwise the last item of each key counts, and every mark. -/

namespace RecordSql

namespace Attribute

/-- **Whether attributes list items**: each that counts lists some of them, one attribute behind the
other. Attributes of other paths may stand anywhere between them. -/
inductive Spreads {ι : Type} (written : ι → List Token) : List Attribute → List ι → Prop
  /-- No attribute lists no item. -/
  | nil : Spreads written [] []
  /-- An attribute of another path lists nothing, whatever is in it. -/
  | other {a : Attribute} {attributes : List Attribute} {items : List ι} (hother : a.isOwn = false)
    (h : Spreads written attributes items) : Spreads written (a :: attributes) items
  /-- An attribute that counts lists its items before those of the attributes behind it. -/
  | own {a : Attribute} {tokens : List Token} {these : List ι} {attributes : List Attribute}
    {items : List ι} (hown : a.isOwn = true) (hform : a.form = .arguments tokens)
    (hlist : Token.Lists written tokens these) (h : Spreads written attributes items) :
    Spreads written (a :: attributes) (these ++ items)

/-- One attribute that lists items spreads them: `Spreads written [a] items`. -/
theorem Spreads.one {ι : Type} {written : ι → List Token} {a : Attribute} {tokens : List Token}
    {items : List ι} (hown : a.isOwn = true) (hform : a.form = .arguments tokens)
    (hlist : Token.Lists written tokens items) : Spreads written [a] items := by
  have h := Spreads.own hown hform hlist .nil
  rwa [List.append_nil] at h

/-- **Attributes that list items** are judged by the items alone, whatever the reading. -/
theorem Reading.all_of_spreads {ι β : Type} {written : ι → List Token}
    {complaint? : ι → Option DeclarationRefusal} {say : List ι → β} {merge : β → β → β}
    {parts : List Token → List ι} {read : β → List Token → Except DeclarationRefusal β}
    (reading : Reading written complaint? say merge parts read) {attributes : List Attribute}
    {items : List ι} (h : Spreads written attributes items) :
    (attributes.filter isOwn).foldlM (fun b a => (a.tokens >>= read (say [])).map (merge b))
        (say [])
      = verdict (items.filterMap complaint?) (say items) := by
  have hsaid : ∀ said,
      (attributes.filter isOwn).foldlM (fun b a => (a.tokens >>= read (say [])).map (merge b)) said
        = verdict (items.filterMap complaint?) (merge said (say items)) := by
    -- along the attributes, on top of anything said before
    induction h with
    | nil =>
      intro said
      rw [reading.merge_nothing]
      rfl
    | other hother _ ih =>
      rwa [List.filter_cons_of_neg (by simp [hother])]
    | own hown hform hlist _ ih =>
      intro said
      rw [List.filter_cons_of_pos hown, List.foldlM_cons, reading.one_of_lists hform hlist,
        map_verdict, List.filterMap_append]
      refine bind_verdict ?_
      rw [ih, reading.merge_say]
  rw [hsaid, reading.nothing_merge]

end Attribute

open Attribute (Spreads)

namespace RecordOptions

variable {attributes : List Attribute} {items before after : List (Ident × Text)}
  {item : Ident × Text} {word : String}

/-- **The attributes of a record** are judged by the items that they list. -/
theorem ofAttributes_eq_verdict (h : Spreads written attributes items) :
    ofAttributes attributes = verdict (items.filterMap complaint?) (stated items) :=
  reading.all_of_spreads h

/-- The value behind which the key does not come again is the last one. -/
theorem lastValue?_append_cons (hword : item.1.isWord word = true)
    (hlast : ∀ later ∈ after, later.1.isWord word = false) :
    lastValue? word (before ++ item :: after) = some item.2 := by
  have hnone : after.filter (fun later => later.1.isWord word) = [] := by
    simpa using hlast
  simp [lastValue?, hword, hnone]

/-- A key that does not come has no last value. -/
theorem lastValue?_eq_none (hnone : ∀ item ∈ items, item.1.isWord word = false) :
    lastValue? word items = none := by
  have hfilter : items.filter (fun item => item.1.isWord word) = [] := by
    simpa using hnone
  rw [lastValue?, hfilter]
  rfl

/-- A name that is in order is `item.2.trimmed`, the text without the blanks around it. -/
theorem read_of_admits (hword : item.1.isWord "name" = true) (h : Admits item) :
    PlainName.read item.2 = .ok item.2.trimmed := by
  rcases h with ⟨-, name, hread⟩ | ⟨hkeys, -⟩
  · rw [hread, PlainName.eq_trimmed_of_read hread]
  · exact absurd (eq_of_isWord hword hkeys) (by decide)

/-- A list of names that is in order has the names that the text lists, `PlainName.listed`. -/
theorem readList_of_admits (hword : item.1.isWord "conflict_key" = true) (h : Admits item) :
    PlainName.readList item.2 = .ok (PlainName.listed item.2) := by
  rcases h with ⟨hname, -⟩ | ⟨-, keys, hread⟩
  · exact absurd (eq_of_isWord hword hname) (by decide)
  · rw [hread, (PlainName.readList_eq_ok hread).1]

end RecordOptions

namespace FieldMarks

variable {attributes : List Attribute} {words more : List Ident}

/-- **The attributes of a field** are judged by the marks that they list. -/
theorem ofAttributes_eq_verdict (h : Spreads written attributes words) :
    ofAttributes attributes = verdict (words.filterMap complaint?) (stated words) :=
  reading.all_of_spreads h

/-- What words say depends on which there are, not on their order or number. -/
theorem stated_congr (h : ∀ word, word ∈ more ↔ word ∈ words) : stated more = stated words := by
  have hany : ∀ p : Ident → Bool, more.any p = words.any p := by
    intro p
    rw [Bool.eq_iff_iff, List.any_eq_true, List.any_eq_true]
    simp only [h]
  rw [stated, stated, hany, hany]

end FieldMarks

/-- **How items are spread over attributes does not matter.** Take any attributes of a record, and
the items that those of the right path list, one attribute after the other, whether they list none
or end in a comma. They are read as one attribute with all the items is. They fail if an item is not
in order, and report the first such item, whatever comes after it. Otherwise the name and the
conflict keys are those of the last item of their key, or not given. Likewise for any attributes of
a field: they fail if a mark is unknown, and otherwise a mark is there if some attribute has it, so
that other attributes with the same marks, in any order and number, say the same. -/
theorem ofAttributes_spreads :
    (∀ (attributes : List Attribute) (items : List (Ident × Text)),
      Spreads RecordOptions.written attributes items →
        let outcome := RecordOptions.ofAttributes attributes
        (∀ whole tokens, whole.isOwn = true → whole.form = .arguments tokens →
          Token.Lists RecordOptions.written tokens items →
            outcome = RecordOptions.ofAttributes [whole]) ∧
        ((∃ refusal, outcome = .error refusal) ↔ ∃ item ∈ items, ¬ RecordOptions.Admits item) ∧
        (∀ before item after, items = before ++ item :: after →
          (∀ earlier ∈ before, RecordOptions.Admits earlier) →
            ∀ refusal, RecordOptions.complaint? item = some refusal →
              outcome = .error refusal) ∧
        ∀ o, outcome = .ok o →
          (∀ before item after, items = before ++ item :: after →
            (item.1.isWord "name" = true →
              (∀ later ∈ after, later.1.isWord "name" = false) →
                ∃ name, PlainName.read item.2 = .ok name ∧ o.name = some name) ∧
            (item.1.isWord "conflict_key" = true →
              (∀ later ∈ after, later.1.isWord "conflict_key" = false) →
                ∃ keys, PlainName.readList item.2 = .ok keys ∧ o.conflictKeys = some keys)) ∧
          ((∀ item ∈ items, item.1.isWord "name" = false) → o.name = none) ∧
          ((∀ item ∈ items, item.1.isWord "conflict_key" = false) → o.conflictKeys = none)) ∧
    ∀ (attributes : List Attribute) (words : List Ident),
      Spreads FieldMarks.written attributes words →
        let outcome := FieldMarks.ofAttributes attributes
        ((∃ refusal, outcome = .error refusal) ↔ ∃ word ∈ words, ¬ FieldMarks.Admits word) ∧
        (∀ m, outcome = .ok m →
          (m.autoKey = true ↔ ∃ word ∈ words, word.isWord "auto_key" = true) ∧
          (m.conflictKey = true ↔ ∃ word ∈ words, word.isWord "conflict_key" = true)) ∧
        ∀ others more, Spreads FieldMarks.written others more →
          (∀ word, word ∈ more ↔ word ∈ words) →
            ∀ m, FieldMarks.ofAttributes others = .ok m ↔ outcome = .ok m := by
  constructor
  · intro attributes items h outcome
    have houtcome : outcome = _ := RecordOptions.ofAttributes_eq_verdict h
    refine ⟨fun whole tokens hown hform hlist => ?_, ?_, ?_, fun o ho => ?_⟩
    · exact houtcome.trans (RecordOptions.ofAttributes_eq_verdict (.one hown hform hlist)).symm
    · simp [houtcome, exists_verdict_eq_error_iff, RecordOptions.complaint?_eq_none_iff]
    · -- nothing before the item complains, so its complaint is the first
      rintro before item after rfl hbefore refusal hrefusal
      have hnil : before.filterMap RecordOptions.complaint? = [] := by
        simpa only [List.filterMap_eq_nil_iff, RecordOptions.complaint?_eq_none_iff] using hbefore
      rw [houtcome, List.filterMap_append, hnil, List.filterMap_cons_some hrefusal]
      rfl
    · rw [houtcome, verdict_eq_ok_iff, List.filterMap_eq_nil_iff] at ho
      simp only [RecordOptions.complaint?_eq_none_iff] at ho
      obtain ⟨hadmits, rfl⟩ := ho
      refine ⟨?_, fun hnone => ?_, fun hnone => ?_⟩
      · rintro before item after rfl
        have hitem : RecordOptions.Admits item := hadmits item (by simp)
        refine ⟨fun hword hlast => ?_, fun hword hlast => ?_⟩
        · refine ⟨_, RecordOptions.read_of_admits hword hitem, ?_⟩
          simp [RecordOptions.stated, RecordOptions.lastValue?_append_cons hword hlast]
        · refine ⟨_, RecordOptions.readList_of_admits hword hitem, ?_⟩
          simp [RecordOptions.stated, RecordOptions.lastValue?_append_cons hword hlast]
      · simp [RecordOptions.stated, RecordOptions.lastValue?_eq_none hnone]
      · simp [RecordOptions.stated, RecordOptions.lastValue?_eq_none hnone]
  · intro attributes words h outcome
    have houtcome : outcome = _ := FieldMarks.ofAttributes_eq_verdict h
    refine ⟨?_, fun m hm => ?_, fun others more hothers hsame m => ?_⟩
    · simp [houtcome, exists_verdict_eq_error_iff, FieldMarks.complaint?_eq_none_iff]
    · rw [houtcome, verdict_eq_ok_iff] at hm
      obtain ⟨-, rfl⟩ := hm
      exact ⟨List.any_eq_true, List.any_eq_true⟩
    · rw [houtcome, FieldMarks.ofAttributes_eq_verdict hothers, FieldMarks.stated_congr hsame,
        verdict_eq_ok_iff, verdict_eq_ok_iff]
      simp only [List.filterMap_eq_nil_iff, hsame]

/-- A name that is not plain is reported, though a later attribute gives another one. Two marks are
the same marks in one attribute or in two, and if one of them is repeated. -/
theorem ofAttributes_spreads_overridden :
    let own := fun tokens : List Token => (⟨"orm".toList, .arguments tokens⟩ : Attribute)
    let name : Ident := ⟨false, "name".toList⟩
    let auto : Ident := ⟨false, "auto_key".toList⟩
    let conflict : Ident := ⟨false, "conflict_key".toList⟩
    RecordOptions.ofAttributes
        [own [.ident name, .punct '=', .string "a-b".toList, .punct ','],
          ⟨"serde".toList, .bare⟩, own [],
          own [.ident name, .punct '=', .string "users".toList]]
        = .error (.name (.notPlain "a-b".toList '-')) ∧
      ∀ m, FieldMarks.ofAttributes
          [own [.ident conflict, .punct ',', .ident auto, .punct ','], own [.ident conflict]] = .ok m
        ↔ FieldMarks.ofAttributes [own [.ident auto], own [.ident conflict]] = .ok m := by
  intro own name auto conflict
  have hown : ∀ tokens, (own tokens).isOwn = true := fun _ =>
    show Attribute.isOwn ⟨Attribute.ownPath, .bare⟩ = true by decide
  have hother : Attribute.isOwn ⟨"serde".toList, .bare⟩ = false := by decide
  obtain ⟨hrecord, hfield⟩ := ofAttributes_spreads
  constructor
  · have hspreads : Spreads RecordOptions.written _
        ([(name, "a-b".toList)] ++ ([] ++ ([(name, "users".toList)] ++ []))) :=
      .own (hown _) rfl (.cons (name, "a-b".toList) .nil) (.other hother
        (.own (hown _) rfl .nil (.own (hown _) rfl (.last (name, "users".toList)) .nil)))
    obtain ⟨-, -, hfirst, -⟩ := hrecord _ _ hspreads
    exact hfirst [] (name, "a-b".toList) _ rfl (by simp) _ (by decide)
  · have hone : Spreads FieldMarks.written _ ([auto] ++ ([conflict] ++ [])) :=
      .own (hown _) rfl (.last auto) (.own (hown _) rfl (.last conflict) .nil)
    have htwo : Spreads FieldMarks.written _ ([conflict, auto] ++ ([conflict] ++ [])) :=
      .own (hown _) rfl (.cons conflict (.cons auto .nil)) (.own (hown _) rfl (.last conflict) .nil)
    obtain ⟨-, -, hsame⟩ := hfield _ _ hone
    exact hsame _ _ htwo (by simp [or_comm])

end RecordSql
