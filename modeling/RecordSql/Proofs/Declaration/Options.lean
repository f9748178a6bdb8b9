import RecordSql.Proofs.Declaration.NameList
import RecordSql.Proofs.Declaration.Reading

/-! # What the attributes of a record say

The options of a record whose attributes can be read are told by the items in them
(`RecordOptions.stated`): each item has a known key and a value in order, and of several items with
one key the last counts, in whichever attribute it stands. -/

namespace RecordSql

/-! ### Items -/

/-- The items among tokens: each a key, an equals sign and a string; other tokens are passed
over. -/
def Token.items : List Token → List (Ident × Text)
  | .ident key :: .punct '=' :: .string value :: rest => (key, value) :: items rest
  | _ :: rest => items rest
  | [] => []

/-- The items of an attribute. -/
def Attribute.items (a : Attribute) : List (Ident × Text) := Token.items a.ownTokens

namespace RecordOptions

/-- The value of the last item whose key is the word `key`. -/
def lastValue? (key : String) (items : List (Ident × Text)) : Option Text :=
  (items.filter fun item => item.1.isWord key).getLast?.map Prod.snd

/-- **What items say**: for each key the last one counts. -/
def stated (items : List (Ident × Text)) : RecordOptions :=
  ⟨(lastValue? "name" items).map Text.trimmed,
    (lastValue? "conflict_key" items).map PlainName.listed⟩

/-- Whether an item is in order: a name, or a list of conflict keys. -/
def Admits (item : Ident × Text) : Prop :=
  (item.1.isWord "name" = true ∧ ∃ name, PlainName.read item.2 = .ok name) ∨
    (item.1.isWord "conflict_key" = true ∧ ∃ keys, PlainName.readList item.2 = .ok keys)

variable {o o' : RecordOptions} {items more : List (Ident × Text)} {key : Ident} {value : Text}
  {tokens : List Token}

/-- Of two runs of items the last item of the second counts, or else that of the first. -/
theorem lastValue?_append (word : String) (items more : List (Ident × Text)) :
    lastValue? word (items ++ more) = (lastValue? word more).or (lastValue? word items) := by
  rw [lastValue?, List.filter_append, List.getLast?_append, Option.map_or]
  rfl

/-- Later items take precedence: what `items ++ more` say is `overriddenBy` what `more` say. -/
theorem stated_append (items more : List (Ident × Text)) :
    stated (items ++ more) = (stated items).overriddenBy (stated more) := by
  have hor : ∀ {α : Type} (x y : Option α), (x <|> y) = x.or y := fun x y => by cases x <;> rfl
  rw [stated, lastValue?_append, lastValue?_append, Option.map_or, Option.map_or, overriddenBy,
    hor, hor]
  rfl

theorem overriddenBy_empty (o : RecordOptions) : o.overriddenBy empty = o := rfl

theorem empty_overriddenBy (o : RecordOptions) : empty.overriddenBy o = o := by
  obtain ⟨name, keys⟩ := o
  cases name <;> cases keys <;> rfl

theorem overriddenBy_assoc (o o' o'' : RecordOptions) :
    (o.overriddenBy o').overriddenBy o'' = o.overriddenBy (o'.overriddenBy o'') := by
  obtain ⟨name, keys⟩ := o''
  cases name <;> cases keys <;> rfl

/-- An identifier is one word at most. -/
theorem eq_of_isWord {word other : String} (h : key.isWord word = true)
    (h' : key.isWord other = true) : word = other := by
  rw [Ident.isWord, Bool.and_eq_true, beq_iff_eq] at h h'
  exact String.toList_inj.1 (h.2.symm.trans h'.2)

/-- An item as it is written. -/
def written (item : Ident × Text) : List Token := [.ident item.1, .punct '=', .string item.2]

/-- What is wrong with an item: its key is a keyword or unknown, or its value is not in order. -/
def complaint? (item : Ident × Text) : Option DeclarationRefusal :=
  if item.1.isKeyword then some (.item (.keyword item.1.name))
  else if item.1.isWord "name" then (fault? (PlainName.read item.2)).map .name
  else if item.1.isWord "conflict_key" then (fault? (PlainName.readList item.2)).map .name
  else some (.unknownOption item.1)

/-- A known key is no keyword. -/
theorem not_isKeyword_of_isWord {word : String} (hword : key.isWord word = true)
    (hplain : Ident.isKeyword ⟨false, word.toList⟩ = false) : key.isKeyword = false := by
  obtain ⟨raw, name⟩ := key
  simp only [Ident.isWord, Bool.and_eq_true, Bool.not_eq_true', beq_iff_eq] at hword
  obtain ⟨rfl, rfl⟩ := hword
  exact hplain

/-- An item has no `complaint?` if it is in order, and otherwise it has one. -/
theorem complaint?_eq_none_iff {item : Ident × Text} : complaint? item = none ↔ Admits item := by
  rw [complaint?, Admits]
  by_cases hname : item.1.isWord "name" = true
  · have hother : item.1.isWord "conflict_key" ≠ true :=
      fun hkeys => absurd (eq_of_isWord hname hkeys) (by decide)
    simp [hname, hother, not_isKeyword_of_isWord hname (by decide), fault?_eq_none_iff]
  · by_cases hkeys : item.1.isWord "conflict_key" = true
    · simp [hname, hkeys, not_isKeyword_of_isWord hkeys (by decide), fault?_eq_none_iff]
    · by_cases hkeyword : item.1.isKeyword = true <;> simp [hname, hkeys, hkeyword]

/-- **One item** is refused for its `complaint?`, and otherwise says what it says on top of `o`. -/
theorem set_eq_verdict (o : RecordOptions) (item : Ident × Text) :
    (if item.1.isKeyword then .error (.item (.keyword item.1.name)) else o.set item.1 item.2)
      = verdict (complaint? item).toList (o.overriddenBy (stated [item])) := by
  rw [complaint?, set]
  by_cases hkeyword : item.1.isKeyword = true
  · simp [hkeyword]
  · by_cases hname : item.1.isWord "name" = true
    · -- an item of this word is not one of the other
      have hother : item.1.isWord "conflict_key" = false := by
        rw [← Bool.not_eq_true]
        exact fun hkeys => absurd (eq_of_isWord hname hkeys) (by decide)
      cases hread : PlainName.read item.2 with
      | error fault => simp [hkeyword, hname, fault?]
      | ok name =>
        rw [PlainName.eq_trimmed_of_read hread]
        simp [hkeyword, hname, hother, fault?, stated, lastValue?, overriddenBy]
    · by_cases hkeys : item.1.isWord "conflict_key" = true
      · cases hread : PlainName.readList item.2 with
        | error fault => simp [hkeyword, hname, hkeys, fault?]
        | ok keys =>
          rw [(PlainName.readList_eq_ok hread).1]
          simp [hkeyword, hname, hkeys, fault?, stated, lastValue?, overriddenBy]
      · simp [hkeyword, hname, hkeys]

/-- **Listed items** are said one after the other on top of what was said before, or the first that
is not in order is reported; one case of `Token.Lists.read_eq`. -/
theorem readItems_eq_verdict (h : Token.Lists written tokens items) (o : RecordOptions) :
    readItems o tokens
      = verdict (items.filterMap complaint?) (o.overriddenBy (stated items)) := by
  rw [h.read_eq readItems fun o item =>
    if item.1.isKeyword then .error (.item (.keyword item.1.name)) else o.set item.1 item.2]
  · exact foldlM_eq_verdict stated
      (fun o before after => by rw [overriddenBy_assoc, stated_append]) overriddenBy_empty
      fun item _ o => set_eq_verdict o item
  · intro o
    rfl
  · rintro o ⟨key, value⟩
    unfold readItems
    by_cases hkeyword : key.isKeyword = true
    · simp [written, hkeyword]
    · cases hset : o.set key value <;> simp [written, hkeyword, hset]
  · rintro o ⟨key, value⟩ rest
    show readItems o (.ident key :: .punct '=' :: .string value :: .punct ',' :: rest) = _
    by_cases hkeyword : key.isKeyword = true
    · unfold readItems
      simp [hkeyword, bind, Except.bind]
    · cases hset : o.set key value <;> simp [readItems, hkeyword, hset, bind, Except.bind]

/-- Tokens that pass list their items. -/
theorem lists_of_readItems (h : readItems o tokens = .ok o') :
    Token.Lists written tokens (Token.items tokens) := by
  fun_induction readItems o tokens with
  | case1 => exact .nil
  | case4 o key _ value => exact Token.Lists.last (key, value)
  | case5 o key _ value next rest hset ih => exact Token.Lists.cons (key, value) (ih h)
  | case2 | case3 | case6 | case7 | case8 | case9 | case10 => cases h

/-- Options are read item by item, so that all that holds of an `Attribute.Reading` holds of
them. -/
theorem reading :
    Attribute.Reading written complaint? stated overriddenBy Token.items readItems where
  merge_say o before after := by rw [overriddenBy_assoc, stated_append]
  merge_nothing := overriddenBy_empty
  nothing_merge := empty_overriddenBy
  parts_nil := rfl
  read_of_lists o _ _ h := readItems_eq_verdict h o
  lists_of_read _ _ _ := lists_of_readItems

/-- **The attributes of a record** say what all their items say one after the other, or the first
that cannot be read is reported. -/
theorem ofAttributes_eq (attributes : List Attribute) :
    ofAttributes attributes
      = verdict (Attribute.faults ofAttribute attributes)
          (stated (attributes.flatMap Attribute.items)) :=
  reading.all_eq_verdict attributes

/-- **The attributes of a record** that pass have items in order, and say what all these items say
one after the other. -/
theorem ofAttributes_eq_ok {attributes : List Attribute} (h : ofAttributes attributes = .ok o) :
    (∀ item ∈ attributes.flatMap Attribute.items, Admits item) ∧
      o = stated (attributes.flatMap Attribute.items) := by
  rw [ofAttributes_eq, verdict_eq_ok_iff] at h
  refine ⟨fun item hitem => ?_, h.2.symm⟩
  exact complaint?_eq_none_iff.1 (reading.complaint?_of_faults_eq_nil h.1 item hitem)

/-- Conflict keys that are said are listed by an item, at least one and none twice. -/
theorem conflictKeys_stated (hadmits : ∀ item ∈ items, Admits item) {keys : List Text}
    (h : (stated items).conflictKeys = some keys) : keys ≠ [] ∧ keys.Nodup := by
  obtain ⟨text, htext, rfl⟩ := Option.map_eq_some_iff.1 h
  obtain ⟨item, hlast, rfl⟩ := Option.map_eq_some_iff.1 htext
  obtain ⟨hmem, hword⟩ := List.mem_filter.1 (List.mem_of_getLast? hlast)
  rcases hadmits item hmem with ⟨hname, -⟩ | ⟨-, keys, hread⟩
  · exact absurd (eq_of_isWord hword hname) (by decide)
  · obtain ⟨rfl, hne, hnodup⟩ := PlainName.readList_eq_ok hread
    exact ⟨hne, hnodup⟩

end RecordOptions

end RecordSql
