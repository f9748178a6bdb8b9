import RecordSql.Declaration.Attribute
import RecordSql.Proofs.Declaration.Verdict

/-! # Reading attributes

The items of a record and the marks of a field are read from attributes in the same way
(`Attribute.Reading`). Each item is checked by itself and says something on top of the items before
it; an attribute says what its items say, and attributes say what they say one after the other:
`Reading.all_eq_verdict`. What follows from this is stated here once for both. -/

namespace RecordSql

/-! ### Listed items: `Token.Lists` -/

namespace Token

/-- **Whether tokens list items**: each as it is written, commas between them, and perhaps one more
behind the last. -/
inductive Lists {ι : Type} (written : ι → List Token) : List Token → List ι → Prop
  /-- Nothing lists no item. -/
  | nil : Lists written [] []
  /-- The last item, without a comma behind it. -/
  | last (item : ι) : Lists written (written item) [item]
  /-- An item and a comma, before others or at the end. -/
  | cons (item : ι) {tokens : List Token} {items : List ι} (h : Lists written tokens items) :
    Lists written (written item ++ .punct ',' :: tokens) (item :: items)

/-- A reader that takes item after item, and a comma behind each but perhaps the last, takes the
`step`s for the items listed: `read b tokens = items.foldlM step b`. -/
theorem Lists.read_eq {ε ι β : Type} {written : ι → List Token}
    (read : β → List Token → Except ε β) (step : β → ι → Except ε β)
    (hnil : ∀ b, read b [] = .ok b) (hlast : ∀ b item, read b (written item) = step b item)
    (hcons : ∀ b item tokens,
      read b (written item ++ .punct ',' :: tokens) = step b item >>= (read · tokens))
    {tokens : List Token} {items : List ι} (h : Lists written tokens items) (b : β) :
    read b tokens = items.foldlM step b := by
  induction h generalizing b with
  | nil => exact hnil b
  | last item =>
    rw [hlast, List.foldlM_cons]
    cases step b item <;> rfl
  | cons item hrest ih =>
    rw [hcons, List.foldlM_cons]
    congr 1
    funext next
    exact ih next

end Token

/-! ### Attributes that count: `ownTokens` -/

namespace Attribute

variable {a : Attribute} {tokens found : List Token}

/-- What an attribute that counts has between its parentheses; `[]` for the others. -/
def ownTokens (a : Attribute) : List Token :=
  match a.form with
  | .arguments tokens => if a.isOwn then tokens else []
  | .bare | .assigned => []

theorem ownTokens_of_not_isOwn (h : ¬ a.isOwn = true) : a.ownTokens = [] := by
  rw [ownTokens]
  split
  · rw [if_neg h]
  · rfl
  · rfl

theorem tokens_eq_ok_iff : a.tokens = .ok tokens ↔ a.form = .arguments tokens := by
  rw [Attribute.tokens]
  cases a.form <;> simp

theorem tokens_eq_ok (hown : a.isOwn = true) (h : a.tokens = .ok found) : found = a.ownTokens := by
  rw [ownTokens, tokens_eq_ok_iff.1 h]
  exact (if_pos hown).symm

/-- Attributes of another kind have no parts that count. -/
theorem flatMap_filter_isOwn {ι : Type} {parts : List Token → List ι} (hparts : parts [] = [])
    (attributes : List Attribute) :
    (attributes.filter isOwn).flatMap (fun a => parts a.ownTokens)
      = attributes.flatMap fun a => parts a.ownTokens := by
  induction attributes with
  | nil => rfl
  | cons a rest ih =>
    by_cases hown : a.isOwn = true
    · rw [List.filter_cons_of_pos hown, List.flatMap_cons, List.flatMap_cons, ih]
    · rw [List.filter_cons_of_neg hown, List.flatMap_cons, ownTokens_of_not_isOwn hown, hparts,
        List.nil_append, ih]

/-- The faults of the attributes that count, one for each that `read` refuses. -/
def faults {β : Type} (read : Attribute → Except DeclarationRefusal β)
    (attributes : List Attribute) : List DeclarationRefusal :=
  (attributes.filter isOwn).filterMap fun a => fault? (read a)

/-- There is no fault if all that count can be read. -/
theorem faults_eq_nil_iff {β : Type} {read : Attribute → Except DeclarationRefusal β}
    {attributes : List Attribute} :
    faults read attributes = [] ↔ ∀ a ∈ attributes, a.isOwn = true → ∃ b, read a = .ok b := by
  simp [faults, List.filterMap_eq_nil_iff, fault?_eq_none_iff]

/-! ### Readings: `Attribute.Reading` -/

/-- **A reading of items**: how an item is `written`, what is wrong with it (`complaint?`), what
items `say` and how more is said on top (`merge`), and the items among tokens (`parts`). The reader
judges listed items one by one. -/
structure Reading {ι β : Type} (written : ι → List Token)
    (complaint? : ι → Option DeclarationRefusal) (say : List ι → β) (merge : β → β → β)
    (parts : List Token → List ι) (read : β → List Token → Except DeclarationRefusal β) :
    Prop where
  /-- Items said on top of others are said with them. -/
  merge_say : ∀ b before after,
    merge (merge b (say before)) (say after) = merge b (say (before ++ after))
  /-- No items change nothing. -/
  merge_nothing : ∀ b, merge b (say []) = b
  /-- What is said on top of nothing is said. -/
  nothing_merge : ∀ b, merge (say []) b = b
  /-- Nothing has no items. -/
  parts_nil : parts [] = []
  /-- Listed items are said on top of what was said before, or the first that is wrong is
  reported. -/
  read_of_lists : ∀ b tokens items, Token.Lists written tokens items →
    read b tokens = verdict (items.filterMap complaint?) (merge b (say items))
  /-- Tokens that can be read list their items. -/
  lists_of_read : ∀ b tokens b', read b tokens = .ok b' → Token.Lists written tokens (parts tokens)

namespace Reading

variable {ι β : Type} {written : ι → List Token} {complaint? : ι → Option DeclarationRefusal}
  {say : List ι → β} {merge : β → β → β} {parts : List Token → List ι}
  {read : β → List Token → Except DeclarationRefusal β} {items : List ι} {b : β}
  {attributes : List Attribute}

/-- An attribute that lists items is judged by them: `verdict` of their complaints. -/
theorem one_of_lists (reading : Reading written complaint? say merge parts read)
    (hform : a.form = .arguments tokens) (hlist : Token.Lists written tokens items) :
    a.tokens >>= read (say []) = verdict (items.filterMap complaint?) (say items) := by
  rw [tokens_eq_ok_iff.2 hform]
  show read (say []) tokens = _
  rw [reading.read_of_lists _ _ _ hlist, reading.nothing_merge]

/-- An attribute that can be read lists its items, and nothing is wrong with them. -/
theorem lists_of_one (reading : Reading written complaint? say merge parts read)
    (h : a.tokens >>= read (say []) = .ok b) :
    ∃ tokens, a.form = .arguments tokens ∧ Token.Lists written tokens (parts tokens) ∧
      (∀ part ∈ parts tokens, complaint? part = none) ∧ b = say (parts tokens) := by
  obtain ⟨tokens, htokens, hread⟩ := bind_eq_ok.1 h
  have hform := tokens_eq_ok_iff.1 htokens
  have hlist := reading.lists_of_read _ _ _ hread
  rw [reading.one_of_lists hform hlist, verdict_eq_ok_iff, List.filterMap_eq_nil_iff] at h
  exact ⟨tokens, hform, hlist, h.1, h.2.symm⟩

/-- **The attributes that can be read** are those that list items with nothing wrong. -/
theorem exists_one_iff (reading : Reading written complaint? say merge parts read) :
    (∃ b, a.tokens >>= read (say []) = .ok b) ↔
      ∃ tokens items, a.form = .arguments tokens ∧ Token.Lists written tokens items ∧
        ∀ item ∈ items, complaint? item = none := by
  constructor
  · rintro ⟨b, h⟩
    obtain ⟨tokens, hform, hlist, hparts, -⟩ := reading.lists_of_one h
    exact ⟨tokens, _, hform, hlist, hparts⟩
  · rintro ⟨tokens, items, hform, hlist, hitems⟩
    refine ⟨say items, ?_⟩
    rw [reading.one_of_lists hform hlist, verdict_eq_ok_iff, List.filterMap_eq_nil_iff]
    exact ⟨hitems, rfl⟩

/-- An attribute that counts and can be read says what its parts say. -/
theorem one_eq_ok (reading : Reading written complaint? say merge parts read)
    (hown : a.isOwn = true) (h : a.tokens >>= read (say []) = .ok b) :
    (∀ part ∈ parts a.ownTokens, complaint? part = none) ∧ b = say (parts a.ownTokens) := by
  obtain ⟨tokens, hform, -, hparts, hsay⟩ := reading.lists_of_one h
  rw [tokens_eq_ok hown (tokens_eq_ok_iff.2 hform)] at hparts hsay
  exact ⟨hparts, hsay⟩

/-- **Attributes in a row** say what all their parts say one after the other, or the first that
cannot be read is reported; by `foldlM_eq_verdict`. -/
theorem all_eq_verdict (reading : Reading written complaint? say merge parts read)
    (attributes : List Attribute) :
    (attributes.filter isOwn).foldlM (fun b a => (a.tokens >>= read (say [])).map (merge b))
        (say [])
      = verdict (faults (fun a => a.tokens >>= read (say [])) attributes)
          (say (attributes.flatMap fun a => parts a.ownTokens)) := by
  rw [← flatMap_filter_isOwn reading.parts_nil, ← reading.nothing_merge (say (List.flatMap _ _))]
  refine foldlM_eq_verdict
    (fun found : List Attribute => say (found.flatMap fun a => parts a.ownTokens))
    (fun b before after => ?_) reading.merge_nothing (fun a ha b => ?_)
  · rw [List.flatMap_append]
    exact reading.merge_say _ _ _
  · -- one attribute: its fault if it has one, or else what its parts say
    have hown : a.isOwn = true := (List.mem_filter.1 ha).2
    have hverdict := eq_verdict_fault? fun found hfound => (reading.one_eq_ok hown hfound).2
    rw [List.flatMap_singleton]
    exact (congrArg _ hverdict).trans (map_verdict (merge b))

/-- With the parts of attributes that can all be read nothing is wrong. -/
theorem complaint?_of_faults_eq_nil (reading : Reading written complaint? say merge parts read)
    (h : faults (fun a => a.tokens >>= read (say [])) attributes = []) :
    ∀ part ∈ attributes.flatMap fun a => parts a.ownTokens, complaint? part = none := by
  intro part hpart
  rw [← flatMap_filter_isOwn reading.parts_nil] at hpart
  obtain ⟨a, ha, hpart⟩ := List.mem_flatMap.1 hpart
  obtain ⟨ha, hown⟩ := List.mem_filter.1 ha
  obtain ⟨b, hb⟩ := faults_eq_nil_iff.1 h a ha hown
  exact (reading.one_eq_ok hown hb).1 part hpart

end Reading

end Attribute

end RecordSql
