import Mathlib.Data.List.Forall2
import Mathlib.Data.List.Nodup
import RecordSql.Proofs.Declaration.PlainName

/-! # Lists of names

Which texts are read as a list of names, and what is reported of the others. One part of a list is
read or refused by itself, given the names before it (`readParts_cons_of_new`,
`readParts_cons_of_faulty`); what a whole list gives follows from this by induction along its
parts. -/

namespace RecordSql.PlainName

/-- **Whether names can be listed**: they are plain, and none comes twice. -/
structure AreListable (names : List Text) : Prop where
  plain : ∀ name ∈ names, IsPlain name
  nodup : names.Nodup

/-- The names that a text lists: what stands between its commas, without the blanks around it. -/
def listed (text : Text) : List Text := (text.splitOn ',').map Text.trimmed

variable {name text part : Text} {seen names parts before after : List Text} {fault : NameFault}

/-! ### Names that can be listed: `AreListable` -/

theorem areListable_nil : AreListable [] := ⟨by simp, List.nodup_nil⟩

/-- A name can be listed behind others if it is plain and none of them. -/
theorem AreListable.concat (h : AreListable names) (hplain : IsPlain name) (hnew : name ∉ names) :
    AreListable (names ++ [name]) := by
  refine ⟨?_, ?_⟩
  · simpa [or_imp, forall_and] using ⟨h.plain, hplain⟩
  · rw [← List.concat_eq_append]
    exact h.nodup.concat hnew

/-- A `name` among others that can be listed is plain, and none of those before it. -/
theorem AreListable.of_append_cons (h : AreListable (seen ++ name :: names)) :
    IsPlain name ∧ name ∉ seen := by
  refine ⟨h.plain name (by simp), fun hmem => ?_⟩
  exact (List.nodup_append.1 h.nodup).2.2 name hmem name List.mem_cons_self rfl

/-! ### Parts one after another: `readParts` -/

/-- One part is read and found new, and then the parts behind it. -/
theorem readParts_cons (seen : List Text) (part : Text) (rest : List Text) :
    readParts seen (part :: rest) = read part >>= fun name =>
      if name ∈ seen then .error (.repeated name)
      else (readParts (seen ++ [name]) rest).map (name :: ·) := by
  rw [readParts]
  congr 1
  funext name
  by_cases hmem : name ∈ seen
  · simp [hmem]
  · cases readParts (seen ++ [name]) rest <;> simp [hmem, bind, Except.bind, Except.map]

/-- **A part that is a new name** is read, and the names behind it with it among those before. -/
theorem readParts_cons_of_new (hplain : IsPlain part.trimmed) (hnew : part.trimmed ∉ seen)
    (rest : List Text) :
    readParts seen (part :: rest)
      = (readParts (seen ++ [part.trimmed]) rest).map (part.trimmed :: ·) := by
  rw [readParts_cons, read_eq_ok_iff.2 ⟨hplain, rfl⟩]
  exact if_neg hnew

/-- **A part with which something is wrong** is reported, whatever stands behind it in `rest`. -/
theorem readParts_cons_of_faulty (h : Faulty seen part.trimmed fault) (rest : List Text) :
    readParts seen (part :: rest) = .error fault := by
  rw [readParts_cons]
  rcases faulty_iff.1 h with halone | ⟨hplain, hmem, rfl⟩
  · rw [read_eq_error_iff.2 halone]
    rfl
  · rw [read_eq_ok_iff.2 ⟨hplain, rfl⟩]
    exact if_pos hmem

/-- **Parts that are new names** are read before the others; by induction along them. -/
theorem readParts_append (h : AreListable (seen ++ before.map Text.trimmed)) (rest : List Text) :
    readParts seen (before ++ rest)
      = (readParts (seen ++ before.map Text.trimmed) rest).map (before.map Text.trimmed ++ ·) := by
  induction before generalizing seen with
  | nil =>
    rw [List.map_nil, List.append_nil, List.nil_append]
    cases readParts seen rest <;> rfl
  | cons part before ih =>
    rw [List.map_cons] at h ⊢
    obtain ⟨hplain, hnew⟩ := h.of_append_cons
    -- once it is read, the part is the last of the names before the others
    rw [List.append_cons] at h ⊢
    rw [List.cons_append, readParts_cons_of_new hplain hnew, ih h]
    cases readParts (seen ++ [part.trimmed] ++ before.map Text.trimmed) rest <;> rfl

/-- Parts are new names, or there is a first part with which something is wrong. -/
theorem areListable_or_faulty (hseen : AreListable seen) (parts : List Text) :
    AreListable (seen ++ parts.map Text.trimmed) ∨
      ∃ before part after fault, parts = before ++ part :: after ∧
        AreListable (seen ++ before.map Text.trimmed) ∧
          Faulty (seen ++ before.map Text.trimmed) part.trimmed fault := by
  induction parts generalizing seen with
  | nil => exact Or.inl (by simpa using hseen)
  | cons part rest ih =>
    have hfirst : ∀ fault, Faulty seen part.trimmed fault →
        ∃ before next after fault, part :: rest = before ++ next :: after ∧
          AreListable (seen ++ before.map Text.trimmed) ∧
            Faulty (seen ++ before.map Text.trimmed) next.trimmed fault := by
      intro fault hfault
      exact ⟨[], part, rest, fault, rfl, by simpa using hseen, by simpa using hfault⟩
    rcases isPlain_or_faulty part.trimmed with hplain | ⟨fault, halone⟩
    · by_cases hmem : part.trimmed ∈ seen
      · exact Or.inr (hfirst _ (.repeated hplain hmem))
      · -- the part is one more name before the others
        rcases ih (hseen.concat hplain hmem) with hrest | ⟨before, next, after, fault, rfl, h⟩
        · rw [List.map_cons, List.append_cons]
          exact Or.inl hrest
        · refine Or.inr ⟨part :: before, next, after, fault, rfl, ?_⟩
          rwa [List.map_cons, List.append_cons]
    · exact Or.inr (hfirst _ (faulty_iff.2 (Or.inl halone)))

/-! ### Lists of names: `readList` -/

/-- What a text lists is read if it can be listed: `readList text = .ok (listed text)`. -/
theorem readList_of_areListable (h : AreListable (listed text)) :
    readList text = .ok (listed text) := by
  have hlistable : AreListable ([] ++ (text.splitOn ',').map Text.trimmed) := h
  have hread := readParts_append hlistable []
  rw [List.append_nil] at hread
  rw [readList, hread]
  exact congrArg Except.ok (List.append_nil _)

/-- The first part with which something is wrong is reported. -/
theorem readList_of_faulty (hparts : text.splitOn ',' = before ++ part :: after)
    (hbefore : AreListable (before.map Text.trimmed))
    (hpart : Faulty (before.map Text.trimmed) part.trimmed fault) :
    readList text = .error fault := by
  have hlistable : AreListable ([] ++ before.map Text.trimmed) := hbefore
  rw [readList, hparts, readParts_append hlistable, List.nil_append, readParts_cons_of_faulty hpart]
  rfl

/-- One or the other is the case, by `areListable_or_faulty` for the parts between the commas. -/
theorem areListable_listed_or_faulty (text : Text) :
    AreListable (listed text) ∨
      ∃ before part after fault, text.splitOn ',' = before ++ part :: after ∧
        AreListable (before.map Text.trimmed) ∧
          Faulty (before.map Text.trimmed) (Text.trimmed part) fault :=
  areListable_or_faulty areListable_nil (text.splitOn ',')

/-- **A text is read as a list of names** if what it lists can be listed,
`AreListable (listed text)`. -/
theorem readList_eq_ok_iff :
    readList text = .ok names ↔ AreListable names ∧ listed text = names := by
  constructor
  · intro h
    rcases areListable_listed_or_faulty text with hlisted | ⟨_, _, _, _, hparts, hbefore, hpart⟩
    · rw [readList_of_areListable hlisted] at h
      cases h
      exact ⟨hlisted, rfl⟩
    · rw [readList_of_faulty hparts hbefore hpart] at h
      cases h
  · rintro ⟨hlistable, rfl⟩
    exact readList_of_areListable hlistable

/-- **A text is refused as a list of names** for the first part with which something is wrong. -/
theorem readList_eq_error_iff :
    readList text = .error fault ↔
      ∃ before part after, text.splitOn ',' = before ++ part :: after ∧
        AreListable (before.map Text.trimmed) ∧
          Faulty (before.map Text.trimmed) (Text.trimmed part) fault := by
  constructor
  · intro h
    rcases areListable_listed_or_faulty text with
      hlisted | ⟨before, part, after, found, hparts, hbefore, hpart⟩
    · rw [readList_of_areListable hlisted] at h
      cases h
    · rw [readList_of_faulty hparts hbefore hpart] at h
      cases h
      exact ⟨before, part, after, hparts, hbefore, hpart⟩
  · rintro ⟨before, part, after, hparts, hbefore, hpart⟩
    exact readList_of_faulty hparts hbefore hpart

/-- A list of names that passes has the names that the text lists, at least one and none twice. -/
theorem readList_eq_ok (h : readList text = .ok names) :
    names = listed text ∧ names ≠ [] ∧ names.Nodup := by
  obtain ⟨hlistable, rfl⟩ := readList_eq_ok_iff.1 h
  exact ⟨rfl, mt List.map_eq_nil_iff.1 (List.splitOn_ne_nil _ _), hlistable.nodup⟩

/-- Parts without the blanks around them are plain names exactly if they are these names, one by
one, with blanks around them. -/
theorem map_trimmed_eq_iff (hplain : ∀ name ∈ names, IsPlain name) :
    parts.map Text.trimmed = names ↔ List.Forall₂ Text.Padded names parts := by
  induction names generalizing parts with
  | nil => cases parts <;> simp
  | cons name names ih =>
    obtain ⟨hname, hnames⟩ := List.forall_mem_cons.1 hplain
    cases parts with
    | nil => simp
    | cons part parts =>
      rw [List.map_cons, List.cons.injEq, hname.trimmed_eq_iff, ih hnames, List.forall₂_cons]

/-- **The texts that list names** are lists of these names with blanks around them: `Text.Lists` of
`Text.Padded` names. -/
theorem listed_eq_iff (h : AreListable names) :
    listed text = names ↔
      ∃ parts, Text.Lists text parts ∧ List.Forall₂ Text.Padded names parts := by
  rw [listed, map_trimmed_eq_iff h.plain]
  constructor
  · exact fun hpadded => ⟨_, Text.lists_splitOn text, hpadded⟩
  · rintro ⟨parts, hlists, hpadded⟩
    -- no part has a comma of its own, so the text is split where the parts were joined
    have hcommas : ∀ part ∈ parts, ',' ∉ part := by
      intro part hpart
      have hmem : Text.trimmed part ∈ names := by
        rw [← (map_trimmed_eq_iff h.plain).2 hpadded]
        exact List.mem_map_of_mem hpart
      exact (h.plain _ hmem).comma_not_mem (Text.padded_trimmed part)
    rwa [hlists.splitOn_eq hcommas]

/-- **Lists of names are read by their grammar.** A text gives names exactly if they are plain, none
of them comes twice, and the text lists them with commas, each with any blanks around it; so names
that can be listed come back from any such text, and from the text that joins what was read. One
name is read from the texts that are this name with blanks around it, if it is plain. No name that
is read has a quotation mark, a backtick, a comma, a blank or the character of a mark in it. Any
other text is refused for the first of its parts that is empty, not plain or one of the names before
it, and what is reported of the part is what is wrong with it without the blanks around it. -/
theorem readList_grammar :
    (∀ text names, readList text = .ok names ↔ AreListable names ∧
      ∃ parts, Text.Lists text parts ∧ List.Forall₂ Text.Padded names parts) ∧
    (∀ names parts, names ≠ [] → AreListable names → List.Forall₂ Text.Padded names parts →
      readList (Text.commaJoined parts) = .ok names) ∧
    (∀ text names, readList text = .ok names →
      readList (Text.commaJoined names) = .ok names) ∧
    (∀ text name, read text = .ok name ↔ IsPlain name ∧ Text.Padded name text) ∧
    (∀ name, ((∃ text, read text = .ok name) ∨
        ∃ text names, readList text = .ok names ∧ name ∈ names) →
      ∀ c ∈ name, ¬ Text.isBlank c = true ∧ c ∉ ['\x27', '\x22', '\x60', ',', '?', '$']) ∧
    (∀ text fault, readList text = .error fault ↔
      ∃ before part after names core, text.splitOn ',' = before ++ part :: after ∧
        AreListable names ∧ List.Forall₂ Text.Padded names before ∧
        Text.Padded core part ∧ Text.Tight core ∧ Faulty names core fault) ∧
    ∀ text fault, read text = .error fault ↔
      ∃ core, Text.Padded core text ∧ Text.Tight core ∧ Faulty [] core fault := by
  have hlist : ∀ text names, readList text = .ok names ↔ AreListable names ∧
      ∃ parts, Text.Lists text parts ∧ List.Forall₂ Text.Padded names parts := by
    intro text names
    rw [readList_eq_ok_iff]
    exact and_congr_right listed_eq_iff
  have hone : ∀ text name, read text = .ok name ↔ IsPlain name ∧ Text.Padded name text := by
    intro text name
    rw [read_eq_ok_iff]
    exact and_congr_right IsPlain.trimmed_eq_iff
  have hjoined : ∀ names parts, names ≠ [] → AreListable names →
      List.Forall₂ Text.Padded names parts → readList (Text.commaJoined parts) = .ok names := by
    intro names parts hne hlistable hpadded
    have hparts : parts ≠ [] := by
      rintro rfl
      exact hne (List.forall₂_nil_right_iff.1 hpadded)
    exact (hlist _ _).2 ⟨hlistable, parts, Text.lists_commaJoined hparts, hpadded⟩
  refine ⟨hlist, hjoined, fun text names hread => ?_, hone, ?_, fun text fault => ?_,
    fun text fault => ?_⟩
  · obtain ⟨hlistable, -⟩ := (hlist text names).1 hread
    exact hjoined names names (readList_eq_ok hread).2.1 hlistable
      (List.forall₂_same.2 fun name _ => Text.padded_self name)
  · rintro name (⟨text, hread⟩ | ⟨text, names, hread, hmem⟩) c hc
    · exact ((hone text name).1 hread).1.harmless hc
    · exact (((hlist text names).1 hread).1.plain name hmem).harmless hc
  · rw [readList_eq_error_iff]
    constructor
    · rintro ⟨before, part, after, hparts, hbefore, hpart⟩
      exact ⟨before, part, after, _, _, hparts, hbefore, (map_trimmed_eq_iff hbefore.plain).1 rfl,
        Text.padded_trimmed part, Text.tight_trimmed part, hpart⟩
    · -- names and core are no more than the parts without the blanks around them
      rintro ⟨before, part, after, names, core, hparts, hbefore, hpadded, hcore, htight, hpart⟩
      obtain rfl := (map_trimmed_eq_iff hbefore.plain).2 hpadded
      obtain rfl := Text.trimmed_eq_iff.2 ⟨hcore, htight⟩
      exact ⟨before, part, after, hparts, hbefore, hpart⟩
  · rw [read_eq_error_iff]
    constructor
    · exact fun hfault => ⟨_, Text.padded_trimmed text, Text.tight_trimmed text, hfault⟩
    · rintro ⟨core, hcore, htight, hfault⟩
      obtain rfl := Text.trimmed_eq_iff.2 ⟨hcore, htight⟩
      exact hfault

/-- Wide blanks and tabulators around names, which are not there when the names are joined again. A
name that differs from another in its blanks alone is the same name. -/
theorem readList_grammar_blanks :
    let names := ["tenant_id".toList, "_x9".toList]
    readList "tenant_id\u3000,\t_x9".toList = .ok names ∧
      readList "tenant_id,_x9".toList = .ok names ∧
      readList "a,\u00a0a,1".toList = .error (.repeated "a".toList) := by
  intro names
  obtain ⟨-, hjoined, hagain, -, -, hrefused, -⟩ := readList_grammar
  have hlistable : AreListable names := ⟨by decide, by decide⟩
  have hpadded : List.Forall₂ Text.Padded names ["tenant_id\u3000".toList, "\t_x9".toList] :=
    .cons ⟨[], ['\u3000'], List.forall_mem_nil _, List.forall_mem_singleton.2 (by decide), rfl⟩
      (.cons ⟨['\t'], [], List.forall_mem_singleton.2 (by decide), List.forall_mem_nil _, rfl⟩ .nil)
  have hread := hjoined _ _ (by decide) hlistable hpadded
  refine ⟨hread, hagain _ _ hread, (hrefused _ _).2 ?_⟩
  have hplain : IsPlain "a".toList := by decide
  refine ⟨["a".toList], "\u00a0a".toList, ["1".toList], ["a".toList], "a".toList, by decide,
    ⟨by decide, by decide⟩, .cons (Text.padded_self _) .nil, ?_, hplain.tight,
    .repeated hplain (by decide)⟩
  exact ⟨['\u00a0'], [], List.forall_mem_singleton.2 (by decide), List.forall_mem_nil _, rfl⟩

end RecordSql.PlainName
