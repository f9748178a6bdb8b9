import RecordSql.Declaration.PlainName
import RecordSql.Proofs.Text.Parts

/-! # Plain names

Which texts are read as a name (`read_eq_ok_iff`), and what is reported of the others
(`read_eq_error_iff`). Plain names and the faults of a text are said here of characters alone
(`IsPlain`, `Faulty`), with no word about how they are checked. -/

namespace RecordSql.PlainName

/-! ### Plain names: `IsPlain` and `Faulty` -/

/-- **Whether a name is plain**: a letter of ASCII or an underscore, and behind it such letters,
digits and underscores. -/
def IsPlain : Text → Prop
  | [] => False
  | c :: rest =>
    (c.isAlpha = true ∨ c = '_') ∧ ∀ d ∈ rest, d.isAlpha = true ∨ d.isDigit = true ∨ d = '_'

instance : DecidablePred IsPlain
  | [] => inferInstanceAs (Decidable False)
  | _ :: rest => @instDecidableAnd _ _ _ (rest.decidableBAll _)

/-- **What is wrong with a name** that comes behind the names `earlier`. -/
inductive Faulty (earlier : List Text) : Text → NameFault → Prop
  /-- There is no name. -/
  | empty : Faulty earlier [] .empty
  /-- The text before some character is a plain name or empty, and with the character no longer. -/
  | notPlain {front : Text} {c : Char} (rest : Text) (hfront : front = [] ∨ IsPlain front)
    (hc : ¬ IsPlain (front ++ [c])) :
    Faulty earlier (front ++ c :: rest) (.notPlain (front ++ c :: rest) c)
  /-- The name is plain and one of the others. -/
  | repeated {name : Text} (hplain : IsPlain name) (hmem : name ∈ earlier) :
    Faulty earlier name (.repeated name)

variable {name text part : Text} {seen : List Text} {fault : NameFault} {c : Char}

theorem isStart_iff : isStart c = true ↔ c.isAlpha = true ∨ c = '_' := by
  simp [isStart, or_comm]

theorem isRest_iff : isRest c = true ↔ c.isAlpha = true ∨ c.isDigit = true ∨ c = '_' := by
  simp only [isRest, isStart, Bool.or_eq_true, beq_iff_eq]
  tauto

theorem isPlain_cons {rest : Text} :
    IsPlain (c :: rest) ↔ isStart c = true ∧ ∀ d ∈ rest, isRest d = true := by
  simp only [IsPlain, isStart_iff, isRest_iff]

/-- Every character of a plain name is one that such a name may go on with, `isRest`. -/
theorem IsPlain.isRest_of_mem (h : IsPlain name) (hc : c ∈ name) : isRest c = true := by
  cases name with
  | nil => cases hc
  | cons d rest =>
    obtain ⟨hstart, hrest⟩ := isPlain_cons.1 h
    rcases List.mem_cons.1 hc with rfl | hc
    · rw [isRest, hstart, Bool.true_or]
    · exact hrest c hc

/-- The code points of these characters: digits, letters of ASCII and the underscore. -/
theorem toNat_of_isRest (h : isRest c = true) :
    (48 ≤ c.toNat ∧ c.toNat ≤ 57) ∨ (65 ≤ c.toNat ∧ c.toNat ≤ 90) ∨ c.toNat = 95 ∨
      (97 ≤ c.toNat ∧ c.toNat ≤ 122) := by
  rcases isRest_iff.1 h with hletter | hdigit | rfl
  · unfold Char.isAlpha Char.isUpper Char.isLower at hletter
    simp only [Bool.or_eq_true, Bool.and_eq_true, decide_eq_true_eq, ge_iff_le,
      UInt32.le_iff_toNat_le] at hletter
    change (65 ≤ c.toNat ∧ c.toNat ≤ 90) ∨ (97 ≤ c.toNat ∧ c.toNat ≤ 122) at hletter
    omega
  · simp only [Char.isDigit, Bool.and_eq_true, decide_eq_true_eq, ge_iff_le,
      UInt32.le_iff_toNat_le] at hdigit
    change 48 ≤ c.toNat ∧ c.toNat ≤ 57 at hdigit
    omega
  · decide

/-- No blank is among them. -/
theorem not_isBlank_of_isRest (h : isRest c = true) : ¬ Text.isBlank c = true := by
  have hcode := toNat_of_isRest h
  simp only [Text.isBlank, Text.inRanges, Text.blankRanges, List.any_cons, List.any_nil,
    Bool.or_false, Bool.or_eq_true, Bool.and_eq_true, decide_eq_true_eq]
  omega

/-- A plain name begins and ends with no blank, so that trimming leaves it. -/
theorem IsPlain.tight (h : IsPlain name) : Text.Tight name :=
  ⟨fun _ hc => not_isBlank_of_isRest (h.isRest_of_mem (List.mem_of_mem_head? hc)),
    fun _ hc => not_isBlank_of_isRest (h.isRest_of_mem (List.mem_of_mem_getLast? hc))⟩

/-- A plain name is what is left of a text exactly if the text is the name with blanks around it. -/
theorem IsPlain.trimmed_eq_iff (h : IsPlain name) :
    part.trimmed = name ↔ Text.Padded name part := by
  rw [Text.trimmed_eq_iff, and_iff_left h.tight]

/-- Neither the name nor the blanks around it have a comma, so that no split goes through the
part. -/
theorem IsPlain.comma_not_mem (h : IsPlain name) (hpart : Text.Padded name part) :
    ',' ∉ part := by
  obtain ⟨front, back, hfront, hback, rfl⟩ := hpart
  intro hmem
  rcases List.mem_append.1 hmem with hmem | hmem
  · rcases List.mem_append.1 hmem with hmem | hmem
    · exact absurd (hfront _ hmem) (by decide)
    · exact absurd (h.isRest_of_mem hmem) (by decide)
  · exact absurd (hback _ hmem) (by decide)

/-- What stands in a plain name is no blank and none of the characters that mean something in a
statement. -/
theorem IsPlain.harmless (h : IsPlain name) (hc : c ∈ name) :
    ¬ Text.isBlank c = true ∧ c ∉ ['\x27', '\x22', '\x60', ',', '?', '$'] := by
  have hrest := h.isRest_of_mem hc
  refine ⟨not_isBlank_of_isRest hrest, fun hmem => ?_⟩
  have hnone : ['\x27', '\x22', '\x60', ',', '?', '$'].all (!isRest ·) = true := by decide
  have hnot := List.all_eq_true.1 hnone c hmem
  rw [hrest] at hnot
  cases hnot

/-! ### One name: `read` -/

/-- `firstBad?` finds no character in a plain name and in an empty text, and in no other. -/
theorem firstBad?_eq_none_iff : firstBad? name = none ↔ name = [] ∨ IsPlain name := by
  cases name with
  | nil => simp [firstBad?]
  | cons c rest =>
    rw [firstBad?, isPlain_cons]
    by_cases hc : isStart c = true <;> simp [hc]

/-- The character that `firstBad?` finds is the one with which the text is a plain name no
longer. -/
theorem exists_of_firstBad? (h : firstBad? name = some c) :
    ∃ front rest, name = front ++ c :: rest ∧ (front = [] ∨ IsPlain front) ∧
      ¬ IsPlain (front ++ [c]) := by
  cases name with
  | nil => cases h
  | cons d rest =>
    rw [firstBad?] at h
    split at h
    · next hd =>
      -- behind the first character, and all between the two are right
      obtain ⟨hc, front, back, rfl, hfront⟩ := List.find?_eq_some_iff_append.1 h
      have hright : ∀ d ∈ front, isRest d = true := by simpa using hfront
      refine ⟨d :: front, back, rfl, Or.inr (isPlain_cons.2 ⟨hd, hright⟩), fun hplain => ?_⟩
      rw [hplain.isRest_of_mem (by simp)] at hc
      cases hc
    · next hd =>
      cases h
      exact ⟨[], rest, rfl, Or.inl rfl, fun hplain => hd (isPlain_cons.1 hplain).1⟩

/-- There is one such character at most, so that `firstBad?` finds it wherever it stands. -/
theorem firstBad?_append {front : Text} (rest : Text) (hfront : front = [] ∨ IsPlain front)
    (hc : ¬ IsPlain (front ++ [c])) : firstBad? (front ++ c :: rest) = some c := by
  rcases hfront with rfl | hfront
  · have hstart : ¬ isStart c = true := fun hstart => hc (isPlain_cons.2 ⟨hstart, by simp⟩)
    exact if_neg hstart
  · cases front with
    | nil => cases hfront
    | cons d front =>
      obtain ⟨hd, hright⟩ := isPlain_cons.1 hfront
      -- behind a plain name only a character that may not go on is wrong
      have hwrong : ¬ isRest c = true := by
        intro hrest
        refine hc (isPlain_cons.2 ⟨hd, ?_⟩)
        simpa [or_imp, forall_and] using ⟨hright, hrest⟩
      rw [List.cons_append, firstBad?, if_pos hd, List.find?_eq_some_iff_append]
      exact ⟨by simpa using hwrong, front, rest, rfl, by simpa using hright⟩

/-- A plain name passes. -/
theorem check_of_isPlain (h : IsPlain name) : check name = .ok name := by
  have hne : name.isEmpty = false := by
    cases name with
    | nil => cases h
    | cons c rest => rfl
  rw [check, firstBad?_eq_none_iff.2 (Or.inr h), hne]
  rfl

/-- What is wrong with a name by itself is reported. -/
theorem check_of_faulty (h : Faulty [] name fault) : check name = .error fault := by
  cases h with
  | empty => rfl
  | notPlain rest hfront hc => rw [check, firstBad?_append rest hfront hc]
  | repeated _ hmem => cases hmem

/-- A name is plain or something is wrong with it; so the two descriptions leave out no text. -/
theorem isPlain_or_faulty (name : Text) : IsPlain name ∨ ∃ fault, Faulty [] name fault := by
  cases hbad : firstBad? name with
  | none =>
    rcases firstBad?_eq_none_iff.1 hbad with rfl | hplain
    · exact Or.inr ⟨_, .empty⟩
    · exact Or.inl hplain
  | some c =>
    obtain ⟨front, rest, rfl, hfront, hc⟩ := exists_of_firstBad? hbad
    exact Or.inr ⟨_, .notPlain rest hfront hc⟩

/-- Behind the names `seen` a name can be wrong by itself, or plain and one of them. -/
theorem faulty_iff :
    Faulty seen name fault ↔
      Faulty [] name fault ∨ IsPlain name ∧ name ∈ seen ∧ fault = .repeated name := by
  constructor
  · rintro (_ | ⟨rest, hfront, hc⟩ | ⟨hplain, hmem⟩)
    · exact Or.inl .empty
    · exact Or.inl (.notPlain rest hfront hc)
    · exact Or.inr ⟨hplain, hmem, rfl⟩
  · rintro ((_ | ⟨rest, hfront, hc⟩ | ⟨hplain, hmem⟩) | ⟨hplain, hmem, rfl⟩)
    · exact .empty
    · exact .notPlain rest hfront hc
    · cases hmem
    · exact .repeated hplain hmem

/-- **A text is read as a name** if it is a plain one with blanks around it: `text.trimmed` is the
name. -/
theorem read_eq_ok_iff : read text = .ok name ↔ IsPlain name ∧ text.trimmed = name := by
  rw [read]
  rcases isPlain_or_faulty text.trimmed with hplain | ⟨fault, hfaulty⟩
  · rw [check_of_isPlain hplain, Except.ok.injEq]
    constructor
    · rintro rfl
      exact ⟨hplain, rfl⟩
    · exact And.right
  · rw [check_of_faulty hfaulty]
    constructor
    · rintro ⟨⟩
    · rintro ⟨hplain, rfl⟩
      have hcheck := check_of_faulty hfaulty
      rw [check_of_isPlain hplain] at hcheck
      cases hcheck

/-- **A text is refused as a name** for what is wrong with `text.trimmed`, without the blanks around
it. -/
theorem read_eq_error_iff : read text = .error fault ↔ Faulty [] text.trimmed fault := by
  refine ⟨fun h => ?_, check_of_faulty⟩
  rcases isPlain_or_faulty text.trimmed with hplain | ⟨found, hfaulty⟩
  · rw [read, check_of_isPlain hplain] at h
    cases h
  · rw [read, check_of_faulty hfaulty] at h
    cases h
    exact hfaulty

/-- A name that is read is the text without the blanks around it. -/
theorem eq_trimmed_of_read (h : read text = .ok name) : name = text.trimmed :=
  (read_eq_ok_iff.1 h).2.symm

end RecordSql.PlainName
