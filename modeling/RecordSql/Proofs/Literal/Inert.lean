import Mathlib.Data.List.Infix
import RecordSql.Proofs.Literal.Numeral
import RecordSql.Proofs.Text.Occurrence

/-! # Texts that no quote policy refuses

Days, times of day and identifiers are written without the character zero, quotation marks and
backslashes (`IsInert`), in every dialect. A JSON document may have marks and backslashes, but the
character zero is a control, and controls are escaped: `Json.nul_not_mem_compact`. -/

namespace RecordSql

namespace Text

/-- Whether a text has no character for which a quoted text could be refused under any policy. -/
def IsInert (text : Text) : Prop := ∀ c ∈ text, c ∉ ['\x00', quoteMark, '\\']

@[simp] theorem isInert_nil : IsInert [] := by
  simp [IsInert]

@[simp] theorem isInert_cons {c : Char} {text : Text} :
    IsInert (c :: text) ↔ c ∉ ['\x00', quoteMark, '\\'] ∧ IsInert text :=
  List.forall_mem_cons

@[simp] theorem isInert_append {a b : Text} : IsInert (a ++ b) ↔ IsInert a ∧ IsInert b :=
  List.forall_mem_append

theorem IsInert.mono {a b : Text} (h : IsInert b) (hab : ∀ c ∈ a, c ∈ b) : IsInert a :=
  fun c hc => h c (hab c hc)

/-- Numerals are inert: `IsNumeral` allows none of the three characters. -/
theorem IsNumeral.isInert {text : Text} (h : IsNumeral text) : IsInert text := by
  intro c hc hspecial
  have hnumeral := h c hc
  simp only [List.mem_cons, List.not_mem_nil, or_false] at hspecial
  rcases hspecial with rfl | rfl | rfl <;> exact absurd hnumeral (by decide)

@[simp] theorem isInert_padded (width n : Nat) : IsInert (padded width n) :=
  (isNumeral_padded width n).isInert

/-- Hexadecimal numerals are inert. -/
theorem isInert_paddedHex (width n : Nat) : IsInert (paddedHex width n) := by
  have hdigits : ∀ k < 16, Nat.digitChar k ∉ ['\x00', quoteMark, '\\'] := by decide
  intro c hc
  obtain ⟨k, hk, rfl⟩ := exists_digitChar_of_mem_paddedHex hc
  exact hdigits k hk

/-- Inert texts `joined` by an inert separator are inert. -/
theorem isInert_joined {sep : Text} (hsep : IsInert sep) {texts : List Text}
    (h : ∀ t ∈ texts, IsInert t) : IsInert (joined sep texts) := by
  induction texts with
  | nil => exact isInert_nil
  | cons t rest ih =>
    obtain ⟨ht, hrest⟩ := List.forall_mem_cons.1 h
    cases rest with
    | nil => exact ht
    | cons u rest =>
      rw [joined_cons_cons, isInert_append, isInert_append]
      exact ⟨⟨ht, hsep⟩, ih hrest⟩

end Text

open Text

/-! ### Days, times of day, identifiers -/

theorem Date.isInert_write (d : Date) : IsInert d.write := by
  have hyear : IsInert (yearText d.year) := by
    rw [yearText]
    split
    · exact isInert_padded _ _
    · rw [isInert_cons]
      refine ⟨?_, isInert_padded _ _⟩
      split <;> decide
  rw [write]
  simp only [isInert_append, isInert_cons, isInert_padded, and_true]
  exact ⟨⟨hyear, by decide⟩, by decide⟩

theorem TimeOfDay.isInert_write (t : TimeOfDay) : IsInert t.write := by
  have hfraction : ∀ nanos, IsInert (fractionText nanos) := by
    intro nanos
    have hpoint : '.' ∉ ['\x00', quoteMark, '\\'] := by decide
    rw [fractionText]
    split
    · exact isInert_nil
    · split
      · exact isInert_cons.2 ⟨hpoint, isInert_padded _ _⟩
      · split <;> exact isInert_cons.2 ⟨hpoint, isInert_padded _ _⟩
  rw [write]
  simp only [isInert_append, isInert_cons, isInert_padded, hfraction, and_true, true_and]
  exact ⟨by decide, by decide⟩

theorem DateTime.isInert_write (t : DateTime) : IsInert t.write :=
  isInert_append.2 ⟨t.date.isInert_write, isInert_cons.2 ⟨by decide, t.time.isInert_write⟩⟩

theorem Dialect.isInert_timestampText (d : Dialect) (t : DateTime) :
    IsInert (d.timestampText t) := by
  have hzone : IsInert "+00:00".toList := by
    change IsInert ['+', '0', '0', ':', '0', '0']
    simp only [isInert_cons, isInert_nil, and_true]
    decide
  cases d with
  | mySql => exact t.isInert_write
  | sqlite | postgres | unknown => exact isInert_append.2 ⟨t.isInert_write, hzone⟩

theorem Value.isInert_uuidText (id : BitVec 128) : IsInert (uuidText id) := by
  have hhyphen : IsInert ['-'] := isInert_cons.2 ⟨by decide, isInert_nil⟩
  have hgroup : ∀ start count,
      IsInert (((paddedHex 32 id.toNat).drop start).take count) := by
    intro start count
    exact (isInert_paddedHex 32 id.toNat).mono fun c hc =>
      List.mem_of_mem_drop (List.mem_of_mem_take hc)
  apply isInert_joined hhyphen
  simp only [List.forall_mem_cons, hgroup, List.not_mem_nil, IsEmpty.forall_iff, implies_true,
    and_self]

/-! ### JSON documents -/

namespace Json

/-- Texts without the character zero have none in their list. -/
theorem nul_not_mem_commaJoined {texts : List Text} (h : ∀ t ∈ texts, '\x00' ∉ t) :
    '\x00' ∉ commaJoined texts := by
  have hnone : ∀ t ∈ texts, ¬ ['\x00'] <:+: t := fun t ht => by
    rw [List.singleton_infix_iff]
    exact h t ht
  rw [← List.singleton_infix_iff]
  exact not_infix_commaJoined (by decide) (by decide) hnone

/-- No character of a JSON string is the character zero: `\u0000` stands there instead. -/
theorem nul_not_mem_escaped (c : Char) : '\x00' ∉ escaped c := by
  have hhex : '\x00' ∉ ['\\', 'u'] ++ paddedHex 4 c.toNat := by
    rw [List.mem_append, not_or]
    exact ⟨by decide, fun hmem => isInert_paddedHex 4 c.toNat _ hmem (by decide)⟩
  by_cases hc : c = '\x00'
  · subst hc
    exact hhex
  · have hself : '\x00' ∉ [c] := fun hmem => hc (List.mem_singleton.1 hmem).symm
    rw [escaped]
    -- the escapes in the order of `escaped`, the one of a quote or backslash first
    repeat' split
    · exact List.not_mem_cons_of_ne_of_not_mem (by decide) hself
    · decide
    · decide
    · decide
    · decide
    · decide
    · exact hhex
    · exact hself

theorem nul_not_mem_stringText (content : Text) : '\x00' ∉ stringText content := by
  rw [stringText, List.mem_append, List.mem_append, List.mem_flatMap, not_or, not_or]
  refine ⟨⟨by decide, ?_⟩, by decide⟩
  rintro ⟨c, -, hmem⟩
  exact nul_not_mem_escaped c hmem

theorem nul_not_mem_floatText (bits : Nat) : '\x00' ∉ floatText bits := by
  rw [floatText]
  split
  · intro hmem
    exact (numberLayout.isNumeral_write _ _ _ _).isInert _ hmem (by decide)
  · decide
  · decide

/-- A member of `insertMember key value sorted` is `(key, value)` or was there before. -/
theorem mem_insertMember {α : Type} {key : Text} {value : α} {sorted : List (Text × α)}
    {m : Text × α} (hm : m ∈ insertMember key value sorted) : m = (key, value) ∨ m ∈ sorted := by
  fun_induction insertMember key value sorted with
  | case1 => exact Or.inl (List.mem_singleton.1 hm)
  | case2 v rest => exact (List.mem_cons.1 hm).imp_right (List.mem_cons_of_mem _)
  | case3 k v rest hk hlt => exact List.mem_cons.1 hm
  | case4 k v rest hk hlt ih =>
    rcases List.mem_cons.1 hm with rfl | hm
    · exact Or.inr List.mem_cons_self
    · exact (ih hm).imp_right (List.mem_cons_of_mem _)

/-- Sorting adds no member: `sortedMembers members` has members of `members` only. -/
theorem mem_of_mem_sortedMembers {α : Type} {members : List (Text × α)} {m : Text × α}
    (hm : m ∈ sortedMembers members) : m ∈ members := by
  -- the fold, from any members that are sorted already
  have hfold : ∀ (members sorted : List (Text × α)),
      m ∈ members.foldl (fun sorted m => insertMember m.1 m.2 sorted) sorted →
        m ∈ sorted ∨ m ∈ members := by
    intro members
    induction members with
    | nil => exact fun sorted hm => Or.inl hm
    | cons n rest ih =>
      intro sorted hm
      rcases ih (insertMember n.1 n.2 sorted) hm with hinsert | hrest
      · rcases mem_insertMember hinsert with rfl | hsorted
        · exact Or.inr List.mem_cons_self
        · exact Or.inl hsorted
      · exact Or.inr (List.mem_cons_of_mem _ hrest)
  exact (hfold members [] hm).resolve_left List.not_mem_nil

mutual

/-- **No JSON document has the character zero in its text.** The recursion is that of `compact`,
through items and members. -/
theorem nul_not_mem_compact : ∀ document : Json, '\x00' ∉ document.compact
  | null => by decide
  | bool true => by decide
  | bool false => by decide
  | int n => fun hmem => (isNumeral_ofInt n).isInert _ hmem (by decide)
  | float bits => nul_not_mem_floatText bits
  | string content => nul_not_mem_stringText content
  | array items => by
    have hitems := nul_not_mem_commaJoined (nul_not_mem_compactItems items)
    simp only [compact, List.mem_append, not_or]
    exact ⟨⟨by decide, hitems⟩, by decide⟩
  | object members => by
    have hmembers : ∀ t ∈ (sortedMembers (compactMembers members)).map memberText, '\x00' ∉ t := by
      intro t ht
      obtain ⟨m, hm, rfl⟩ := List.mem_map.1 ht
      rw [memberText, List.mem_append, List.mem_cons, not_or, not_or]
      exact ⟨nul_not_mem_stringText m.1, by decide,
        nul_not_mem_compactMembers members m (mem_of_mem_sortedMembers hm)⟩
    simp only [compact, List.mem_append, not_or]
    exact ⟨⟨by decide, nul_not_mem_commaJoined hmembers⟩, by decide⟩

theorem nul_not_mem_compactItems : ∀ items : List Json, ∀ t ∈ compactItems items, '\x00' ∉ t
  | [] => by simp [compactItems]
  | item :: items => by
    rw [compactItems, List.forall_mem_cons]
    exact ⟨nul_not_mem_compact item, nul_not_mem_compactItems items⟩

theorem nul_not_mem_compactMembers :
    ∀ members : List (Text × Json), ∀ m ∈ compactMembers members, '\x00' ∉ m.2
  | [] => by simp [compactMembers]
  | (key, value) :: members => by
    rw [compactMembers, List.forall_mem_cons]
    exact ⟨nul_not_mem_compact value, nul_not_mem_compactMembers members⟩

end

end Json

end RecordSql
