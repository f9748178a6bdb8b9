import Mathlib.Data.List.Infix
import RecordSql.Text.Basic

/-! # Occurrences in parts

A pattern does not reach over a character that it does not have. A text with such a character in it
is therefore searched in two parts (`infix_append_cons_iff`), and a list of texts with such a
separator text by text (`not_infix_commaJoined`). Before its first occurrence there is none
(`not_infix_of_before?`). -/

namespace RecordSql.Text

variable {pat a b : Text} {c : Char}

/-- What begins a text and lacks a character of it lies before that character. -/
theorem prefix_of_prefix_append_cons (hc : c ∉ pat) (h : pat <+: a ++ c :: b) : pat <+: a := by
  have hjoint : a ++ [c] <+: a ++ c :: b := ⟨b, by simp⟩
  rcases List.prefix_or_prefix_of_prefix h hjoint with hshort | hlong
  · rcases List.prefix_concat_iff.1 hshort with rfl | hpat
    · exact absurd (List.mem_append_right a (List.mem_singleton_self c)) hc
    · exact hpat
  · exact absurd (hlong.subset (List.mem_append_right a (List.mem_singleton_self c))) hc

/-- With `c ∉ pat` no occurrence of `pat` begins at `c`. -/
theorem before?_cons_of_not_mem (hne : pat ≠ []) (hc : c ∉ pat) :
    before? pat (c :: b) = (before? pat b).map (c :: ·) := by
  have hbegin : ¬ pat.isPrefixOf (c :: b) = true := by
    rw [List.isPrefixOf_iff_prefix]
    intro h
    exact hne (List.prefix_nil.1 (prefix_of_prefix_append_cons (a := []) hc h))
  rw [before?, if_neg hbegin]

/-- **The search skips a part without occurrence**, if the pattern lacks the character behind it:
`before? pat (a ++ c :: b)` is found in `c :: b`. -/
theorem before?_append_cons (hc : c ∉ pat) (ha : ¬ pat <:+: a) :
    before? pat (a ++ c :: b) = (before? pat (c :: b)).map (a ++ ·) := by
  induction a with
  | nil => simp
  | cons x a ih =>
    obtain ⟨hfront, hrest⟩ := not_or.1 (List.infix_cons_iff.not.1 ha)
    have hbegin : ¬ pat.isPrefixOf (x :: (a ++ c :: b)) = true := by
      rw [List.isPrefixOf_iff_prefix]
      exact fun h => hfront (prefix_of_prefix_append_cons hc h)
    rw [List.cons_append, before?, if_neg hbegin, ih hrest, Option.map_map]
    rfl

/-- `before? pat (pat ++ b) = some []`: nothing stands before an occurrence in front. -/
theorem before?_append_self (hne : pat ≠ []) (b : Text) : before? pat (pat ++ b) = some [] := by
  cases pat with
  | nil => exact absurd rfl hne
  | cons p rest =>
    have hbegin : (p :: rest).isPrefixOf (p :: (rest ++ b)) = true := by
      rw [List.isPrefixOf_iff_prefix]
      exact ⟨b, rfl⟩
    rw [List.cons_append, before?, if_pos hbegin]

/-- `before? pat text = some head` gives `¬ pat <:+: head`: no occurrence lies before the first. -/
theorem not_infix_of_before? {text head : Text} (hne : pat ≠ []) (h : before? pat text = some head) :
    ¬ pat <:+: head := by
  induction text generalizing head with
  | nil =>
    have hnone : before? pat [] = none := before?_eq_none_iff.2 (mt List.infix_nil.1 hne)
    rw [hnone] at h
    cases h
  | cons x rest ih =>
    rw [before?] at h
    split at h
    · cases h
      exact mt List.infix_nil.1 hne
    · next hbegin =>
      obtain ⟨front, hfront, rfl⟩ := Option.map_eq_some_iff.1 h
      obtain ⟨tail, hrest⟩ := exists_of_before?_eq_some hfront
      rw [List.infix_cons_iff]
      refine not_or.2 ⟨fun hprefix => hbegin ?_, ih hfront⟩
      -- what begins the text before the first occurrence begins the whole text
      rw [List.isPrefixOf_iff_prefix, hrest]
      exact hprefix.trans ⟨pat ++ tail, by simp⟩

/-- **A pattern occurs in one of two parts** if it lacks the character `c` between them. -/
theorem infix_append_cons_iff (hne : pat ≠ []) (hc : c ∉ pat) :
    pat <:+: a ++ c :: b ↔ pat <:+: a ∨ pat <:+: b := by
  constructor
  · intro h
    by_contra hneither
    obtain ⟨ha, hb⟩ := not_or.1 hneither
    rw [← before?_eq_none_iff] at hb
    refine before?_eq_none_iff.1 ?_ h
    rw [before?_append_cons hc ha, before?_cons_of_not_mem hne hc, hb]
    rfl
  · rintro (h | h)
    · exact h.trans (List.prefix_append _ _).isInfix
    · exact h.trans ((List.suffix_cons _ _).trans (List.suffix_append _ _)).isInfix

/-- A pattern without a comma occurs in `commaJoined texts` only if it does in one of the texts. -/
theorem not_infix_commaJoined {texts : List Text} (hne : pat ≠ []) (hc : ',' ∉ pat)
    (h : ∀ t ∈ texts, ¬ pat <:+: t) : ¬ pat <:+: commaJoined texts := by
  rw [commaJoined]
  induction texts with
  | nil => rwa [joined_nil, List.infix_nil]
  | cons t rest ih =>
    obtain ⟨ht, hrest⟩ := List.forall_mem_cons.1 h
    cases rest with
    | nil => exact ht
    | cons u rest =>
      rw [joined_cons_cons, List.append_assoc, List.singleton_append, infix_append_cons_iff hne hc]
      exact not_or.2 ⟨ht, ih hrest⟩

/-! ### Pairs -/

variable {α : Type} {x y z : α} {s t : List α}

/-- The pair `[x, y]` begins a list or occurs behind the first element. -/
theorem pair_infix_cons_iff :
    [x, y] <:+: z :: t ↔ (z = x ∧ t.head? = some y) ∨ [x, y] <:+: t := by
  rw [List.infix_cons_iff, List.cons_prefix_cons, List.singleton_prefix_iff_head?_eq_some,
    eq_comm (a := x)]

/-- **A pair occurs in one of two parts or where they meet**: `x` at the end of `s` and `y` in front
of `t`. -/
theorem pair_infix_append_iff :
    [x, y] <:+: s ++ t ↔
      [x, y] <:+: s ∨ (s.getLast? = some x ∧ t.head? = some y) ∨ [x, y] <:+: t := by
  induction s with
  | nil => simp
  | cons z s ih =>
    rw [List.cons_append, pair_infix_cons_iff, pair_infix_cons_iff, ih]
    cases s with
    | nil => simp
    | cons u s =>
      rw [List.getLast?_cons_cons, List.cons_append, List.head?_cons, List.head?_cons, or_assoc]

end RecordSql.Text
