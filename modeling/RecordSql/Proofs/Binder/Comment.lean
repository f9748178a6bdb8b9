import RecordSql.Proofs.Binder.Filling
import RecordSql.Proofs.Literal.Signed

/-! # Comments in bound texts

A binder puts literals next to the text of a template as it stands there. A template without two
hyphens side by side, outside of string literals (`Dialect.OpensComment`), can therefore be bound to
a text that has them, but in one way only: a negative number takes a mark directly behind a hyphen
(`Cut.BehindHyphen`). The filled cut is followed mark by mark, from the head on: `masked_filled`. -/

namespace RecordSql

open LiteralState Dialect

namespace Template.Cut

/-- Each of the slots with the text before its mark; `before` stands before the first. -/
def contextsFrom (before : Text) : List Slot → List (Text × Slot)
  | [] => []
  | s :: rest => (before, s) :: contextsFrom (before ++ (s.mark ++ s.after)) rest

/-- The slots of a template, each with the text of the template before its mark. -/
def contexts (cut : Cut) : List (Text × Slot) := contextsFrom cut.head cut.slots

/-- **Whether all marks of a template stand outside of its string literals**: the text before each
mark leaves none open. -/
def MarksOutside (d : Dialect) (cut : Cut) : Prop :=
  ∀ p ∈ cut.contexts, (d.scan p.1).unclosed = none

/-- **Whether a mark for the value of this number stands directly behind a hyphen.** -/
def BehindHyphen (cut : Cut) (number : Nat) : Prop :=
  ∃ p ∈ cut.contexts, p.2.number = number ∧ p.1.getLast? = some '-'

instance (d : Dialect) (cut : Cut) : Decidable (cut.MarksOutside d) :=
  inferInstanceAs (Decidable (∀ p ∈ cut.contexts, _))

instance (cut : Cut) (number : Nat) : Decidable (cut.BehindHyphen number) :=
  inferInstanceAs (Decidable (∃ p ∈ cut.contexts, _))

/-- The cut with the slot `s` at its end. -/
def snoc (cut : Cut) (s : Slot) : Cut := ⟨cut.head, cut.slots ++ [s]⟩

/-- Every cut is made of its head by putting slots at the end, so that an induction sees the whole
text before a mark. -/
theorem snocInduction {motive : Cut → Prop} (plain : ∀ head, motive (plain head))
    (snoc : ∀ cut s, motive cut → motive (cut.snoc s)) (cut : Cut) : motive cut := by
  obtain ⟨head, slots⟩ := cut
  induction slots using List.reverseRecOn with
  | nil => exact plain head
  | append_singleton front s ih => exact snoc ⟨head, front⟩ s ih

section Snoc

variable {cut : Cut} {s : Slot}

theorem slots_snoc : (cut.snoc s).slots = cut.slots ++ [s] := rfl

theorem numbers_snoc : (cut.snoc s).numbers = cut.numbers ++ [s.number] := by
  rw [numbers, slots_snoc, List.map_append, List.map_singleton, numbers]

theorem source_snoc : (cut.snoc s).source = cut.source ++ (s.mark ++ s.after) := by
  simp only [source, snoc, List.flatMap_append, List.flatMap_singleton, List.append_assoc]

theorem filled_snoc (text : Nat → Text) :
    (cut.snoc s).filled text = cut.filled text ++ (text s.number ++ s.after) := by
  simp only [filled, snoc, List.flatMap_append, List.flatMap_singleton, List.append_assoc]

theorem contextsFrom_append (before : Text) (slots : List Slot) :
    contextsFrom before (slots ++ [s])
      = contextsFrom before slots ++ [(before ++ slots.flatMap fun s => s.mark ++ s.after, s)] := by
  induction slots generalizing before with
  | nil => rw [List.flatMap_nil, List.append_nil]; rfl
  | cons r rest ih =>
    rw [List.cons_append, contextsFrom, ih, contextsFrom, List.flatMap_cons, List.append_assoc before,
      List.cons_append]

/-- Before the mark of the new slot stands `cut.source`, the whole template so far. -/
theorem contexts_snoc : (cut.snoc s).contexts = cut.contexts ++ [(cut.source, s)] :=
  contextsFrom_append cut.head cut.slots

theorem marksOutside_snoc {d : Dialect} :
    (cut.snoc s).MarksOutside d ↔ cut.MarksOutside d ∧ (d.scan cut.source).unclosed = none := by
  rw [MarksOutside, contexts_snoc, List.forall_mem_append, List.forall_mem_singleton, MarksOutside]

theorem behindHyphen_snoc {number : Nat} :
    (cut.snoc s).BehindHyphen number ↔
      cut.BehindHyphen number ∨ (s.number = number ∧ cut.source.getLast? = some '-') := by
  simp only [BehindHyphen, contexts_snoc, List.mem_append, List.mem_singleton, or_and_right,
    exists_or, exists_eq_left]

/-- A number with `p` behind a hyphen is one of the marks before, or that of the new mark. -/
theorem exists_behindHyphen_snoc {p : Nat → Prop} :
    (∃ n, p n ∧ (cut.snoc s).BehindHyphen n) ↔
      (∃ n, p n ∧ cut.BehindHyphen n) ∨ (cut.source.getLast? = some '-' ∧ p s.number) := by
  simp only [behindHyphen_snoc, and_or_left, exists_or]
  refine or_congr_right ⟨?_, fun hboth => ⟨_, hboth.2, rfl, hboth.1⟩⟩
  rintro ⟨n, hn, rfl, hhyphen⟩
  exact ⟨hhyphen, hn⟩

end Snoc

variable {d : Dialect} {cut : Cut}

/-- Only a number of `cut.numbers` stands behind a hyphen. -/
theorem BehindHyphen.mem_numbers {number : Nat} (h : cut.BehindHyphen number) :
    number ∈ cut.numbers := by
  induction cut using snocInduction with
  | plain head =>
    obtain ⟨p, hp, -⟩ := h
    cases hp
  | snoc cut s ih =>
    rw [numbers_snoc, List.mem_append, List.mem_singleton]
    rcases behindHyphen_snoc.1 h with hfront | ⟨rfl, -⟩
    · exact Or.inl (ih hfront)
    · exact Or.inr rfl

/-- A mark shows no hyphen, neither `?` nor a dollar sign with digits. -/
theorem Fits.isSigned_mark {style : PlaceholderStyle} (h : cut.Fits style) :
    ∀ s ∈ cut.slots, d.IsSigned false s.mark := by
  intro s hs
  cases style with
  | unindexed =>
    rw [(h.2.1 s hs).mark_eq]
    exact .of_plain (by decide) (by decide) (by decide)
  | indexed =>
    obtain ⟨digits, -, hdigits, hmark, -⟩ := (h.2 s hs).exists_digits
    have hplain : ∀ c : Char, ¬ c.isDigit → c ∉ digits := fun c hc hmem => hc (hdigits c hmem)
    rw [hmark]
    refine .of_plain (List.cons_ne_nil _ _) ?_ ?_
    · exact List.not_mem_cons_of_ne_of_not_mem (by decide) (hplain _ (by decide))
    · exact List.not_mem_cons_of_ne_of_not_mem (by decide) (hplain _ (by decide))

/-- **A filled cut shows the hyphens of its template and those of signs.** Behind either a reader
stands at the same place, and either shows a hyphen at its end if the other does. By `snocInduction`
on the cut. -/
theorem masked_filled {literal : Nat → Text} {negative : Nat → Bool}
    (hliteral : ∀ n ∈ cut.numbers, d.IsSigned (negative n) (literal n))
    (hmark : ∀ s ∈ cut.slots, d.IsSigned false s.mark) (hout : cut.MarksOutside d) :
    outside.after d (cut.filled literal) = outside.after d cut.source ∧
      ((d.masked outside (cut.filled literal)).getLast? = some '-' ↔
        (d.masked outside cut.source).getLast? = some '-') ∧
      (d.OpensComment (cut.filled literal) ↔
        d.OpensComment cut.source ∨ ∃ n, negative n = true ∧ cut.BehindHyphen n) := by
  -- from the last mark, before which all of the template stands
  induction cut using snocInduction with
  | plain head => simp [filled, source, plain, BehindHyphen, contexts, contextsFrom]
  | snoc cut s ih =>
    rw [numbers_snoc, List.forall_mem_append, List.forall_mem_singleton] at hliteral
    rw [slots_snoc, List.forall_mem_append, List.forall_mem_singleton] at hmark
    rw [marksOutside_snoc, unclosed_scan_iff] at hout
    obtain ⟨hafter, hlast, hcomment⟩ := ih hliteral.1 hmark.1 hout.1
    have hfilled : outside.after d (cut.filled literal) = outside := hafter.trans hout.2
    rw [getLast?_masked hfilled, getLast?_masked hout.2] at hlast
    rw [opensComment_iff, opensComment_iff] at hcomment
    rw [opensComment_iff, opensComment_iff, filled_snoc, source_snoc]
    refine ⟨?_, ?_, ?_⟩
    · rw [hliteral.2.after_between hfilled, hmark.2.after_between hout.2]
    · rw [hliteral.2.getLast?_between_iff hfilled, hmark.2.getLast?_between_iff hout.2]
    · -- the mark shows no hyphen, so all that is new is the sign of the literal in its place
      rw [hliteral.2.pair_infix_between_iff hfilled, hmark.2.pair_infix_between_iff hout.2, hcomment,
        hlast, exists_behindHyphen_snoc]
      simp only [Bool.false_eq_true, and_false, or_false]
      exact or_or_or_comm

end Template.Cut

namespace Binder

open Template

/-- **A comment in a bound text is made of a hyphen of the template and the sign of a value.** When
the marks of a template stand outside of its string literals (`MarksOutside`) and it has no two
hyphens side by side there, a bound text has them just when a negative number (`Value.isNegative`)
takes a mark directly behind a hyphen. No other value makes them, whatever stands next to its
mark. -/
theorem opensComment_bind (b : Binder) (template : Text) (values : List Value) (bound : Text)
    (cut : Cut) (hcut : cut.IsOf b.dialect.placeholderStyle template)
    (hout : cut.MarksOutside b.dialect) (hnone : ¬ b.dialect.OpensComment template)
    (hbound : b.bind template values = .ok bound) :
    b.dialect.OpensComment bound ↔
      ∃ i v, values[i]? = some v ∧ v.isNegative = true ∧ cut.BehindHyphen (i + 1) := by
  obtain ⟨hasks, texts, hrender, rfl⟩ := exists_of_bind_eq_ok hcut hbound
  -- every number asked for is that of a literal, signed as its value is
  have hliteral : ∀ n ∈ cut.numbers,
      b.dialect.IsSigned (values[n - 1]?.any Value.isNegative) (texts.getD (n - 1) []) := by
    intro n hn
    have hlast : n - 1 < values.length := by
      have := (hasks n).1 hn
      omega
    rw [List.getElem?_eq_getElem hlast, Option.any_some]
    exact Value.isSigned_of_render (Value.getElem_of_renderAll hrender hlast)
  obtain ⟨-, -, hcomment⟩ := Cut.masked_filled hliteral hcut.fits.isSigned_mark hout
  -- a comment of the bound text is one of the template, excluded by `hnone`, or a sign behind a
  -- hyphen
  rw [hcomment, hcut.source_eq, or_iff_right hnone]
  constructor
  · -- the mark numbered `n` shows `values[n - 1]`
    rintro ⟨n, hsign, hbehind⟩
    obtain ⟨v, hv, hnegative⟩ := (Option.any_eq_true _ _).1 hsign
    have hone := ((hasks n).1 hbehind.mem_numbers).1
    exact ⟨n - 1, v, hv, hnegative, by rwa [Nat.sub_add_cancel hone]⟩
  · rintro ⟨i, v, hv, hnegative, hbehind⟩
    refine ⟨i + 1, ?_, hbehind⟩
    rw [Nat.add_sub_cancel, hv]
    exact hnegative

/-- A positive number behind a hyphen and a negative one that is not. -/
theorem opensComment_bind_difference :
    let b : Binder := ⟨⟨.sqlite, .reject⟩⟩
    let cut : Cut := ⟨"select 5-".toList, [⟨['?'], 1, ", ".toList⟩, ⟨['?'], 2, []⟩]⟩
    b.bind cut.source [.int 3, .int (-7)] = .ok "select 5-3, -7".toList ∧
      ¬ b.dialect.OpensComment "select 5-3, -7".toList := by
  intro b cut
  have hcut : cut.IsOf b.dialect.placeholderStyle cut.source := by
    refine ⟨⟨by decide, ?_, by decide⟩, rfl⟩
    intro s hs
    rcases List.mem_pair.1 hs with rfl | rfl <;> exact ⟨rfl, by decide⟩
  have hbound : b.bind cut.source [.int 3, .int (-7)] = .ok "select 5-3, -7".toList := by decide
  refine ⟨hbound, ?_⟩
  rw [opensComment_bind b _ _ _ cut hcut (by decide +kernel) (by decide +kernel) hbound]
  rintro ⟨i, v, hv, hnegative, hbehind⟩
  match i with
  | 0 =>
    rw [← Option.some.inj hv] at hnegative
    cases hnegative
  | 1 => exact absurd hbehind (by decide)
  | i + 2 => cases hv

/-- A negative number behind a hyphen begins a comment: the template has none, its one mark stands
outside of literals and next to no quotation mark, and what stands behind the number is lost. -/
theorem opensComment_bind_negative :
    let b : Binder := ⟨⟨.sqlite, .reject⟩⟩
    let cut : Cut := ⟨"select 5-".toList, [⟨['?'], 1, " as x, y from t".toList⟩]⟩
    cut.IsOf b.dialect.placeholderStyle "select 5-? as x, y from t".toList ∧
      cut.MarksOutside b.dialect ∧ quoteMark ∉ cut.source ∧ ¬ b.dialect.OpensComment cut.source ∧
      b.bind cut.source [.int (-1)] = .ok "select 5--1 as x, y from t".toList ∧
      b.dialect.OpensComment "select 5--1 as x, y from t".toList := by
  refine ⟨⟨⟨by decide, ?_, by decide⟩, rfl⟩, by decide +kernel, by decide, by decide +kernel,
    by decide, by decide +kernel⟩
  intro s hs
  rw [List.mem_singleton.1 hs]
  exact ⟨rfl, by decide⟩

end Binder

end RecordSql
