import RecordSql.Proofs.Binder.Framing
import RecordSql.Proofs.Literal.Payload

/-! # Question marks and numbered marks

A template with question marks becomes one with marks of an index when its question marks are
numbered from left to right (`Template.numbered`). The binder for PostgreSQL answers the second as
the binders for SQLite and for no particular backend answer the first: `Binder.bind_numbered`. -/

namespace RecordSql

namespace Template

/-- The template with its question marks numbered, from `first` on. -/
def numbered (first : Nat) : Text → Text
  | [] => []
  | c :: rest =>
    if c = '?' then Dialect.postgres.placeholder first ++ numbered (first + 1) rest
    else c :: numbered first rest

/-- Numbering leaves text without question marks as it is. -/
theorem numbered_plain (first : Nat) {piece : Text} (h : '?' ∉ piece) (rest : Text) :
    numbered first (piece ++ rest) = piece ++ numbered first rest := by
  induction piece with
  | nil => rfl
  | cons c piece ih =>
    rw [List.mem_cons, not_or] at h
    rw [List.cons_append, numbered, if_neg (Ne.symm h.1), ih h.2, List.cons_append]

/-- Slots that are numbered from `first` on get the marks of their numbers, `$first`, `$(first + 1)`
and so on. -/
theorem numbered_slots (first : Nat) {slots : List Slot} (h : ∀ s ∈ slots, s.IsUnindexed)
    (hnumbers : slots.map Slot.number = List.range' first slots.length) :
    numbered first (slots.flatMap fun s => s.mark ++ s.after)
      = slots.flatMap fun s => Dialect.postgres.placeholder s.number ++ s.after := by
  induction slots generalizing first with
  | nil => rfl
  | cons s rest ih =>
    obtain ⟨hs, hrest⟩ := List.forall_mem_cons.1 h
    rw [List.map_cons, List.length_cons, List.range'_succ, List.cons.injEq] at hnumbers
    obtain ⟨hnumber, hnumbers⟩ := hnumbers
    -- only the mark in front of the slot is written anew, what follows it is plain
    have hmark : ∀ text : Text,
        numbered first ('?' :: text)
          = Dialect.postgres.placeholder first ++ numbered (first + 1) text := by
      intro text
      rw [numbered, if_pos rfl]
    rw [List.flatMap_cons, List.flatMap_cons, hs.mark_eq, List.append_assoc,
      List.singleton_append, hmark, numbered_plain _ hs.plain, ih _ hrest hnumbers, hnumber,
      List.append_assoc]

namespace Cut

variable {cut : Cut}

/-- The cut with the text `mark n` for the mark of number `n`, so with other marks for its
numbers. -/
def remarked (mark : Nat → Text) (cut : Cut) : Cut :=
  ⟨cut.head, cut.slots.map fun s => { s with mark := mark s.number }⟩

@[simp] theorem numbers_remarked (mark : Nat → Text) (cut : Cut) :
    (cut.remarked mark).numbers = cut.numbers := by
  simp only [numbers, remarked, List.map_map, Function.comp_def]

@[simp] theorem filled_remarked (mark text : Nat → Text) (cut : Cut) :
    (cut.remarked mark).filled text = cut.filled text := by
  simp only [filled, remarked, List.flatMap_map]

/-- The text of a cut with other marks is the cut filled with these. -/
theorem source_remarked (mark : Nat → Text) (cut : Cut) :
    (cut.remarked mark).source = cut.filled mark := by
  simp only [source, filled, remarked, List.flatMap_map]

/-- Numbering a template fills its cut with `Dialect.postgres.placeholder`. -/
theorem numbered_source (h : cut.Fits .unindexed) :
    numbered 1 cut.source = cut.filled Dialect.postgres.placeholder := by
  obtain ⟨hhead, hslots, hnumbers⟩ := h
  rw [source, numbered_plain _ hhead, numbered_slots _ hslots hnumbers, filled]

/-- A mark and the text behind it lie in the template. -/
theorem infix_source {s : Slot} (hs : s ∈ cut.slots) : s.mark ++ s.after <:+: cut.source := by
  obtain ⟨before, after, hsplit⟩ := List.append_of_mem hs
  refine ⟨cut.head ++ before.flatMap fun s => s.mark ++ s.after,
    after.flatMap fun s => s.mark ++ s.after, ?_⟩
  rw [source, hsplit, List.flatMap_append, List.flatMap_cons]
  simp only [List.append_assoc]

/-- **A numbered cut fits the other style** when no digit stands behind a question mark or a dollar
sign of the template. -/
theorem fits_remarked (h : cut.Fits .unindexed)
    (hdigits : ∀ mark ∈ ['?', '$'], ∀ digit : Char, digit.isDigit → ¬ [mark, digit] <:+: cut.source) :
    (cut.remarked Dialect.postgres.placeholder).Fits .indexed := by
  have hdollar : ∀ piece : Text, piece <:+: cut.source → ¬ HasIndexedMark piece := by
    rintro piece hpiece ⟨digit, hdigit, hmark⟩
    exact hdigits '$' (by decide) digit hdigit (hmark.trans hpiece)
  refine ⟨hdollar _ (List.prefix_append cut.head _).isInfix, ?_⟩
  intro r hr
  obtain ⟨s, hs, rfl⟩ := List.mem_map.1 hr
  have hlies := infix_source hs
  have hbehind : ¬ BeginsWithDigit s.after := by
    rintro ⟨digit, hhead, hdigit⟩
    obtain ⟨tail, htail⟩ := List.head?_eq_some_iff.1 hhead
    -- the digit stands behind the question mark of the slot
    rw [(h.2.1 s hs).mark_eq, htail] at hlies
    have hmark : ['?', digit] <:+: ['?'] ++ digit :: tail :=
      (List.prefix_append ['?', digit] tail).isInfix
    exact hdigits '?' (by decide) digit hdigit (hmark.trans hlies)
  have hplain : ¬ HasIndexedMark s.after :=
    hdollar _ ((List.suffix_append s.mark s.after).isInfix.trans hlies)
  have hstyle : Dialect.postgres.placeholderStyle = .indexed := rfl
  exact isIndexed_placeholder hstyle rfl hbehind hplain

end Cut

end Template

namespace Binder

open Template

/-- **Question marks and numbered marks are bound alike.** Number the question marks of a template
in which no digit stands behind a question mark or a dollar sign. The binder for PostgreSQL then
gives the answer that the binders for SQLite and for no particular backend give for the template
itself: the same text or the same error, whether or not the values are as many as the marks. The
values are neither truth values nor bytes, which PostgreSQL writes in its own way. The marks are no
more than an index of sixty-four bits can count, which holds of every text in memory. -/
theorem bind_numbered (policy : QuotePolicy) (template : Text) (values : List Value)
    (hdigits : ∀ mark ∈ ['?', '$'], ∀ digit : Char, digit.isDigit → ¬ [mark, digit] <:+: template)
    (hvalues : ∀ v ∈ values, (∀ b, v.payload? ≠ some (.bool b)) ∧
      ∀ content, v.payload? ≠ some (.bytes content))
    (hcount : markCount template ≤ greatestIndex) :
    ∀ d ∈ [Dialect.sqlite, Dialect.unknown],
      Binder.bind ⟨⟨.postgres, policy⟩⟩ (numbered 1 template) values
        = Binder.bind ⟨⟨d, policy⟩⟩ template values := by
  intro d hd
  have hdialect : d ≠ .mySql ∧ d.placeholderStyle = .unindexed := by
    rcases List.mem_pair.1 hd with rfl | rfl <;> exact ⟨by decide, rfl⟩
  obtain ⟨cut, hfits, rfl⟩ := Cut.exists_isOf .unindexed template
  have hcut : cut.IsOf (Binder.dialect ⟨⟨d, policy⟩⟩).placeholderStyle cut.source := by
    change cut.IsOf d.placeholderStyle _
    rw [hdialect.2]
    exact ⟨hfits, rfl⟩
  have hother : (cut.remarked Dialect.postgres.placeholder).IsOf .indexed (numbered 1 cut.source) :=
    ⟨Cut.fits_remarked hfits hdigits, by rw [Cut.source_remarked, Cut.numbered_source hfits]⟩
  -- numbers from one on expect as many values as there are marks, in either style
  have hmarks : cut.slots.length ≤ greatestIndex := by
    rwa [markCount_source hfits] at hcount
  have hnumbers := hfits.2.2
  have hexpected := Cut.expected_of_numbers hnumbers hmarks d.placeholderStyle
  have hexpected' := Cut.expected_of_numbers
    ((Cut.numbers_remarked Dialect.postgres.placeholder cut).trans hnumbers) hmarks .indexed
  have hrender : Value.renderAll ⟨.postgres, policy⟩ values = Value.renderAll ⟨d, policy⟩ values := by
    apply Value.renderAll_congr
    intro v hv
    obtain ⟨hbool, hbytes⟩ := hvalues v hv
    exact Value.render_congr (by decide) hdialect.1 policy hbool hbytes
  have hbind : Binder.bind ⟨⟨.postgres, policy⟩⟩ (numbered 1 cut.source) values
      = (Binder.bind ⟨⟨d, policy⟩⟩ cut.source values).map id :=
    bind_eq_map hcut hother (Cut.numbers_remarked _ cut) (hexpected'.trans hexpected.symm) hrender
      (Cut.filled_remarked _ · cut)
  rw [hbind, Except.map_id, id]

/-- A dollar sign in front of a mark, marks side by side and a value that looks like marks. -/
theorem bind_numbered_adjacent :
    let template : Text := "a=$? or b in (?,?)".toList
    let values : List Value := [.text "$2?".toList, .int 7, .present (.present .absent)]
    numbered 1 template = "a=$$1 or b in ($2,$3)".toList ∧
      Binder.bind ⟨⟨.postgres, .reject⟩⟩ (numbered 1 template) values
        = Binder.bind ⟨⟨.sqlite, .reject⟩⟩ template values ∧
      Binder.bind ⟨⟨.sqlite, .reject⟩⟩ template values
        = .ok "a=$'$2?' or b in (7,NULL)".toList := by
  intro template values
  have hnone : ∀ c ∈ template, ¬ c.isDigit := by simp [template]
  have hdigits : ∀ mark ∈ ['?', '$'], ∀ digit : Char, digit.isDigit →
      ¬ [mark, digit] <:+: template := by
    intro mark _ digit hdigit hwithin
    exact hnone digit (hwithin.subset (by simp)) hdigit
  have hvalues : ∀ v ∈ values, (∀ b, v.payload? ≠ some (.bool b)) ∧
      ∀ content, v.payload? ≠ some (.bytes content) := by
    intro v hv
    simp only [values, List.mem_cons, List.not_mem_nil, or_false] at hv
    rcases hv with rfl | rfl | rfl <;> simp [Value.payload?]
  refine ⟨by decide, ?_, by decide⟩
  exact bind_numbered .reject template values hdigits hvalues (by decide) .sqlite (by decide)

end Binder

end RecordSql
