import RecordSql.Proofs.Binder.Filling
import RecordSql.Proofs.Literal.Signed

/-! # Values stay inside their literals

A bound text is scanned as its pieces and the literals of its values are scanned by themselves, one
after the other (`Cut.interleaved`). So no value reaches the text around it, and none reaches
another value: `Binder.scan_bind`. -/

namespace RecordSql

namespace Template.Cut

variable {d : Dialect} {cut : Cut}

/-- **Whether a dialect may fill a template with literals**: every piece closes its own literals, no
quotation mark of a piece stands next to a mark, and a piece between two marks is not empty. -/
structure KeepsApart (d : Dialect) (cut : Cut) : Prop where
  closed : ∀ piece ∈ cut.pieces, (d.scan piece).unclosed = none
  before_mark : ∀ piece ∈ cut.pieces.dropLast, piece.getLast? ≠ some quoteMark
  after_mark : ∀ piece ∈ cut.pieces.tail, piece.head? ≠ some quoteMark
  between_marks : ∀ piece ∈ cut.pieces.tail.dropLast, piece ≠ []

/-- The parts of the pieces, with those of `literal n` by itself in the place of each mark of number
`n`. -/
def interleaved (d : Dialect) (cut : Cut) (literal : Nat → Text) : List Part :=
  (d.scan cut.head).parts
    ++ cut.slots.flatMap fun s => (d.scan (literal s.number)).parts ++ (d.scan s.after).parts

/-- Interleavings agree when `literal` and `literal'` agree on the numbers of the marks. -/
theorem interleaved_congr {literal literal' : Nat → Text}
    (h : ∀ n ∈ cut.numbers, literal n = literal' n) :
    cut.interleaved d literal = cut.interleaved d literal' := by
  have hslots : ∀ s ∈ cut.slots,
      (d.scan (literal s.number)).parts ++ (d.scan s.after).parts
        = (d.scan (literal' s.number)).parts ++ (d.scan s.after).parts := by
    intro s hs
    rw [h _ (List.mem_map_of_mem hs)]
  rw [interleaved, interleaved, List.flatMap_congr hslots]

/-- A piece between two marks is not empty, so no mark stands behind an empty one. -/
theorem head?_after_append {s : Slot} {rest : List Slot} (literal : Nat → Text)
    (hafter : s.after.head? ≠ some quoteMark)
    (hbetween : ∀ piece ∈ (s.after :: rest.map Slot.after).dropLast, piece ≠ []) :
    (s.after ++ rest.flatMap fun r => literal r.number ++ r.after).head? ≠ some quoteMark := by
  cases hpiece : s.after with
  | nil =>
    -- only the last piece may be empty, and then nothing follows
    cases rest with
    | nil => simp
    | cons r rest => exact absurd hpiece (hbetween s.after List.mem_cons_self)
  | cons c text =>
    rw [hpiece] at hafter
    exact hafter

/-- **A filled cut is scanned piece by piece**, when each literal closes its own: its scan is
`interleaved`, and nothing is left open. -/
theorem KeepsApart.scan_filled (h : cut.KeepsApart d) {literal : Nat → Text}
    (hliteral : ∀ n ∈ cut.numbers, (d.scan (literal n)).unclosed = none) :
    d.scan (cut.filled literal) = ⟨cut.interleaved d literal, none⟩ := by
  obtain ⟨head, slots⟩ := cut
  obtain ⟨hclosed, hbefore, hafter, hbetween⟩ := h
  simp only [pieces, List.tail_cons] at hclosed hbefore hafter hbetween
  simp only [numbers] at hliteral
  simp only [filled, interleaved]
  -- along the slots, the head being the piece that stands before them
  induction slots generalizing head with
  | nil =>
    simp only [List.flatMap_nil, List.append_nil]
    rw [← hclosed head List.mem_cons_self]
  | cons s rest ih =>
    rw [List.map_cons] at hclosed hbefore hafter hbetween hliteral
    rw [List.dropLast_cons_of_ne_nil (List.cons_ne_nil _ _)] at hbefore
    obtain ⟨hhead, hclosedRest⟩ := List.forall_mem_cons.1 hclosed
    obtain ⟨hheadQuote, hbeforeRest⟩ := List.forall_mem_cons.1 hbefore
    obtain ⟨hafterQuote, hafterRest⟩ := List.forall_mem_cons.1 hafter
    obtain ⟨hown, hliteralRest⟩ := List.forall_mem_cons.1 hliteral
    have hbetweenRest : ∀ piece ∈ (rest.map Slot.after).dropLast, piece ≠ [] := by
      cases rest with
      | nil => simp
      | cons r rest =>
        rw [List.map_cons, List.dropLast_cons_of_ne_nil (List.cons_ne_nil _ _)] at hbetween
        exact (List.forall_mem_cons.1 hbetween).2
    have hrest := ih s.after hliteralRest hclosedRest hbeforeRest hafterRest hbetweenRest
    have hjoint := head?_after_append literal hafterQuote hbetween
    rw [List.flatMap_cons, List.append_assoc,
      d.scan_append hhead (fun _ => hheadQuote),
      d.scan_append hown (fun hquote => absurd hquote hjoint), hrest]
    simp only [Scan.append, List.flatMap_cons, List.append_assoc]

end Template.Cut

namespace Binder

open Template

variable {b : Binder} {template : Text} {cut : Cut} {values : List Value} {bound : Text}

/-- A bound text is scanned as the pieces of its template and the literals of the values, where
`literal (i + 1)` is that of `values[i]`. -/
theorem exists_literal_of_bind (hcut : cut.IsOf b.dialect.placeholderStyle template)
    (hapart : cut.KeepsApart b.dialect) (hbound : b.bind template values = .ok bound) :
    ∃ literal : Nat → Text,
      (∀ i (hi : i < values.length), values[i].render b.context = .ok (literal (i + 1))) ∧
        b.dialect.scan bound = ⟨cut.interleaved b.dialect literal, none⟩ := by
  obtain ⟨hasks, texts, hrender, rfl⟩ := exists_of_bind_eq_ok hcut hbound
  refine ⟨fun n => texts.getD (n - 1) [], fun i hi => Value.getElem_of_renderAll hrender hi, ?_⟩
  apply hapart.scan_filled
  intro n hn
  have hlast : n - 1 < values.length := by
    have := (hasks n).1 hn
    omega
  exact Value.unclosed_scan_of_render (Value.getElem_of_renderAll hrender hlast)

/-- The marks of a template that is bound ask for the values, `1 ≤ n ≤ values.length`. -/
theorem mem_numbers_of_bind (hcut : cut.IsOf b.dialect.placeholderStyle template)
    (hbound : b.bind template values = .ok bound) {n : Nat} (hn : n ∈ cut.numbers) :
    1 ≤ n ∧ n ≤ values.length :=
  ((exists_of_bind_eq_ok hcut hbound).1 n).1 hn

/-- **No value leaves its literal.** When the pieces of a template close their own literals and no
quotation mark or other mark stands next to a mark, the scan of a bound text is that of the pieces
and of each value's literal by itself. Each literal ends outside of string literals; that of a
character, a text or a JSON document is one string literal with the content of the value. Another
value in a place changes the scan of that literal wherever it stands, and nothing else. -/
theorem scan_bind (b : Binder) (template : Text) (values : List Value) (bound : Text) (cut : Cut)
    (hcut : cut.IsOf b.dialect.placeholderStyle template) (hapart : cut.KeepsApart b.dialect)
    (hbound : b.bind template values = .ok bound) :
    ∃ literal : Nat → Text,
      (∀ i (hi : i < values.length),
        values[i].render b.context = .ok (literal (i + 1)) ∧
        (b.dialect.scan (literal (i + 1))).unclosed = none ∧
        ∀ content, values[i].content? = some content →
          b.dialect.scan (literal (i + 1)) = ⟨[.literal content], none⟩) ∧
      b.dialect.scan bound = ⟨cut.interleaved b.dialect literal, none⟩ ∧
      ∀ i v bound', i < values.length → b.bind template (values.set i v) = .ok bound' →
        ∃ t, v.render b.context = .ok t ∧
          b.dialect.scan bound'
            = ⟨cut.interleaved b.dialect fun n => if n = i + 1 then t else literal n, none⟩ := by
  obtain ⟨literal, hliteral, hscan⟩ := exists_literal_of_bind hcut hapart hbound
  refine ⟨literal, fun i hi => ⟨hliteral i hi, ?_, fun content hcontent => ?_⟩, hscan, ?_⟩
  · exact Value.unclosed_scan_of_render (hliteral i hi)
  · exact Value.scan_of_content? (hliteral i hi) hcontent
  · intro i v bound' hi hbound'
    obtain ⟨literal', hliteral', hscan'⟩ := exists_literal_of_bind hcut hapart hbound'
    have hown := hliteral' i (by rwa [List.length_set])
    rw [List.getElem_set_self] at hown
    refine ⟨literal' (i + 1), hown, ?_⟩
    rw [hscan', Cut.interleaved_congr (fun n hn => ?_)]
    split
    · next heq => rw [heq]
    · next hne =>
      -- a mark of another value, whose literal both binders have written
      obtain ⟨hone, hlast⟩ := mem_numbers_of_bind hcut hbound hn
      have hbefore := hliteral (n - 1) (by omega)
      have hafter := hliteral' (n - 1) (by rw [List.length_set]; omega)
      rw [List.getElem_set_ne (by omega), hbefore, Nat.sub_add_cancel hone] at hafter
      exact (Except.ok.inj hafter).symm

/-- A value with a quotation mark, a backslash and a question mark stays inside its literal, behind
a literal of the template itself. -/
theorem scan_bind_escaped :
    let b : Binder := ⟨⟨.mySql, .escape⟩⟩
    let cut : Cut := ⟨"a='it\x27\x27s' or b=".toList,
      [⟨['?'], 1, " or c=".toList⟩, ⟨['?'], 2, []⟩]⟩
    ∃ bound, b.bind cut.source [.text "\\' or ?".toList, .int 7] = .ok bound ∧
      ∃ literal : Nat → Text, b.dialect.scan bound = ⟨cut.interleaved b.dialect literal, none⟩ ∧
        b.dialect.scan (literal 1) = ⟨[.literal "\\' or ?".toList], none⟩ := by
  intro b cut
  have hcut : cut.IsOf b.dialect.placeholderStyle cut.source := by
    refine ⟨⟨by decide, ?_, by decide⟩, rfl⟩
    intro s hs
    rcases List.mem_cons.1 hs with rfl | hs
    · exact ⟨rfl, by decide⟩
    · rw [List.mem_singleton.1 hs]
      exact ⟨rfl, by decide⟩
  have hapart : cut.KeepsApart b.dialect := ⟨by decide +kernel, by decide, by decide, by decide⟩
  have hbound : b.bind cut.source [.text "\\' or ?".toList, .int 7]
      = .ok "a='it''s' or b='\\\\'' or ?' or c=7".toList := by
    decide +kernel
  obtain ⟨literal, hliteral, hscan, -⟩ := scan_bind b _ _ _ cut hcut hapart hbound
  exact ⟨_, hbound, literal, hscan, (hliteral 0 (by decide)).2.2 _ rfl⟩

end Binder

end RecordSql
