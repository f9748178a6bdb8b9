import RecordSql.Proofs.Binder.Filling
import RecordSql.Proofs.Template.Listed

/-! # Text around a template

Text without marks in front of a template or behind it stays there when the template is bound, and
the errors stay the same: `bind_prepend` and `bind_append`. Only a digit behind the template could
matter, since the last mark would take it for one of its own. -/

namespace RecordSql

namespace Template

/-! ### Joining texts without marks -/

/-- A text without marks has none behind a text without dollar signs. -/
theorem not_hasIndexedMark_append_of_not_mem {front text : Text} (hfront : '$' ∉ front)
    (htext : ¬ HasIndexedMark text) : ¬ HasIndexedMark (front ++ text) := by
  induction front with
  | nil => exact htext
  | cons c front ih =>
    rw [List.mem_cons, not_or] at hfront
    rw [List.cons_append, hasIndexedMark_cons, not_or]
    exact ⟨fun hmark => hfront.1 hmark.1.symm, ih hfront.2⟩

/-- Two texts without marks have none when no digit stands where they meet. -/
theorem not_hasIndexedMark_append {text tail : Text} (htext : ¬ HasIndexedMark text)
    (htail : ¬ HasIndexedMark tail) (hdigit : ¬ BeginsWithDigit tail) :
    ¬ HasIndexedMark (text ++ tail) := by
  induction text with
  | nil => exact htail
  | cons c text ih =>
    rw [hasIndexedMark_cons, not_or] at htext
    rw [List.cons_append, hasIndexedMark_cons, not_or]
    refine ⟨?_, ih htext.2⟩
    rintro ⟨hdollar, hbegins⟩
    have hrest : ¬ BeginsWithDigit text := fun hrest => htext.1 ⟨hdollar, hrest⟩
    exact not_beginsWithDigit_append hrest hdigit hbegins

/-! ### Slots with a text behind the last one: `extendLast` -/

/-- The slots with the text `tail` behind the last of them. -/
def extendLast (tail : Text) : List Slot → List Slot
  | [] => []
  | [s] => [{ s with after := s.after ++ tail }]
  | s :: r :: rest => s :: extendLast tail (r :: rest)

variable {tail : Text}

@[simp] theorem map_number_extendLast (slots : List Slot) :
    (extendLast tail slots).map Slot.number = slots.map Slot.number := by
  fun_induction extendLast tail slots with
  | case1 => rfl
  | case2 s => rfl
  | case3 s r rest ih => rw [List.map_cons, ih, ← List.map_cons]

/-- A slot of `extendLast tail slots` is one of the slots, perhaps with `tail` behind it. -/
theorem mem_extendLast {slots : List Slot} {s : Slot} (hs : s ∈ extendLast tail slots) :
    ∃ r ∈ slots, s = r ∨ s = { r with after := r.after ++ tail } := by
  fun_induction extendLast tail slots with
  | case1 => cases hs
  | case2 r => exact ⟨r, List.mem_cons_self, Or.inr (List.mem_singleton.1 hs)⟩
  | case3 r u rest ih =>
    rcases List.mem_cons.1 hs with rfl | hs
    · exact ⟨s, List.mem_cons_self, Or.inl rfl⟩
    · obtain ⟨v, hv, heq⟩ := ih hs
      exact ⟨v, List.mem_cons_of_mem _ hv, heq⟩

/-- The text of extended slots is that of the slots and `tail` behind it, whatever stands in the
places of the marks: `place` is the mark itself for the template, and a literal for a filling. -/
theorem flatMap_extendLast (place : Text → Nat → Text) {slots : List Slot} (hne : slots ≠ []) :
    ((extendLast tail slots).flatMap fun s => place s.mark s.number ++ s.after)
      = (slots.flatMap fun s => place s.mark s.number ++ s.after) ++ tail := by
  fun_induction extendLast tail slots with
  | case1 => cases hne rfl
  | case2 s => simp only [List.flatMap_cons, List.flatMap_nil, List.append_nil, List.append_assoc]
  | case3 s r rest ih =>
    rw [List.flatMap_cons, ih (List.cons_ne_nil _ _)]
    exact (List.append_assoc ..).symm

/-- A question mark keeps its slot when a text without question marks comes behind it. -/
theorem Slot.IsUnindexed.extend {s : Slot} (h : s.IsUnindexed) (htail : '?' ∉ tail) :
    Slot.IsUnindexed { s with after := s.after ++ tail } := by
  refine ⟨h.mark_eq, ?_⟩
  rw [List.mem_append, not_or]
  exact ⟨h.plain, htail⟩

/-- A mark with an index keeps its slot when a text without marks comes behind it that begins with
no digit. -/
theorem Slot.IsIndexed.extend {s : Slot} (h : s.IsIndexed) (htail : ¬ HasIndexedMark tail)
    (hdigit : ¬ BeginsWithDigit tail) :
    Slot.IsIndexed { s with after := s.after ++ tail } where
  exists_digits := h.exists_digits
  maximal := not_beginsWithDigit_append h.maximal hdigit
  plain := not_hasIndexedMark_append h.plain htail hdigit

namespace Cut

/-! ### Cuts with a text around them -/

/-- The cut with the text `front` before its head. -/
def prependText (front : Text) (cut : Cut) : Cut := ⟨front ++ cut.head, cut.slots⟩

/-- The cut with the text `tail` behind its last piece. -/
def appendText (cut : Cut) (tail : Text) : Cut :=
  if cut.slots = [] then ⟨cut.head ++ tail, []⟩ else ⟨cut.head, extendLast tail cut.slots⟩

variable {cut : Cut} {front : Text}

theorem source_prependText (front : Text) (cut : Cut) :
    (cut.prependText front).source = front ++ cut.source := List.append_assoc ..

theorem filled_prependText (front : Text) (cut : Cut) (text : Nat → Text) :
    (cut.prependText front).filled text = front ++ cut.filled text := List.append_assoc ..

/-- An `Unmarked` text in front belongs to the head, and the cut still fits. -/
theorem Fits.prependText {style : PlaceholderStyle} (h : cut.Fits style) (hfront : Unmarked front) :
    (cut.prependText front).Fits style := by
  cases style with
  | unindexed =>
    refine ⟨?_, h.2⟩
    change '?' ∉ front ++ cut.head
    rw [List.mem_append, not_or]
    exact ⟨hfront.1, h.1⟩
  | indexed => exact ⟨not_hasIndexedMark_append_of_not_mem hfront.2 h.1, h.2⟩

@[simp] theorem numbers_appendText (cut : Cut) (tail : Text) :
    (cut.appendText tail).numbers = cut.numbers := by
  rw [appendText]
  split
  · next hnone =>
    rw [numbers, numbers, hnone]
  · exact map_number_extendLast cut.slots

theorem source_appendText (cut : Cut) (tail : Text) :
    (cut.appendText tail).source = cut.source ++ tail := by
  rw [appendText, source, source]
  split
  · next hnone =>
    simp [hnone]
  · next hsome =>
    rw [flatMap_extendLast (fun mark _ => mark) hsome, List.append_assoc]

theorem filled_appendText (cut : Cut) (tail : Text) (text : Nat → Text) :
    (cut.appendText tail).filled text = cut.filled text ++ tail := by
  rw [appendText, filled, filled]
  split
  · next hnone =>
    simp [hnone]
  · next hsome =>
    rw [flatMap_extendLast (fun _ number => text number) hsome, List.append_assoc]

/-- An `Unmarked` text behind that begins with no digit belongs to the last piece, and the cut still
fits. -/
theorem Fits.appendText {style : PlaceholderStyle} (h : cut.Fits style) (htail : Unmarked tail)
    (hdigit : ¬ BeginsWithDigit tail) : (cut.appendText tail).Fits style := by
  have hnumbers := numbers_appendText cut tail
  cases style with
  | unindexed =>
    obtain ⟨hhead, hslots, hcounted⟩ := h
    -- there are as many numbers as slots, so the slots are counted as before
    have hlength : (cut.appendText tail).slots.length = cut.slots.length := by
      have := congrArg List.length hnumbers
      simpa only [numbers, List.length_map] using this
    rw [Fits, hnumbers, hlength, hcounted]
    rw [Cut.appendText]
    split
    · refine ⟨?_, by simp, rfl⟩
      rw [List.mem_append, not_or]
      exact ⟨hhead, htail.1⟩
    · refine ⟨hhead, fun s hs => ?_, rfl⟩
      obtain ⟨r, hr, rfl | rfl⟩ := mem_extendLast hs
      · exact hslots s hr
      · exact (hslots r hr).extend htail.1
  | indexed =>
    obtain ⟨hhead, hslots⟩ := h
    rw [Cut.appendText]
    split
    · exact ⟨not_hasIndexedMark_append hhead htail.not_hasIndexedMark hdigit, by simp⟩
    · refine ⟨hhead, fun s hs => ?_⟩
      obtain ⟨r, hr, rfl | rfl⟩ := mem_extendLast hs
      · exact hslots s hr
      · exact (hslots r hr).extend htail.not_hasIndexedMark hdigit

/-- What a cut is said to expect depends on the numbers of its marks alone. -/
theorem expected_congr {cut' : Cut} (h : cut'.numbers = cut.numbers) (style : PlaceholderStyle) :
    cut'.expected style = cut.expected style := by
  cases style with
  | unindexed =>
    have hlength := congrArg List.length h
    rwa [numbers, numbers, List.length_map, List.length_map] at hlength
  | indexed => rw [expected, expected, h]

end Cut

end Template

namespace Binder

open Template

/-- **A text in front of a template stays in front of the bound text**, and the errors stay as they
are: binding commutes with `(front ++ ·)`. -/
theorem bind_prepend (b : Binder) {front : Text} (hfront : Unmarked front) (template : Text)
    (values : List Value) :
    b.bind (front ++ template) values = (b.bind template values).map (front ++ ·) := by
  obtain ⟨cut, hfits, hsource⟩ := Cut.exists_isOf b.dialect.placeholderStyle template
  have hframed : (cut.prependText front).IsOf b.dialect.placeholderStyle (front ++ template) :=
    ⟨hfits.prependText hfront, by rw [Cut.source_prependText, hsource]⟩
  exact bind_eq_map ⟨hfits, hsource⟩ hframed rfl (Cut.expected_congr rfl _) rfl
    (cut.filled_prependText front)

/-- **A text behind a template stays behind the bound text**: binding commutes with
`(· ++ tail)`. -/
theorem bind_append (b : Binder) (template : Text) {tail : Text} (htail : Unmarked tail)
    (hdigit : ¬ BeginsWithDigit tail) (values : List Value) :
    b.bind (template ++ tail) values = (b.bind template values).map (· ++ tail) := by
  obtain ⟨cut, hfits, hsource⟩ := Cut.exists_isOf b.dialect.placeholderStyle template
  have hframed : (cut.appendText tail).IsOf b.dialect.placeholderStyle (template ++ tail) :=
    ⟨hfits.appendText htail hdigit, by rw [Cut.source_appendText, hsource]⟩
  have hnumbers := cut.numbers_appendText tail
  exact bind_eq_map ⟨hfits, hsource⟩ hframed hnumbers (Cut.expected_congr hnumbers _) rfl
    (cut.filled_appendText tail)

end Binder

end RecordSql
