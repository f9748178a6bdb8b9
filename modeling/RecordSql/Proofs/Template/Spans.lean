import Mathlib.Data.List.Nodup
import RecordSql.Proofs.Template.Listed
import RecordSql.Proofs.Template.Markers

/-! # Spans of markers

Where in the bytes of a template its markers stand. Each marker spans a dollar sign and all digits
behind it (`spans_of_mem_markers`), no two spans overlap (`pairwise_markers`), and no mark is left
out (`start_mem_markers`). The ends of the spans are positions where characters begin, so that
filling slices the template between them, and the slices and the marks together are the template
(`slices_markers`). -/

namespace RecordSql

namespace Text

/-- **Whether two positions delimit a part of a text**: `start` is where a character of the text
begins or the text ends, and `stop` is there or farther on. -/
def Delimits (start stop : Nat) (text : Text) : Prop :=
  ∃ front piece back, text = front ++ (piece ++ back) ∧ front.byteLength = start ∧
    front.byteLength + piece.byteLength = stop

theorem delimits_append (front piece back : Text) :
    Delimits front.byteLength (front.byteLength + piece.byteLength) (front ++ (piece ++ back)) :=
  ⟨front, piece, back, rfl, rfl, rfl⟩

end Text

namespace Template

/-- Where the slices of a template of `length` bytes begin and end that filling takes from position
`last` on: one before each marker, and one behind the last. -/
def gaps (length : Nat) : (last : Nat) → List Marker → List (Nat × Nat)
  | last, [] => [(last, length)]
  | last, m :: rest => (last, m.start) :: gaps length m.stop rest

/-- **Whether a marker spans a mark**: from `m.start` to `m.stop` stand a dollar sign and the
longest run of digits behind it, which denote `m.number`. -/
def Marker.Spans (m : Marker) (template : Text) : Prop :=
  ∃ front digits rest, template = front ++ '$' :: digits ++ rest ∧
    m.start = front.byteLength ∧ m.stop = Text.byteLength (front ++ '$' :: digits) ∧
    digits ≠ [] ∧ (∀ c ∈ digits, c.isDigit) ∧ ¬ BeginsWithDigit rest ∧
    m.number = Text.ofDigits digits

variable {slots : List Slot} {m : Marker} {template : Text}

/-! ### Each marker spans a mark -/

/-- The markers of `slots` behind the text `before` span the marks of the slots. -/
theorem spans_of_mem_slotMarkers (h : ∀ s ∈ slots, s.IsIndexed) (before : Text)
    (hm : m ∈ slotMarkers before.byteLength slots) :
    m.Spans (before ++ slots.flatMap fun s => s.mark ++ s.after) := by
  induction slots generalizing before with
  | nil => cases hm
  | cons s slots ih =>
    obtain ⟨hs, hslots⟩ := List.forall_mem_cons.1 h
    obtain ⟨digits, hne, hdigits, hmark, hnumber⟩ := hs.exists_digits
    rw [slotMarkers] at hm
    rcases List.mem_cons.1 hm with rfl | hm
    · refine ⟨before, digits, s.after ++ slots.flatMap fun s => s.mark ++ s.after, ?_, rfl, ?_, hne,
        hdigits, not_beginsWithDigit_append hs.maximal (not_beginsWithDigit_slots hslots), hnumber⟩
      · rw [List.flatMap_cons, hmark]
        simp only [List.append_assoc]
      · rw [Text.byteLength_append, hmark]
    · -- the other slots stand behind this one
      rw [← Text.byteLength_append, ← Text.byteLength_append] at hm
      have hspans := ih hslots _ hm
      rwa [List.flatMap_cons, ← List.append_assoc, ← List.append_assoc]

/-- **Each marker spans a mark.** -/
theorem spans_of_mem_markers (hm : m ∈ markers template) : m.Spans template := by
  obtain ⟨cut, hfits, rfl⟩ := Cut.exists_isOf_indexed template
  rw [markers_source hfits] at hm
  exact spans_of_mem_slotMarkers hfits.2 cut.head hm

/-- A span is not empty and lies in the template: `start < stop ≤ byteLength`. -/
theorem Marker.Spans.bounds (h : m.Spans template) :
    m.start < m.stop ∧ m.stop ≤ template.byteLength := by
  obtain ⟨front, digits, rest, rfl, hstart, hstop, -⟩ := h
  have hdollar := Char.utf8Size_pos '$'
  rw [hstart, hstop, Text.byteLength_append, Text.byteLength_cons, Text.byteLength_append,
    Text.byteLength_append, Text.byteLength_cons]
  omega

/-- The index of a marker is its number, if sixty-four bits hold it, and otherwise the greatest
number that they hold. -/
theorem Marker.index_eq (m : Marker) :
    m.index = if m.number < 18446744073709551616 then m.number else 18446744073709551615 := by
  rw [Marker.index, greatestIndex]
  split <;> omega

/-! ### Markers in order -/

/-- The markers of slots at `position` begin there or farther on. -/
theorem le_start_of_mem_slotMarkers {position : Nat} (hm : m ∈ slotMarkers position slots) :
    position ≤ m.start := by
  induction slots generalizing position with
  | nil => cases hm
  | cons s slots ih =>
    rw [slotMarkers] at hm
    rcases List.mem_cons.1 hm with rfl | hm
    · exact Nat.le_refl position
    · have hle := ih hm
      omega

/-- Each marker of slots ends before the next begins. -/
theorem pairwise_slotMarkers (position : Nat) (slots : List Slot) :
    (slotMarkers position slots).Pairwise fun m m' => m.stop ≤ m'.start := by
  induction slots generalizing position with
  | nil => exact List.Pairwise.nil
  | cons s slots ih =>
    rw [slotMarkers]
    refine List.Pairwise.cons (fun m hm => ?_) (ih _)
    exact Nat.le_trans (Nat.le_add_right _ _) (le_start_of_mem_slotMarkers hm)

/-- **Markers do not overlap**, and stand in the order of the template: `m.stop ≤ m'.start` for `m`
before `m'`. -/
theorem pairwise_markers (template : Text) :
    (markers template).Pairwise fun m m' => m.stop ≤ m'.start := by
  obtain ⟨cut, hfits, rfl⟩ := Cut.exists_isOf_indexed template
  rw [markers_source hfits]
  exact pairwise_slotMarkers _ _

/-- No two markers have one `start`. -/
theorem nodup_start_markers (template : Text) : ((markers template).map Marker.start).Nodup := by
  rw [List.Nodup, List.pairwise_map]
  -- a marker ends behind where it begins, so the next begins farther on
  refine (pairwise_markers template).imp_of_mem fun {m m'} hm _ hle => ?_
  have hbounds := (spans_of_mem_markers hm).bounds
  omega

/-! ### No mark is left out -/

/-- **A mark in a template has its marker**: one begins at `front.byteLength` where a dollar sign
stands behind `front` and before a digit. -/
theorem start_mem_markers {front rest : Text} {d : Char}
    (htemplate : template = front ++ '$' :: d :: rest) (hd : d.isDigit) :
    front.byteLength ∈ (markers template).map Marker.start := by
  obtain ⟨cut, hfits, rfl⟩ := Cut.exists_isOf_indexed front
  have hdollar : ¬ BeginsWithDigit ('$' :: d :: rest) := by
    rw [beginsWithDigit_cons]
    decide
  -- the scanner comes to the dollar sign with nothing skipped, and takes all digits behind it
  have hrun : (d :: rest).takeWhile Char.isDigit ++ (d :: rest).dropWhile Char.isDigit
      = d :: rest := List.takeWhile_append_dropWhile
  have hne : (d :: rest).takeWhile Char.isDigit ≠ [] := by
    rw [List.takeWhile_cons_of_pos hd]
    exact List.cons_ne_nil _ _
  have hmark := markersFrom_mark cut.source.byteLength hne
    (fun c hc => List.mem_takeWhile_imp hc) (not_beginsWithDigit_dropWhile (d :: rest))
  rw [List.cons_append, hrun] at hmark
  rw [htemplate, markers, markersFrom_source 0 hfits hdollar, Nat.zero_add, Nat.zero_add, hmark,
    List.map_append, List.map_cons]
  exact List.mem_append_right _ List.mem_cons_self

/-! ### What is sliced: `gaps` -/

/-- The slices that are taken of `slots` behind a text, from where `piece` begins in front of them,
are `piece` and what stands behind each slot. -/
theorem slices_slots (before piece : Text) (slots : List Slot) :
    let template := before ++ (piece ++ slots.flatMap fun s => s.mark ++ s.after)
    let between := gaps template.byteLength before.byteLength
      (slotMarkers (before.byteLength + piece.byteLength) slots)
    (∀ g ∈ between, Text.Delimits g.1 g.2 template) ∧
      between.map (fun g => template.slice g.1 g.2) = piece :: slots.map Slot.after := by
  induction slots generalizing before piece with
  | nil =>
    have hlength : Text.byteLength (before ++ (piece ++ []))
        = before.byteLength + piece.byteLength := by
      rw [List.append_nil, Text.byteLength_append]
    intro template between
    have hbetween : between = [(before.byteLength, before.byteLength + piece.byteLength)] :=
      congrArg (fun n => [(before.byteLength, n)]) hlength
    rw [hbetween]
    refine ⟨fun g hg => ?_, ?_⟩
    · rw [List.mem_singleton.1 hg]
      exact Text.delimits_append before piece []
    · exact congrArg (· :: []) (Text.slice_append before piece [])
  | cons s slots ih =>
    intro template between
    -- the first slice is the piece, and the others are taken behind the mark
    have htemplate : template = (before ++ piece ++ s.mark)
        ++ (s.after ++ slots.flatMap fun s => s.mark ++ s.after) := by
      simp [template]
    obtain ⟨hdelimits, hslices⟩ := ih (before ++ piece ++ s.mark) s.after
    have hstop : before.byteLength + piece.byteLength + s.mark.byteLength
        = Text.byteLength (before ++ piece ++ s.mark) := by
      rw [Text.byteLength_append, Text.byteLength_append]
    have hbetween : between = (before.byteLength, before.byteLength + piece.byteLength)
        :: gaps template.byteLength (Text.byteLength (before ++ piece ++ s.mark))
          (slotMarkers (Text.byteLength (before ++ piece ++ s.mark) + s.after.byteLength)
            slots) := by
      rw [← hstop]
      rfl
    rw [← htemplate] at hdelimits hslices
    rw [hbetween, List.map_cons, List.map_cons, hslices]
    refine ⟨?_, ?_⟩
    · rw [List.forall_mem_cons]
      exact ⟨Text.delimits_append before piece _, hdelimits⟩
    · exact congrArg (· :: _) (Text.slice_append before piece _)

/-- The slices of the spans of slots behind the text `before` are their marks. -/
theorem marks_slots (before : Text) (slots : List Slot) :
    (slotMarkers before.byteLength slots).map (fun m =>
        (before ++ slots.flatMap fun s => s.mark ++ s.after).slice m.start m.stop)
      = slots.map Slot.mark := by
  induction slots generalizing before with
  | nil => rfl
  | cons s slots ih =>
    have htemplate : before ++ (s :: slots).flatMap (fun s => s.mark ++ s.after)
        = before ++ s.mark ++ s.after ++ slots.flatMap fun s => s.mark ++ s.after := by
      simp
    have hfirst : Text.slice before.byteLength (before.byteLength + s.mark.byteLength)
        (before ++ (s :: slots).flatMap fun s => s.mark ++ s.after) = s.mark := by
      rw [htemplate, List.append_assoc, List.append_assoc]
      exact Text.slice_append before s.mark _
    have hrest := ih (before ++ s.mark ++ s.after)
    rw [Text.byteLength_append, Text.byteLength_append, ← htemplate] at hrest
    rw [slotMarkers, List.map_cons, List.map_cons, hfirst, hrest]

/-- The slices between the markers of a cut are its `pieces`, and those of their spans its marks. -/
theorem Cut.slices_markers (cut : Cut) :
    let between := gaps cut.source.byteLength 0 cut.markers
    (∀ g ∈ between, Text.Delimits g.1 g.2 cut.source) ∧
      between.map (fun g => cut.source.slice g.1 g.2) = cut.pieces ∧
      cut.markers.map (fun m => cut.source.slice m.start m.stop) = cut.slots.map Slot.mark := by
  have hslices := slices_slots [] cut.head cut.slots
  rw [Text.byteLength_nil, Nat.zero_add] at hslices
  exact ⟨hslices.1, hslices.2, marks_slots cut.head cut.slots⟩

/-! ### Markers of a template -/

/-- **The slices of a template** are delimited by characters. `woven` with the marks between them
they are the template, and with texts in the places of the marks what `fillMarkers` gives. -/
theorem slices_markers (template : Text) :
    let ms := markers template
    let between := gaps template.byteLength 0 ms
    let slices := between.map fun g => template.slice g.1 g.2
    (∀ g ∈ between, Text.Delimits g.1 g.2 template) ∧
      woven (ms.map fun m => template.slice m.start m.stop) slices = template ∧
      ∀ texts : List Text, fillMarkers template ms texts
        = woven (ms.map fun m => texts.getD (m.number - 1) []) slices := by
  obtain ⟨cut, hfits, rfl⟩ := Cut.exists_isOf_indexed template
  obtain ⟨hdelimits, hslices, hmarks⟩ := cut.slices_markers
  have hfill := fillMarkers_source hfits
  rw [markers_source hfits] at hfill ⊢
  refine ⟨hdelimits, ?_, fun texts => ?_⟩
  · rw [hslices, hmarks, Cut.woven_marks]
  · -- the markers of the cut have its numbers
    have htexts : (cut.markers.map fun m => texts.getD (m.number - 1) [])
        = cut.numbers.map fun n => texts.getD (n - 1) [] := by
      rw [← cut.map_number_markers, List.map_map]
      rfl
    rw [hfill, hslices, htexts, Cut.woven_numbers]

/-- Indices that are written between pieces without marks are found again. -/
theorem index_markers_placeholder {head : Text} {tail : List (Nat × Text)}
    (hhead : ¬ HasIndexedMark head)
    (htail : ∀ p ∈ tail,
      p.1 < 18446744073709551616 ∧ ¬ HasIndexedMark p.2 ∧ ¬ BeginsWithDigit p.2) :
    (markers (head ++ tail.flatMap fun p => Dialect.postgres.placeholder p.1 ++ p.2)).map
      Marker.index = tail.map Prod.fst := by
  let cut : Cut := ⟨head, tail.map fun p => ⟨Dialect.postgres.placeholder p.1, p.1, p.2⟩⟩
  have hfits : cut.Fits .indexed := by
    refine ⟨hhead, fun s hs => ?_⟩
    obtain ⟨p, hp, rfl⟩ := List.mem_map.1 hs
    obtain ⟨-, hplain, hdigit⟩ := htail p hp
    exact isIndexed_placeholder (d := .postgres) rfl rfl hdigit hplain
  have hsource : cut.source
      = head ++ tail.flatMap fun p => Dialect.postgres.placeholder p.1 ++ p.2 := by
    rw [Cut.source, List.flatMap_map]
  have hnumbers : (markers cut.source).map Marker.number = tail.map Prod.fst := by
    rw [markers_source hfits, Cut.map_number_markers, Cut.numbers, List.map_map]
    rfl
  rw [← hsource, ← hnumbers]
  refine List.map_congr_left fun m hm => ?_
  -- the number is one of those written, so sixty-four bits hold it
  have hmem : m.number ∈ tail.map Prod.fst := hnumbers ▸ List.mem_map_of_mem hm
  obtain ⟨p, hp, hnumber⟩ := List.mem_map.1 hmem
  rw [Marker.index_eq, if_pos]
  exact hnumber ▸ (htail p hp).1

/-- **Markers are the marks of a template.** Their spans are not empty, lie in the template and
follow one another without overlap. Each spans a dollar sign and the longest run of digits behind
it; its index is the number that these denote, if sixty-four bits hold it, and otherwise the
greatest number that they hold. Wherever a dollar sign stands before a digit, exactly one span
begins. The slices that filling takes between the spans are delimited by positions where characters
begin or the template ends; they and the marks together are the template, and they and the texts of
the values what is filled in. Indices of sixty-four bits that are written between pieces without
marks are found again, in order, if no piece behind an index goes on with a digit. -/
theorem markers_spans :
    (∀ template : Text,
      let ms := markers template
      let between := gaps template.byteLength 0 ms
      let slices := between.map fun g => template.slice g.1 g.2
      (∀ m ∈ ms, m.start < m.stop ∧ m.stop ≤ template.byteLength) ∧
      ms.Pairwise (fun m m' => m.stop ≤ m'.start) ∧
      (∀ m ∈ ms, ∃ front digits rest, template = front ++ '$' :: digits ++ rest ∧
        m.start = front.byteLength ∧ m.stop = Text.byteLength (front ++ '$' :: digits) ∧
        digits ≠ [] ∧ (∀ c ∈ digits, c.isDigit) ∧ ¬ BeginsWithDigit rest ∧
        m.index = if Text.ofDigits digits < 18446744073709551616 then Text.ofDigits digits
          else 18446744073709551615) ∧
      (∀ (front : Text) (d : Char) (rest : Text), template = front ++ '$' :: d :: rest →
        d.isDigit → (ms.map Marker.start).count front.byteLength = 1) ∧
      (∀ g ∈ between, Text.Delimits g.1 g.2 template) ∧
      woven (ms.map fun m => template.slice m.start m.stop) slices = template ∧
      ∀ texts : List Text, fillMarkers template ms texts
        = woven (ms.map fun m => texts.getD (m.number - 1) []) slices) ∧
    ∀ (head : Text) (tail : List (Nat × Text)), ¬ HasIndexedMark head →
      (∀ p ∈ tail,
        p.1 < 18446744073709551616 ∧ ¬ HasIndexedMark p.2 ∧ ¬ BeginsWithDigit p.2) →
      (markers (head ++ tail.flatMap fun p => Dialect.postgres.placeholder p.1 ++ p.2)).map
        Marker.index = tail.map Prod.fst := by
  refine ⟨fun template => ?_, fun head tail => index_markers_placeholder⟩
  intro ms between slices
  refine ⟨fun m hm => (spans_of_mem_markers hm).bounds, pairwise_markers template, fun m hm => ?_,
    fun front d rest htemplate hd => ?_, slices_markers template⟩
  · obtain ⟨front, digits, rest, hspan, hstart, hstop, hne, hdigits, hmax, hnumber⟩ :=
      spans_of_mem_markers hm
    refine ⟨front, digits, rest, hspan, hstart, hstop, hne, hdigits, hmax, ?_⟩
    rw [Marker.index_eq, hnumber]
  · exact List.count_eq_one_of_mem (nodup_start_markers template) (start_mem_markers htemplate hd)

/-- Two dollar signs before digits, behind a character of two bytes: the second begins a span. Two
indices written next to each other, the greatest behind the other, with a dollar sign in front and
one at the end. -/
theorem markers_spans_adjacent :
    ((markers "é$1$$02".toList).map Marker.start).count 5 = 1 ∧
      (markers "$$7$18446744073709551615¢$".toList).map Marker.index
        = [7, 18446744073709551615] := by
  obtain ⟨hmarkers, hwritten⟩ := markers_spans
  obtain ⟨-, -, -, hcount, -⟩ := hmarkers "é$1$$02".toList
  have hdollar : ¬ HasIndexedMark ['$'] := by
    simp [hasIndexedMark_cons, not_beginsWithDigit_nil, not_hasIndexedMark_nil]
  have hcent : ¬ HasIndexedMark ['¢', '$'] := by
    simp [hasIndexedMark_cons, not_beginsWithDigit_nil, not_hasIndexedMark_nil]
  refine ⟨hcount "é$1$".toList '0' ['2'] rfl rfl, ?_⟩
  refine hwritten ['$'] [(7, []), (18446744073709551615, ['¢', '$'])] hdollar ?_
  simp only [List.forall_mem_cons, beginsWithDigit_cons]
  exact ⟨⟨by decide, not_hasIndexedMark_nil, not_beginsWithDigit_nil⟩,
    ⟨by decide, hcent, by decide⟩, by simp⟩

end Template

end RecordSql
