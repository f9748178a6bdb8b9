import Mathlib.Data.List.TakeWhile
import RecordSql.Dialect
import RecordSql.Proofs.Template.Utf8

/-! # Cuts of a template

A `Cut` takes a template apart: the text before the first mark, and each mark with the text behind
it. That a cut fits a style (`Cut.Fits`) is said of its parts alone, with no word about how marks
are found. Filling a cut puts other texts into the places of its marks (`Cut.filled`). Every
template has a cut in either style: `Cut.exists_isOf`. -/

namespace RecordSql.Template

/-- A mark and the text behind it, up to the next mark. -/
@[ext] structure Slot where
  /-- The mark as it stands in the template. -/
  mark : Text
  /-- The number of the value that the mark asks for. -/
  number : Nat
  /-- The text behind the mark. -/
  after : Text
  deriving DecidableEq, Repr

/-- A template taken apart at its marks. -/
@[ext] structure Cut where
  /-- The text before the first mark. -/
  head : Text
  /-- The marks in order. -/
  slots : List Slot
  deriving DecidableEq, Repr

/-- Whether a dollar sign stands directly before a digit, somewhere in the text. -/
def HasIndexedMark (text : Text) : Prop := ∃ d : Char, d.isDigit ∧ ['$', d] <:+: text

/-- Whether the first character of the text is a digit. -/
def BeginsWithDigit (text : Text) : Prop := ∃ d ∈ text.head?, d.isDigit

/-- **The slot of a question mark.** The text behind it has no other. -/
structure Slot.IsUnindexed (s : Slot) : Prop where
  mark_eq : s.mark = ['?']
  plain : '?' ∉ s.after

/-- **The slot of a mark with an index**: a dollar sign and the longest run of digits, which denote
the number. The text behind it has no other mark. -/
structure Slot.IsIndexed (s : Slot) : Prop where
  exists_digits : ∃ digits : Text, digits ≠ [] ∧ (∀ c ∈ digits, c.isDigit) ∧
    s.mark = '$' :: digits ∧ s.number = Text.ofDigits digits
  maximal : ¬ BeginsWithDigit s.after
  plain : ¬ HasIndexedMark s.after

/-- The `pieces` with the `texts` between them, one between each two neighbours:
`woven [t, u] [a, b, c] = a ++ t ++ b ++ u ++ c`. -/
def woven (texts : List Text) : (pieces : List Text) → Text
  | [] => []
  | head :: rest => head ++ (List.zipWith (· ++ ·) texts rest).flatten

namespace Cut

/-- The template that was cut: `head`, then `mark ++ after` for each slot. -/
def source (cut : Cut) : Text := cut.head ++ cut.slots.flatMap fun s => s.mark ++ s.after

/-- The template with each mark replaced by `text n`, where `n` is its number. -/
def filled (cut : Cut) (text : Nat → Text) : Text :=
  cut.head ++ cut.slots.flatMap fun s => text s.number ++ s.after

/-- The numbers that the marks ask for, in order. -/
def numbers (cut : Cut) : List Nat := cut.slots.map Slot.number

/-- The texts between the marks, before the first and after the last one; one more than there are
slots. -/
def pieces (cut : Cut) : List Text := cut.head :: cut.slots.map Slot.after

/-- The cut of a text without marks. -/
def plain (text : Text) : Cut := ⟨text, []⟩

/-- The cut with the character `c` in front of its head. -/
def prepend (c : Char) (cut : Cut) : Cut := ⟨c :: cut.head, cut.slots⟩

/-- The cut with a mark in front; its old head comes behind the mark. -/
def afterMark (mark : Text) (number : Nat) (cut : Cut) : Cut :=
  ⟨[], ⟨mark, number, cut.head⟩ :: cut.slots⟩

/-- **Whether a cut fits a style.** Question marks are numbered in order, from one on, and no piece
has another. A mark with an index has its number from its digits, and no piece has a dollar sign
before a digit. -/
def Fits (cut : Cut) : PlaceholderStyle → Prop
  | .unindexed =>
    '?' ∉ cut.head ∧ (∀ s ∈ cut.slots, s.IsUnindexed) ∧
      cut.numbers = List.range' 1 cut.slots.length
  | .indexed => ¬ HasIndexedMark cut.head ∧ ∀ s ∈ cut.slots, s.IsIndexed

/-- Whether the cut takes `template` apart in a style. -/
structure IsOf (cut : Cut) (style : PlaceholderStyle) (template : Text) : Prop where
  fits : cut.Fits style
  source_eq : cut.source = template

/-- Whether the marks ask for the values from one to `count`, for each of them and for no other: as
a set, `cut.numbers` is `1, …, count`. -/
def AsksFor (cut : Cut) (count : Nat) : Prop := ∀ n, n ∈ cut.numbers ↔ 1 ≤ n ∧ n ≤ count

/-- How many values the template is said to expect: the count of its question marks, or the greatest
of its indices, at most `greatestIndex`. -/
def expected (cut : Cut) : PlaceholderStyle → Nat
  | .unindexed => cut.slots.length
  | .indexed => min (cut.numbers.max?.getD 0) greatestIndex

@[simp] theorem source_plain (text : Text) : (plain text).source = text := by
  simp [source, plain]

@[simp] theorem source_prepend (c : Char) (cut : Cut) :
    (cut.prepend c).source = c :: cut.source := rfl

@[simp] theorem source_afterMark (mark : Text) (number : Nat) (cut : Cut) :
    (cut.afterMark mark number).source = mark ++ cut.source := by
  simp [source, afterMark]

end Cut

namespace Cut

/-! ### Pieces: `woven` -/

/-- Texts for the slots are woven into the pieces: `woven (cut.slots.map text) cut.pieces` is the
template with `text s` for the mark of each slot `s`. -/
theorem woven_map (cut : Cut) (text : Slot → Text) :
    woven (cut.slots.map text) cut.pieces
      = cut.head ++ cut.slots.flatMap fun s => text s ++ s.after := by
  rw [pieces, woven, List.zipWith_map, List.zipWith_self, List.flatMap_def]

/-- The marks in the pieces give the template back. -/
theorem woven_marks (cut : Cut) : woven (cut.slots.map Slot.mark) cut.pieces = cut.source :=
  woven_map cut Slot.mark

/-- The texts of the numbers in the pieces fill the cut, so that `woven` and `Cut.filled` are two
forms of one text. -/
theorem woven_numbers (cut : Cut) (text : Nat → Text) :
    woven (cut.numbers.map text) cut.pieces = cut.filled text := by
  rw [numbers, List.map_map]
  exact woven_map cut _

end Cut

/-! ### Dollar signs before digits: `HasIndexedMark` -/

/-- A text begins with a digit when its first character is one. -/
theorem beginsWithDigit_cons {c : Char} {rest : Text} :
    BeginsWithDigit (c :: rest) ↔ c.isDigit := by
  simp [BeginsWithDigit]

theorem not_beginsWithDigit_nil : ¬ BeginsWithDigit [] := by
  simp [BeginsWithDigit]

/-- If neither `a` nor `b` begins with a digit then `a ++ b` does not. -/
theorem not_beginsWithDigit_append {a b : Text} (ha : ¬ BeginsWithDigit a)
    (hb : ¬ BeginsWithDigit b) : ¬ BeginsWithDigit (a ++ b) := by
  cases a with
  | nil => exact hb
  | cons c a =>
    rw [beginsWithDigit_cons] at ha
    rwa [List.cons_append, beginsWithDigit_cons]

/-- A mark in `c :: rest` begins with `c` or lies in `rest`. -/
theorem hasIndexedMark_cons {c : Char} {rest : Text} :
    HasIndexedMark (c :: rest) ↔ (c = '$' ∧ BeginsWithDigit rest) ∨ HasIndexedMark rest := by
  constructor
  · -- the two characters stand in front, or behind the first character
    rintro ⟨d, hd, hinfix⟩
    rcases List.infix_cons_iff.1 hinfix with hprefix | htail
    · obtain ⟨hc, hrest⟩ := List.cons_prefix_cons.1 hprefix
      obtain ⟨tail, rfl⟩ := hrest
      exact Or.inl ⟨hc.symm, d, by simp, hd⟩
    · exact Or.inr ⟨d, hd, htail⟩
  · rintro (⟨rfl, d, hhead, hd⟩ | ⟨d, hd, htail⟩)
    · obtain ⟨tail, rfl⟩ := List.head?_eq_some_iff.1 hhead
      exact ⟨d, hd, (List.prefix_append ['$', d] tail).isInfix⟩
    · exact ⟨d, hd, List.infix_cons htail⟩

theorem not_hasIndexedMark_nil : ¬ HasIndexedMark [] := by
  rintro ⟨d, -, hinfix⟩
  simp at hinfix

/-- The run of digits in front is empty just when `text` does not begin with a digit. -/
theorem takeWhile_isDigit_eq_nil {text : Text} :
    text.takeWhile Char.isDigit = [] ↔ ¬ BeginsWithDigit text := by
  cases text with
  | nil => simp [not_beginsWithDigit_nil]
  | cons c rest => simp [beginsWithDigit_cons, List.takeWhile_cons]

/-- Digits that no digit follows are the run of digits in front of `digits ++ rest`. -/
theorem takeWhile_isDigit_append {digits rest : Text} (hdigits : ∀ c ∈ digits, c.isDigit)
    (hrest : ¬ BeginsWithDigit rest) : (digits ++ rest).takeWhile Char.isDigit = digits := by
  rw [List.takeWhile_append_of_pos hdigits, takeWhile_isDigit_eq_nil.2 hrest, List.append_nil]

/-- What is left behind that run is `rest`. -/
theorem dropWhile_isDigit_append {digits rest : Text} (hdigits : ∀ c ∈ digits, c.isDigit)
    (hrest : ¬ BeginsWithDigit rest) : (digits ++ rest).dropWhile Char.isDigit = rest := by
  have hwhole := List.takeWhile_append_dropWhile (p := Char.isDigit) (l := digits ++ rest)
  rw [takeWhile_isDigit_append hdigits hrest] at hwhole
  exact List.append_cancel_left hwhole

/-- The text behind a longest run of digits does not begin with a digit. -/
theorem not_beginsWithDigit_dropWhile (text : Text) :
    ¬ BeginsWithDigit (text.dropWhile Char.isDigit) := by
  rintro ⟨d, hhead, hd⟩
  have hnot := List.head?_dropWhile_not Char.isDigit text
  rw [hhead] at hnot
  simp [hd] at hnot

namespace Cut

/-- The head of a cut begins with a digit only if the template does. -/
theorem not_beginsWithDigit_head {cut : Cut} (h : ¬ BeginsWithDigit cut.source) :
    ¬ BeginsWithDigit cut.head := by
  rintro ⟨d, hhead, hd⟩
  obtain ⟨tail, htail⟩ := List.head?_eq_some_iff.1 hhead
  exact h ⟨d, by simp [source, htail], hd⟩

/-! ### Every template has a cut -/

/-- A character in front that begins no mark belongs to the head: `cut.prepend c` fits as `cut`
does. -/
theorem Fits.prepend {cut : Cut} {c : Char} (h : cut.Fits .indexed)
    (hc : ¬ (c = '$' ∧ BeginsWithDigit cut.source)) : (cut.prepend c).Fits .indexed := by
  refine ⟨?_, h.2⟩
  intro hmark
  rcases hasIndexedMark_cons.1 hmark with ⟨rfl, hdigit⟩ | hhead
  · exact not_beginsWithDigit_head (fun hsource => hc ⟨rfl, hsource⟩) hdigit
  · exact h.1 hhead

/-- A longest run of digits behind a dollar sign is a mark in front: `cut.afterMark` fits as `cut`
does. -/
theorem Fits.afterMark {cut : Cut} {digits : Text} (h : cut.Fits .indexed) (hne : digits ≠ [])
    (hdigits : ∀ c ∈ digits, c.isDigit) (hmax : ¬ BeginsWithDigit cut.source) :
    (cut.afterMark ('$' :: digits) (Text.ofDigits digits)).Fits .indexed := by
  refine ⟨not_hasIndexedMark_nil, ?_⟩
  intro s hs
  rcases List.mem_cons.1 hs with rfl | hs
  · exact ⟨⟨digits, hne, hdigits, rfl, rfl⟩, not_beginsWithDigit_head hmax, h.1⟩
  · exact h.2 s hs

/-- Every template has a cut at its marks with an index: a character or a whole mark is put in front
of the cut of the rest, by `Fits.prepend` or `Fits.afterMark`. -/
theorem exists_isOf_indexed (template : Text) : ∃ cut : Cut, cut.IsOf .indexed template := by
  -- a mark takes several characters at once, so the induction is on the length
  induction hlen : template.length using Nat.strongRecOn generalizing template with
  | ind n ih =>
    cases template with
    | nil => exact ⟨plain [], ⟨not_hasIndexedMark_nil, by simp [plain]⟩, source_plain []⟩
    | cons c rest =>
      rw [List.length_cons] at hlen
      by_cases hmark : c = '$' ∧ BeginsWithDigit rest
      · -- a mark with all its digits, and the cut of what follows them
        obtain ⟨rfl, hdigit⟩ := hmark
        have hshort : (rest.dropWhile Char.isDigit).length < n := by
          have := (List.dropWhile_suffix (l := rest) Char.isDigit).length_le
          omega
        obtain ⟨cut, hfits, hsource⟩ := ih _ hshort _ rfl
        have hne : rest.takeWhile Char.isDigit ≠ [] := fun hnil =>
          takeWhile_isDigit_eq_nil.1 hnil hdigit
        have hmax : ¬ BeginsWithDigit cut.source := by
          rw [hsource]
          exact not_beginsWithDigit_dropWhile rest
        refine ⟨_, hfits.afterMark hne (fun c hc => List.mem_takeWhile_imp hc) hmax, ?_⟩
        rw [source_afterMark, hsource, List.cons_append, List.takeWhile_append_dropWhile]
      · -- a plain character, in front of the cut of the rest
        obtain ⟨cut, hfits, hsource⟩ := ih rest.length (by omega) rest rfl
        exact ⟨cut.prepend c, hfits.prepend (by rwa [hsource]), by rw [source_prepend, hsource]⟩

/-- A text is cut at its question marks, which are numbered from `first` on. -/
theorem exists_cut_of_questionMarks (template : Text) (first : Nat) :
    ∃ cut : Cut, '?' ∉ cut.head ∧ (∀ s ∈ cut.slots, s.IsUnindexed) ∧
      cut.numbers = List.range' first cut.slots.length ∧ cut.source = template := by
  induction template generalizing first with
  | nil => exact ⟨plain [], by simp [plain], by simp [plain], rfl, source_plain []⟩
  | cons c rest ih =>
    by_cases hc : c = '?'
    · -- the mark takes the number `first`, and the cut of the rest counts from the next
      obtain ⟨cut, hhead, hslots, hnumbers, hsource⟩ := ih (first + 1)
      refine ⟨cut.afterMark ['?'] first, by simp [Cut.afterMark], ?_, ?_, ?_⟩
      · exact List.forall_mem_cons.2 ⟨⟨rfl, hhead⟩, hslots⟩
      · change first :: cut.numbers = _
        rw [hnumbers]
        rfl
      · rw [source_afterMark, hsource, hc, List.singleton_append]
    · obtain ⟨cut, hhead, hslots, hnumbers, hsource⟩ := ih first
      refine ⟨cut.prepend c, ?_, hslots, hnumbers, by rw [source_prepend, hsource]⟩
      exact List.not_mem_cons_of_ne_of_not_mem (Ne.symm hc) hhead

/-- **Every template has a cut**, in either style. -/
theorem exists_isOf (style : PlaceholderStyle) (template : Text) :
    ∃ cut : Cut, cut.IsOf style template := by
  cases style with
  | unindexed =>
    obtain ⟨cut, hhead, hslots, hnumbers, hsource⟩ := exists_cut_of_questionMarks template 1
    exact ⟨cut, ⟨hhead, hslots, hnumbers⟩, hsource⟩
  | indexed => exact exists_isOf_indexed template

end Cut

end RecordSql.Template
