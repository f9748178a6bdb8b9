import Mathlib.Data.List.Basic
import RecordSql.Proofs.Template.Cut

/-! # Marks in a list

Statements list the marks of their values between commas (`Cut.listing`). The cut of such a
statement fits the style of the dialect that writes the marks (`Cut.fits_listing`), and filling it
lists other texts in their places (`Cut.filled_listing`). -/

namespace RecordSql.Template

/-! ### Texts without the characters of marks: `Unmarked` -/

/-- Whether a text has neither a question mark nor a dollar sign, and so no mark in any style. -/
def Unmarked (text : Text) : Prop := '?' ∉ text ∧ '$' ∉ text

instance (text : Text) : Decidable (Unmarked text) := inferInstanceAs (Decidable (_ ∧ _))

@[simp] theorem unmarked_append {a b : Text} : Unmarked (a ++ b) ↔ Unmarked a ∧ Unmarked b := by
  simp only [Unmarked, List.mem_append, not_or]
  exact and_and_and_comm

/-- A mark with an index begins with a dollar sign, so that an `Unmarked` text has none. -/
theorem Unmarked.not_hasIndexedMark {text : Text} (h : Unmarked text) : ¬ HasIndexedMark text := by
  rintro ⟨d, -, hmark⟩
  exact h.2 (hmark.subset List.mem_cons_self)

/-- A list of `Unmarked` texts has no marks. -/
theorem unmarked_commaJoined {texts : List Text} (h : ∀ t ∈ texts, Unmarked t) :
    Unmarked (Text.commaJoined texts) := by
  rw [Text.commaJoined]
  induction texts with
  | nil => decide
  | cons t rest ih =>
    obtain ⟨ht, hrest⟩ := List.forall_mem_cons.1 h
    cases rest with
    | nil => exact ht
    | cons u rest =>
      rw [Text.joined_cons_cons, unmarked_append, unmarked_append]
      exact ⟨⟨ht, by decide⟩, ih hrest⟩

/-- Quoting a name adds no mark: backticks are none. -/
theorem unmarked_quoteName (d : Dialect) {name : Text} (h : Unmarked name) :
    Unmarked (d.quoteName name) := by
  rw [Dialect.quoteName]
  split
  · rw [unmarked_append, ← List.singleton_append, unmarked_append]
    exact ⟨⟨by decide, h⟩, by decide⟩
  · exact h

/-! ### Slots between commas: `listed` -/

/-- The slots of the marks with the given numbers, with commas between them and `close` behind the
last. -/
def listed (d : Dialect) (close : Text) : List Nat → List Slot
  | [] => []
  | [n] => [⟨d.placeholder n, n, close⟩]
  | n :: m :: rest => ⟨d.placeholder n, n, [',']⟩ :: listed d close (m :: rest)

variable {d : Dialect} {close : Text}

@[simp] theorem map_number_listed (ns : List Nat) : (listed d close ns).map Slot.number = ns := by
  fun_induction listed d close ns with
  | case1 => rfl
  | case2 n => rfl
  | case3 n m rest ih => rw [List.map_cons, ih]

/-- Each slot has the mark of its number, and a comma or `close` behind it. -/
theorem mem_listed {ns : List Nat} {s : Slot} (hs : s ∈ listed d close ns) :
    s.mark = d.placeholder s.number ∧ (s.after = [','] ∨ s.after = close) := by
  fun_induction listed d close ns with
  | case1 => cases hs
  | case2 n =>
    rw [List.mem_singleton.1 hs]
    exact ⟨rfl, Or.inr rfl⟩
  | case3 n m rest ih =>
    rcases List.mem_cons.1 hs with rfl | hs
    · exact ⟨rfl, Or.inl rfl⟩
    · exact ih hs

/-- Texts in the places of the marks are listed as the marks were,
`Text.commaJoined (ns.map text)`. -/
theorem flatMap_listed {ns : List Nat} (h : ns ≠ []) (text : Nat → Text) :
    ((listed d close ns).flatMap fun s => text s.number ++ s.after)
      = Text.commaJoined (ns.map text) ++ close := by
  rw [Text.commaJoined]
  fun_induction listed d close ns with
  | case1 => cases h rfl
  | case2 n => simp
  | case3 n m rest ih =>
    rw [List.flatMap_cons, ih (List.cons_ne_nil _ _)]
    simp only [List.map_cons, Text.joined_cons_cons, List.append_assoc]

/-- A written index is one mark: a dollar sign and the digits of its number. -/
theorem isIndexed_placeholder {s : Slot} (hstyle : d.placeholderStyle = .indexed)
    (hmark : s.mark = d.placeholder s.number) (hdigit : ¬ BeginsWithDigit s.after)
    (hplain : ¬ HasIndexedMark s.after) : s.IsIndexed := by
  refine ⟨⟨Text.ofNat s.number, Text.ofNat_ne_nil _, ?_, ?_, ?_⟩, hdigit, hplain⟩
  · exact fun c hc => Text.isDigit_of_mem_ofNat hc
  · rw [hmark, Dialect.placeholder, hstyle]
  · exact (Text.ofDigits_ofNat s.number).symm

namespace Cut

/-! ### Cuts of statements: `Cut.listing` -/

/-- The cut of a statement with a list of marks for `count` values between `before` and `close`. -/
def listing (d : Dialect) (before close : Text) (count : Nat) : Cut :=
  ⟨before, listed d close (List.range' 1 count)⟩

@[simp] theorem numbers_listing (d : Dialect) (before close : Text) (count : Nat) :
    (listing d before close count).numbers = List.range' 1 count :=
  map_number_listed _

/-- The marks of a list are those that its dialect writes. -/
theorem source_listing (d : Dialect) (before close : Text) (count : Nat) :
    (listing d before close count).source = (listing d before close count).filled d.placeholder := by
  have hslots : ∀ s ∈ listed d close (List.range' 1 count),
      s.mark ++ s.after = d.placeholder s.number ++ s.after := by
    intro s hs
    rw [(mem_listed hs).1]
  rw [source, filled, listing, List.flatMap_congr hslots]

/-- The filled list has `text 1`, …, `text count` between commas. -/
theorem filled_listing (d : Dialect) (before close : Text) {count : Nat} (h : count ≠ 0)
    (text : Nat → Text) :
    (listing d before close count).filled text
      = before ++ (Text.commaJoined ((List.range count).map fun i => text (i + 1)) ++ close) := by
  have hne : List.range' 1 count ≠ [] := by
    rwa [Ne, List.range'_eq_nil_iff]
  have hmap : (List.range' 1 count).map text = (List.range count).map fun i => text (i + 1) := by
    rw [List.range'_eq_map_range, List.map_map]
    exact List.map_congr_left fun i _ => congrArg text (Nat.add_comm 1 i)
  rw [filled, listing, flatMap_listed hne, hmap]

/-- An `Unmarked` text is its own cut without slots, in every style. -/
theorem fits_plain {text : Text} (h : Unmarked text) (style : PlaceholderStyle) :
    (plain text).Fits style := by
  cases style with
  | unindexed => exact ⟨h.1, by simp [plain], rfl⟩
  | indexed => exact ⟨h.not_hasIndexedMark, by simp [plain]⟩

/-- A list of marks fits the style of the dialect that writes them, if no mark is before or behind
the list and no digit behind it. -/
theorem fits_listing (d : Dialect) {before close : Text} (hbefore : Unmarked before)
    (hclose : Unmarked close) (hdigit : ¬ BeginsWithDigit close) (count : Nat) :
    (listing d before close count).Fits d.placeholderStyle := by
  cases hstyle : d.placeholderStyle with
  | unindexed =>
    refine ⟨hbefore.1, ?_, ?_⟩
    · intro s hs
      obtain ⟨hmark, hafter⟩ := mem_listed hs
      rw [Dialect.placeholder, hstyle] at hmark
      rcases hafter with hcomma | hend
      · exact ⟨hmark, by rw [hcomma]; decide⟩
      · exact ⟨hmark, by rw [hend]; exact hclose.1⟩
    · have hlength := congrArg List.length (numbers_listing d before close count)
      rw [numbers, List.length_map, List.length_range'] at hlength
      rw [hlength, numbers_listing]
  | indexed =>
    refine ⟨hbefore.not_hasIndexedMark, ?_⟩
    intro s hs
    obtain ⟨hmark, hafter⟩ := mem_listed hs
    -- neither a comma nor the end continues the digits of the mark before it
    rcases hafter with hcomma | hend
    · refine isIndexed_placeholder hstyle hmark ?_ ?_
      · rw [hcomma, beginsWithDigit_cons]
        decide
      · rw [hcomma]
        exact Unmarked.not_hasIndexedMark (by decide)
    · refine isIndexed_placeholder hstyle hmark ?_ ?_
      · rwa [hend]
      · rw [hend]
        exact hclose.not_hasIndexedMark

end Cut

end RecordSql.Template
