import Mathlib.Data.List.DropRight
import RecordSql.Text.Blank

/-! # Parts of a text

A text with separators lists its parts (`Lists`), and splitting it gives them back if they do not
have the separator (`Lists.splitOn_eq`). Around a part there may be blanks (`Padded`); trimming
leaves what is between them, which neither begins nor ends with a blank (`Tight`):
`trimmed_eq_iff`. -/

namespace RecordSql.Text

/-! ### Parts between separators: `Lists` -/

/-- **Whether a text lists items**: it is the one item, or it is the first, a comma and a list of
the others. So there is no list without an item, and no comma without an item on either side. -/
inductive Lists : Text → List Text → Prop
  /-- An item alone. -/
  | one (item : Text) : Lists item [item]
  /-- An item before others. -/
  | cons (item : Text) {list : Text} {items : List Text} (h : Lists list items) :
    Lists (item ++ ',' :: list) (item :: items)

/-- Items joined by `commaJoined` are listed, if there are any. -/
theorem lists_commaJoined {items : List Text} (hne : items ≠ []) :
    Lists (commaJoined items) items := by
  induction items with
  | nil => exact absurd rfl hne
  | cons item rest ih =>
    cases rest with
    | nil => exact .one item
    | cons next rest =>
      rw [commaJoined, joined_cons_cons, List.append_assoc]
      exact .cons item (ih (List.cons_ne_nil _ _))

/-- Nothing but `commaJoined items` lists the items. -/
theorem Lists.eq_commaJoined {list : Text} {items : List Text} (h : Lists list items) :
    list = commaJoined items := by
  induction h with
  | one item => rfl
  | cons item hrest ih =>
    rw [ih]
    cases hrest with
    | one => exact List.append_cons item ',' _
    | cons => exact List.append_cons item ',' _

/-- A list has an item. -/
theorem Lists.ne_nil {list : Text} {items : List Text} (h : Lists list items) : items ≠ [] := by
  cases h <;> exact List.cons_ne_nil _ _

theorem joined_eq_intercalate (sep : Text) (ts : List Text) :
    joined sep ts = sep.intercalate ts := by
  induction ts with
  | nil => rfl
  | cons t rest ih =>
    cases rest with
    | nil => simp
    | cons u rest => rw [joined_cons_cons, ih, List.intercalate_cons_cons]

/-- Every text lists what stands between its commas, `text.splitOn ','`. -/
theorem lists_splitOn (text : Text) : Lists text (text.splitOn ',') := by
  have hjoined : commaJoined (text.splitOn ',') = text := by
    rw [commaJoined, joined_eq_intercalate, List.intercalate_splitOn]
  have hlists := lists_commaJoined (List.splitOn_ne_nil ',' text)
  rwa [hjoined] at hlists

/-- Items without commas are what stands between the commas of a text that lists them, so that a
text lists them in one way only. -/
theorem Lists.splitOn_eq {list : Text} {items : List Text} (h : Lists list items)
    (hcommas : ∀ item ∈ items, ',' ∉ item) : list.splitOn ',' = items := by
  rw [h.eq_commaJoined, commaJoined, joined_eq_intercalate,
    List.splitOn_intercalate ',' hcommas h.ne_nil]

/-! ### Parts between blanks: `Padded` and `Tight` -/

/-- Whether `text` is `core` with blanks around it, any number of them on either side. -/
def Padded (core text : Text) : Prop :=
  ∃ front back, (∀ c ∈ front, isBlank c) ∧ (∀ c ∈ back, isBlank c) ∧ text = front ++ core ++ back

/-- Whether `core` neither begins nor ends with a blank. -/
def Tight (core : Text) : Prop :=
  (∀ c ∈ core.head?, ¬ isBlank c) ∧ ∀ c ∈ core.getLast?, ¬ isBlank c

variable {core text : Text}

theorem padded_self (text : Text) : Padded text text := ⟨[], [], by simp, by simp, by simp⟩

/-- Blanks in `front` of a text that begins with none are dropped. -/
theorem dropWhile_isBlank_append {front rest : Text} (hfront : ∀ c ∈ front, isBlank c)
    (hrest : ∀ c ∈ rest.head?, ¬ isBlank c) : (front ++ rest).dropWhile isBlank = rest := by
  rw [List.dropWhile_append_of_pos hfront]
  cases rest with
  | nil => rfl
  | cons c rest => exact List.dropWhile_cons_of_neg (hrest c rfl)

/-- Blanks at the `back` of a text that ends with none are dropped. -/
theorem trimEnd_append {core back : Text} (hback : ∀ c ∈ back, isBlank c)
    (hcore : ∀ c ∈ core.getLast?, ¬ isBlank c) : trimEnd (core ++ back) = core := by
  rw [trimEnd, List.reverse_append, dropWhile_isBlank_append, List.reverse_reverse]
  · simpa using hback
  · simpa using hcore

/-- **Trimming** leaves what is between the blanks: `text` is `text.trimmed` with blanks around. -/
theorem padded_trimmed (text : Text) : Padded text.trimmed text := by
  refine ⟨text.takeWhile isBlank, (text.dropWhile isBlank).rtakeWhile isBlank,
    fun c hc => List.mem_takeWhile_imp hc, fun c hc => List.mem_rtakeWhile_imp hc, ?_⟩
  have hback : trimEnd (text.dropWhile isBlank) ++ (text.dropWhile isBlank).rtakeWhile isBlank
      = text.dropWhile isBlank := List.rdropWhile_append_rtakeWhile
  rw [trimmed, List.append_assoc, hback, List.takeWhile_append_dropWhile]

/-- What is left, `text.trimmed`, begins and ends with no blank. -/
theorem tight_trimmed (text : Text) : Tight text.trimmed := by
  constructor
  · -- the beginning is that of the text without the blanks in front
    intro c hc
    obtain ⟨rest, hrest⟩ := List.head?_eq_some_iff.1 hc
    obtain ⟨back, hback⟩ : text.trimmed <+: text.dropWhile isBlank :=
      List.rdropWhile_prefix isBlank _
    have hnot := List.head?_dropWhile_not isBlank text
    rw [← hback, hrest] at hnot
    simpa using hnot
  · intro c hc
    obtain ⟨hne, rfl⟩ := List.mem_getLast?_eq_getLast hc
    exact List.rdropWhile_last_not isBlank _ hne

/-- **What is left of a text** is the one `Tight` text of which it is a `Padded` form. -/
theorem trimmed_eq_iff : text.trimmed = core ↔ Padded core text ∧ Tight core := by
  constructor
  · rintro rfl
    exact ⟨padded_trimmed text, tight_trimmed text⟩
  · rintro ⟨⟨front, back, hfront, hback, rfl⟩, hhead, hlast⟩
    rw [trimmed, List.append_assoc]
    cases core with
    | nil =>
      -- nothing but blanks, all of which are dropped in front
      have hall : ∀ c ∈ front ++ back, isBlank c := by
        intro c hc
        rcases List.mem_append.1 hc with hc | hc
        · exact hfront c hc
        · exact hback c hc
      rw [List.nil_append, List.dropWhile_eq_nil_iff.2 hall]
      rfl
    | cons c rest =>
      have hfirst : ∀ d ∈ (c :: rest ++ back).head?, ¬ isBlank d := hhead
      rw [dropWhile_isBlank_append hfront hfirst, trimEnd_append hback hlast]

end RecordSql.Text
