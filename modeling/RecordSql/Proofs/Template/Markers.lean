import RecordSql.Proofs.Template.Cut

/-! # Markers of a cut

The markers found in the bytes of a template are those of its cut at the marks with an index:
`markers_source`. So there is only one such cut (`Cut.IsOf.unique`), and filling the markers fills
the cut (`fillMarkers_source`).

The scanner is followed piece by piece: `markersFrom_plain` passes over a text without marks,
`markersFrom_mark` takes one mark, and `markersFrom_source` puts them together by induction on the
slots. -/

namespace RecordSql.Template

/-! ### Reading the bytes: `markersFrom` -/

/-- Bytes that have been `read` are passed over. -/
theorem markersFrom_skip (position : Nat) (read rest : List UInt8) :
    markersFrom position read.length (read ++ rest)
      = markersFrom (position + read.length) 0 rest := by
  induction read generalizing position with
  | nil => rfl
  | cons b read ih =>
    rw [List.length_cons, List.cons_append, markersFrom, ih]
    congr 1
    omega

/-- Bytes that are no `dollarByte` are passed over. -/
theorem markersFrom_of_not_dollar (position : Nat) {bytes : List UInt8} (rest : List UInt8)
    (h : ∀ b ∈ bytes, b ≠ dollarByte) :
    markersFrom position 0 (bytes ++ rest) = markersFrom (position + bytes.length) 0 rest := by
  induction bytes generalizing position with
  | nil => rfl
  | cons b bytes ih =>
    obtain ⟨hb, hbytes⟩ := List.forall_mem_cons.1 h
    rw [List.cons_append, markersFrom, if_neg (fun hmark => hb hmark.1), ih _ hbytes,
      List.length_cons]
    congr 1
    omega

/-- The one byte of a dollar sign. -/
theorem utf8_dollar_cons (rest : Text) : Text.utf8 ('$' :: rest) = dollarByte :: rest.utf8 := rfl

/-- A `piece` without marks is passed over when no digit comes behind it. -/
theorem markersFrom_plain (position : Nat) {piece rest : Text} (hpiece : ¬ HasIndexedMark piece)
    (hrest : ¬ BeginsWithDigit rest) :
    markersFrom position 0 (Text.utf8 (piece ++ rest))
      = markersFrom (position + piece.byteLength) 0 rest.utf8 := by
  induction piece generalizing position with
  | nil => rfl
  | cons c piece ih =>
    rw [hasIndexedMark_cons, not_or] at hpiece
    obtain ⟨hfirst, hpiece⟩ := hpiece
    rw [Text.byteLength_cons, ← Nat.add_assoc, ← ih _ hpiece, List.cons_append]
    by_cases hc : c = '$'
    · -- a dollar sign that no digit follows: the scanner finds no digits behind it
      subst hc
      have hdigit : ¬ BeginsWithDigit (piece ++ rest) :=
        not_beginsWithDigit_append (fun hpiece => hfirst ⟨rfl, hpiece⟩) hrest
      have hdigits : (Text.utf8 (piece ++ rest)).takeWhile isDigitByte = [] := by
        rw [Text.takeWhile_isDigitByte_utf8, takeWhile_isDigit_eq_nil.2 hdigit, Text.utf8_nil]
      rw [utf8_dollar_cons, markersFrom, if_neg (fun hmark => hmark.2 hdigits)]
      rfl
    · -- any other character, none of whose bytes is the dollar sign's
      rw [Text.utf8_cons, markersFrom_of_not_dollar, String.length_utf8EncodeChar]
      intro b hb
      rw [Ne, Text.eq_dollarByte_iff hb]
      exact hc

/-- A dollar sign and a longest run of digits are a marker from the one to behind the other. -/
theorem markersFrom_mark (position : Nat) {digits rest : Text} (hne : digits ≠ [])
    (hdigits : ∀ c ∈ digits, c.isDigit) (hrest : ¬ BeginsWithDigit rest) :
    markersFrom position 0 (Text.utf8 ('$' :: digits ++ rest))
      = ⟨position, position + Text.byteLength ('$' :: digits), Text.ofDigits digits⟩
        :: markersFrom (position + Text.byteLength ('$' :: digits)) 0 rest.utf8 := by
  -- the scanner takes the bytes of the digits and no more
  have hrun : (Text.utf8 (digits ++ rest)).takeWhile isDigitByte = digits.utf8 := by
    rw [Text.takeWhile_isDigitByte_utf8, takeWhile_isDigit_append hdigits hrest]
  have hbytes : digits.utf8 ≠ [] := by
    rw [← List.length_pos_iff]
    change 0 < digits.byteLength
    rw [Text.byteLength_of_isDigit hdigits]
    exact List.length_pos_iff.2 hne
  have hdollar : Text.byteLength ('$' :: digits) = 1 + digits.utf8.length := Text.byteLength_cons ..
  rw [List.cons_append, utf8_dollar_cons, markersFrom, hrun, if_pos ⟨rfl, hbytes⟩,
    Text.ofDigitBytes_utf8 hdigits, Text.utf8_append, markersFrom_skip, hdollar, Nat.add_assoc]

/-! ### The markers of a cut: `Cut.markers` -/

/-- The markers of slots that begin at byte `position`. -/
def slotMarkers : (position : Nat) → List Slot → List Marker
  | _, [] => []
  | position, s :: rest =>
    ⟨position, position + s.mark.byteLength, s.number⟩
      :: slotMarkers (position + s.mark.byteLength + s.after.byteLength) rest

/-- The markers of a cut: those of its slots, which begin behind its head. -/
def Cut.markers (cut : Cut) : List Marker := slotMarkers cut.head.byteLength cut.slots

@[simp] theorem map_number_slotMarkers (position : Nat) (slots : List Slot) :
    (slotMarkers position slots).map Marker.number = slots.map Slot.number := by
  induction slots generalizing position with
  | nil => rfl
  | cons s rest ih => simp [slotMarkers, ih]

/-- The markers of a cut have its numbers, in order. -/
theorem Cut.map_number_markers (cut : Cut) : cut.markers.map Marker.number = cut.numbers :=
  map_number_slotMarkers _ _

/-- The text of the slots does not begin with a digit. -/
theorem not_beginsWithDigit_slots {slots : List Slot} (h : ∀ s ∈ slots, s.IsIndexed) :
    ¬ BeginsWithDigit (slots.flatMap fun s => s.mark ++ s.after) := by
  cases slots with
  | nil => exact not_beginsWithDigit_nil
  | cons s rest =>
    obtain ⟨digits, -, -, hmark, -⟩ := (h s List.mem_cons_self).exists_digits
    rw [List.flatMap_cons, hmark, List.cons_append, List.cons_append, beginsWithDigit_cons]
    decide

/-- **The slots' text has the markers of the slots**, and behind it the scanner goes on with a rest
that does not continue the last digits. -/
theorem markersFrom_slots (position : Nat) {slots : List Slot} (h : ∀ s ∈ slots, s.IsIndexed)
    {rest : Text} (hrest : ¬ BeginsWithDigit rest) :
    markersFrom position 0 (Text.utf8 ((slots.flatMap fun s => s.mark ++ s.after) ++ rest))
      = slotMarkers position slots
        ++ markersFrom (position + Text.byteLength (slots.flatMap fun s => s.mark ++ s.after)) 0
          rest.utf8 := by
  induction slots generalizing position with
  | nil => rfl
  | cons s slots ih =>
    obtain ⟨hs, hslots⟩ := List.forall_mem_cons.1 h
    obtain ⟨digits, hne, hdigits, hmark, hnumber⟩ := hs.exists_digits
    have hdigit := not_beginsWithDigit_append (not_beginsWithDigit_slots hslots) hrest
    have hafter := not_beginsWithDigit_append hs.maximal hdigit
    rw [List.flatMap_cons, List.append_assoc, List.append_assoc, slotMarkers, hmark, hnumber,
      markersFrom_mark position hne hdigits hafter, markersFrom_plain _ hs.plain hdigit,
      ih _ hslots, List.cons_append, Text.byteLength_append, Text.byteLength_append]
    simp only [Nat.add_assoc]

/-- **The scanner takes a text apart** where no digit begins: first the markers of a cut in front,
then those of the rest. -/
theorem markersFrom_source (position : Nat) {cut : Cut} (h : cut.Fits .indexed) {rest : Text}
    (hrest : ¬ BeginsWithDigit rest) :
    markersFrom position 0 (Text.utf8 (cut.source ++ rest))
      = slotMarkers (position + cut.head.byteLength) cut.slots
        ++ markersFrom (position + cut.source.byteLength) 0 rest.utf8 := by
  have hdigit := not_beginsWithDigit_append (not_beginsWithDigit_slots h.2) hrest
  rw [Cut.source, List.append_assoc, markersFrom_plain position h.1 hdigit,
    markersFrom_slots _ h.2 hrest, Text.byteLength_append, Nat.add_assoc]

/-- **The markers of a template are those of its cut.** -/
theorem markers_source {cut : Cut} (h : cut.Fits .indexed) : markers cut.source = cut.markers := by
  have hscan := markersFrom_source 0 h not_beginsWithDigit_nil
  rw [List.append_nil, Nat.zero_add, Text.utf8_nil, markersFrom, List.append_nil] at hscan
  exact hscan

/-! ### One cut, and its filling -/

/-- Slots with the same text and the same markers are the same, and so is the text before them. -/
theorem slots_eq_of_slotMarkers_eq (position : Nat) {slots slots' : List Slot} {piece piece' : Text}
    (htext : piece ++ slots.flatMap (fun s => s.mark ++ s.after)
      = piece' ++ slots'.flatMap fun s => s.mark ++ s.after)
    (hmarkers : slotMarkers (position + piece.byteLength) slots
      = slotMarkers (position + piece'.byteLength) slots') :
    piece = piece' ∧ slots = slots' := by
  induction slots generalizing position piece piece' slots' with
  | nil =>
    cases slots' with
    | nil => exact ⟨by simpa using htext, rfl⟩
    | cons s' rest' => simp [slotMarkers] at hmarkers
  | cons s rest ih =>
    cases slots' with
    | nil => simp [slotMarkers] at hmarkers
    | cons s' rest' =>
      simp only [slotMarkers, List.cons.injEq, Marker.mk.injEq] at hmarkers
      obtain ⟨⟨hstart, hstop, hnumber⟩, hrest⟩ := hmarkers
      -- the starts measure the pieces, then the stops measure the marks
      obtain ⟨hpiece, htext⟩ := Text.append_inj_of_byteLength_eq htext (by omega)
      rw [List.flatMap_cons, List.flatMap_cons, List.append_assoc, List.append_assoc] at htext
      obtain ⟨hmark, htext⟩ := Text.append_inj_of_byteLength_eq htext (by omega)
      rw [← hpiece, ← hmark] at hrest
      obtain ⟨hafter, hslots⟩ := ih _ htext hrest
      have hs : s = s' := Slot.ext hmark hnumber hafter
      exact ⟨hpiece, by rw [hs, hslots]⟩

/-- **A template has one cut** at its marks with an index: the markers say where the slots begin and
end. -/
theorem Cut.IsOf.unique {cut cut' : Cut} {template : Text} (h : cut.IsOf .indexed template)
    (h' : cut'.IsOf .indexed template) : cut = cut' := by
  have hsource : cut.source = cut'.source := h.source_eq.trans h'.source_eq.symm
  have hmarkers : cut.markers = cut'.markers := by
    rw [← markers_source h.fits, hsource, markers_source h'.fits]
  have hslots := slots_eq_of_slotMarkers_eq 0 hsource
    (by simpa [Cut.markers] using hmarkers)
  exact Cut.ext hslots.1 hslots.2

/-- Filling the markers of `slots` behind `before ++ piece`, from where `piece` begins, fills the
slots. -/
theorem fillFrom_slots (texts : List Text) (before piece : Text) (slots : List Slot) :
    fillFrom (before ++ (piece ++ slots.flatMap fun s => s.mark ++ s.after)) texts before.byteLength
        (slotMarkers (before.byteLength + piece.byteLength) slots)
      = piece ++ slots.flatMap fun s => texts.getD (s.number - 1) [] ++ s.after := by
  induction slots generalizing before piece with
  | nil => rw [slotMarkers, fillFrom, Text.dropBytes_append, List.flatMap_nil, List.flatMap_nil]
  | cons s rest ih =>
    have htemplate : before ++ (piece ++ (s :: rest).flatMap fun s => s.mark ++ s.after)
        = (before ++ piece ++ s.mark) ++ (s.after ++ rest.flatMap fun s => s.mark ++ s.after) := by
      simp
    have hstop : before.byteLength + piece.byteLength + s.mark.byteLength
        = (before ++ piece ++ s.mark).byteLength := by
      simp [Nat.add_assoc]
    rw [slotMarkers, fillFrom, Text.slice_append, htemplate, hstop, ih, List.flatMap_cons]
    simp only [List.append_assoc]

/-- **Filling the markers of a template fills its cut**, with `texts.getD (n - 1) []` for the mark
of number `n`. -/
theorem fillMarkers_source {cut : Cut} (h : cut.Fits .indexed) (texts : List Text) :
    fillMarkers cut.source (markers cut.source) texts
      = cut.filled fun n => texts.getD (n - 1) [] := by
  have hfill := fillFrom_slots texts [] cut.head cut.slots
  rw [Text.byteLength_nil, Nat.zero_add] at hfill
  rw [markers_source h]
  exact hfill

/-! ### Which values are asked for: `flagged` -/

/-- The flags can be set when each marker asks for a number from one to `used.length`. -/
theorem isSome_flagged_iff {ms : List Marker} {used : List Bool} :
    (flagged ms used).isSome ↔ ∀ n ∈ ms.map Marker.number, 1 ≤ n ∧ n ≤ used.length := by
  induction ms generalizing used with
  | nil => simp [flagged]
  | cons m rest ih =>
    rw [flagged, List.map_cons, List.forall_mem_cons]
    split
    · rename_i hm
      rw [ih, List.length_set, and_iff_right hm]
    · rename_i hm
      exact iff_of_false (by simp) (fun h => hm h.1)

/-- The flags that are set in the end were set before, or a marker asks for their number; the flag
at `i` is that of number `i + 1`. -/
theorem getElem?_flagged {ms : List Marker} {used used' : List Bool}
    (h : flagged ms used = some used') {i : Nat} (hi : i < used.length) :
    used'[i]? = some true ↔ used[i]? = some true ∨ i + 1 ∈ ms.map Marker.number := by
  induction ms generalizing used with
  | nil =>
    rw [flagged, Option.some.injEq] at h
    simp [h]
  | cons m rest ih =>
    rw [flagged] at h
    split at h
    · -- the flag of this marker is set first; those of the others are the induction's
      rename_i hm
      rw [ih h (by rwa [List.length_set]), List.getElem?_set, List.map_cons, List.mem_cons]
      by_cases hmi : m.number - 1 = i
      · have hnumber : i + 1 = m.number := by omega
        simp [hmi, hi, hnumber]
      · have hnumber : i + 1 ≠ m.number := by omega
        simp [hmi, hnumber]
    · simp at h

/-- There is one flag for each value throughout. -/
theorem length_flagged {ms : List Marker} {used used' : List Bool}
    (h : flagged ms used = some used') : used'.length = used.length := by
  induction ms generalizing used with
  | nil =>
    rw [flagged, Option.some.injEq] at h
    rw [h]
  | cons m rest ih =>
    rw [flagged] at h
    split at h
    · rw [ih h, List.length_set]
    · simp at h

/-- **All flags can be set just when the cut asks for all values**, by `isSome_flagged_iff` for the
bounds and `getElem?_flagged` for the rest. -/
theorem exists_flagged_all_iff {cut : Cut} {count : Nat} :
    (∃ used, flagged cut.markers (List.replicate count false) = some used ∧ used.all id) ↔
      cut.AsksFor count := by
  have hnumbers := cut.map_number_markers
  constructor
  · -- no marker has been refused, so the numbers are in range; no flag is left, so none is missing
    rintro ⟨used, hflagged, hall⟩ n
    have hrange := isSome_flagged_iff.1 (Option.isSome_iff_exists.2 ⟨used, hflagged⟩)
    rw [hnumbers, List.length_replicate] at hrange
    refine ⟨hrange n, ?_⟩
    rintro ⟨hone, hcount⟩
    have hlength := length_flagged hflagged
    rw [List.length_replicate] at hlength
    have hset : used[n - 1]? = some true := by
      rw [List.getElem?_eq_getElem (by omega)]
      exact congrArg some (List.all_eq_true.1 hall _ (List.getElem_mem _))
    rw [getElem?_flagged hflagged (by rw [List.length_replicate]; omega), hnumbers,
      Nat.sub_add_cancel hone] at hset
    rcases hset with hfalse | hmem
    · simp [List.getElem?_replicate] at hfalse
    · exact hmem
  · -- the numbers are in range, so none is refused; each is asked for, so every flag is set
    intro hasks
    have hsome : (flagged cut.markers (List.replicate count false)).isSome := by
      rw [isSome_flagged_iff, hnumbers, List.length_replicate]
      exact fun n => (hasks n).1
    obtain ⟨used, hflagged⟩ := Option.isSome_iff_exists.1 hsome
    refine ⟨used, hflagged, List.all_eq_true.2 fun b hb => ?_⟩
    obtain ⟨i, hi, rfl⟩ := List.mem_iff_getElem.1 hb
    have hlength := length_flagged hflagged
    rw [List.length_replicate] at hlength
    have hset : used[i]? = some true := by
      rw [getElem?_flagged hflagged (by rw [List.length_replicate]; omega), hnumbers]
      exact Or.inr ((hasks (i + 1)).2 (by omega))
    rw [List.getElem?_eq_getElem hi, Option.some.injEq] at hset
    exact hset

end RecordSql.Template
