import RecordSql.Proofs.Binder.Filling

/-! # Numbers beyond sixty-four bits

A marker has the number that its digits denote, however many these are, and its index is that number
up to `greatestIndex`. For fewer values than that it does not matter which of the two is looked at:
no value has a number or an index beyond them. So `Marker.saturated`, the marker with its index for
its number, binds as the marker does, `Binder.bindMarkers_saturated`. -/

namespace RecordSql

namespace Template

/-- The marker with its index for its number. -/
def Marker.saturated (m : Marker) : Marker := { m with number := m.index }

variable {m : Marker} {count : Nat}

/-- Below `greatestIndex` a number and its index are in the same range:
`m.index ≤ count ↔ m.number ≤ count`. -/
theorem Marker.index_le_iff (h : count < greatestIndex) : m.index ≤ count ↔ m.number ≤ count := by
  rw [index]
  omega

/-- In that range the two are the same. -/
theorem Marker.index_eq_number (h : count < greatestIndex) (hm : m.number ≤ count) :
    m.index = m.number := Nat.min_eq_left (by omega)

/-- An index is at least one exactly if the number is. -/
theorem Marker.one_le_index_iff : 1 ≤ m.index ↔ 1 ≤ m.number := by
  rw [index, greatestIndex]
  omega

/-- The same values are asked for, `flagged (ms.map saturated) used = flagged ms used`. -/
theorem flagged_saturated (ms : List Marker) {used : List Bool} (h : used.length < greatestIndex) :
    flagged (ms.map Marker.saturated) used = flagged ms used := by
  induction ms generalizing used with
  | nil => rfl
  | cons m rest ih =>
    have hrange : 1 ≤ m.index ∧ m.index ≤ used.length ↔ 1 ≤ m.number ∧ m.number ≤ used.length :=
      and_congr Marker.one_le_index_iff (Marker.index_le_iff h)
    rw [List.map_cons, flagged, flagged, Marker.saturated, if_congr hrange rfl rfl]
    split
    · next hnumber =>
      rw [Marker.index_eq_number h hnumber.2]
      exact ih (by rwa [List.length_set])
    · rfl

/-- The same text is the one of an index and of its number. -/
theorem getD_index {texts : List Text} (h : texts.length < greatestIndex) (m : Marker) :
    texts.getD (m.index - 1) [] = texts.getD (m.number - 1) [] := by
  by_cases hm : m.number ≤ texts.length
  · rw [Marker.index_eq_number h hm]
  · -- neither is the number of a text
    have hindex : ¬ m.index ≤ texts.length := mt (Marker.index_le_iff h).1 hm
    rw [List.getD_eq_default _ _ (by omega), List.getD_eq_default _ _ (by omega)]

/-- The same text is filled in. -/
theorem fillFrom_saturated (template : Text) {texts : List Text}
    (h : texts.length < greatestIndex) (last : Nat) (ms : List Marker) :
    fillFrom template texts last (ms.map Marker.saturated) = fillFrom template texts last ms := by
  induction ms generalizing last with
  | nil => rfl
  | cons m rest ih =>
    rw [List.map_cons, fillFrom, fillFrom, ← getD_index h m]
    exact congrArg _ (ih m.stop)

/-- The greatest number is now the greatest index. -/
theorem highestNumber_saturated (ms : List Marker) :
    highestNumber (ms.map Marker.saturated) = highestIndex ms := by
  rw [highestNumber, List.map_map]
  rfl

/-- The greatest index is the same as before. -/
theorem highestIndex_saturated (ms : List Marker) :
    highestIndex (ms.map Marker.saturated) = highestIndex ms := by
  rw [Binder.highestIndex_eq_min, highestNumber_saturated, Binder.highestIndex_eq_min]
  omega

/-- The greatest number is a count below the bound exactly if the greatest index is. -/
theorem highestIndex_eq_iff (ms : List Marker) (h : count < greatestIndex) :
    highestIndex ms = count ↔ highestNumber ms = count := by
  rw [Binder.highestIndex_eq_min]
  omega

end Template

open Template

/-- **Only the index of a mark matters** to fewer values than `greatestIndex`: binding to markers with
their indices for their numbers is binding to the markers. -/
theorem Binder.bindMarkers_saturated (b : Binder) (template : Text) (ms : List Marker)
    {values : List Value} (h : values.length < greatestIndex) :
    b.bindMarkers template (ms.map Marker.saturated) values = b.bindMarkers template ms values := by
  have hused : (List.replicate values.length false).length < greatestIndex := by
    rwa [List.length_replicate]
  have hfill : (Value.renderAll b.context values).map
        (fillMarkers template (ms.map Marker.saturated))
      = (Value.renderAll b.context values).map (fillMarkers template ms) := by
    cases hrender : Value.renderAll b.context values with
    | error e => rfl
    | ok texts =>
      have hlength : texts.length < greatestIndex := by
        rwa [Value.length_of_renderAll hrender]
      exact congrArg Except.ok (fillFrom_saturated template hlength 0 ms)
  rw [bindMarkers, bindMarkers, flagged_saturated ms hused, highestIndex_saturated,
    highestNumber_saturated, hfill]
  simp only [highestIndex_eq_iff ms h]

end RecordSql
