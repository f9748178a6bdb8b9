import RecordSql.Text.Bytes

/-! # Templates

A template is statement text with marks for values. Marks without an index are question marks
(`markCount`). A mark with an index is a dollar sign and the longest run of digits after it; a
dollar sign before anything else is plain text. `markers template` lists where in the bytes of a
template its indexed marks stand and which values they ask for, and `fillMarkers` puts texts in
their place. -/

namespace RecordSql.Template

/-! ### Marks without an index: `markCount` -/

/-- How many question marks the template has. -/
def markCount (template : Text) : Nat := template.count '?'

/-! ### Marks with an index: `markers` -/

/-- A mark with an index, found in the bytes of a template. -/
structure Marker where
  /-- The position of the dollar sign. -/
  start : Nat
  /-- The position behind the last digit. -/
  stop : Nat
  /-- The number of the value that the mark asks for. -/
  number : Nat
  deriving DecidableEq, Repr

/-- The greatest index that a mark is said to have, `2^64 - 1`. -/
def greatestIndex : Nat := 18446744073709551615

/-- The index that a mark is said to have, its number cut at `greatestIndex`. Binding compares the
number itself; `Binder.bindMarkers_saturated` shows that cutting every number first changes
nothing. -/
def Marker.index (m : Marker) : Nat := min m.number greatestIndex

/-- The byte of the dollar sign. -/
def dollarByte : UInt8 := 0x24

/-- Whether a byte is a decimal digit. -/
def isDigitByte (b : UInt8) : Bool := 0x30 ≤ b && b ≤ 0x39

/-- The markers in bytes that begin at `position`, the first `skip` of which have been read. -/
def markersFrom : (position skip : Nat) → List UInt8 → List Marker
  | _, _, [] => []
  | position, skip + 1, _ :: rest => markersFrom (position + 1) skip rest   -- a digit of a mark
  | position, 0, b :: rest =>
    let digits := rest.takeWhile isDigitByte
    if b = dollarByte ∧ digits ≠ [] then
      ⟨position, position + 1 + digits.length, Text.ofDigitBytes digits⟩
        :: markersFrom (position + 1) digits.length rest
    else markersFrom (position + 1) 0 rest

/-- The markers of a template, from left to right. -/
def markers (template : Text) : List Marker := markersFrom 0 0 template.utf8

/-- The greatest `Marker.index` of the markers, zero when there are none. -/
def highestIndex (ms : List Marker) : Nat := (ms.map Marker.index).foldl max 0

/-- The greatest `Marker.number` of the markers, zero when there are none. -/
def highestNumber (ms : List Marker) : Nat := (ms.map Marker.number).foldl max 0

/-- The flags `used` of the values with those set that the markers ask for; `none` when a marker
asks for a number that no value has. -/
def flagged : List Marker → (used : List Bool) → Option (List Bool)
  | [], used => some used
  | m :: rest, used =>
    if 1 ≤ m.number ∧ m.number ≤ used.length then flagged rest (used.set (m.number - 1) true)
    else none

/-- The template from byte `last` on, with the text of number `m.number` in the place of each marker
`m`. -/
def fillFrom (template : Text) (texts : List Text) : (last : Nat) → List Marker → Text
  | last, [] => template.dropBytes last
  | last, m :: rest =>
    -- `flagged` has found the number in range, so there is a text
    template.slice last m.start ++ texts.getD (m.number - 1) []
      ++ fillFrom template texts m.stop rest

/-- The whole template, with the text of its number in the place of each marker. -/
def fillMarkers (template : Text) (ms : List Marker) (texts : List Text) : Text :=
  fillFrom template texts 0 ms

end RecordSql.Template
