/-! # Spans of code points

A property of characters is a list of `Span`s, each an arithmetic progression of code points: step
one for a block, step two for alphabets that alternate capital and small letters. A property without
such alphabets is a list of closed ranges (`inRanges`). -/

namespace RecordSql.Text

/-- Every `step`-th code point from `first` to `last`, both included. -/
structure Span where
  /-- The first code point of the span. -/
  first : Nat
  /-- The last code point of the span. -/
  last : Nat
  /-- The distance between neighbours. -/
  step : Nat

/-- Whether the code point `n` belongs to the span. -/
def Span.covers (s : Span) (n : Nat) : Bool :=
  s.first ≤ n && n ≤ s.last && (n - s.first) % s.step == 0

/-- Whether some span of `spans` covers the code point of `c`. -/
def coveredBy (spans : List Span) (c : Char) : Bool := spans.any fun s => s.covers c.toNat

/-- Whether `a ≤ c.toNat ≤ b` for some closed range `(a, b)` of `ranges`. -/
def inRanges (ranges : List (Nat × Nat)) (c : Char) : Bool :=
  ranges.any fun r => r.1 ≤ c.toNat && c.toNat ≤ r.2

end RecordSql.Text
