import RecordSql.Declaration.Lexeme

/-! # Type expressions

The types that fields are declared with. Two questions are asked of a type, and both look at the
last segment of a path only: what it is optional over (`optionInner?`), and whether it is one of the
integers that a database can count up (`isInteger`).

Some types are left out. A path qualified by a type and a trait, `<T as U>::V`, ends in a segment
like any other path and is answered by it. Arguments of a path in parentheses and bindings of
associated types are no single type, so that `optionInner?` would be `none`. Pointers, function
types, trait objects, the types written by `impl`, `!`, `_` or a macro are no paths: neither
optional nor an integer, as a tuple is. -/

namespace RecordSql

mutual

/-- A type as it is written. -/
inductive TypeExpr
  /-- A path; its last segment stands apart. -/
  | path (front : List PathSegment) (last : PathSegment)
  /-- A reference to a type. -/
  | reference (target : TypeExpr)
  /-- A type in parentheses. -/
  | grouped (inner : TypeExpr)
  /-- A tuple of types. -/
  | tuple (items : List TypeExpr)
  /-- An array of a type with a length. -/
  | array (item : TypeExpr) (length : List Lexeme)
  /-- A slice of a type. -/
  | slice (item : TypeExpr)

/-- An identifier of a path with the arguments in angle brackets after it, none when there are no
brackets. -/
inductive PathSegment
  | mk (ident : Ident) (args : List TypeArg)

/-- An argument in angle brackets. -/
inductive TypeArg
  /-- A type. -/
  | type (t : TypeExpr)
  /-- A lifetime. -/
  | lifetime (name : Text)
  /-- A constant, by the lexemes it is written in. -/
  | constant (value : List Lexeme)

end

namespace TypeExpr

/-- The type that an optional type is over: a path is optional when it ends in the word `Option`
with one argument, a type, whatever stands in front of the word. -/
def optionInner? : TypeExpr → Option TypeExpr
  | path _ (.mk ident [.type inner]) => if ident.isWord "Option" then some inner else none
  | _ => none

theorem sizeOf_lt_of_optionInner? {t inner : TypeExpr} (h : t.optionInner? = some inner) :
    sizeOf inner < sizeOf t := by
  unfold optionInner? at h
  split at h
  · split at h
    · cases h; simp; omega
    · cases h
  · cases h

/-- How many times the type is optional: the steps of `optionInner?` until there is none. -/
def optionDepth (t : TypeExpr) : Nat :=
  match h : t.optionInner? with
  | some inner => optionDepth inner + 1
  | none => 0
termination_by sizeOf t
decreasing_by exact sizeOf_lt_of_optionInner? h

/-- The words for integers of up to sixty-four bits; those of the machine's width are not among
them. -/
def integerWords : List String := ["i8", "i16", "i32", "i64", "u8", "u16", "u32", "u64"]

/-- Whether the type is a path that ends in one of the `integerWords`. -/
def endsInInteger : TypeExpr → Bool
  | path _ (.mk ident _) => integerWords.any ident.isWord
  | _ => false

/-- Whether the type is an integer or optional over one, once only. -/
def isInteger (t : TypeExpr) : Bool := (t.optionInner?.getD t).endsInInteger

end TypeExpr

end RecordSql
