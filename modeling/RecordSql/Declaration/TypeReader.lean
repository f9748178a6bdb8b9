import RecordSql.Declaration.TypeExpr

/-! # Reading type expressions

A type is read from its lexemes by recursive descent (`TypeExpr.readType`): each reader takes what
it needs from the front and returns the rest. `TypeExpr.ofText?` reads a whole text; it knows the
types that `TypeExpr` has and no others. -/

namespace RecordSql

/-- The argument at the front of the lexemes, if it is no type: a lifetime or a constant. -/
def TypeArg.readPlain? : List Lexeme → Option (TypeArg × List Lexeme)
  | .lifetime name :: rest => some (lifetime name, rest)
  | .int digits :: rest => some (constant [.int digits], rest)
  | .mark '-' :: .int digits :: rest => some (constant [.mark '-', .int digits], rest)
  | .mark '\x7b' :: rest =>
    (Lexeme.splitAtClosing '\x7b' '\x7d' 1 rest).map fun (value, rest) => (constant value, rest)
  | .ident i :: rest =>
    if i.isWord "true" || i.isWord "false" then some (constant [.ident i], rest) else none
  | _ => none

namespace TypeExpr

mutual

/-- Read a type from the front of the lexemes. -/
def readType : (fuel : Nat) → List Lexeme → Option (TypeExpr × List Lexeme)
  | 0, _ => none
  | fuel + 1, .mark '&' :: .lifetime _ :: rest => readTarget fuel rest
  | fuel + 1, .mark '&' :: rest => readTarget fuel rest
  | fuel + 1, .mark '(' :: rest => do
    let (items, trailing, rest) ← readItems fuel rest
    match items, trailing, rest with
    | [inner], false, .mark ')' :: rest => some (grouped inner, rest)   -- no comma, no tuple
    | items, _, .mark ')' :: rest => some (tuple items, rest)
    | _, _, _ => none
  | fuel + 1, .mark '[' :: rest => do
    let (item, rest) ← readType fuel rest
    match rest with
    | .mark ']' :: rest => some (slice item, rest)
    | .mark ';' :: rest =>
      (Lexeme.splitAtClosing '[' ']' 1 rest).map fun (length, rest) => (array item length, rest)
    | _ => none
  | fuel + 1, .separator :: rest => readPath fuel [] rest
  | fuel + 1, rest => readPath fuel [] rest

/-- Read what a reference refers to. -/
def readTarget : (fuel : Nat) → List Lexeme → Option (TypeExpr × List Lexeme)
  | 0, _ => none
  | fuel + 1, .ident i :: rest =>
    if i.isWord "mut" then do
      let (target, rest) ← readType fuel rest
      some (reference target, rest)
    else do
      let (target, rest) ← readType fuel (.ident i :: rest)
      some (reference target, rest)
  | fuel + 1, rest => do
    let (target, rest) ← readType fuel rest
    some (reference target, rest)

/-- Read types separated by commas; the truth value tells whether the last has a comma after it. -/
def readItems : (fuel : Nat) → List Lexeme →
    Option (List TypeExpr × Bool × List Lexeme)
  | 0, _ => none
  | _ + 1, .mark ')' :: rest => some ([], false, .mark ')' :: rest)
  | fuel + 1, rest => do
    let (item, rest) ← readType fuel rest
    match rest with
    | .mark ',' :: .mark ')' :: rest => some ([item], true, .mark ')' :: rest)
    | .mark ',' :: rest => do
      let (items, trailing, rest) ← readItems fuel rest
      some (item :: items, trailing, rest)
    | rest => some ([item], false, rest)

/-- Read the segments of a path after those in `front`. -/
def readPath : (fuel : Nat) → (front : List PathSegment) → List Lexeme →
    Option (TypeExpr × List Lexeme)
  | 0, _, _ => none
  | fuel + 1, front, .ident i :: rest => do
    let (args, rest) ←
      match rest with
      | .mark '<' :: rest => readArgs fuel rest
      | .separator :: .mark '<' :: rest => readArgs fuel rest
      | rest => some ([], rest)
    match rest with
    | .separator :: rest => readPath fuel (front ++ [.mk i args]) rest
    | rest => some (path front (.mk i args), rest)
  | _ + 1, _, _ => none

/-- Read arguments up to the closing angle bracket. -/
def readArgs : (fuel : Nat) → List Lexeme → Option (List TypeArg × List Lexeme)
  | 0, _ => none
  | _ + 1, .mark '>' :: rest => some ([], rest)
  | fuel + 1, rest => do
    let (arg, rest) ←
      match TypeArg.readPlain? rest with
      | some plain => some plain
      | none => do
        let (t, rest) ← readType fuel rest
        some (TypeArg.type t, rest)
    match rest with
    | .mark '>' :: rest => some ([arg], rest)
    | .mark ',' :: rest => do
      let (args, rest) ← readArgs fuel rest
      some (arg :: args, rest)
    | _ => none

end

/-- The type that a text is, if all of it is one type. Between two lexemes the readers call each
other at most three times, which the fuel allows for. -/
def ofText? (text : Text) : Option TypeExpr :=
  let lexemes := Lexeme.scan text
  match readType (4 * (lexemes.length + 1)) lexemes with
  | some (t, []) => some t
  | _ => none

end TypeExpr

end RecordSql
