import RecordSql.Proofs.Literal.Payload
import RecordSql.Proofs.Literal.Reading

/-! # Reading literals back

A literal does not say what it is the literal of: `1` is an integer or a truth value, and a text of
one character is written as that character. Whoever knows the type (`LiteralType`) and the dialect
reads a value back from the front of any text: `LiteralType.read_render`. Only the depth at which a
value is absent is lost (`Value.collapsed`). -/

namespace RecordSql

open Template (BeginsWithDigit)

/-! ### Types of literals: `LiteralType` -/

/-- The integers of a width. -/
structure IntegerType where
  /-- Whether half of them are negative. -/
  signed : Bool
  /-- How many bits they have. -/
  bits : Nat
  deriving DecidableEq, Repr

namespace IntegerType

/-- The least integer of the type: `-2^(bits - 1)` if it is signed, else `0`. -/
def least (t : IntegerType) : Int := if t.signed then -Nat.pow 2 (t.bits - 1) else 0

/-- The first integer that is too great for the type: `2^(bits - 1)` or `2^bits`. -/
def limit (t : IntegerType) : Int := Nat.pow 2 (if t.signed then t.bits - 1 else t.bits)

/-- Whether `n` is of the type: `t.least ≤ n < t.limit`. -/
def Holds (t : IntegerType) (n : Int) : Prop := t.least ≤ n ∧ n < t.limit

instance (t : IntegerType) (n : Int) : Decidable (t.Holds n) :=
  inferInstanceAs (Decidable (_ ∧ _))

end IntegerType

/-- What a reader expects. -/
inductive LiteralType
  /-- An integer of a width. -/
  | integer (t : IntegerType)
  /-- A truth value. -/
  | bool
  /-- One character. -/
  | char
  /-- A text. -/
  | text
  /-- Raw bytes. -/
  | bytes
  /-- A value of a type, or none. -/
  | optional (inner : LiteralType)
  deriving DecidableEq, Repr

namespace Value

/-- The values of a type: one constructor for each kind of type, and for an option one for none and
one for a value of the inner type. -/
inductive HasType : Value → LiteralType → Prop
  /-- An integer within the bounds of its width. -/
  | int {t : IntegerType} {n : Int} (h : t.Holds n) : HasType (.int n) (.integer t)
  /-- A truth value. -/
  | bool (b : Bool) : HasType (.bool b) .bool
  /-- One character. -/
  | char (c : Char) : HasType (.char c) .char
  /-- A text. -/
  | text (content : Text) : HasType (.text content) .text
  /-- Raw bytes. -/
  | bytes (content : List UInt8) : HasType (.bytes content) .bytes
  /-- No value, whatever it might have been. -/
  | absent (inner : LiteralType) : HasType .absent (.optional inner)
  /-- A value where there might have been none. -/
  | present {v : Value} {inner : LiteralType} (h : HasType v inner) :
    HasType (.present v) (.optional inner)

/-- The value, with all options around an absent one taken for the outermost: `present absent`
becomes `absent`. -/
def collapsed (v : Value) : Value :=
  match v.payload? with
  | none => .absent
  | some _ => v

theorem collapsed_of_none {v : Value} (h : v.payload? = none) : v.collapsed = .absent := by
  rw [collapsed, h]

theorem collapsed_of_some {v p : Value} (h : v.payload? = some p) : v.collapsed = v := by
  rw [collapsed, h]

end Value

namespace LiteralType

/-- Read a value of the type in front of a text, and what is left behind it. -/
def read (d : Dialect) : LiteralType → Text → Option (Value × Text)
  | integer t, source => do
    let (n, rest) ← Text.readInt source
    if t.Holds n then some (.int n, rest) else none
  | bool, source => (d.readBool source).map fun p => (.bool p.1, p.2)
  | char, source => do
    let (content, rest) ← d.readQuoted source
    match content with
    | [c] => some (.char c, rest)
    | _ => none
  | text, source => (d.readQuoted source).map fun p => (.text p.1, p.2)
  | bytes, source => (d.readBytes source).map fun p => (.bytes p.1, p.2)
  | optional inner, source =>
    Text.readWord Value.absentText .absent source
      <|> (inner.read d source).map fun p => (.present p.1, p.2)

end LiteralType

/-! ### The word for no value: `absentText` -/

namespace Value

variable {ctx : LiteralContext} {v : Value} {type : LiteralType} {s : Text}

/-- A literal with a value at the bottom does not begin with the `N` of the word for none. -/
theorem HasType.exists_cons_of_render (hv : v.HasType type) (hp : v.payload? ≠ none)
    (hs : v.render ctx = .ok s) : ∃ c tail, s = c :: tail ∧ c ≠ 'N' := by
  -- a literal between marks begins with the mark
  have hquoted : ∀ {content : Text}, (ctx.quote content).result = .ok s →
      ∃ c tail, s = c :: tail ∧ c ≠ 'N' := by
    intro content hresult
    exact ⟨quoteMark, _, LiteralContext.eq_of_result_quote hresult, by decide⟩
  induction hv with
  | @int t n h =>
    obtain rfl := Except.ok.inj hs
    cases n with
    | ofNat n =>
      obtain ⟨c, tail, hcons, hdigit⟩ := Text.exists_ofNat_eq_cons n
      refine ⟨c, tail, hcons, ?_⟩
      rintro rfl
      exact absurd hdigit (by decide)
    | negSucc n => exact ⟨'-', _, rfl, by decide⟩
  | bool b =>
    obtain rfl := Except.ok.inj hs
    change ∃ c tail, ctx.dialect.boolText b = c :: tail ∧ c ≠ 'N'
    cases ctx.dialect <;> cases b <;> exact ⟨_, _, rfl, by decide⟩
  | char | text =>
    rw [render_eq_result] at hs
    exact hquoted hs
  | bytes content =>
    obtain rfl := Except.ok.inj hs
    change ∃ c tail, ctx.dialect.bytesText content = c :: tail ∧ c ≠ 'N'
    cases ctx.dialect <;> exact ⟨_, _, rfl, by decide⟩
  | absent => exact absurd rfl hp
  | present _ ih => exact ih hp hs

/-- **The word for no value stands for just the values without one at the bottom**:
`payload? v = none`. -/
theorem HasType.render_eq_absentText_iff (hv : v.HasType type) :
    v.render ctx = .ok absentText ↔ v.payload? = none := by
  constructor
  · intro hs
    by_contra hp
    obtain ⟨c, tail, hcons, hc⟩ := hv.exists_cons_of_render hp hs
    exact hc (List.cons.inj hcons).1.symm
  · exact render_of_payload?_eq_none

end Value

namespace LiteralType

open Value

variable {d : Dialect} {inner : LiteralType} {rest : Text}

/-! ### Literals in front of a text -/

/-- An integer that is read and within the bounds of the type is of the type. -/
theorem read_integer {t : IntegerType} {n : Int} (h : t.Holds n) {source : Text}
    (hread : Text.readInt source = some (n, rest)) :
    (integer t).read d source = some (.int n, rest) := by
  rw [read, hread]
  exact if_pos h

/-- The word for no value is read as `absent` under any option. -/
theorem read_optional_absentText :
    (optional inner).read d (absentText ++ rest) = some (.absent, rest) := by
  rw [read, Text.readWord_append]
  rfl

/-- A text that does not begin as the word for no value does is read as `inner` reads it. -/
theorem read_optional_cons {c : Char} (hc : c ≠ 'N') (tail : Text) :
    (optional inner).read d (c :: tail)
      = (inner.read d (c :: tail)).map fun p => (.present p.1, p.2) := by
  have hnone : Text.readWord absentText Value.absent (c :: tail) = none :=
    Text.readWord_of_ne (Ne.symm hc) _ _ _
  rw [read, hnone]
  rfl

/-- **What is read back under an option is read back from the option.** If there is no value at the
bottom the literal is the word for none, otherwise it does not begin like that word. -/
theorem read_optional_of_read {ctx : LiteralContext} {v : Value} {s : Text} (hv : v.HasType inner)
    (hs : v.render ctx = .ok s)
    (hread : inner.read ctx.dialect (s ++ rest) = some (v.collapsed, rest)) :
    (optional inner).read ctx.dialect (s ++ rest) = some (v.present.collapsed, rest) := by
  cases hp : v.payload? with
  | none =>
    -- the option is absent at the bottom, and so is its literal
    rw [render_of_payload?_eq_none hp] at hs
    obtain rfl := Except.ok.inj hs
    rw [read_optional_absentText, collapsed_of_none (v := v.present) hp]
  | some p =>
    -- no literal of a value begins as the word for none does, so the word is not read
    have hsome : v.payload? ≠ none := by
      rw [hp]
      exact Option.some_ne_none p
    obtain ⟨c, tail, rfl, hc⟩ := hv.exists_cons_of_render hsome hs
    rw [collapsed_of_some hp, List.cons_append] at hread
    rw [List.cons_append, read_optional_cons hc, hread, collapsed_of_some (v := v.present) hp]
    rfl

/-- **Literals are read back.** Whoever knows the type of a value and the dialect recovers the value
from the front of any text that goes on neither with a quotation mark nor, after an integer, with a
digit, and nothing more of that text is taken: `type.read d (s ++ rest) = some (v.collapsed, rest)`.
Options around an absent value collapse. The word for no value stands for those alone: no literal of
a value that is there is that word. -/
theorem read_render (ctx : LiteralContext) {type : LiteralType} {v : Value} (hv : v.HasType type) :
    (∀ s, v.render ctx = .ok s → ∀ rest : Text, rest.head? ≠ some quoteMark →
      ((∃ n, v.payload? = some (.int n)) → ¬ BeginsWithDigit rest) →
        type.read ctx.dialect (s ++ rest) = some (v.collapsed, rest)) ∧
    (v.render ctx = .ok absentText ↔ v.payload? = none) := by
  refine ⟨?_, hv.render_eq_absentText_iff⟩
  -- by the typing of the value, one option at a time
  induction hv with
  | @int t n h =>
    intro s hs rest _ hdigit
    obtain rfl := Except.ok.inj hs
    exact read_integer h (Text.readInt_ofInt n (hdigit ⟨n, rfl⟩))
  | bool b =>
    intro s hs rest _ _
    obtain rfl := Except.ok.inj hs
    exact congrArg (Option.map _) (Dialect.readBool_boolText b rest)
  | char c =>
    intro s hs rest hquote _
    rw [render_eq_result] at hs
    rw [read, Dialect.readQuoted_of_result_quote hs hquote]
    rfl
  | text content =>
    intro s hs rest hquote _
    rw [render_eq_result] at hs
    rw [read, Dialect.readQuoted_of_result_quote hs hquote]
    rfl
  | bytes content =>
    intro s hs rest hquote _
    obtain rfl := Except.ok.inj hs
    exact congrArg (Option.map _) (Dialect.readBytes_bytesText content hquote)
  | absent =>
    intro s hs rest _ _
    obtain rfl := Except.ok.inj hs
    exact read_optional_absentText
  | @present v inner hv ih =>
    intro s hs rest hquote hdigit
    exact read_optional_of_read hv hs (ih s hs rest hquote hdigit)

/-- A text of MySQL that ends in a backslash, under two options and in front of a comma. -/
theorem read_render_backslash :
    let ctx : LiteralContext := ⟨.mySql, .escape⟩
    let v : Value := .present (.present (.text "NULL'\\".toList))
    v.render ctx = .ok "'NULL''\\\\'".toList ∧
      (optional (optional text)).read .mySql "'NULL''\\\\', 'b'".toList
        = some (v, ", 'b'".toList) := by
  intro ctx v
  have hrender : v.render ctx = .ok "'NULL''\\\\'".toList := by decide
  have hdigit : (∃ n, v.payload? = some (.int n)) → ¬ BeginsWithDigit ", 'b'".toList := by
    rintro ⟨n, hn⟩
    cases hn
  refine ⟨hrender, ?_⟩
  exact (read_render ctx (.present (.present (.text _)))).1 _ hrender ", 'b'".toList (by decide) hdigit

end LiteralType

end RecordSql
