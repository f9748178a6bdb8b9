import RecordSql.Literal

/-! # What writing appends

An `Emission` tells what writing appends, and why it stopped if it did, with no word of the text in
front. `Writing.Emits w e` says that `w` does this behind every text. Emissions are put together as
writings are: `emits_push` and `emits_refuse` for the single steps, `Emits.andThen` and
`Emits.of_refused` for one step after another. So every value appends its emission to any text
(`Value.appendTo_eq_emit`), and its literal is the whole of it or the error
(`Value.render_eq_result`). -/

namespace RecordSql

/-- What writing appends, and why it stopped if it did. -/
structure Emission where
  /-- The text appended, up to the refusal if there is one. -/
  text : Text
  /-- The reason for which the value is refused. -/
  fault : Option LiteralFault
  deriving DecidableEq, Repr

namespace Emission

/-- A text written to its end. -/
def whole (text : Text) : Emission := ⟨text, none⟩

/-- A refusal after a part of the text. -/
def refused (part : Text) (fault : LiteralFault) : Emission := ⟨part, some fault⟩

/-- The text by itself, or the error `SqlError.unsafeLiteral` for the fault. -/
def result (e : Emission) : Except SqlError Text :=
  match e.fault with
  | none => .ok e.text
  | some fault => .error (.unsafeLiteral fault)

@[simp] theorem result_whole (text : Text) : (whole text).result = .ok text := rfl

@[simp] theorem result_refused (part : Text) (fault : LiteralFault) :
    (refused part fault).result = .error (.unsafeLiteral fault) := rfl

/-- What an emission fails with is the fault of a literal. -/
theorem exists_fault_of_result {emission : Emission} {e : SqlError}
    (h : emission.result = .error e) :
    ∃ fault, emission.fault = some fault ∧ e = .unsafeLiteral fault := by
  rw [result] at h
  cases hfault : emission.fault with
  | none =>
    rw [hfault] at h
    cases h
  | some fault =>
    rw [hfault] at h
    exact ⟨fault, rfl, (Except.error.inj h).symm⟩

end Emission

/-! ### Steps: `Writing.Emits` -/

namespace Writing

/-- **Whether writing does as the emission says**, whatever stands in front: `w.behind out` is
`out ++ e.text`, with the error of `e.result` if there is one. -/
def Emits (w : Writing) (e : Emission) : Prop :=
  ∀ out, w.behind out = (out ++ e.text, e.result.map fun _ => ())

variable {w next : Writing} {e : Emission} {text part : Text} {fault : LiteralFault}

/-- What is written next is written behind what is there by then, unless an error came before. -/
theorem behind_bind (w next : Writing) (out : Text) :
    behind (w >>= fun _ => next) out =
      match w.behind out with
      | (written, .ok ()) => next.behind written
      | (written, .error e) => (written, .error e) := by
  unfold behind EStateM.run
  simp only [bind, EStateM.bind]
  cases w out <;> rfl

theorem emits_push (text : Text) : (push text).Emits (.whole text) := fun _ => rfl

/-- Writing that leaves every text as it is emits nothing, `e.text = []`. -/
theorem emits_of_leaves (htext : e.text = [])
    (h : ∀ out, w.behind out = (out, e.result.map fun _ => ())) : w.Emits e := by
  intro out
  rw [h, htext, List.append_nil]

theorem emits_refuse (fault : LiteralFault) : (refuse fault).Emits (.refused [] fault) :=
  emits_of_leaves rfl fun _ => rfl

/-- Behind a whole text comes what is emitted next. -/
theorem Emits.andThen (h : w.Emits (.whole text)) (hnext : next.Emits e) :
    Emits (w >>= fun _ => next) ⟨text ++ e.text, e.fault⟩ := by
  intro out
  rw [behind_bind, h out]
  change next.behind (out ++ text) = _
  rw [hnext, List.append_assoc]
  cases e with
  | mk _ fault => cases fault <;> rfl

/-- Behind a refusal comes nothing. -/
theorem Emits.of_refused (h : w.Emits (.refused part fault)) (next : Writing) :
    Emits (w >>= fun _ => next) (.refused part fault) := by
  intro out
  rw [behind_bind, h out]
  rfl

/-- A text for each item: `xs.forM fun x => push (f x)` emits `xs.flatMap f`. -/
theorem emits_forM_push {α : Type} (f : α → Text) (xs : List α) :
    Emits (xs.forM fun x => push (f x)) (.whole (xs.flatMap f)) := by
  induction xs with
  | nil => exact emits_of_leaves rfl fun _ => rfl
  | cons x rest ih =>
    change Emits (push (f x) >>= fun _ => rest.forM fun x => push (f x)) _
    rw [List.flatMap_cons]
    exact (emits_push (f x)).andThen ih

end Writing

/-! ### Literals: `Value.emit` -/

/-- A text without special characters needs no escape. -/
theorem Dialect.flatMap_escaped_of_not_isSpecial (d : Dialect) {content : Text}
    (h : ∀ c ∈ content, ¬ d.isSpecial c) : content.flatMap d.escaped = content := by
  induction content with
  | nil => rfl
  | cons c content ih =>
    obtain ⟨hc, hcontent⟩ := List.forall_mem_cons.1 h
    rw [List.flatMap_cons, ih hcontent, escaped, if_neg hc, List.singleton_append]

namespace LiteralContext

/-- What writing a text between marks appends. -/
def quote (ctx : LiteralContext) (content : Text) : Emission :=
  if content.contains '\x00' then .refused [] .nul
  else if content.any ctx.dialect.isSpecial && ctx.policy == .reject then
    .refused [quoteMark] (.quoteMark content)
  else .whole (quoteMark :: content.flatMap ctx.dialect.escaped ++ [quoteMark])

/-- What writing a float appends. -/
def number (x : BinaryFloat) : Emission :=
  match x.read with
  | .finite negative mantissa exponent =>
    .whole (Value.numberLayout.write x.width negative mantissa exponent)
  | .infinite negative =>
    .refused [] (.nonFinite (if negative then "-inf".toList else "inf".toList))
  | .notANumber => .refused [] (.nonFinite "NaN".toList)

/-- **Texts between marks**: `writeQuoted` does as `quote` says. -/
theorem emits_writeQuoted (ctx : LiteralContext) (content : Text) :
    (ctx.writeQuoted content).Emits (ctx.quote content) := by
  have hmark := Writing.emits_push [quoteMark]
  rw [writeQuoted, quote]
  by_cases hnul : content.contains '\x00' = true
  · rw [if_pos hnul, if_pos hnul]
    exact (Writing.emits_refuse .nul).of_refused _
  · rw [if_neg hnul, if_neg hnul]
    cases hspecial : content.any ctx.dialect.isSpecial with
    | false =>
      -- nothing is written twice, so the text goes in as a whole
      rw [ctx.dialect.flatMap_escaped_of_not_isSpecial (List.any_eq_false.1 hspecial)]
      exact hmark.andThen ((Writing.emits_push content).andThen hmark)
    | true =>
      cases hpolicy : ctx.policy with
      | reject => exact hmark.andThen ((Writing.emits_refuse (.quoteMark content)).of_refused _)
      | escape =>
        exact hmark.andThen ((Writing.emits_forM_push ctx.dialect.escaped content).andThen hmark)

/-- **Floats**: `writeFloat` does as `number` says. -/
theorem emits_writeFloat (x : BinaryFloat) : (writeFloat x).Emits (number x) := by
  rw [writeFloat, number]
  cases x.read with
  | finite negative mantissa exponent => exact Writing.emits_push _
  | infinite negative => exact Writing.emits_refuse _
  | notANumber => exact Writing.emits_refuse _

end LiteralContext

namespace Value

/-- What writing the value appends. -/
def emit (ctx : LiteralContext) : Value → Emission
  | int n => .whole (Text.ofInt n)
  | float x => LiteralContext.number x
  | bool b => .whole (ctx.dialect.boolText b)
  | char c => ctx.quote [c]
  | text content => ctx.quote content
  | bytes content => .whole (ctx.dialect.bytesText content)
  | date d => ctx.quote d.write
  | time t => ctx.quote t.write
  | dateTime t => ctx.quote t.write
  | timestamp t => ctx.quote (ctx.dialect.timestampText t)
  | uuid id => ctx.quote (uuidText id)
  | json document => ctx.quote document.compact
  | decimal d => .whole d.write
  | absent => .whole absentText
  | present v => v.emit ctx

/-- **Every value has its emission**, and appends it to any text: `appendTo` does as `emit` says. -/
theorem appendTo_eq_emit (ctx : LiteralContext) (out : Text) (v : Value) :
    v.appendTo ctx out = (out ++ (v.emit ctx).text, (v.emit ctx).result.map fun _ => ()) := by
  induction v with
  | int | bool | bytes | decimal | absent => exact Writing.emits_push _ out
  | float x => exact LiteralContext.emits_writeFloat x out
  | char | text | date | time | dateTime | timestamp | uuid | json =>
    exact ctx.emits_writeQuoted _ out
  | present v ih => exact ih

/-- **The literal of a value** is the whole of its emission, or the error: `(v.emit ctx).result`. -/
theorem render_eq_result (ctx : LiteralContext) (v : Value) :
    v.render ctx = (v.emit ctx).result := by
  rw [render, appendTo_eq_emit]
  cases v.emit ctx with
  | mk _ fault => cases fault <;> rfl

end Value

end RecordSql
