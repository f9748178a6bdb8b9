import RecordSql.Literal

/-! # Rendering several values

The literals of values (`Value.renderAll`) are the literal of each in order, and the first value
without a literal gives its error: `renderAll_eq_ok_iff`, `renderAll_of_first_error`. -/

namespace RecordSql.Value

@[simp] theorem renderAll_nil (ctx : LiteralContext) : renderAll ctx [] = .ok [] := rfl

/-- The first value decides, then the others. -/
theorem renderAll_cons (ctx : LiteralContext) (v : Value) (rest : List Value) :
    renderAll ctx (v :: rest) =
      match v.render ctx with
      | .error e => .error e
      | .ok t => (renderAll ctx rest).map (t :: ·) := by
  rw [renderAll, List.mapM_cons]
  cases v.render ctx with
  | error e => rfl
  | ok t =>
    change (renderAll ctx rest >>= fun texts => Except.ok (t :: texts)) = _
    cases renderAll ctx rest <;> rfl

/-- Two contexts that write each of the values alike write all of them alike. -/
theorem renderAll_congr {ctx ctx' : LiteralContext} {values : List Value}
    (h : ∀ v ∈ values, v.render ctx = v.render ctx') :
    renderAll ctx values = renderAll ctx' values := by
  induction values with
  | nil => rfl
  | cons v rest ih =>
    obtain ⟨hv, hrest⟩ := List.forall_mem_cons.1 h
    rw [renderAll_cons, renderAll_cons, hv, ih hrest]

/-- `renderAll ctx values = .ok texts` when each of the values has the literal at its place. -/
theorem renderAll_eq_ok_iff {ctx : LiteralContext} {values : List Value} {texts : List Text} :
    renderAll ctx values = .ok texts ↔ values.map (render ctx) = texts.map Except.ok := by
  induction values generalizing texts with
  | nil => cases texts <;> simp
  | cons v rest ih =>
    rw [renderAll_cons, List.map_cons]
    cases texts with
    | nil => cases v.render ctx <;> cases renderAll ctx rest <;> simp [Except.map]
    | cons t texts =>
      rw [List.map_cons, List.cons.injEq, ← ih]
      cases v.render ctx <;> cases renderAll ctx rest <;> simp [Except.map]

/-- If the value of number `i + 1` has `literal (i + 1)` for each `i`, the list has these literals
in order. -/
theorem renderAll_of_literal {ctx : LiteralContext} {values : List Value} {literal : Nat → Text}
    (h : ∀ i (hi : i < values.length), values[i].render ctx = .ok (literal (i + 1))) :
    renderAll ctx values = .ok ((List.range values.length).map fun i => literal (i + 1)) := by
  rw [renderAll_eq_ok_iff]
  apply List.ext_getElem
  · simp
  · intro i hi _
    rw [List.length_map] at hi
    simp [h i hi]

/-- There are as many literals as values. -/
theorem length_of_renderAll {ctx : LiteralContext} {values : List Value} {texts : List Text}
    (h : renderAll ctx values = .ok texts) : texts.length = values.length := by
  have hlength := congrArg List.length (renderAll_eq_ok_iff.1 h)
  rw [List.length_map, List.length_map] at hlength
  exact hlength.symm

/-- The literal of the value at `i` stands at `i` among the literals. -/
theorem getElem_of_renderAll {ctx : LiteralContext} {values : List Value} {texts : List Text}
    (h : renderAll ctx values = .ok texts) {i : Nat} (hi : i < values.length) :
    values[i].render ctx = .ok (texts.getD i []) := by
  have hmap := congrArg (·[i]?) (renderAll_eq_ok_iff.1 h)
  simp only [List.getElem?_map, List.getElem?_eq_getElem hi, Option.map_some] at hmap
  obtain ⟨t, ht, hrender⟩ := Option.map_eq_some_iff.1 hmap.symm
  rw [List.getD_eq_getElem?_getD, ht, ← hrender, Option.getD_some]

/-- Each of the values has a literal if all have. -/
theorem exists_render_of_mem {ctx : LiteralContext} {values : List Value} {texts : List Text}
    (h : renderAll ctx values = .ok texts) {v : Value} (hv : v ∈ values) :
    ∃ t, v.render ctx = .ok t := by
  obtain ⟨i, hi, rfl⟩ := List.getElem_of_mem hv
  exact ⟨_, getElem_of_renderAll h hi⟩

/-- The error of values is that of one of them. -/
theorem exists_of_renderAll_error {ctx : LiteralContext} {values : List Value} {e : SqlError}
    (h : renderAll ctx values = .error e) : ∃ v ∈ values, v.render ctx = .error e := by
  induction values with
  | nil => cases h
  | cons v rest ih =>
    rw [renderAll_cons] at h
    cases hv : v.render ctx with
    | error own =>
      rw [hv] at h
      obtain rfl := Except.error.inj h
      exact ⟨v, List.mem_cons_self, hv⟩
    | ok t =>
      rw [hv] at h
      cases hrest : renderAll ctx rest with
      | error other =>
        rw [hrest] at h
        obtain rfl := Except.error.inj h
        obtain ⟨u, hu, herror⟩ := ih hrest
        exact ⟨u, List.mem_cons_of_mem _ hu, herror⟩
      | ok texts =>
        rw [hrest] at h
        cases h

/-- A value `v` without a literal decides when those before it have literals. -/
theorem renderAll_append_of_error {ctx : LiteralContext} {before after : List Value} {v : Value}
    {e : SqlError} (hbefore : ∀ u ∈ before, ∃ t, u.render ctx = .ok t)
    (hv : v.render ctx = .error e) : renderAll ctx (before ++ v :: after) = .error e := by
  induction before with
  | nil => rw [List.nil_append, renderAll_cons, hv]
  | cons u before ih =>
    obtain ⟨⟨t, ht⟩, hrest⟩ := List.forall_mem_cons.1 hbefore
    rw [List.cons_append, renderAll_cons, ht, ih hrest]
    rfl

/-- The first value without a literal decides: the one at `i`, when those of `values.take i` have
literals. -/
theorem renderAll_of_first_error {ctx : LiteralContext} {values : List Value} {i : Nat}
    (hi : i < values.length) {e : SqlError} (he : values[i].render ctx = .error e)
    (hbefore : ∀ u ∈ values.take i, ∃ t, u.render ctx = .ok t) :
    renderAll ctx values = .error e := by
  have hsplit : values = values.take i ++ values[i] :: values.drop (i + 1) := by
    rw [List.getElem_cons_drop, List.take_append_drop]
  rw [hsplit]
  exact renderAll_append_of_error hbefore he

end RecordSql.Value
