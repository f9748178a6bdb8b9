/-! # Verdicts

A declaration is checked in steps, and the first fault found is reported. A `verdict` is the outcome
told by all the faults there are, in the order in which they are looked for. Verdicts of checks in a
row are verdicts again (`bind_verdict`), and so is the verdict on a list whose items are checked one
by one (`foldlM_eq_verdict`). -/

namespace RecordSql

/-- A computation that goes on with the result of another succeeds if both do. -/
theorem bind_eq_ok {ε α β : Type} {x : Except ε α} {f : α → Except ε β} {b : β} :
    x >>= f = .ok b ↔ ∃ a, x = .ok a ∧ f a = .ok b := by
  cases x <;> simp [bind, Except.bind]

/-- **The outcome with these faults**: the first of them, or without any the `result`. -/
def verdict {ε α : Type} (faults : List ε) (result : α) : Except ε α :=
  match faults with
  | [] => .ok result
  | fault :: _ => .error fault

/-- The fault that an outcome reports. -/
def fault? {ε α : Type} : Except ε α → Option ε
  | .ok _ => none
  | .error fault => some fault

section

variable {ε α β : Type} {faults more : List ε} {result a : α} {b : β} {fault : ε} {x : Except ε α}

@[simp] theorem verdict_nil (result : α) : (verdict [] result : Except ε α) = .ok result := rfl

@[simp] theorem verdict_cons (fault : ε) (faults : List ε) (result : α) :
    verdict (fault :: faults) result = .error fault := rfl

theorem verdict_eq_ok_iff : verdict faults result = .ok a ↔ faults = [] ∧ result = a := by
  cases faults <;> simp

theorem verdict_eq_error_iff :
    verdict faults result = .error fault ↔ faults.head? = some fault := by
  cases faults <;> simp

/-- Some fault is reported if there is one. -/
theorem exists_verdict_eq_error_iff :
    (∃ fault, verdict faults result = .error fault) ↔ faults ≠ [] := by
  cases faults <;> simp

theorem map_verdict (f : α → β) : (verdict faults result).map f = verdict faults (f result) := by
  cases faults <;> rfl

/-- The faults of a check come before those of the check that goes on with its result. -/
theorem bind_verdict {f : α → Except ε β} (h : f result = verdict more b) :
    verdict faults result >>= f = verdict (faults ++ more) b := by
  cases faults with
  | nil => exact h
  | cons fault faults => rfl

/-- An outcome is told by its `fault?` and by the result that it has without one. -/
theorem eq_verdict_fault? (h : ∀ a, x = .ok a → a = result) :
    x = verdict (fault? x).toList result := by
  cases x with
  | ok a => rw [h a rfl]; rfl
  | error fault => rfl

theorem fault?_eq_none_iff : fault? x = none ↔ ∃ a, x = .ok a := by
  cases x <;> simp [fault?]

end

/-! ### Items in a row: `foldlM_eq_verdict` -/

section

variable {ε ι β : Type} {complaint? : ι → Option ε} {merge : β → β → β} {step : β → ι → Except ε β}
  {items : List ι} {b : β}

/-- **Items in a row.** If each is checked by itself and says something on top of what was said
before, then so do all of them: the `verdict` lists their complaints in order. -/
theorem foldlM_eq_verdict (say : List ι → β)
    (hmerge : ∀ b before after,
      merge (merge b (say before)) (say after) = merge b (say (before ++ after)))
    (hnil : ∀ b, merge b (say []) = b)
    (hstep : ∀ item ∈ items, ∀ b,
      step b item = verdict (complaint? item).toList (merge b (say [item]))) :
    items.foldlM step b = verdict (items.filterMap complaint?) (merge b (say items)) := by
  -- along the items, on top of anything said before
  induction items generalizing b with
  | nil =>
    rw [hnil]
    rfl
  | cons item rest ih =>
    have hcomplaints : (item :: rest).filterMap complaint?
        = (complaint? item).toList ++ rest.filterMap complaint? := by
      cases h : complaint? item <;> simp [h]
    rw [List.foldlM_cons, hstep item List.mem_cons_self, hcomplaints]
    refine bind_verdict ?_
    rw [ih fun other hother => hstep other (List.mem_cons_of_mem _ hother), hmerge]
    rfl

end

end RecordSql
