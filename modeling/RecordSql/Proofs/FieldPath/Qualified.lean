import Mathlib.Data.List.TakeWhile
import RecordSql.FieldPath

/-! # Qualified fields

Stripping takes back what qualifying put in front of a field, for this entity and for no other. What
is left of a text is told by one equivalence, `strip_eq_ok_iff`, and all else follows from it.
Colons may meet in any way: an entity may end in one, a field may begin with one, and the entity's
own name may have the separator in it. -/

namespace RecordSql.FieldPath

variable {entity qualified field : Text} {e : SqlError}

/-- A qualified field, `entity ++ separator ++ field`, has the separator in it. -/
theorem separator_infix_qualified (entity field : Text) :
    separator <:+: entity ++ separator ++ field := ⟨entity, field, rfl⟩

/-! ### What is stripped -/

/-- A text without the separator names its field alone, whatever the entity. -/
theorem strip_of_unqualified (h : ¬ separator <:+: qualified) :
    strip entity qualified = .ok qualified := by
  rw [strip, if_neg (Text.includes_iff.not.2 h)]

/-- **What is stripped**: nothing from a text without the separator, and from
`entity ++ separator ++ field` just what stands before `field`. -/
theorem strip_eq_ok_iff :
    strip entity qualified = .ok field ↔
      (¬ separator <:+: qualified ∧ field = qualified) ∨
        (qualified = entity ++ separator ++ field ∧ field ≠ [] ∧ ¬ separator <:+: field) := by
  by_cases h : separator <:+: qualified
  · rw [strip, if_pos (Text.includes_iff.2 h)]
    constructor
    · intro hstrip
      split at hstrip
      · next c rest hdrop =>
        split at hstrip
        · cases hstrip
        · next hmore =>
          cases hstrip
          exact Or.inr ⟨Text.dropPrefix?_eq_some_iff.1 hdrop, List.cons_ne_nil c rest,
            Text.includes_iff.not.1 hmore⟩
      · cases hstrip
      · cases hstrip
    · rintro (⟨hunqualified, -⟩ | ⟨hfield, hne, hplain⟩)
      · exact absurd h hunqualified
      · -- what is behind the entity and the separator has a first character
        obtain ⟨c, rest, rfl⟩ := List.exists_cons_of_ne_nil hne
        rw [Text.dropPrefix?_eq_some_iff.2 hfield]
        exact if_neg (Text.includes_iff.not.2 hplain)
  · rw [strip_of_unqualified h, Except.ok.injEq]
    constructor
    · rintro rfl
      exact Or.inl ⟨h, rfl⟩
    · rintro (⟨-, rfl⟩ | ⟨rfl, -, -⟩)
      · rfl
      · exact absurd (separator_infix_qualified entity field) h

/-- The one error is `unknownField` and names the entity and the text as they were given. -/
theorem eq_unknownField_of_strip (h : strip entity qualified = .error e) :
    e = .unknownField entity qualified := by
  rw [strip] at h
  split at h
  · split at h
    · split at h
      · cases h
        rfl
      · cases h
    · cases h
      rfl
    · cases h
      rfl
  · cases h

/-! ### What is left -/

/-- What is left has no separator in it, so that stripping again leaves it as it is. -/
theorem not_infix_of_strip (h : strip entity qualified = .ok field) : ¬ separator <:+: field := by
  rcases strip_eq_ok_iff.1 h with ⟨hunqualified, rfl⟩ | ⟨-, -, hplain⟩
  · exact hunqualified
  · exact hplain

/-- A qualified field begins with its entity, up to the first colon if the entity has none; so the
entity can be read off from the text. -/
theorem takeWhile_of_strip (hcolon : ':' ∉ entity) (hqualified : separator <:+: qualified)
    (h : strip entity qualified = .ok field) : qualified.takeWhile (· ≠ ':') = entity := by
  rcases strip_eq_ok_iff.1 h with ⟨hunqualified, -⟩ | ⟨rfl, -, -⟩
  · exact absurd hqualified hunqualified
  · have hentity : ∀ c ∈ entity, decide (c ≠ ':') = true := by
      intro c hc
      exact decide_eq_true fun heq => hcolon (heq ▸ hc)
    have hseparator : (separator ++ field).takeWhile (· ≠ ':') = [] := rfl
    rw [List.append_assoc, List.takeWhile_append_of_pos hentity, hseparator, List.append_nil]

/-- **Stripping undoes qualifying and takes no entity for another.** A field without the separator
is what is left of it behind any entity, and of itself. What is left of a text is the text, if it
has no separator, or else a field that stands in it behind the entity and the separator, is not
empty and has no separator; of every other text the error names the entity and the text. What is
left is left as it is by any entity. Of two entities without colons no text with a separator is a
field of both, also if one begins with the other. -/
theorem strip_qualified :
    (∀ entity field : Text, field ≠ [] → ¬ separator <:+: field →
      strip entity (entity ++ separator ++ field) = .ok field ∧ strip entity field = .ok field) ∧
    (∀ entity qualified field : Text, strip entity qualified = .ok field ↔
      (¬ separator <:+: qualified ∧ field = qualified) ∨
        (qualified = entity ++ separator ++ field ∧ field ≠ [] ∧ ¬ separator <:+: field)) ∧
    (∀ (entity qualified : Text) (e : SqlError), strip entity qualified = .error e ↔
      e = .unknownField entity qualified ∧ ¬ ∃ field, strip entity qualified = .ok field) ∧
    (∀ entity other qualified field : Text, strip entity qualified = .ok field →
      strip other field = .ok field) ∧
    ∀ one two qualified : Text, one ≠ two → ':' ∉ one → ':' ∉ two → separator <:+: qualified →
      ¬ ((∃ field, strip one qualified = .ok field) ∧
        ∃ field, strip two qualified = .ok field) := by
  refine ⟨fun entity field hne hplain => ⟨?_, strip_of_unqualified hplain⟩,
    fun entity qualified field => strip_eq_ok_iff, fun entity qualified e => ?_,
    fun entity other qualified field h => strip_of_unqualified (not_infix_of_strip h), ?_⟩
  · exact strip_eq_ok_iff.2 (Or.inr ⟨rfl, hne, hplain⟩)
  · constructor
    · intro h
      refine ⟨eq_unknownField_of_strip h, ?_⟩
      rintro ⟨field, hfield⟩
      rw [h] at hfield
      cases hfield
    · rintro ⟨rfl, hnone⟩
      cases h : strip entity qualified with
      | ok field => exact absurd ⟨field, h⟩ hnone
      | error e => rw [eq_unknownField_of_strip h]
  · -- both entities would be what the text begins with up to its first colon
    rintro one two qualified hne hone htwo hqualified ⟨⟨field, hfield⟩, found, hfound⟩
    refine hne ?_
    rw [← takeWhile_of_strip hone hqualified hfield, takeWhile_of_strip htwo hqualified hfound]

/-- Three colons in a row behind an entity, with a field that begins with one, and behind an entity
that begins with another. -/
theorem strip_qualified_colons :
    strip "a".toList "a:::b".toList = .ok ":b".toList ∧
      strip "c::d".toList ":b".toList = .ok ":b".toList ∧
      ¬ ((∃ field, strip "User".toList "Users::id".toList = .ok field) ∧
        ∃ field, strip "Users".toList "Users::id".toList = .ok field) := by
  obtain ⟨hundone, -, -, hagain, hapart⟩ := strip_qualified
  have hplain : ¬ separator <:+: ":b".toList := Text.includes_iff.not.1 (by decide)
  have hcolons := (hundone "a".toList ":b".toList (by decide) hplain).1
  refine ⟨hcolons, hagain _ _ _ _ hcolons, ?_⟩
  exact hapart _ _ _ (by decide) (by decide) (by decide) (Text.includes_iff.1 (by decide))

end RecordSql.FieldPath
