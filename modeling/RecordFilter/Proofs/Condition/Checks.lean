import RecordFilter.Proofs.Condition

/-!
# What is asked of a condition

A condition is asked for a field with a name, for an operator, for a value of the operator's shape,
and for content of that value, in this order.  `Condition.Passes` says that a condition has all of
it, and `Condition.Fails` what it lacks first.  The search for a problem answers by the two
(`problem?_eq_none_iff_passes`, `problem?_eq_some_iff_fails`).
-/

namespace RecordFilter

namespace Value

/-- A value has content: a text or one of the items of a list is more than blanks, and a range has
both bounds. -/
def HasContent : Value → Prop
  | .text s => Text.isBlankText s = false
  | .list items => ∃ item ∈ items, Text.isBlankText item = false
  | .range first last => Text.isBlankText first = false ∧ Text.isBlankText last = false
  | .timespan _ => True
  | .presence _ => True

/-- What a value lacks that has no content. -/
inductive Lacks : Value → Problem → Prop
  | text {s : String} (h : Text.isBlankText s = true) : Lacks (.text s) .emptyValue
  | items {items : List String} (h : ∀ item ∈ items, Text.isBlankText item = true) :
    Lacks (.list items) .emptyValue
  | bound {first last : String}
      (h : Text.isBlankText first = true ∨ Text.isBlankText last = true) :
    Lacks (.range first last) .incompleteRange

/-- A value has no problem if it has content. -/
lemma problem?_eq_none_iff_hasContent {value : Value} :
    value.problem? = none ↔ value.HasContent := by
  cases value with
  | text s => simp [problem?, HasContent]
  | range first last => simp [problem?, HasContent]
  | list items => simp [problem?, HasContent]
  | timespan span => simp [problem?, HasContent]
  | presence mark => simp [problem?, HasContent]

/-- The problem of a value is what it lacks. -/
lemma problem?_eq_some_iff_lacks {value : Value} {problem : Problem} :
    value.problem? = some problem ↔ value.Lacks problem := by
  constructor
  · intro h
    cases value with
    | text s =>
      obtain ⟨hblank, rfl⟩ : Text.isBlankText s = true ∧ .emptyValue = problem := by
        simpa [problem?] using h
      exact .text hblank
    | range first last =>
      obtain ⟨hblank, rfl⟩ : (Text.isBlankText first = true ∨ Text.isBlankText last = true) ∧
          .incompleteRange = problem := by
        simpa [problem?] using h
      exact .bound hblank
    | list items =>
      obtain ⟨hblank, rfl⟩ : (∀ item ∈ items, Text.isBlankText item = true) ∧
          .emptyValue = problem := by
        simpa [problem?] using h
      exact .items hblank
    | timespan span => simp [problem?] at h
    | presence mark => simp [problem?] at h
  · intro h
    cases h with
    | text h => simp [problem?, h]
    | items h => simpa [problem?] using h
    | bound h => simp [problem?, h]

end Value

namespace Condition

/-- A condition has a field with a name. -/
def IsNamed (c : Condition) : Prop :=
  ∃ field, c.field = some field ∧ Text.isBlankText field.name = false

/-- A condition has an operator, and a value of its shape. -/
def IsShaped (c : Condition) : Prop :=
  ∃ op, c.operator = some op ∧ c.value.shape = op.shape

/-- A condition has all that is asked for. -/
structure Passes (c : Condition) : Prop where
  named : c.IsNamed
  shaped : c.IsShaped
  content : c.value.HasContent

/-- The first of what is asked for that a condition does not have. -/
inductive Fails (c : Condition) : Problem → Prop
  | field (h : ¬c.IsNamed) : Fails c .missingField
  | operator (hnamed : c.IsNamed) (h : c.operator = none) : Fails c .missingOperator
  | shape {op : Operator} (hnamed : c.IsNamed) (hop : c.operator = some op)
      (h : c.value.shape ≠ op.shape) : Fails c (.wrongShape op.shape)
  | value {problem : Problem} (hnamed : c.IsNamed) (hshaped : c.IsShaped)
      (h : c.value.Lacks problem) : Fails c problem

/-- A condition has a field with a name if the name that is looked at is not blank. -/
lemma isBlankText_fieldName_eq_false_iff {c : Condition} :
    Text.isBlankText c.fieldName = false ↔ c.IsNamed := by
  have hempty : Text.isBlankText "" = true := by decide
  rw [fieldName, IsNamed]
  cases c.field with
  | none => simp [hempty]
  | some field => simp

/-- A condition has no problem if it has all that is asked for. -/
theorem problem?_eq_none_iff_passes {c : Condition} : c.problem? = none ↔ c.Passes := by
  rw [problem?_eq_none_iff]
  constructor
  · rintro ⟨field, op, hfield, hop, hname, hshape, hvalue⟩
    exact ⟨⟨field, hfield, hname⟩, ⟨op, hop, hshape⟩,
      Value.problem?_eq_none_iff_hasContent.1 hvalue⟩
  · rintro ⟨⟨field, hfield, hname⟩, ⟨op, hop, hshape⟩, hcontent⟩
    exact ⟨field, op, hfield, hop, hname, hshape,
      Value.problem?_eq_none_iff_hasContent.2 hcontent⟩

/-- The field is asked for first. -/
lemma problem?_of_not_isNamed {c : Condition} (h : ¬c.IsNamed) :
    c.problem? = some .missingField := by
  have hname : Text.isBlankText c.fieldName = true := by
    rw [← Bool.not_eq_false, isBlankText_fieldName_eq_false_iff]
    exact h
  rw [problem?, if_pos hname]

/-- The operator is asked for next. -/
lemma problem?_of_operator_eq_none {c : Condition} (hnamed : c.IsNamed) (hop : c.operator = none) :
    c.problem? = some .missingOperator := by
  rw [problem?, isBlankText_fieldName_eq_false_iff.2 hnamed, if_neg Bool.false_ne_true, hop]

/-- The value is asked for its shape, and then for its content. -/
lemma problem?_of_operator_eq_some {c : Condition} {op : Operator} (hnamed : c.IsNamed)
    (hop : c.operator = some op) :
    c.problem? =
      if c.value.shape = op.shape then c.value.problem? else some (.wrongShape op.shape) := by
  rw [problem?, isBlankText_fieldName_eq_false_iff.2 hnamed, if_neg Bool.false_ne_true, hop]

/-- The problem of a condition is the first of what is asked for that it does not have. -/
theorem problem?_eq_some_iff_fails {c : Condition} {problem : Problem} :
    c.problem? = some problem ↔ c.Fails problem := by
  constructor
  · intro h
    by_cases hnamed : c.IsNamed
    · cases hop : c.operator with
      | none =>
        rw [problem?_of_operator_eq_none hnamed hop] at h
        obtain rfl := Option.some.inj h
        exact .operator hnamed hop
      | some op =>
        rw [problem?_of_operator_eq_some hnamed hop] at h
        split_ifs at h with hshape
        · exact .value hnamed ⟨op, hop, hshape⟩ (Value.problem?_eq_some_iff_lacks.1 h)
        · obtain rfl := Option.some.inj h
          exact .shape hnamed hop hshape
    · rw [problem?_of_not_isNamed hnamed] at h
      obtain rfl := Option.some.inj h
      exact .field hnamed
  · rintro (h | ⟨hnamed, hop⟩ | ⟨hnamed, hop, hshape⟩ | ⟨hnamed, ⟨op, hop, hshape⟩, h⟩)
    · exact problem?_of_not_isNamed h
    · exact problem?_of_operator_eq_none hnamed hop
    · rw [problem?_of_operator_eq_some hnamed hop, if_neg hshape]
    · rw [problem?_of_operator_eq_some hnamed hop, if_pos hshape]
      exact Value.problem?_eq_some_iff_lacks.2 h

end Condition

end RecordFilter
