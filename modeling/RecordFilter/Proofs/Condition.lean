import Mathlib.Tactic.Common
import RecordFilter.Catalog
import RecordFilter.Condition

/-!
# Complete conditions and their fields

When a condition has no problem, and when its field is the one that a catalog has for its name.
-/

namespace RecordFilter

/-- A condition has no problem if it has a field with a name, and an operator whose shape its
value has without a problem of its own. -/
lemma Condition.problem?_eq_none_iff {c : Condition} :
    c.problem? = none ↔
      ∃ field op, c.field = some field ∧ c.operator = some op ∧
        Text.isBlankText field.name = false ∧ c.value.shape = op.shape ∧
          c.value.problem? = none := by
  obtain ⟨field, operator, value⟩ := c
  have hblank : Text.isBlankText "" = true := by decide
  cases field with
  | none => simp [problem?, fieldName, hblank]
  | some field =>
    by_cases hname : Text.isBlankText field.name = true
    · simp [problem?, fieldName, hname]
    · cases operator with
      | none => simp [problem?, fieldName, hname]
      | some op => by_cases hshape : value.shape = op.shape <;>
          simp [problem?, fieldName, hname, hshape]

/-- The name of the field of a condition that has one. -/
lemma Condition.fieldName_complete (field : Field) (op : Operator) (value : Value) :
    (complete field op value).fieldName = field.name := rfl

/-- The field that a condition has, if it has one, is the one that a catalog has for its name. -/
def Catalog.Resolved (catalog : Catalog) (c : Condition) : Prop :=
  ∀ field, c.field = some field → catalog.resolve field.name = field

/-- The field that a catalog lists under a name has that name. -/
lemma Catalog.name_of_get? {c : Catalog} {name : String} {field : Field}
    (h : c.get? name = some field) : field.name = name := by
  have hnamed := List.find?_some h
  exact of_decide_eq_true hnamed

/-- The field that a catalog has for a name has that name. -/
lemma Catalog.name_resolve (catalog : Catalog) (name : String) :
    (catalog.resolve name).name = name := by
  rw [resolve]
  cases hfield : catalog.get? name with
  | none => rfl
  | some field => exact name_of_get? hfield

end RecordFilter
