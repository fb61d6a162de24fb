import Mathlib.Tactic.Common
import RecordFilter.Offer

/-!
# What a field starts with

The operators that a field offers, the operator it starts with and the value it starts with are laid
down apart from each other, and the field of the assignees is an exception among the operators, but
not among the values.  They fit together for every field: it offers the operator that it starts with
(`offers_defaultsFor`), and the value has the shape that this operator takes (`shape_defaultsFor`).
-/

namespace RecordFilter

/-- The value to start from under an operator has the shape that the operator takes. -/
lemma Value.shape_emptyFor (op : Operator) : (emptyFor op).shape = op.shape := by
  unfold emptyFor
  cases op.shape <;> rfl

namespace FieldKind

/-- Fields of a kind whose values are dates offer ranges. -/
lemma between_mem_operators {kind : FieldKind} (h : kind.isDate = true) :
    Operator.between ∈ kind.operators := by
  cases kind with
  | date => decide
  | datetime => decide
  | _ => simp [isDate] at h

/-- Fields of every kind can be compared for equality. -/
lemma equals_mem_operators (kind : FieldKind) : Operator.equals ∈ kind.operators := by
  cases kind <;> decide

end FieldKind

namespace Settings

variable {s : Settings} {field : Field} {op : Operator}

/-- A field offers the operators that are listed for it. -/
lemma offers_iff : s.offers field op = true ↔ op ∈ s.operatorsFor field := by
  rw [offers, List.contains_iff_mem]

/-- A field offers the operator that it starts with. -/
theorem offers_defaultOperator (s : Settings) (field : Field) :
    s.offers field (s.defaultOperator field) = true := by
  rw [offers_iff, operatorsFor, defaultOperator]
  split_ifs with hassignee hdate
  · decide
  · exact FieldKind.between_mem_operators hdate
  · exact field.kind.equals_mem_operators

/-- The operator that a field starts with does not depend on its value. -/
lemma fst_defaultsFor (s : Settings) (field : Field) :
    (s.defaultsFor field).1 = s.defaultOperator field := by
  rw [defaultsFor]
  split_ifs <;> rfl

/-- A field offers the operator of its defaults. -/
lemma offers_defaultsFor (s : Settings) (field : Field) :
    s.offers field (s.defaultsFor field).1 = true := by
  rw [fst_defaultsFor]
  exact s.offers_defaultOperator field

/-- The value that a field starts with has the shape that its operator takes. -/
theorem shape_defaultsFor (s : Settings) (field : Field) :
    (s.defaultsFor field).2.shape = (s.defaultsFor field).1.shape := by
  rw [defaultsFor]
  split_ifs with hshape
  · exact hshape
  · exact Value.shape_emptyFor _

end Settings

end RecordFilter
