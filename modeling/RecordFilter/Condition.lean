import RecordFilter.Field
import RecordFilter.Value

/-!
# Conditions

A condition compares a field with a value.  A condition that has just been added has neither
field nor operator; it is edited in place, and `Condition.problem?` says what is still missing.
-/

namespace RecordFilter

/-- A condition on one field, possibly not yet complete. -/
structure Condition where
  field : Option Field
  operator : Option Operator
  value : Value
  deriving DecidableEq, Repr

/-- What keeps a condition or a group from being applied. -/
inductive Problem where
  | emptyGroup
  | missingField
  | missingOperator
  | wrongShape (expected : Shape)
  | emptyValue
  | incompleteRange
  deriving DecidableEq, Repr

namespace Condition

/-- The condition with a field, an operator and a value. -/
def complete (field : Field) (op : Operator) (value : Value) : Condition :=
  ⟨some field, some op, value⟩

/-- The condition as it is added. -/
def blank : Condition :=
  ⟨none, none, Value.blank⟩

instance : Inhabited Condition := ⟨blank⟩

/-- The name of the field, empty if there is none. -/
def fieldName (c : Condition) : String :=
  (c.field.map Field.name).getD ""

/-- The condition in one line; what is missing is shown in angle brackets. -/
def summary (c : Condition) : String :=
  let field := (c.field.map Field.label).getD "<field>"
  match c.operator with
  | some op => field ++ " " ++ Vocabulary.token op ++ " " ++ c.value.display
  | none => field ++ " <operator>"

end Condition

namespace Value

/-- What is wrong with a value of the right shape: a text or a list without anything but blanks,
or a range that lacks a bound. -/
def problem? : Value → Option Problem
  | .text s => if Text.isBlankText s then some .emptyValue else none
  | .list items => if items.all Text.isBlankText then some .emptyValue else none
  | .range first last =>
    if Text.isBlankText first || Text.isBlankText last then some .incompleteRange else none
  | .timespan _ => none
  | .presence _ => none

end Value

namespace Condition

/-- The first problem of a condition: a field, an operator, a value of the operator's shape and
something in that value are asked for in this order. -/
def problem? (c : Condition) : Option Problem :=
  if Text.isBlankText c.fieldName then some .missingField
  else
    match c.operator with
    | none => some .missingOperator
    | some op =>
      if c.value.shape = op.shape then c.value.problem? else some (.wrongShape op.shape)

end Condition

end RecordFilter
