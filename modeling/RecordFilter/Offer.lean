import RecordFilter.Settings
import RecordFilter.Value

/-!
# What a field offers

The operators that a field offers, the operator and value it starts with, and the control that
edits its value.  The field that holds the assignees offers fewer operators than its kind does.
-/

namespace RecordFilter

/-- A control that edits the value of a condition. -/
inductive Widget where
  | text
  | number
  | select (choices : List String)
  | booleanSelect (yes no : String)
  | date
  | dateRange
  | timespanSelect (choices : List String)
  | rating
  deriving DecidableEq, Repr

namespace FieldKind

/-- The operators that fields of a kind offer, in display order. -/
def operators : FieldKind → List Operator
  | .boolean => [.equals]
  | .singleSelect => [.equals, .notEquals, .isIn, .notIn, .is]
  | .link | .dynamicLink | .text | .longText | .duration =>
    [.equals, .notEquals, .like, .notLike, .isIn, .notIn, .is]
  | .numeric =>
    [.equals, .notEquals, .like, .notLike, .isIn, .notIn, .is, .lessThan, .greaterThan,
     .lessOrEqual, .greaterOrEqual]
  | .date | .datetime =>
    [.equals, .notEquals, .is, .lessThan, .greaterThan, .lessOrEqual, .greaterOrEqual, .between,
     .timespan]
  | .rating =>
    [.equals, .notEquals, .is, .lessThan, .greaterThan, .lessOrEqual, .greaterOrEqual]

end FieldKind

namespace Settings

/-- The operators that a field offers, in display order. -/
def operatorsFor (s : Settings) (field : Field) : List Operator :=
  if field.name = s.assigneeField then [.like, .notLike, .is] else field.kind.operators

/-- Whether a field offers an operator. -/
def offers (s : Settings) (field : Field) (op : Operator) : Bool :=
  (s.operatorsFor field).contains op

/-- The operator that a field starts with. -/
def defaultOperator (s : Settings) (field : Field) : Operator :=
  if field.name = s.assigneeField then .like
  else if field.kind.isDate then .between
  else .equals

/-- The value that a field of a kind starts with. -/
def defaultValue (s : Settings) (field : Field) : Value :=
  match field.kind with
  | .boolean => .text s.yesLabel
  | .singleSelect => .text (field.options.head?.getD "")
  | .date | .datetime => .range "" ""
  | _ => Value.blank

/-- The operator and the value that a field starts with.  Where the value of the kind does not
fit the operator, the operator's empty value takes its place. -/
def defaultsFor (s : Settings) (field : Field) : Operator × Value :=
  let op := s.defaultOperator field
  let value := s.defaultValue field
  if value.shape = op.shape then (op, value) else (op, Value.emptyFor op)

/-- The control for the values of a field without regard to the operator. -/
def fieldWidget (s : Settings) (field : Field) : Widget :=
  match field.kind with
  | .boolean => .booleanSelect s.yesLabel s.noLabel
  | .singleSelect => .select field.options
  | .numeric => .number
  | .date | .datetime => .date
  | .rating => .rating
  | .link | .dynamicLink | .text | .longText | .duration => .text

/-- The control for the value of a condition on a field. -/
def widget (s : Settings) (field : Field) (op : Operator) : Widget :=
  match op with
  | .is => .select (Vocabulary.tokens Presence)
  | .timespan => .timespanSelect (Vocabulary.tokens Timespan)
  | .like | .notLike | .isIn | .notIn => .text
  | .between => .dateRange
  | _ => s.fieldWidget field

end Settings

end RecordFilter
