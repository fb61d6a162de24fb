import RecordFilter.Vocabulary

/-!
# Operators

The operators of filter conditions.  Each has a name that is shown, a token that the server
expects, and a shape that its value must have.
-/

namespace RecordFilter

/-- The shape of a condition's value. -/
inductive Shape where
  | scalar
  | range
  | list
  | timespan
  | presence
  deriving DecidableEq, Repr

instance : Vocabulary Shape where
  all := [.scalar, .range, .list, .timespan, .presence]
  token
    | .scalar => "Scalar"
    | .range => "Range"
    | .list => "List"
    | .timespan => "Timespan"
    | .presence => "Presence"

/-- An operator of a condition. -/
inductive Operator where
  | equals
  | notEquals
  | like
  | notLike
  | isIn
  | notIn
  | is
  | lessThan
  | greaterThan
  | lessOrEqual
  | greaterOrEqual
  | between
  | timespan
  deriving DecidableEq, Repr

namespace Operator

/-- Operators are shown by these names. -/
instance : Vocabulary Operator where
  all := [.equals, .notEquals, .like, .notLike, .isIn, .notIn, .is, .lessThan, .greaterThan,
    .lessOrEqual, .greaterOrEqual, .between, .timespan]
  token
    | .equals => "equals"
    | .notEquals => "not equals"
    | .like => "like"
    | .notLike => "not like"
    | .isIn => "in"
    | .notIn => "not in"
    | .is => "is"
    | .lessThan => "<"
    | .greaterThan => ">"
    | .lessOrEqual => "<="
    | .greaterOrEqual => ">="
    | .between => "between"
    | .timespan => "timespan"

/-- The token that the server expects. -/
def wireToken : Operator → String
  | .equals => "="
  | .notEquals => "!="
  | .like => "LIKE"
  | .notLike => "NOT LIKE"
  | .isIn => "in"
  | .notIn => "not in"
  | .is => "is"
  | .lessThan => "<"
  | .greaterThan => ">"
  | .lessOrEqual => "<="
  | .greaterOrEqual => ">="
  | .between => "between"
  | .timespan => "timespan"

/-- The operator of a token without capitals and blanks around it; some operators have more than
one token. -/
def ofLowerToken? : String → Option Operator
  | "=" | "==" | "equals" => some .equals
  | "!=" | "not equals" => some .notEquals
  | "like" => some .like
  | "not like" => some .notLike
  | "in" => some .isIn
  | "not in" | "not_in" => some .notIn
  | "is" => some .is
  | "<" => some .lessThan
  | ">" => some .greaterThan
  | "<=" => some .lessOrEqual
  | ">=" => some .greaterOrEqual
  | "between" => some .between
  | "timespan" => some .timespan
  | _ => none

/-- The operator of a token from the server, whatever the case of its ASCII letters and the
blanks around it. -/
def ofWireToken? (s : String) : Option Operator :=
  ofLowerToken? (Text.lowerAscii (Text.trim s))

/-- The shape of the values that an operator takes. -/
def shape : Operator → Shape
  | .isIn | .notIn => .list
  | .between => .range
  | .timespan => .timespan
  | .is => .presence
  | _ => .scalar

/-- Whether an operator compares with a pattern. -/
def isLike : Operator → Bool
  | .like | .notLike => true
  | _ => false

end Operator

end RecordFilter
