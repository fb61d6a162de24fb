import RecordFilter.Operator

/-!
# Values

The values of filter conditions: a text, a range with two bounds, a list of texts, or a token of
one of the two fixed vocabularies.  A value has a shape, which ought to be the one that the
operator of its condition takes; the types do not enforce it, since a condition is edited in
steps.
-/

namespace RecordFilter

/-- A span of time relative to today. -/
inductive Timespan where
  | today
  | yesterday
  | tomorrow
  | thisWeek
  | thisMonth
  | thisQuarter
  | thisYear
  | lastWeek
  | lastMonth
  | lastQuarter
  | lastYear
  | nextWeek
  | nextMonth
  | nextQuarter
  | nextYear
  | lastSixMonths
  | nextSixMonths
  deriving DecidableEq, Repr

instance : Vocabulary Timespan where
  all := [.today, .yesterday, .tomorrow, .thisWeek, .thisMonth, .thisQuarter, .thisYear,
    .lastWeek, .lastMonth, .lastQuarter, .lastYear, .nextWeek, .nextMonth, .nextQuarter,
    .nextYear, .lastSixMonths, .nextSixMonths]
  token
    | .today => "today"
    | .yesterday => "yesterday"
    | .tomorrow => "tomorrow"
    | .thisWeek => "this week"
    | .thisMonth => "this month"
    | .thisQuarter => "this quarter"
    | .thisYear => "this year"
    | .lastWeek => "last week"
    | .lastMonth => "last month"
    | .lastQuarter => "last quarter"
    | .lastYear => "last year"
    | .nextWeek => "next week"
    | .nextMonth => "next month"
    | .nextQuarter => "next quarter"
    | .nextYear => "next year"
    | .lastSixMonths => "last 6 months"
    | .nextSixMonths => "next 6 months"

/-- Whether a field has a value. -/
inductive Presence where
  | set
  | notSet
  deriving DecidableEq, Repr

instance : Vocabulary Presence where
  all := [.set, .notSet]
  token
    | .set => "set"
    | .notSet => "not set"

/-- The value of a condition. -/
inductive Value where
  | text (text : String)
  | range (first last : String)
  | list (items : List String)
  | timespan (span : Timespan)
  | presence (presence : Presence)
  deriving DecidableEq, Repr

namespace Value

/-- The empty text, the value of a condition that has not been edited. -/
def blank : Value := .text ""

instance : Inhabited Value := ⟨blank⟩

/-- The shape of a value. -/
def shape : Value → Shape
  | .text _ => .scalar
  | .range _ _ => .range
  | .list _ => .list
  | .timespan _ => .timespan
  | .presence _ => .presence

/-- The value to start from under an operator. -/
def emptyFor (op : Operator) : Value :=
  match op.shape with
  | .scalar => .text ""
  | .range => .range "" ""
  | .list => .list []
  | .timespan => .timespan .today
  | .presence => .presence .set

/-- The two bounds that a text gives, separated by a comma; without a comma the second bound is
empty. -/
def rangeOf (raw : String) : Value :=
  match Text.cut? ',' raw with
  | some (first, last) => .range (Text.trim first) (Text.trim last)
  | none => .range (Text.trim raw) ""

/-- The value that a text typed by the user means under an operator.  A text that is no token of
the operator's vocabulary is kept as a text, so that it is found to have the wrong shape. -/
def ofInput (op : Operator) (raw : String) : Value :=
  match op.shape with
  | .scalar => .text raw
  | .list => .list (Text.splitList raw)
  | .range => rangeOf raw
  | .timespan => ((Vocabulary.ofTokenLoosely? raw).map .timespan).getD (.text raw)
  | .presence => ((Vocabulary.ofTokenLoosely? raw).map .presence).getD (.text raw)

/-- The value as it is shown; a list of more than three items is cut short. -/
def display : Value → String
  | .text s => "\"" ++ s ++ "\""
  | .range first last => first ++ " and " ++ last
  | .list items =>
    match items with
    | first :: second :: _ :: _ :: _ =>
      "[" ++ first ++ ", " ++ second ++ "... (" ++ toString items.length ++ " total)]"
    | _ => "[" ++ Text.join ", " items ++ "]"
  | .timespan span => Vocabulary.token span
  | .presence mark => Vocabulary.token mark

end Value

end RecordFilter
