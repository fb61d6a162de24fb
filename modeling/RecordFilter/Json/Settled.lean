import RecordFilter.Json.Basic
import RecordFilter.Ordered

/-!
# Repeated keys

A text may repeat a key in an object; the value that it stands for has every key once, in its
first place and with its last value.
-/

namespace RecordFilter.Json

mutual

/-- The value with every key of every object once. -/
def settled : Json → Json
  | .null => .null
  | .bool b => .bool b
  | .number n => .number n
  | .string s => .string s
  | .array items => .array (settledItems items)
  | .object members => .object (Ordered.ofList (settledMembers members))

/-- The items, each with every key once. -/
def settledItems : List Json → List Json
  | [] => []
  | item :: rest => settled item :: settledItems rest

/-- The members, each value with every key once. -/
def settledMembers : List (String × Json) → List (String × Json)
  | [] => []
  | (key, value) :: rest => (key, settled value) :: settledMembers rest

end

end RecordFilter.Json
