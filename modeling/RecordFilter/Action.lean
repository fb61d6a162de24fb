import RecordFilter.Payload
import RecordFilter.Wire.Filter

/-!
# Actions

What the views ask of the editor, and what the editor tells them.
-/

namespace RecordFilter

/-- A request to the editor or a notification from it. -/
inductive Action where
  /-- Append a blank condition to a group. -/
  | addCondition (group : Path)
  /-- Append a group that holds one blank condition. -/
  | addGroup (group : Path) (conjunction : Conjunction)
  | removeItem (path : Path)
  | setConjunction (group : Path) (conjunction : Conjunction)
  /-- Choose the field of a condition; operator and value start anew. -/
  | setField (path : Path) (fieldName : String)
  | setOperator (path : Path) (operator : Operator)
  | setValue (path : Path) (value : Value)
  /-- Set the value of a condition to what a text means under its operator. -/
  | setValueInput (path : Path) (input : String)
  | setSimpleFilter (fieldName : String) (operator : Operator) (value : Value)
  | removeSimpleFilter (fieldName : String)
  | setTags (tags : List String)
  | switchMode (mode : Mode)
  | applyFilters
  | discardFilters
  | clearFilters
  /-- The list has been given a payload. -/
  | filtersApplied (payload : Payload)
  /-- A request was refused, for the reason that is shown. -/
  | error (message : String)
  deriving DecidableEq

end RecordFilter
