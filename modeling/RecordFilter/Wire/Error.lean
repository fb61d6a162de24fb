import RecordFilter.SimpleFilters
import RecordFilter.Text.Quoted
import RecordFilter.Wire.Value

/-!
# Errors between trees and payloads

Why a tree cannot be sent, or a payload cannot be read.
-/

namespace RecordFilter

/-- Why a JSON value is not a condition list. -/
inductive ListFault where
  /-- The text is not JSON. -/
  | notJson
  | notAList (raw : Json)
  | unknownConjunction (word : String)
  | unexpectedItem (raw : Json)
  deriving DecidableEq, Repr

/-- What is said about a condition list that cannot be read. -/
def ListFault.message : ListFault → String
  | .notJson => "not a JSON text"
  | .notAList raw => "expected a list, got " ++ raw.text
  | .unknownConjunction word => "unknown conjunction " ++ Text.quoted word
  | .unexpectedItem raw => "unexpected item " ++ raw.text

/-- Why a tree cannot be sent or a payload cannot be read. -/
inductive WireError where
  | invalid (defect : Defect)
  | notSimple (reason : NotSimple)
  | unknownOperator (field token : String)
  | malformedValue (field : String) (fault : ValueFault)
  | malformedConditions (fault : ListFault)
  | malformedPayload (raw : Json)
  deriving DecidableEq, Repr

/-- What the user is told. -/
def WireError.message : WireError → String
  | .invalid defect => defect.message
  | .notSimple reason => reason.message
  | .unknownOperator field token =>
    "unknown operator " ++ Text.quoted token ++ " for field " ++ field
  | .malformedValue field fault =>
    "malformed value for field " ++ field ++ ": " ++ fault.message
  | .malformedConditions fault => "malformed condition list: " ++ fault.message
  | .malformedPayload raw => "malformed payload: expected an object, got " ++ raw.text

/-- Reads the value of a condition on a field. -/
def Settings.readValue (s : Settings) (field : Field) (op : Operator) (raw : Json) :
    Except WireError Value :=
  (s.decodeValue field op raw).mapError (.malformedValue field.name)

end RecordFilter
