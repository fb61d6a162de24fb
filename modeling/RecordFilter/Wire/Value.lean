import RecordFilter.Json.Printer
import RecordFilter.Offer

/-!
# Values on the wire

How the value of a condition is sent to the server and read back.  The text of a pattern
operator is sent between wildcards unless it has one already; the labels of a boolean field are
sent as one and zero.  The server may answer with other JSON values than it was sent: any scalar
is read as a text, a text as a list or a range.
-/

namespace RecordFilter

namespace Json

/-- The text of a scalar: a string as it is, a number or a truth value as it is written, null as
the empty text. -/
def scalarText? : Json → Option String
  | .string s => some s
  | .number n => some n.text
  | .bool true => some "true"
  | .bool false => some "false"
  | .null => some ""
  | .array _ => none
  | .object _ => none

/-- The texts of some scalars. -/
def scalarTexts? : List Json → Option (List String)
  | [] => some []
  | item :: rest =>
    match item.scalarText?, scalarTexts? rest with
    | some text, some texts => some (text :: texts)
    | _, _ => none

end Json

namespace Wildcard

/-- The pattern of the texts that contain a given one.  A text that has a wildcard already is a
pattern of its own. -/
def wrap (s : String) : String :=
  if s.toList.contains '%' then s else "%" ++ s ++ "%"

/-- The text without one wildcard at each end, if both ends have one. -/
def strip (s : String) : String :=
  match s.toList with
  | '%' :: rest =>
    if rest.getLast? = some '%' then String.ofList rest.dropLast else s
  | _ => s

end Wildcard

/-- Why a JSON value cannot be read as the value of a condition or as a filter entry. -/
inductive ValueFault where
  | notAScalar
  | notAList
  | listItemNotAScalar
  | notARange
  | boundNotAScalar
  | boundMissing
  | unknownTimespan
  | unknownPresence
  | notAPair (raw : Json)
  deriving DecidableEq, Repr

/-- What is said about a value that cannot be read. -/
def ValueFault.message : ValueFault → String
  | .notAScalar => "expected a scalar"
  | .notAList => "expected a list"
  | .listItemNotAScalar => "list items must be scalars"
  | .notARange => "expected a two item range"
  | .boundNotAScalar => "range bounds must be scalars"
  | .boundMissing => "expected two comma separated bounds"
  | .unknownTimespan => "unknown timespan"
  | .unknownPresence => "expected \"set\" or \"not set\""
  | .notAPair raw => "expected [operator, value], got " ++ raw.text

namespace Settings

/-- The text of a condition as it is sent. -/
def encodeText (s : Settings) (kind : FieldKind) (op : Operator) (text : String) : Json :=
  if op.isLike then .string (Wildcard.wrap text)
  else if kind = .boolean ∧ text = s.yesLabel then .ofInt 1
  else if kind = .boolean ∧ text = s.noLabel then .ofInt 0
  else .string text

/-- The value of a condition as it is sent. -/
def encodeValue (s : Settings) (field : Field) (op : Operator) : Value → Json
  | .text text => s.encodeText field.kind op text
  | .range first last => .array [.string first, .string last]
  | .list items => Json.ofStrings items
  | .timespan span => .string (Vocabulary.token span)
  | .presence presence => .string (Vocabulary.token presence)

/-- The label of a boolean field for a text that says yes or no to a computer; any other text is
kept. -/
def booleanLabel (s : Settings) (text : String) : String :=
  let lower := Text.lowerAscii text
  if lower = "1" ∨ lower = "true" then s.yesLabel
  else if lower = "0" ∨ lower = "false" then s.noLabel
  else text

/-- The text that is meant by a text from the server. -/
def decodeText (s : Settings) (kind : FieldKind) (op : Operator) (text : String) : String :=
  if op.isLike then Wildcard.strip text
  else if kind = .boolean then s.booleanLabel text
  else text

end Settings

namespace Value

/-- The list that is meant by a JSON value. -/
def listOfJson : Json → Except ValueFault Value
  | .array items =>
    match Json.scalarTexts? items with
    | some texts => .ok (.list texts)
    | none => .error .listItemNotAScalar
  | .string s => .ok (.list (Text.splitList s))
  | _ => .error .notAList

/-- The range that is meant by a JSON value. -/
def rangeOfJson : Json → Except ValueFault Value
  | .array [first, last] =>
    match first.scalarText?, last.scalarText? with
    | some first, some last => .ok (.range first last)
    | _, _ => .error .boundNotAScalar
  | .string s =>
    match Text.cut? ',' s with
    | some (first, last) => .ok (.range (Text.trim first) (Text.trim last))
    | none => .error .boundMissing
  | _ => .error .notARange

/-- The span of time that is meant by a JSON value. -/
def timespanOfJson (raw : Json) : Except ValueFault Value :=
  match raw.string?.bind Vocabulary.ofTokenLoosely? with
  | some span => .ok (.timespan span)
  | none => .error .unknownTimespan

/-- The presence that is meant by a JSON value. -/
def presenceOfJson (raw : Json) : Except ValueFault Value :=
  match raw.string?.bind Vocabulary.ofTokenLoosely? with
  | some mark => .ok (.presence mark)
  | none => .error .unknownPresence

end Value

namespace Settings

/-- The value that is meant by a JSON value from the server, of the shape that the operator
takes. -/
def decodeValue (s : Settings) (field : Field) (op : Operator) (raw : Json) :
    Except ValueFault Value :=
  match op.shape with
  | .scalar =>
    match raw.scalarText? with
    | some text => .ok (.text (s.decodeText field.kind op text))
    | none => .error .notAScalar
  | .list => Value.listOfJson raw
  | .range => Value.rangeOfJson raw
  | .timespan => Value.timespanOfJson raw
  | .presence => Value.presenceOfJson raw

end Settings

end RecordFilter
