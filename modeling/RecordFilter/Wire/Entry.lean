import RecordFilter.Payload
import RecordFilter.Wire.Error

/-!
# Simple filters on the wire

A simple filter is an entry of a payload under the name of its field.  A filter with the
operator "equals" is the bare value; any other filter is the pair of the operator's token and
the value.  What is not the filter of a field is kept under its reserved key as it is.
-/

namespace RecordFilter

/-- The payload that a JSON object stands for. -/
def Payload.ofJson : Json → Except WireError Payload
  | .object members => .ok (.ofList members)
  | raw => .error (.malformedPayload raw)

/-- A catalog and the settings that go with it: what is needed to read and write payloads. -/
structure Context where
  catalog : Catalog
  settings : Settings
  deriving DecidableEq, Repr, Inhabited

/-- The entries of a payload: the filters of fields, and the reserved keys. -/
structure SplitPayload where
  filters : SimpleFilters
  reserved : Payload
  deriving DecidableEq

namespace Context

/-- Whether a key of a payload is reserved. -/
def isReserved (ctx : Context) (key : String) : Bool :=
  ctx.settings.isReserved ctx.catalog key

/-- The operators that the filter of a field may use. -/
def operatorsFor (ctx : Context) (name : String) : List Operator :=
  ctx.settings.operatorsFor (ctx.catalog.resolve name)

/-- The entry of a filter. -/
def encodeEntry (ctx : Context) (name : String) (filter : SimpleFilter) : Json :=
  let value := ctx.settings.encodeValue (ctx.catalog.resolve name) filter.operator filter.value
  if filter.operator = .equals then value
  else .array [.string filter.operator.wireToken, value]

/-- The filter with an operator whose value is read from a JSON value. -/
def readFilter (ctx : Context) (name : String) (op : Operator) (raw : Json) :
    Except WireError SimpleFilter :=
  (ctx.settings.readValue (ctx.catalog.resolve name) op raw).map fun value => ⟨op, value⟩

/-- The filter that an entry stands for. -/
def decodeEntry (ctx : Context) (name : String) (raw : Json) : Except WireError SimpleFilter :=
  match raw with
  | .array [token, value] =>
    let word := token.string?.getD ""
    match Operator.ofWireToken? word with
    | some op => ctx.readFilter name op value
    | none => .error (.unknownOperator name word)
  | .array _ => .error (.malformedValue name (.notAPair raw))
  | scalar => ctx.readFilter name .equals scalar

/-- The payload of some filters. -/
def encodeFilters (ctx : Context) (filters : SimpleFilters) : Payload :=
  .ofList (filters.entries.map fun entry => (entry.1, ctx.encodeEntry entry.1 entry.2))

/-- Splits entries that follow those already split. -/
def splitEntries (ctx : Context) (split : SplitPayload) :
    List (String × Json) → Except WireError SplitPayload
  | [] => .ok split
  | (key, raw) :: rest =>
    if ctx.isReserved key then
      ctx.splitEntries { split with reserved := split.reserved.insert key raw } rest
    else
      match ctx.decodeEntry key raw with
      | .ok filter =>
        ctx.splitEntries { split with filters := split.filters.insert key filter } rest
      | .error e => .error e

/-- Splits a payload into the filters of fields and the reserved keys. -/
def split (ctx : Context) (payload : Payload) : Except WireError SplitPayload :=
  ctx.splitEntries ⟨.empty, .empty⟩ payload.entries

end Context

end RecordFilter
