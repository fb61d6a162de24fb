import RecordFilter.ConditionList
import RecordFilter.Json.Parser
import RecordFilter.Wire.Entry

/-!
# Condition lists on the wire

A condition list is a JSON array.  A conjunction is a string, a nested list is an array, and a
condition is an array of three: the name of its field, the token of its operator and its value.
Since both a condition and a nested list are arrays, an array is taken as a condition if it has
three items of which the first two are strings other than conjunctions.

The server may hand a condition list over as a string that holds its JSON text, or as null.
-/

namespace RecordFilter

namespace Json

/-- Whether a JSON value is a string other than a conjunction. -/
def isName : Json → Bool
  | .string s => (Conjunction.ofWord? s).isNone
  | _ => false

/-- The parts of an array that stands for a condition. -/
def conditionParts? : List Json → Option (String × String × Json)
  | [.string name, .string token, value] =>
    if isName (.string name) && isName (.string token) then some (name, token, value) else none
  | _ => none

end Json

namespace Context

/-- The JSON value of a condition; a condition without field or operator is written as null. -/
def encodeCondition (ctx : Context) (c : Condition) : Json :=
  match c.field, c.operator with
  | some field, some op =>
    .array [.string field.name, .string op.wireToken, ctx.settings.encodeValue field op c.value]
  | _, _ => .null

mutual

/-- The JSON value of an item. -/
def encodeItem (ctx : Context) : ListItem → Json
  | .word conjunction => .string (Vocabulary.token conjunction)
  | .condition c => ctx.encodeCondition c
  | .list items => .array (ctx.encodeItems items)

/-- The JSON values of some items. -/
def encodeItems (ctx : Context) : List ListItem → List Json
  | [] => []
  | item :: rest => ctx.encodeItem item :: ctx.encodeItems rest

end

/-- The condition list of a tree. -/
def encodeTree (ctx : Context) (tree : Group) : Json :=
  .array (ctx.encodeItems tree.toList)

/-- Reads a condition on the field with a name. -/
def decodeCondition (ctx : Context) (name token : String) (raw : Json) :
    Except WireError Condition :=
  match Operator.ofWireToken? token with
  | none => .error (.unknownOperator name token)
  | some op =>
    let field := ctx.catalog.resolve name
    (ctx.settings.readValue field op raw).map (.complete field op)

mutual

/-- Reads an item. -/
def decodeItem (ctx : Context) : Json → Except WireError ListItem
  | .string word =>
    match Conjunction.ofWord? word with
    | some conjunction => .ok (.word conjunction)
    | none => .error (.malformedConditions (.unknownConjunction word))
  | .array items =>
    match Json.conditionParts? items with
    | some (name, token, raw) => (ctx.decodeCondition name token raw).map .condition
    | none => (ctx.decodeItems items).map .list
  | raw => .error (.malformedConditions (.unexpectedItem raw))

/-- Reads items up to the first that cannot be read. -/
def decodeItems (ctx : Context) : List Json → Except WireError (List ListItem)
  | [] => .ok []
  | item :: rest =>
    match ctx.decodeItem item with
    | .error e => .error e
    | .ok item => (ctx.decodeItems rest).map (item :: ·)

end

/-- Reads a condition list that is not written as a text.  A condition alone is a list of one,
and null is the empty list. -/
def decodeList (ctx : Context) : Json → Except WireError ConditionList
  | .array items =>
    match Json.conditionParts? items with
    | some (name, token, raw) => (ctx.decodeCondition name token raw).map fun c => [.condition c]
    | none => ctx.decodeItems items
  | .null => .ok []
  | raw => .error (.malformedConditions (.notAList raw))

/-- Reads the tree of a condition list from its text.  A text that stands for a string is the
text of that string once more, which is shorter. -/
def decodeTreeText (ctx : Context) (text : String) : Except WireError Group :=
  match Json.parse? text with
  | none => .error (.malformedConditions .notJson)
  | some (.string inner) =>
    if inner.utf8ByteSize < text.utf8ByteSize then ctx.decodeTreeText inner
    else .error (.malformedConditions .notJson)
  | some raw => (ctx.decodeList raw).map ConditionList.toGroup
termination_by text.utf8ByteSize

/-- Reads the tree of a condition list. -/
def decodeTree (ctx : Context) : Json → Except WireError Group
  | .string text => ctx.decodeTreeText text
  | raw => (ctx.decodeList raw).map ConditionList.toGroup

end Context

end RecordFilter
