import RecordFilter.Form
import RecordFilter.Offer
import RecordFilter.SimpleFilters

/-!
# The forms of fields, conditions and trees

The JSON forms of everything that a filter is made of, and of the settings and the controls.
-/

namespace RecordFilter

open JsonForm
open Json (Draft)

instance : JsonForm FieldKind := ofNames Vocabulary.all Vocabulary.token

instance : JsonForm Conjunction := ofNames Vocabulary.all Vocabulary.token

/-- The name of an operator in serialized forms. -/
def Operator.formName : Operator → String
  | .equals => "equals"
  | .notEquals => "not_equals"
  | .like => "like"
  | .notLike => "not_like"
  | .isIn => "in"
  | .notIn => "not_in"
  | .is => "is"
  | .lessThan => "less_than"
  | .greaterThan => "greater_than"
  | .lessOrEqual => "less_or_equal"
  | .greaterOrEqual => "greater_or_equal"
  | .between => "between"
  | .timespan => "timespan"

instance : JsonForm Operator := ofNames Vocabulary.all Operator.formName

/-- A span of time is read whatever the case of its token. -/
instance : JsonForm Timespan where
  encode span := .string (Vocabulary.token span)
  read? draft := draft.string?.bind Vocabulary.ofTokenLoosely?

/-- A presence is read whatever the case of its token. -/
instance : JsonForm Presence where
  encode presence := .string (Vocabulary.token presence)
  read? draft := draft.string?.bind Vocabulary.ofTokenLoosely?

instance : JsonForm Field where
  encode field := .object [
    ("name", .string field.name),
    ("label", .string field.label),
    ("field_type", encode field.kind),
    ("options", Json.ofStrings field.options)]
  read? draft :=
    match record? ["name", "label", "field_type", "options"] draft with
    | some [name, label, kind, options] => do
      return {
        name := ← required? name
        label := ← required? label
        kind := ← required? kind
        options := ← orElse? [] options }
    | _ => none

namespace FieldRow

/-- Reads a row; label and options may be missing. -/
def read? (draft : Draft) : Option FieldRow :=
  match record? ["fieldname", "label", "fieldtype", "options"] draft with
  | some [fieldname, label, fieldtype, options] => do
    return {
      fieldname := ← required? fieldname
      label := ← orElse? none label
      fieldtype := ← required? fieldtype
      options := ← orElse? none options }
  | _ => none

end FieldRow

namespace Catalog

/-- The catalog of the fields that a JSON text lists in rows. -/
def ofText? (text : String) : Option Catalog :=
  match Draft.ofText? text with
  | some (.array items) => (readAll? FieldRow.read? items).map ofRows
  | _ => none

end Catalog

instance : JsonForm Catalog where
  encode catalog := .object [("fields", encode catalog.fields)]
  read? draft :=
    match record? ["fields"] draft with
    | some [fields] => (required? fields).map Catalog.mk
    | _ => none

/-- Settings that are not given are the standard ones. -/
instance : JsonForm Settings where
  encode s := .object [
    ("reserved_prefix", .string s.reservedStart),
    ("advanced_key", .string s.advancedKey),
    ("tags_key", .string s.tagsKey),
    ("assignee_field", .string s.assigneeField),
    ("yes_label", .string s.yesLabel),
    ("no_label", .string s.noLabel)]
  read? draft :=
    match record? ["reserved_prefix", "advanced_key", "tags_key", "assignee_field", "yes_label",
      "no_label"] draft with
    | some [start, advanced, tags, assignee, yes, no] => do
      return {
        reservedStart := ← orElse? Settings.standard.reservedStart start
        advancedKey := ← orElse? Settings.standard.advancedKey advanced
        tagsKey := ← orElse? Settings.standard.tagsKey tags
        assigneeField := ← orElse? Settings.standard.assigneeField assignee
        yesLabel := ← orElse? Settings.standard.yesLabel yes
        noLabel := ← orElse? Settings.standard.noLabel no }
    | _ => none

namespace Value

/-- Reads a value whose kind is known. -/
def readKind? (kind : String) (content : Draft) : Option Value :=
  match kind with
  | "text" => (read? content).map text
  | "range" =>
    match namedMembers? ["from", "to"] content with
    | some [first, last] => do return .range (← required? first) (← required? last)
    | _ => none
  | "list" => (read? content).map list
  | "timespan" => (read? content).map timespan
  | "presence" => (read? content).map presence
  | _ => none

/-- Whether the content of a value stands before its kind. -/
def contentFirst : Draft → Bool
  | .object members =>
    (members.map Prod.fst).find? (fun key => key = "kind" || key = "value") = some "value"
  | _ => false

/-- The kind of a value and the form of what it holds. -/
def form : Value → String × Json
  | .text s => ("text", .string s)
  | .range first last => ("range", .object [("from", .string first), ("to", .string last)])
  | .list items => ("list", Json.ofStrings items)
  | .timespan span => ("timespan", encode span)
  | .presence mark => ("presence", encode mark)

end Value

/-- Content that stands before its kind is kept until the kind is known, so that no part of it
may be void, whether or not the kind asks for that part. -/
instance : JsonForm Value where
  encode value := .object [("kind", .string value.form.1), ("value", value.form.2)]
  read? draft :=
    match record? ["kind", "value"] draft with
    | some [some kind, some content] =>
      if Value.contentFirst draft && content.value?.isNone then none
      else (name? kind).bind fun kind => Value.readKind? kind content
    | _ => none

instance : JsonForm Condition where
  encode c := .object [
    ("field", encode c.field),
    ("operator", encode c.operator),
    ("value", encode c.value)]
  read? draft :=
    match record? ["field", "operator", "value"] draft with
    | some [field, op, value] => do
      return {
        field := ← orElse? none field
        operator := ← orElse? none op
        value := ← required? value }
    | _ => none

namespace Node

mutual

/-- The form of a node. -/
def encodeForm : Node → Json
  | .condition c => .object [("condition", encode c)]
  | .group ⟨conjunction, children⟩ =>
    .object [("group", .object [
      ("conjunction", encode conjunction),
      ("children", .array (encodeForms children))])]

/-- The forms of some nodes. -/
def encodeForms : List Node → List Json
  | [] => []
  | node :: rest => encodeForm node :: encodeForms rest

end

mutual

/-- Reads a node from a form of at most the given depth. -/
def readForm? : Nat → Draft → Option Node
  | depth + 1, .object [(name, body)] =>
    if name = "condition" then (read? body).map .condition
    else if name = "group" then (readGroupForm? depth body).map .group
    else none
  | _, _ => none

/-- Reads a group from a form of at most the given depth. -/
def readGroupForm? : Nat → Draft → Option Group
  | 0, _ => none
  | depth + 1, draft =>
    match record? ["conjunction", "children"] draft with
    | some [some conjunction, some (.array children)] => do
      return ⟨← read? conjunction, ← readAll? (readForm? depth) children⟩
    | _ => none

end

end Node

instance : JsonForm Node where
  encode := Node.encodeForm
  read? draft := Node.readForm? draft.depth draft

instance : JsonForm Group where
  encode g := .object [
    ("conjunction", encode g.conjunction),
    ("children", .array (Node.encodeForms g.children))]
  read? draft := Node.readGroupForm? draft.depth draft

instance : JsonForm SimpleFilter where
  encode filter := .object [("operator", encode filter.operator), ("value", encode filter.value)]
  read? draft :=
    match record? ["operator", "value"] draft with
    | some [op, value] => do return ⟨← required? op, ← required? value⟩
    | _ => none

instance : JsonForm SimpleFilters where
  encode filters := .object [("entries", encode filters.entries)]
  read? draft :=
    match record? ["entries"] draft with
    | some [entries] => (required? entries).map SimpleFilters.mk
    | _ => none

/-- The form of a control; it is only written. -/
def Widget.form : Widget → Json
  | .text => .string "Text"
  | .number => .string "Number"
  | .select choices => .object [("Select", Json.ofStrings choices)]
  | .booleanSelect yes no =>
    .object [("BooleanSelect", .object [("yes", .string yes), ("no", .string no)])]
  | .date => .string "Date"
  | .dateRange => .string "DateRange"
  | .timespanSelect choices => .object [("TimespanSelect", Json.ofStrings choices)]
  | .rating => .string "Rating"

end RecordFilter
