import RecordFilter.Action
import RecordFilter.Form.Filter

/-!
# The form of actions

An action is written as an object with one member: its name, and under it what it carries.  An
action that carries nothing is written as its name alone.

What an action carries has its members under their names.  In a JSON text, they may also be
written as an array.
-/

namespace RecordFilter

open JsonForm
open Json (Draft)

/-- The name of a mode in serialized forms. -/
def Mode.formName : Mode → String
  | .simple => "simple"
  | .advanced => "advanced"

instance : JsonForm Mode := ofNames Vocabulary.all Mode.formName

instance : JsonForm Payload where
  encode := Payload.toJson
  read?
    | .object members => (Draft.memberValues? members).map .ofList
    | _ => none

/-- The payload with every key of every nested object once. -/
def Payload.settled (p : Payload) : Payload :=
  .ofList (Json.settledMembers p.entries)

namespace Action

/-- The name of an action. -/
def name : Action → String
  | .addCondition _ => "AddCondition"
  | .addGroup _ _ => "AddGroup"
  | .removeItem _ => "RemoveItem"
  | .setConjunction _ _ => "SetConjunction"
  | .setField _ _ => "SetField"
  | .setOperator _ _ => "SetOperator"
  | .setValue _ _ => "SetValue"
  | .setValueInput _ _ => "SetValueInput"
  | .setSimpleFilter _ _ _ => "SetSimpleFilter"
  | .removeSimpleFilter _ => "RemoveSimpleFilter"
  | .setTags _ => "SetTags"
  | .switchMode _ => "SwitchMode"
  | .applyFilters => "ApplyFilters"
  | .discardFilters => "DiscardFilters"
  | .clearFilters => "ClearFilters"
  | .filtersApplied _ => "FiltersApplied"
  | .error _ => "Error"

/-- The form of what an action carries, if it carries anything. -/
def content? : Action → Option Json
  | .addCondition group => some (.object [("group", encode group)])
  | .addGroup group conjunction =>
    some (.object [("group", encode group), ("conjunction", encode conjunction)])
  | .removeItem path => some (.object [("path", encode path)])
  | .setConjunction group conjunction =>
    some (.object [("group", encode group), ("conjunction", encode conjunction)])
  | .setField path name => some (.object [("path", encode path), ("fieldname", .string name)])
  | .setOperator path op => some (.object [("path", encode path), ("operator", encode op)])
  | .setValue path value => some (.object [("path", encode path), ("value", encode value)])
  | .setValueInput path input => some (.object [("path", encode path), ("input", .string input)])
  | .setSimpleFilter name op value =>
    some (.object [("fieldname", .string name), ("operator", encode op), ("value", encode value)])
  | .removeSimpleFilter name => some (.object [("fieldname", .string name)])
  | .setTags tags => some (encode tags)
  | .switchMode mode => some (encode mode)
  | .applyFilters => none
  | .discardFilters => none
  | .clearFilters => none
  | .filtersApplied payload => some (encode payload)
  | .error message => some (.string message)

/-- The action with a name that carries nothing. -/
def ofName? : String → Option Action
  | "ApplyFilters" => some .applyFilters
  | "DiscardFilters" => some .discardFilters
  | "ClearFilters" => some .clearFilters
  | _ => none

/-- How the members with some names are read from what an action carries. -/
abbrev Members := List String → Draft → Option (List (Option Draft))

/-- Reads what an action with one member carries. -/
def ofMember? {α : Type} [JsonForm α] (members : Members) (make : α → Action) (name : String)
    (content : Draft) : Option Action :=
  match members [name] content with
  | some [a] => (required? a).map make
  | _ => none

/-- Reads what an action with two members carries. -/
def ofMembers? {α β : Type} [JsonForm α] [JsonForm β] (members : Members) (make : α → β → Action)
    (first second : String) (content : Draft) : Option Action :=
  match members [first, second] content with
  | some [a, b] => do return make (← required? a) (← required? b)
  | _ => none

/-- Reads the simple filter that an action carries. -/
def ofSimpleFilter? (members : Members) (content : Draft) : Option Action :=
  match members ["fieldname", "operator", "value"] content with
  | some [name, op, value] => do
    return .setSimpleFilter (← required? name) (← required? op) (← required? value)
  | _ => none

/-- Reads an action with a name from what it carries. -/
def ofContent? (members : Members) (name : String) (content : Draft) : Option Action :=
  match name with
  | "AddCondition" => ofMember? members .addCondition "group" content
  | "AddGroup" => ofMembers? members .addGroup "group" "conjunction" content
  | "RemoveItem" => ofMember? members .removeItem "path" content
  | "SetConjunction" => ofMembers? members .setConjunction "group" "conjunction" content
  | "SetField" => ofMembers? members .setField "path" "fieldname" content
  | "SetOperator" => ofMembers? members .setOperator "path" "operator" content
  | "SetValue" => ofMembers? members .setValue "path" "value" content
  | "SetValueInput" => ofMembers? members .setValueInput "path" "input" content
  | "SetSimpleFilter" => ofSimpleFilter? members content
  | "RemoveSimpleFilter" => ofMember? members .removeSimpleFilter "fieldname" content
  | "SetTags" => (read? content).map .setTags
  | "SwitchMode" => (read? content).map .switchMode
  | "FiltersApplied" => (read? content).map .filtersApplied
  | "Error" => (read? content).map .error
  | _ =>
    match content with
    | .null => ofName? name
    | _ => none

/-- Reads an action. -/
def ofDraft? (members : Members) : Draft → Option Action
  | .string name => ofName? name
  | .object [(name, content)] => ofContent? members name content
  | _ => none

end Action

instance : JsonForm Action where
  encode action :=
    match action.content? with
    | some content => .object [(action.name, content)]
    | none => .string action.name
  read? := Action.ofDraft? namedMembers?

namespace Action

/-- The action with every key of its payload once. -/
def settled : Action → Action
  | .filtersApplied payload => .filtersApplied payload.settled
  | action => action

/-- The action that a JSON text stands for. -/
def ofText? (text : String) : Option Action :=
  ((Draft.ofText? text).bind (ofDraft? record?)).map settled

end Action

end RecordFilter
