import RecordFilter.Action
import RecordFilter.Tree.Edit

/-!
# The state of the editor

The editor works on a record list.  It keeps the filter that it shows, the filter that it last
applied and the reserved keys that it carries along, and it hands every applied payload to the
list and to whoever listens.
-/

namespace RecordFilter

/-- A record list: what it is filtered by and what it remembers. -/
structure RecordList where
  /-- The payload the list is filtered by. -/
  filters : Payload
  /-- The condition list that the list remembers for the advanced view. -/
  remembered : Option Json
  /-- The payload key whose value the list remembers whenever a payload has it, if it does. -/
  remembersKey : Option String
  /-- The payloads that the list has been given, in order. -/
  received : List Payload
  deriving DecidableEq

namespace RecordList

/-- What a list remembers of a payload that it is given. -/
def remember (l : RecordList) (payload : Payload) : Option Json :=
  match l.remembersKey.bind payload.get? with
  | some raw => some raw
  | none => l.remembered

/-- Gives the list a payload. -/
def apply (l : RecordList) (payload : Payload) : RecordList where
  filters := payload
  remembered := l.remember payload
  remembersKey := l.remembersKey
  received := l.received ++ [payload]

end RecordList

/-- What the editor shows and what it has applied. -/
structure FilterState where
  mode : Mode
  /-- The tree that is edited; in simple mode the tree of the simple filters. -/
  tree : Group
  /-- The tree that was applied last. -/
  appliedTree : Group
  simple : SimpleFilters
  /-- The reserved keys other than the advanced key; every applied payload has them. -/
  reserved : Payload
  /-- The payload that was applied last. -/
  applied : Payload
  deriving DecidableEq

/-- The editor of the filters of a record list. -/
structure Editor where
  list : RecordList
  context : Context
  state : FilterState
  /-- The notifications that wait for the listener; `none` if nobody listens. -/
  outbox : Option (List Action)
  deriving DecidableEq

/-- Why the editor refuses a request. -/
inductive EditorError where
  | tree (error : TreeError)
  | invalid (defect : Defect)
  | wire (error : WireError)
  | unknownField (name : String)
  | unsupportedOperator (field : String) (operator : Operator)
  | wrongMode (expected : Mode)
  deriving DecidableEq, Repr

/-- What the user is told. -/
def EditorError.message : EditorError → String
  | .tree error => error.message
  | .invalid defect => defect.message
  | .wire error => error.message
  | .unknownField name => "unknown field " ++ name
  | .unsupportedOperator field op =>
    "operator " ++ Vocabulary.token op ++ " is not available for field " ++ field
  | .wrongMode expected => "only available in " ++ Vocabulary.token expected ++ " mode"

namespace Editor

/-- The editor with another state. -/
def withState (e : Editor) (state : FilterState) : Editor :=
  { e with state := state }

/-- The editor with another tree. -/
def withTree (e : Editor) (tree : Group) : Editor :=
  e.withState { e.state with tree := tree }

/-- The tree that is edited. -/
def tree (e : Editor) : Group :=
  e.state.tree

/-! ### Reading the list -/

/-- The tree that the list remembers, if it can be read and is not empty. -/
def rememberedTree? (e : Editor) : Option Group :=
  match e.list.remembered with
  | none => none
  | some raw =>
    match e.context.decodeTree raw with
    | .ok tree => if tree.isEmpty then none else some tree
    | .error _ => none

/-- The reserved keys of a payload other than the advanced key. -/
def reservedOf (e : Editor) (payload : Payload) : Payload :=
  payload.filterKeys fun key =>
    key ≠ e.context.settings.advancedKey && e.context.isReserved key

/-- The state that shows what has been read from a payload. -/
def stateOf (hydrated : Hydrated) (payload : Payload) : FilterState where
  mode := hydrated.mode
  tree := hydrated.tree
  appliedTree := hydrated.tree
  simple := hydrated.simple
  reserved := hydrated.reserved
  applied := payload

/-- The state that shows nothing beside the reserved keys of a payload. -/
def emptyState (reserved payload : Payload) : FilterState where
  mode := .simple
  tree := .empty
  appliedTree := .empty
  simple := .empty
  reserved := reserved
  applied := payload

/-- What to show of a payload that has been read: where it filters by no field, the tree that
the list remembers. -/
def orRemembered (e : Editor) (hydrated : Hydrated) : Hydrated :=
  if hydrated.mode = .simple ∧ hydrated.simple.isEmpty then
    match e.rememberedTree? with
    | some tree => { hydrated with mode := .advanced, tree := tree }
    | none => hydrated
  else hydrated

/-- Shows what the list is filtered by.  A payload that cannot be read is left to the list, and
an empty simple view is shown. -/
def hydrate (e : Editor) : Editor :=
  let payload := e.list.filters
  match e.context.hydrate payload with
  | .ok hydrated => e.withState (stateOf (e.orRemembered hydrated) payload)
  | .error _ => e.withState (emptyState (e.reservedOf payload) payload)

/-- The editor of a list, showing what it is filtered by. -/
def opened (list : RecordList) (context : Context) : Editor :=
  hydrate ⟨list, context, emptyState .empty .empty, none⟩

/-- The editor with another catalog; fields that have been chosen stay as they are. -/
def setCatalog (e : Editor) (catalog : Catalog) : Editor :=
  { e with context := { e.context with catalog := catalog } }

/-! ### Listening -/

/-- The editor with a new listener, who has not been told anything. -/
def listen (e : Editor) : Editor :=
  { e with outbox := some [] }

/-- The editor after its listener has gone. -/
def hangUp (e : Editor) : Editor :=
  { e with outbox := none }

/-- The notifications that wait for the listener, and the editor after they are delivered. -/
def deliver (e : Editor) : List Action × Editor :=
  (e.outbox.getD [], { e with outbox := e.outbox.map fun _ => [] })

/-! ### What is offered -/

/-- The number of conditions in the applied payload. -/
def badgeCount (e : Editor) : Nat :=
  match e.context.hydrate e.state.applied with
  | .ok hydrated => hydrated.tree.leafCount
  | .error _ => 0

/-- The operators that the simple filter of a field may use. -/
def operatorsFor (e : Editor) (name : String) : List Operator :=
  e.context.operatorsFor name

/-- The field of the condition at a path, as the catalog lists it if it does. -/
def fieldAt? (e : Editor) (path : Path) : Option Field :=
  match (e.tree.conditionAt? path).bind Condition.field with
  | none => none
  | some field => some ((e.context.catalog.get? field.name).getD field)

/-- The operators that the condition at a path may use, once it has a field. -/
def operatorsAt? (e : Editor) (path : Path) : Option (List Operator) :=
  (e.fieldAt? path).map e.context.settings.operatorsFor

/-- The control for the value of the condition at a path, once it has a field and an
operator. -/
def widgetAt? (e : Editor) (path : Path) : Option Widget :=
  match (e.tree.conditionAt? path).bind Condition.operator, e.fieldAt? path with
  | some op, some field => some (e.context.settings.widget field op)
  | _, _ => none

end Editor

end RecordFilter
