import RecordFilter.Editor.State

/-!
# The editor

The requests that the editor answers.  In simple mode every change of a filter is applied at
once; in advanced mode a tree is edited, and it is applied or discarded as a whole.

A request works on the editor in place: it answers, or it is refused for a reason, and either way
it leaves behind the editor as far as it came.  `Editor.update` answers an action, and tells the
view why it is refused if it is.
-/

namespace RecordFilter

namespace Editor

/-! ### Applying -/

/-- Hands a payload to the list and to the listener. -/
def push (e : Editor) (payload : Payload) : Editor where
  list := e.list.apply payload
  context := e.context
  state := { e.state with applied := payload }
  outbox := e.outbox.map fun waiting => waiting ++ [.filtersApplied payload]

/-- The payload with the reserved keys set that the editor carries along. -/
def withReserved (e : Editor) (payload : Payload) : Payload :=
  payload.overlay e.state.reserved

/-- The payload of the simple filters. -/
def simplePayload (e : Editor) : Payload :=
  e.withReserved (e.context.encodeFilters e.state.simple)

/-- Applies the simple filters. -/
def applySimple (e : Editor) : Editor :=
  let tree := e.state.simple.toTree e.context.catalog
  (e.withState { e.state with tree := tree, appliedTree := tree }).push e.simplePayload

/-- Applies a payload as that of the tree that is edited. -/
def applyTree (e : Editor) (payload : Payload) : Editor :=
  (e.withState { e.state with appliedTree := e.tree }).push (e.withReserved payload)

/-- The editor with other simple filters. -/
def withSimple (e : Editor) (simple : SimpleFilters) : Editor :=
  e.withState { e.state with simple := simple }

/-! ### Tags -/

/-- The tags that are meant by some texts: trimmed, without blank ones, each in its first
place. -/
def selectedTags (tags : List String) : List String :=
  (tags.map Text.trim).foldl
    (fun selected tag => if tag = "" ∨ tag ∈ selected then selected else selected ++ [tag]) []

/-- A payload in which the tags key holds some tags, or is absent if there are none. -/
def payloadWithTags (e : Editor) (tags : List String) (payload : Payload) : Payload :=
  if tags = [] then payload.erase e.context.settings.tagsKey
  else payload.insert e.context.settings.tagsKey (Json.ofStrings tags)

/-- Selects tags and applies them beside what is applied. -/
def setTags (e : Editor) (tags : List String) : Editor :=
  let selected := selectedTags tags
  (e.withState
    { e.state with reserved := e.payloadWithTags selected e.state.reserved }).push
      (e.payloadWithTags selected e.state.applied)

/-! ### Changing the view -/

/-- Goes back to the tree that was applied last.  In simple mode there is nothing to go back
from. -/
def discard (e : Editor) : Editor :=
  match e.state.mode with
  | .simple => e
  | .advanced => e.withTree e.state.appliedTree

/-- Takes out every filter and returns to simple mode.  The reserved keys stay applied. -/
def clear (e : Editor) : Editor :=
  (e.withState
    { e.state with mode := .simple, tree := .empty, appliedTree := .empty, simple := .empty }).push
      (e.withReserved .empty)

/-- Shows the advanced view with the tree that the list remembers.  What is applied stays. -/
def enterAdvanced (e : Editor) : Editor :=
  let tree := e.rememberedTree?.getD .empty
  e.withState
    { e.state with mode := .advanced, tree := tree, appliedTree := tree, simple := .empty }

/-- Shows the view of a mode; returning to simple mode takes out every filter. -/
def switchMode (e : Editor) (mode : Mode) : Editor :=
  if e.state.mode = mode then e
  else
    match mode with
    | .advanced => e.enterAdvanced
    | .simple => e.clear

/-- The condition with another operator; its value starts anew if it does not fit. -/
def withOperator (op : Operator) (c : Condition) : Condition :=
  { c with
    operator := some op
    value := if c.value.shape = op.shape then c.value else Value.emptyFor op }

end Editor

/-- A request to the editor, which is answered or refused. -/
abbrev Request := EStateM EditorError Editor

namespace Request

/-- Refuses what is available in the other mode only. -/
def requireMode (expected : Mode) : Request Unit := do
  let e ← get
  if e.state.mode = expected then return () else throw (.wrongMode expected)

/-- Changes the editor and answers with what is applied then. -/
def applying (change : Editor → Editor) : Request Payload := do
  modify change
  return (← get).state.applied

/-- The field that the catalog lists under a name. -/
def listedField (name : String) : Request Field := do
  let e ← get
  match e.context.catalog.get? name with
  | some field => return field
  | none => throw (.unknownField name)

/-- Refuses an operator that a field does not offer. -/
def requireOffer (field : Field) (op : Operator) : Request Unit := do
  let e ← get
  if e.context.settings.offers field op then return ()
  else throw (.unsupportedOperator field.name op)

/-! ### Simple mode -/

/-- Refuses a condition that has a defect. -/
def requireComplete (c : Condition) : Request Unit :=
  match c.defect? with
  | some defect => throw (.invalid defect)
  | none => return ()

/-- Sets the simple filter of a field and applies it. -/
def setSimpleFilter (name : String) (op : Operator) (value : Value) : Request Payload := do
  requireMode .simple
  let field ← listedField name
  requireOffer field op
  requireComplete (.complete field op value)
  modify fun e => e.withSimple (e.state.simple.insert name ⟨op, value⟩)
  applying Editor.applySimple

/-- Takes out the simple filter of a field and applies what is left.  Where there is no such
filter nothing is applied. -/
def removeSimpleFilter (name : String) : Request Payload := do
  requireMode .simple
  let e ← get
  if e.state.simple.contains name then
    modify fun e => e.withSimple (e.state.simple.erase name)
    applying Editor.applySimple
  else return e.state.applied

/-! ### Advanced mode -/

/-- Edits the tree of the editor. -/
def onTree {α : Type} (edit : TreeEdit α) : Request α := fun e =>
  match edit.run e.tree with
  | .ok answer tree => .ok answer (e.withTree tree)
  | .error error tree => .error (.tree error) (e.withTree tree)

/-- Appends a blank condition to the group at a path.  Answers with its path. -/
def addCondition (group : Path) : Request Path := do
  requireMode .advanced
  onTree (TreeEdit.appendNode group (.condition .blank))

/-- Appends a group with one blank condition to the group at a path.  The group is inserted
empty, and the condition then into it.  Answers with the path of the condition. -/
def addGroup (group : Path) (conjunction : Conjunction) : Request Path := do
  requireMode .advanced
  let added ← onTree (TreeEdit.appendNode group (.group ⟨conjunction, []⟩))
  onTree (TreeEdit.insertCondition added 0 .blank)

/-- Removes the node at a path.  Answers with the path to select next. -/
def removeItem (path : Path) : Request Path := do
  requireMode .advanced
  onTree (TreeEdit.removeItem path)

/-- Sets the conjunction of the group at a path. -/
def setConjunction (group : Path) (conjunction : Conjunction) : Request Unit := do
  requireMode .advanced
  onTree (TreeEdit.setConjunction group conjunction)

/-- Chooses the field of the condition at a path; operator and value start anew. -/
def setField (path : Path) (name : String) : Request Unit := do
  requireMode .advanced
  let field ← listedField name
  let e ← get
  let (op, value) := e.context.settings.defaultsFor field
  onTree (TreeEdit.replaceCondition path (.complete field op value))

/-- The condition at a path. -/
def conditionAt (path : Path) : Request Condition := do
  let e ← get
  match e.tree.conditionAt? path with
  | some c => return c
  | none => throw (.tree (.notACondition path))

/-- The field of the condition at a path, as the catalog lists it if it does. -/
def fieldAt (path : Path) : Request Field := do
  let e ← get
  match e.fieldAt? path with
  | some field => return field
  | none => throw (.invalid ⟨path, .missingField⟩)

/-- Chooses the operator of the condition at a path. -/
def setOperator (path : Path) (op : Operator) : Request Unit := do
  requireMode .advanced
  let _ ← conditionAt path
  let field ← fieldAt path
  requireOffer field op
  onTree (TreeEdit.changeCondition path (Editor.withOperator op))

/-- Sets the value of the condition at a path. -/
def setValue (path : Path) (value : Value) : Request Unit := do
  requireMode .advanced
  onTree (TreeEdit.changeCondition path fun c => { c with value := value })

/-- Sets the value of the condition at a path to what a text means under its operator. -/
def setValueInput (path : Path) (input : String) : Request Unit := do
  let c ← conditionAt path
  match c.operator with
  | none => throw (.invalid ⟨path, .missingOperator⟩)
  | some op => setValue path (Value.ofInput op input)

/-! ### Both modes -/

/-- The payload of the tree that is edited, unless it has a defect. -/
def compiledTree : Request Payload := do
  let e ← get
  match e.context.compileAdvanced e.tree with
  | .error error => throw (.wire error)
  | .ok payload => return payload

/-- Applies what the view of the mode shows. -/
def apply : Request Payload := do
  let e ← get
  match e.state.mode with
  | .simple => applying Editor.applySimple
  | .advanced =>
    let payload ← compiledTree
    applying fun e => e.applyTree payload

/-- Selects tags and applies them beside what is applied. -/
def setTags (tags : List String) : Request Payload :=
  applying fun e => e.setTags tags

/-- Goes back to the tree that was applied last. -/
def discardEdits : Request Unit :=
  modify Editor.discard

/-- Takes out every filter and returns to simple mode. -/
def clear : Request Payload :=
  applying Editor.clear

/-- Shows the view of a mode. -/
def switchMode (mode : Mode) : Request Unit :=
  modify fun e => e.switchMode mode

/-- Does what an action asks for. -/
def ofAction : Action → Request Unit
  | .addCondition group => discard (addCondition group)
  | .addGroup group conjunction => discard (addGroup group conjunction)
  | .removeItem path => discard (removeItem path)
  | .setConjunction group conjunction => setConjunction group conjunction
  | .setField path name => setField path name
  | .setOperator path op => setOperator path op
  | .setValue path value => setValue path value
  | .setValueInput path input => setValueInput path input
  | .setSimpleFilter name op value => discard (setSimpleFilter name op value)
  | .removeSimpleFilter name => discard (removeSimpleFilter name)
  | .setTags tags => discard (setTags tags)
  | .switchMode mode => switchMode mode
  | .applyFilters => discard apply
  | .discardFilters => discardEdits
  | .clearFilters => discard clear
  | .filtersApplied _ => return ()
  | .error _ => return ()

end Request

namespace Editor

/-- Answers an action: the editor after it, and the reason if it is refused. -/
def update (e : Editor) (action : Action) : Editor × Option Action :=
  match (Request.ofAction action).run e with
  | .ok _ after => (after, none)
  | .error error after => (after, some (.error error.message))

end Editor

end RecordFilter
