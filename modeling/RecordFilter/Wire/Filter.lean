import RecordFilter.Wire.ConditionList

/-!
# Whole filters on the wire

A filter is sent in one of two ways: as simple filters, one entry for a field, or as a condition
list under the advanced key.  `Context.compile` writes the payload of a tree and `Context.hydrate`
reads a payload back into what the two views show.
-/

namespace RecordFilter

/-- The two views of a filter. -/
inductive Mode where
  | simple
  | advanced
  deriving DecidableEq, Repr

instance : Inhabited Mode := ⟨.simple⟩

instance : Vocabulary Mode where
  all := [.simple, .advanced]
  token
    | .simple => "Simple"
    | .advanced => "Advanced"

/-- What the views show of a payload. -/
structure Hydrated where
  mode : Mode
  tree : Group
  /-- The simple filters; there are none in the advanced view. -/
  simple : SimpleFilters
  /-- The reserved keys other than the advanced key. -/
  reserved : Payload
  deriving DecidableEq

namespace Context

/-- The payload of a tree as a condition list. -/
def compileAdvanced (ctx : Context) (tree : Group) : Except WireError Payload :=
  match tree.defect? with
  | some defect => .error (.invalid defect)
  | none => .ok (Payload.empty.insert ctx.settings.advancedKey (ctx.encodeTree tree))

/-- The payload of a tree in a mode.  In simple mode the tree must be one that the simple view
can show. -/
def compile (ctx : Context) (mode : Mode) (tree : Group) : Except WireError Payload :=
  match mode with
  | .simple => ((SimpleFilters.ofTree tree).mapError .notSimple).map ctx.encodeFilters
  | .advanced => ctx.compileAdvanced tree

/-- The tree of conditions that hold together with a tree.  The children of a tree joined by
"and" follow them on the same level, and so does a single child. -/
def mergeTrees (leading : Group) (tree : Group) : Group :=
  if tree.conjunction = .and ∨ tree.size ≤ 1 then
    { leading with children := leading.children ++ tree.children }
  else { leading with children := leading.children ++ [.group tree] }

/-- Reads a payload.  The advanced key decides the mode; filters of fields beside it become the
leading conditions of the tree. -/
def hydrate (ctx : Context) (payload : Payload) : Except WireError Hydrated :=
  match ctx.split payload with
  | .error e => .error e
  | .ok split =>
    let leading := split.filters.toTree ctx.catalog
    match split.reserved.get? ctx.settings.advancedKey with
    | none => .ok ⟨.simple, leading, split.filters, split.reserved⟩
    | some raw =>
      match ctx.decodeTree raw with
      | .error e => .error e
      | .ok tree =>
        .ok {
          mode := .advanced
          tree := if split.filters.isEmpty then tree else mergeTrees leading tree
          simple := .empty
          reserved := split.reserved.erase ctx.settings.advancedKey }

end Context

end RecordFilter
