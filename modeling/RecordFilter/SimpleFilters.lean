import RecordFilter.Catalog
import RecordFilter.Ordered
import RecordFilter.Tree.Defect

/-!
# Simple filters

The simple view shows at most one filter for a field, in the order in which they were set.  Such
filters are the same as a tree with one level whose conditions are joined by "and":
`SimpleFilters.toTree` builds it and `SimpleFilters.ofTree` recognises it.
-/

namespace RecordFilter

/-- The filter of one field in the simple view. -/
structure SimpleFilter where
  operator : Operator
  value : Value
  deriving DecidableEq, Repr

/-- Filters by field name, in the order in which they were set. -/
structure SimpleFilters where
  entries : List (String × SimpleFilter)
  deriving DecidableEq, Repr

/-- Why a tree cannot be shown in the simple view. -/
inductive NotSimple where
  | nestedGroup
  | orConjunction
  | duplicateField (name : String)
  | incomplete (defect : Defect)
  deriving DecidableEq, Repr

/-- What the user is told. -/
def NotSimple.message : NotSimple → String
  | .nestedGroup => "nested groups cannot be shown as simple filters"
  | .orConjunction => "OR groups cannot be shown as simple filters"
  | .duplicateField name => "field " ++ name ++ " is filtered more than once"
  | .incomplete defect => defect.message

namespace SimpleFilters

/-- No filters. -/
def empty : SimpleFilters := ⟨[]⟩

instance : Inhabited SimpleFilters := ⟨empty⟩

/-- The filters of some pairs, set one after the other. -/
def ofList (entries : List (String × SimpleFilter)) : SimpleFilters :=
  ⟨Ordered.ofList entries⟩

/-- The fields that are filtered, in order. -/
def names (f : SimpleFilters) : List String :=
  Ordered.keys f.entries

/-- The number of filters. -/
def size (f : SimpleFilters) : Nat :=
  f.entries.length

/-- Whether there are no filters. -/
def isEmpty (f : SimpleFilters) : Bool :=
  f.entries.isEmpty

/-- The filter of a field. -/
def get? (f : SimpleFilters) (name : String) : Option SimpleFilter :=
  Ordered.get? name f.entries

/-- Whether a field is filtered. -/
def contains (f : SimpleFilters) (name : String) : Bool :=
  Ordered.contains name f.entries

/-- Sets the filter of a field, and gives the filter that it replaces in its place. -/
def getThenInsert (f : SimpleFilters) (name : String) (filter : SimpleFilter) :
    Option SimpleFilter × SimpleFilters :=
  let (previous, entries) := Ordered.getThenInsert name filter f.entries
  (previous, ⟨entries⟩)

/-- Sets the filter of a field; a filter that is there is replaced in its place. -/
def insert (f : SimpleFilters) (name : String) (filter : SimpleFilter) : SimpleFilters :=
  (f.getThenInsert name filter).2

/-- Takes out the filter of a field, and gives it. -/
def getThenErase (f : SimpleFilters) (name : String) : Option SimpleFilter × SimpleFilters :=
  let (previous, entries) := Ordered.getThenErase name f.entries
  (previous, ⟨entries⟩)

/-- Takes out the filter of a field. -/
def erase (f : SimpleFilters) (name : String) : SimpleFilters :=
  (f.getThenErase name).2

/-- The condition of one filter. -/
def condition (catalog : Catalog) (entry : String × SimpleFilter) : Condition :=
  .complete (catalog.resolve entry.1) entry.2.operator entry.2.value

/-- The tree of some filters: one level, joined by "and", in order. -/
def toTree (catalog : Catalog) (f : SimpleFilters) : Group :=
  .all (f.entries.map fun entry => .condition (condition catalog entry))

/-- Adds the filters of the nodes that stand at an index and after it.  Every node must be a
complete condition on a field that is not yet filtered. -/
def ofNodes (f : SimpleFilters) (index : Nat) : List Node → Except NotSimple SimpleFilters
  | [] => .ok f
  | .group _ :: _ => .error .nestedGroup
  | .condition c :: rest =>
    match c.defect? with
    | some defect => .error (.incomplete (defect.under index))
    | none =>
      match c.field, c.operator with
      | some field, some op =>
        if f.contains field.name then .error (.duplicateField field.name)
        else ofNodes (f.insert field.name ⟨op, c.value⟩) (index + 1) rest
      | _, _ => ofNodes f (index + 1) rest

/-- The filters that a tree stands for, if the simple view can show it: it has one level, its
conditions are complete and on distinct fields, and they are joined by "and" unless there is
only one. -/
def ofTree (tree : Group) : Except NotSimple SimpleFilters :=
  if !tree.isFlat then .error .nestedGroup
  else if tree.conjunction = .or ∧ 1 < tree.size then .error .orConjunction
  else ofNodes empty 0 tree.children

end SimpleFilters

end RecordFilter
