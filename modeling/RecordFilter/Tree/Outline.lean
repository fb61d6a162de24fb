import RecordFilter.Tree

/-!
# The outline of a tree

The lines of the tree view: the root and then every node, a group before its children, each with
its indent, its label and its path.
-/

namespace RecordFilter

/-- A line of the tree view. -/
structure OutlineLine where
  indent : Nat
  label : String
  path : Path
  deriving DecidableEq, Repr

/-- How the group at an indent is labelled: the one at indent `0` as the root. -/
def Conjunction.label (indent : Nat) (conjunction : Conjunction) : String :=
  if indent = 0 then "Root " ++ conjunction.display else conjunction.display

namespace Node

mutual

/-- The lines of the node at a path, the first of them at an indent. -/
def outline (path : Path) (indent : Nat) : Node → List OutlineLine
  | .condition c => [⟨indent, c.summary, path⟩]
  | .group ⟨conjunction, children⟩ =>
    ⟨indent, conjunction.label indent, path⟩ :: outlineOfAll path (indent + 1) 0 children

/-- The lines of the children of the group at a path, from an index on and at an indent. -/
def outlineOfAll (path : Path) (indent : Nat) (index : Nat) : List Node → List OutlineLine
  | [] => []
  | node :: rest =>
    outline (path ++ [index]) indent node ++ outlineOfAll path indent (index + 1) rest

end

end Node

namespace Group

/-- The lines of a tree: those of its root, at no indent. -/
def outline (g : Group) : List OutlineLine :=
  Node.outline [] 0 (.group g)

end Group

end RecordFilter
