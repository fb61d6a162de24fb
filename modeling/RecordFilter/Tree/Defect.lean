import RecordFilter.Tree

/-!
# Defects of a tree

A tree can be applied if every group has a child and every condition is complete.  The search
for a defect goes through the tree from the root, a group before its children and the children
from left to right, and reports the first defect with its path.  Before something is inserted
into a group, that group alone may still be empty.
-/

namespace RecordFilter

/-- A problem at a place of a tree. -/
structure Defect where
  path : Path
  problem : Problem
  deriving DecidableEq, Repr

namespace Defect

/-- What the user is told. -/
def message (d : Defect) : String :=
  let path := Path.display d.path
  match d.problem with
  | .emptyGroup => "group at " ++ path ++ " has no conditions"
  | .missingField => "condition at " ++ path ++ " has no field"
  | .missingOperator => "condition at " ++ path ++ " has no operator"
  | .wrongShape expected =>
    "condition at " ++ path ++ " expects a " ++ Vocabulary.token expected ++ " value"
  | .emptyValue => "condition at " ++ path ++ " has an empty value"
  | .incompleteRange => "between condition at " ++ path ++ " needs both bounds"

/-- The defect seen from a group whose child at an index has it. -/
def under (index : Nat) (d : Defect) : Defect :=
  { d with path := index :: d.path }

end Defect

namespace Condition

/-- The defect of a condition that stands alone. -/
def defect? (c : Condition) : Option Defect :=
  c.problem?.map fun problem => ⟨[], problem⟩

end Condition

namespace Node

mutual

/-- The first defect of the node at a path; the group at the path `exempt` may be empty. -/
def defectAt? (exempt : Option Path) (path : Path) : Node → Option Defect
  | .condition c => c.problem?.map fun problem => ⟨path, problem⟩
  | .group ⟨_, children⟩ =>
    if children.isEmpty && exempt != some path then some ⟨path, .emptyGroup⟩
    else defectAmong? exempt path 0 children

/-- The first defect among the children of the group at a path, from an index on. -/
def defectAmong? (exempt : Option Path) (path : Path) (index : Nat) : List Node → Option Defect
  | [] => none
  | node :: rest =>
    match defectAt? exempt (path ++ [index]) node with
    | some defect => some defect
    | none => defectAmong? exempt path (index + 1) rest

end

end Node

namespace Group

/-- The first defect of a tree. -/
def defect? (g : Group) : Option Defect :=
  (Node.group g).defectAt? none []

/-- The first defect of a tree in which the group at a path may be empty. -/
def defectForInsert? (g : Group) (path : Path) : Option Defect :=
  (Node.group g).defectAt? (some path) []

end Group

end RecordFilter
