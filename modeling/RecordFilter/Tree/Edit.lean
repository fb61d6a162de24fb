import RecordFilter.Tree.Defect

/-!
# Editing a tree

The edits of the advanced view.  An edit works on a tree in place: it answers, or it is refused
for a reason, and either way it leaves behind the tree as far as it came.

Insertion is refused while any other part of the tree has a defect.  Removal takes away a nested
group that it leaves empty, and says which path to select next: the previous sibling, else the
next one, else the parent.
-/

namespace RecordFilter

/-- Why an edit of a tree is refused. -/
inductive TreeError where
  | invalid (defect : Defect)
  | noSuchGroup (path : Path)
  | noSuchItem (path : Path)
  | notACondition (path : Path)
  | rootRemoval
  deriving DecidableEq, Repr

/-- What the user is told. -/
def TreeError.message : TreeError → String
  | .invalid defect => defect.message
  | .noSuchGroup path => "no group at " ++ Path.display path
  | .noSuchItem path => "no item at " ++ Path.display path
  | .notACondition path => "no condition at " ++ Path.display path
  | .rootRemoval => "the root group cannot be removed"

namespace Group

/-- The group with a node inserted before the child at an index. -/
def insertChild (g : Group) (index : Nat) (node : Node) : Group :=
  { g with children := g.children.insertIdx index node }

/-- The group without the child at an index. -/
def eraseChild (g : Group) (index : Nat) : Group :=
  { g with children := g.children.eraseIdx index }

/-- The group with another conjunction. -/
def withConjunction (g : Group) (conjunction : Conjunction) : Group :=
  { g with conjunction := conjunction }

/-- What to select in a group after the child at an index has gone: the child before it, else
the one that took its place, else nothing. -/
def selectionAfter (index remaining : Nat) : Path :=
  if remaining = 0 then [] else [min (index - 1) (remaining - 1)]

end Group

/-- An edit of a tree in place. -/
abbrev TreeEdit := EStateM TreeError Group

namespace TreeEdit

/-- Inserts a node into the group at a path; a position past the end appends.  Answers with the
path of the node. -/
def insertNode (path : Path) (position : Nat) (node : Node) : TreeEdit Path := do
  let tree ← get
  match tree.groupAt? path with
  | none => throw (.noSuchGroup path)
  | some target =>
    match tree.defectForInsert? path with
    | some defect => throw (.invalid defect)
    | none =>
      let index := min position target.size
      set (tree.modifyGroup (fun group => group.insertChild index node) path)
      return path ++ [index]

/-- Inserts a condition into the group at a path. -/
def insertCondition (path : Path) (position : Nat) (c : Condition) : TreeEdit Path :=
  insertNode path position (.condition c)

/-- Inserts an empty group into the group at a path. -/
def insertGroup (path : Path) (position : Nat) (conjunction : Conjunction) : TreeEdit Path :=
  insertNode path position (.group ⟨conjunction, []⟩)

/-- Appends a node to the group at a path. -/
def appendNode (path : Path) (node : Node) : TreeEdit Path := do
  let tree ← get
  insertNode path (((tree.groupAt? path).map Group.size).getD 0) node

/-- Puts a group of one child around the node at a path. -/
def wrapInGroup (path : Path) (conjunction : Conjunction) : TreeEdit Unit := do
  let tree ← get
  match tree.nodeAt? path with
  | none => throw (.noSuchItem path)
  | some node => set (tree.setNode path (.group ⟨conjunction, [node]⟩))

/-- Puts another condition in place of the one at a path. -/
def replaceCondition (path : Path) (c : Condition) : TreeEdit Unit := do
  let tree ← get
  match tree.nodeAt? path with
  | none => throw (.noSuchItem path)
  | some (.group _) => throw (.notACondition path)
  | some (.condition _) => set (tree.setNode path (.condition c))

/-- Changes the condition at a path. -/
def changeCondition (path : Path) (change : Condition → Condition) : TreeEdit Unit := do
  let tree ← get
  match tree.conditionAt? path with
  | none => throw (.notACondition path)
  | some c => set (tree.setNode path (.condition (change c)))

/-- Sets the conjunction of the group at a path. -/
def setConjunction (path : Path) (conjunction : Conjunction) : TreeEdit Unit := do
  let tree ← get
  match tree.groupAt? path with
  | none => throw (.noSuchGroup path)
  | some _ => set (tree.modifyGroup (fun group => group.withConjunction conjunction) path)

/-- Removes the node at a path, and then every group above it that becomes empty, but not the
root.  The path is given from its last index upwards.  Answers with the path to select next. -/
def removeUpwards : (reversed : Path) → TreeEdit Path
  | [] => return []
  | index :: above => do
    let tree ← get
    match tree.groupAt? above.reverse with
    | none => throw (.noSuchItem (above.reverse ++ [index]))
    | some parent =>
      if parent.size ≤ index then throw (.noSuchItem (above.reverse ++ [index]))
      else
        set (tree.modifyGroup (fun group => group.eraseChild index) above.reverse)
        if parent.size = 1 ∧ above ≠ [] then removeUpwards above
        else return above.reverse ++ Group.selectionAfter index (parent.size - 1)

/-- Removes the node at a path, and with it every group below the root that becomes empty.
Answers with the path to select next. -/
def removeItem (path : Path) : TreeEdit Path :=
  if path = [] then throw .rootRemoval else removeUpwards path.reverse

end TreeEdit

end RecordFilter
