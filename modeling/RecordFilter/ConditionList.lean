import RecordFilter.Tree

/-!
# Condition lists

A condition list is a tree written in one line: conditions and nested lists with words for the
conjunctions between them.  A list may mix conjunctions, repeat them or leave them out; it is
read from left to right, and "and" is meant where nothing is said.

`ConditionList.toGroup` is the tree of a list and `Group.toList` the list of a tree.
-/

namespace RecordFilter

/-- An item of a condition list. -/
inductive ListItem where
  | word (conjunction : Conjunction)
  | condition (condition : Condition)
  | list (items : List ListItem)
  deriving Repr

/-- The items of a condition list. -/
abbrev ConditionList := List ListItem

namespace ConditionList

/-- A tree that is read from left to right: the group of the operands so far, if there is one,
and the conjunction that waits for its next operand. -/
structure Reading where
  group : Option Group
  pending : Option Conjunction

namespace Reading

/-- Nothing has been read. -/
def start : Reading := ⟨none, none⟩

/-- Joins a node to a group by a conjunction.  A group of one child takes the conjunction over;
a group joined by another conjunction becomes the first child of a new group. -/
def join (group : Group) (conjunction : Conjunction) (node : Node) : Group :=
  if group.size = 1 then ⟨conjunction, group.children ++ [node]⟩
  else if group.conjunction = conjunction then ⟨conjunction, group.children ++ [node]⟩
  else ⟨conjunction, [.group group, node]⟩

/-- An operand has been read: it is joined by the conjunction that waits, else by "and". -/
def operand (r : Reading) (node : Node) : Reading :=
  let conjunction := r.pending.getD .and
  match r.group with
  | none => ⟨some ⟨conjunction, [node]⟩, none⟩
  | some group => ⟨some (join group conjunction node), none⟩

/-- The tree of what has been read.  The conjunction of a single operand has no meaning and is
"and". -/
def finish (r : Reading) : Group :=
  match r.group with
  | none => .empty
  | some group => if group.size = 1 then ⟨.and, group.children⟩ else group

/-- The first operand becomes a group of its own, whatever conjunction waits. -/
theorem operand_none (pending : Option Conjunction) (node : Node) :
    operand ⟨none, pending⟩ node = ⟨some ⟨pending.getD .and, [node]⟩, none⟩ := rfl

/-- A later operand is joined by the conjunction that waits, else by "and". -/
theorem operand_some (g : Group) (pending : Option Conjunction) (node : Node) :
    operand ⟨some g, pending⟩ node = ⟨some (join g (pending.getD .and) node), none⟩ := rfl

/-- Nothing has been read: the tree is empty. -/
theorem finish_none (pending : Option Conjunction) : finish ⟨none, pending⟩ = .empty := rfl

/-- A group that has been read is the tree, but for the conjunction of a single child. -/
theorem finish_some (g : Group) (pending : Option Conjunction) :
    finish ⟨some g, pending⟩ = if g.size = 1 then ⟨.and, g.children⟩ else g := rfl

end Reading

mutual

/-- Reads one item.  A nested list without operands is passed over. -/
def readItem (r : Reading) : ListItem → Reading
  | .word conjunction => { r with pending := some conjunction }
  | .condition c => r.operand (.condition c)
  | .list items =>
    let nested := (readItems .start items).finish
    if nested.isEmpty then r else r.operand (.group nested)

/-- Reads items one after the other. -/
def readItems (r : Reading) : List ListItem → Reading
  | [] => r
  | item :: rest => readItems (readItem r item) rest

end

/-- The tree of a condition list. -/
def toGroup (items : ConditionList) : Group :=
  (readItems .start items).finish

end ConditionList

namespace Node

mutual

/-- The item of a node. -/
def toItem : Node → ListItem
  | .condition c => .condition c
  | .group ⟨conjunction, children⟩ => .list (itemsOf conjunction children)

/-- The items of the children of a group: the conjunction stands between two children. -/
def itemsOf (conjunction : Conjunction) : List Node → List ListItem
  | [] => []
  | node :: rest => toItem node :: moreItemsOf conjunction rest

/-- The items that follow a child of a group. -/
def moreItemsOf (conjunction : Conjunction) : List Node → List ListItem
  | [] => []
  | node :: rest => .word conjunction :: toItem node :: moreItemsOf conjunction rest

end

end Node

/-- The condition list of a tree. -/
def Group.toList (g : Group) : ConditionList :=
  Node.itemsOf g.conjunction g.children

end RecordFilter
