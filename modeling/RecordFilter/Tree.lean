import RecordFilter.Condition

/-!
# Condition trees

A filter is a tree: a group joins its children by one conjunction, and a child is a condition or
again a group.  The root of a filter is a group.

A node is addressed by the list of child indices that leads to it from the root.  The empty path
addresses the root, which is a group and not a node.
-/

namespace RecordFilter

/-- How the children of a group are joined. -/
inductive Conjunction where
  | and
  | or
  deriving DecidableEq, Repr

namespace Conjunction

instance : Inhabited Conjunction := ⟨.and⟩

instance : Vocabulary Conjunction where
  all := [.and, .or]
  token
    | .and => "and"
    | .or => "or"

/-- The conjunction as it is shown. -/
def display : Conjunction → String
  | .and => "AND"
  | .or => "OR"

/-- The conjunction that a word stands for, whatever the case of its ASCII letters and the
blanks around it. -/
def ofWord? (s : String) : Option Conjunction :=
  Vocabulary.ofTokenLoosely? s

end Conjunction

mutual

/-- A child of a group. -/
inductive Node where
  | condition (condition : Condition)
  | group (group : Group)
  deriving Repr

/-- A list of nodes joined by a conjunction. -/
structure Group where
  conjunction : Conjunction
  children : List Node
  deriving Repr

end

/-- The child indices that lead from the root to a node. -/
abbrev Path := List Nat

/-- A path as it is shown. -/
def Path.display (path : Path) : String :=
  "[" ++ Text.join ", " (path.map toString) ++ "]"

mutual

/-- Decides whether two nodes are equal. -/
def Node.decEq : (a b : Node) → Decidable (a = b)
  | .condition a, .condition b =>
    if h : a = b then isTrue (by rw [h]) else isFalse (by intro e; injection e; contradiction)
  | .condition _, .group _ => isFalse (by intro e; injection e)
  | .group _, .condition _ => isFalse (by intro e; injection e)
  | .group ⟨c, xs⟩, .group ⟨d, ys⟩ =>
    if h : c = d then
      match Node.decEqAll xs ys with
      | isTrue h' => isTrue (by rw [h, h'])
      | isFalse h' => isFalse (by intro e; injection e with e; injection e; contradiction)
    else isFalse (by intro e; injection e with e; injection e; contradiction)

/-- Decides whether two lists of nodes are equal. -/
def Node.decEqAll : (a b : List Node) → Decidable (a = b)
  | [], [] => isTrue rfl
  | [], _ :: _ => isFalse (by intro e; injection e)
  | _ :: _, [] => isFalse (by intro e; injection e)
  | x :: xs, y :: ys =>
    match Node.decEq x y with
    | isFalse h => isFalse (by intro e; injection e; contradiction)
    | isTrue h =>
      match Node.decEqAll xs ys with
      | isTrue h' => isTrue (by rw [h, h'])
      | isFalse h' => isFalse (by intro e; injection e; contradiction)

end

instance : DecidableEq Node := Node.decEq

instance : DecidableEq Group := fun a b =>
  match Node.decEq (.group a) (.group b) with
  | isTrue h => isTrue (by injection h)
  | isFalse h => isFalse (by intro e; exact h (by rw [e]))

instance : Inhabited Node := ⟨.condition default⟩

namespace Node

/-- Whether a node is a condition. -/
def isCondition : Node → Bool
  | .condition _ => true
  | .group _ => false

/-- The condition of a node. -/
def condition? : Node → Option Condition
  | .condition c => some c
  | .group _ => none

/-- The group of a node. -/
def group? : Node → Option Group
  | .condition _ => none
  | .group g => some g

mutual

/-- The conditions of a node, from left to right. -/
def leaves : Node → List Condition
  | .condition c => [c]
  | .group ⟨_, children⟩ => leavesOfAll children

/-- The conditions of some nodes, from left to right. -/
def leavesOfAll : List Node → List Condition
  | [] => []
  | node :: rest => leaves node ++ leavesOfAll rest

end

mutual

/-- The number of conditions of a node. -/
def leafCount : Node → Nat
  | .condition _ => 1
  | .group ⟨_, children⟩ => leafCountOfAll children

/-- The number of conditions of some nodes. -/
def leafCountOfAll : List Node → Nat
  | [] => 0
  | node :: rest => leafCount node + leafCountOfAll rest

end

mutual

/-- Whether a node holds, given which conditions hold. -/
def holds (truth : Condition → Bool) : Node → Bool
  | .condition c => truth c
  | .group ⟨conjunction, children⟩ =>
    match conjunction with
    | .and => allHold truth children
    | .or => children.isEmpty || anyHolds truth children

/-- Whether all of some nodes hold. -/
def allHold (truth : Condition → Bool) : List Node → Bool
  | [] => true
  | node :: rest => holds truth node && allHold truth rest

/-- Whether one of some nodes holds. -/
def anyHolds (truth : Condition → Bool) : List Node → Bool
  | [] => false
  | node :: rest => holds truth node || anyHolds truth rest

end

end Node

namespace Group

/-- The group without children that is joined by "and". -/
def empty : Group := ⟨.and, []⟩

instance : Inhabited Group := ⟨empty⟩

/-- The group of some nodes that are joined by "and". -/
def all (children : List Node) : Group := ⟨.and, children⟩

/-- The number of children. -/
def size (g : Group) : Nat := g.children.length

/-- Whether there are no children. -/
def isEmpty (g : Group) : Bool := g.children.isEmpty

/-- Whether every child is a condition. -/
def isFlat (g : Group) : Bool := g.children.all Node.isCondition

/-- The conditions of a group, from left to right. -/
def leaves (g : Group) : List Condition := (Node.group g).leaves

/-- The number of conditions at any depth. -/
def leafCount (g : Group) : Nat := (Node.group g).leafCount

/-- Whether a group holds, given which conditions hold; an empty group does. -/
def holds (g : Group) (truth : Condition → Bool) : Bool := (Node.group g).holds truth

/-- The group at a path. -/
def groupAt? (g : Group) : Path → Option Group
  | [] => some g
  | i :: rest =>
    match g.children[i]? with
    | some (.group inner) => inner.groupAt? rest
    | _ => none

/-- The node at a path; there is none at the root. -/
def nodeAt? (g : Group) : Path → Option Node
  | [] => none
  | [i] => g.children[i]?
  | i :: rest =>
    match g.children[i]? with
    | some (.group inner) => inner.nodeAt? rest
    | _ => none

/-- The condition at a path. -/
def conditionAt? (g : Group) (path : Path) : Option Condition :=
  (g.nodeAt? path).bind Node.condition?

/-- The tree with a function applied to the group at a path, if there is one. -/
def modifyGroup (f : Group → Group) : Path → Group → Group
  | [], g => f g
  | i :: rest, g =>
    match g.children[i]? with
    | some (.group inner) =>
      { g with children := g.children.set i (.group (modifyGroup f rest inner)) }
    | _ => g

/-- The tree with a function applied to the node at a path, if there is one. -/
def modifyNode (f : Node → Node) : Path → Group → Group
  | [], g => g
  | [i], g => { g with children := g.children.modify i f }
  | i :: rest, g =>
    match g.children[i]? with
    | some (.group inner) =>
      { g with children := g.children.set i (.group (modifyNode f rest inner)) }
    | _ => g

/-- The tree with another node at a path, if there is one. -/
def setNode (g : Group) (path : Path) (node : Node) : Group :=
  g.modifyNode (fun _ => node) path

end Group

end RecordFilter
