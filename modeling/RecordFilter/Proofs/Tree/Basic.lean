import Mathlib.Tactic.Common
import RecordFilter.Tree

/-!
# Induction over trees

A tree is a node whose children are a list of nodes, and what is computed of a tree is computed
by a function on nodes together with one on lists of nodes.  `Node.induction` is the induction
that follows the children of a node, and the lemmas after it express every function on lists by
the function on nodes: the leaves of some nodes are the leaves of each, one after the other, and
so on.  With them no later proof has to follow the lists by itself.
-/

namespace RecordFilter

namespace Node

/-- A property that holds of every condition, and of a group as soon as it holds of the children,
holds of every node. -/
@[elab_as_elim]
theorem induction {motive : Node → Prop}
    (condition : ∀ c, motive (.condition c))
    (group : ∀ conjunction children, (∀ child ∈ children, motive child) →
      motive (.group ⟨conjunction, children⟩))
    (node : Node) : motive node :=
  @Node.rec motive (fun g => motive (.group g)) (fun nodes => ∀ child ∈ nodes, motive child)
    condition (fun _ h => h) group (fun _ h => absurd h List.not_mem_nil)
    (fun _ _ hnode hrest => List.forall_mem_cons.2 ⟨hnode, hrest⟩) node

/-! ### Functions on lists of nodes -/

/-- The conditions of some nodes are those of each, one node after the other. -/
lemma leavesOfAll_eq_flatMap (nodes : List Node) : leavesOfAll nodes = nodes.flatMap leaves := by
  induction nodes with
  | nil => rfl
  | cons node rest ih => rw [leavesOfAll, ih, List.flatMap_cons]

/-- The conditions of a group are those of its children. -/
lemma leaves_group (conjunction : Conjunction) (children : List Node) :
    leaves (.group ⟨conjunction, children⟩) = children.flatMap leaves := by
  rw [leaves, leavesOfAll_eq_flatMap]

@[simp] lemma leaves_condition (c : Condition) : leaves (.condition c) = [c] := by
  rw [leaves]

/-- Some nodes have as many conditions as are listed if each of them has. -/
lemma leafCountOfAll_eq_length_of_forall {nodes : List Node}
    (h : ∀ node ∈ nodes, node.leafCount = node.leaves.length) :
    leafCountOfAll nodes = (leavesOfAll nodes).length := by
  induction nodes with
  | nil => rfl
  | cons node rest ih =>
    rw [leafCountOfAll, leavesOfAll, List.length_append, h node List.mem_cons_self,
      ih fun other hother => h other (List.mem_cons_of_mem node hother)]

/-- A node has as many conditions as are listed. -/
lemma leafCount_eq_length_leaves (node : Node) : node.leafCount = node.leaves.length := by
  induction node using Node.induction with
  | condition c => rw [leafCount, leaves_condition, List.length_singleton]
  | group conjunction children ih =>
    rw [leafCount, leaves, leafCountOfAll_eq_length_of_forall ih]

/-- Some nodes all hold if each of them does. -/
lemma allHold_eq_all (truth : Condition → Bool) (nodes : List Node) :
    allHold truth nodes = nodes.all (holds truth) := by
  induction nodes with
  | nil => rfl
  | cons node rest ih => rw [allHold, ih, List.all_cons]

/-- One of some nodes holds if there is one that does. -/
lemma anyHolds_eq_any (truth : Condition → Bool) (nodes : List Node) :
    anyHolds truth nodes = nodes.any (holds truth) := by
  induction nodes with
  | nil => rfl
  | cons node rest ih => rw [anyHolds, ih, List.any_cons]

@[simp] lemma holds_condition (truth : Condition → Bool) (c : Condition) :
    holds truth (.condition c) = truth c := by
  rw [holds]

/-- A group joined by "and" holds if all its children do. -/
lemma holds_and (truth : Condition → Bool) (children : List Node) :
    holds truth (.group ⟨.and, children⟩) = children.all (holds truth) := by
  rw [holds, allHold_eq_all]

/-- A group joined by "or" holds if it is empty or one of its children does. -/
lemma holds_or (truth : Condition → Bool) (children : List Node) :
    holds truth (.group ⟨.or, children⟩) = (children.isEmpty || children.any (holds truth)) := by
  rw [holds, anyHolds_eq_any]

/-- A group of one child holds if the child does, however it is joined. -/
lemma holds_singleton (truth : Condition → Bool) (conjunction : Conjunction) (child : Node) :
    holds truth (.group ⟨conjunction, [child]⟩) = holds truth child := by
  cases conjunction
  · simp [holds_and]
  · simp [holds_or]

end Node

namespace Group

/-- The conditions of a group are those of its children. -/
lemma leaves_mk (conjunction : Conjunction) (children : List Node) :
    (⟨conjunction, children⟩ : Group).leaves = children.flatMap Node.leaves :=
  Node.leaves_group conjunction children

/-- The conditions of a group are those of its children. -/
lemma leaves_eq_flatMap (g : Group) : g.leaves = g.children.flatMap Node.leaves := by
  obtain ⟨conjunction, children⟩ := g
  exact leaves_mk conjunction children

/-- A group has as many conditions as are listed. -/
lemma leafCount_eq_length_leaves (g : Group) : g.leafCount = g.leaves.length :=
  Node.leafCount_eq_length_leaves (.group g)

/-- The meaning of a group is that of the node it is. -/
lemma holds_mk (truth : Condition → Bool) (conjunction : Conjunction) (children : List Node) :
    (⟨conjunction, children⟩ : Group).holds truth =
      (Node.group ⟨conjunction, children⟩).holds truth :=
  rfl

end Group

end RecordFilter
