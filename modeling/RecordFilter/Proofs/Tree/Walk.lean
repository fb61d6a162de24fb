import Mathlib.Data.List.Basic
import RecordFilter.Proofs.Tree.Path

/-!
# The walk through a tree

The walk goes through a tree in pre-order: a group comes before its children, and the children come
from left to right, each followed by what is below it.  It meets what stands at the paths of the
tree and nothing else (`mem_walk_iff`).

On paths, pre-order is the order of lists of numbers: a path comes before those that go on from it,
and of two paths that part, the one that goes on through the earlier child comes first.  The walk
follows that order (`pairwise_walk`), so that no path is met twice.
-/

namespace RecordFilter

namespace Node

mutual

/-- What the walk through the node at a path meets, with the paths. -/
def walk (path : Path) : Node → List (Path × Node)
  | .condition c => [(path, .condition c)]
  | .group ⟨conjunction, children⟩ =>
    (path, .group ⟨conjunction, children⟩) :: walkAll path 0 children

/-- What the walk meets at the children of the group at a path, from an index on. -/
def walkAll (path : Path) (index : Nat) : List Node → List (Path × Node)
  | [] => []
  | node :: rest => walk (path ++ [index]) node ++ walkAll path (index + 1) rest

end

/-- The node at a path below a node; the empty path leads to the node itself. -/
def below? : Path → Node → Option Node
  | [], node => some node
  | i :: rest, node => (node.group?.bind fun g => g.children[i]?).bind (below? rest)

/-- What stands at a path that goes on stands at the rest of it, below what is on the way. -/
lemma below?_append {path more : Path} :
    ∀ node : Node, node.below? (path ++ more) = (node.below? path).bind (below? more) := by
  induction path with
  | nil => exact fun node => rfl
  | cons i rest ih =>
    intro node
    have hrest : below? (rest ++ more) = fun child => (below? rest child).bind (below? more) :=
      funext ih
    rw [List.cons_append, below?, below?, hrest]
    exact (Option.bind_assoc ..).symm

/-! ### What is met -/

/-- The walk through the children of a group is the walk through each of them, one after the
other. -/
lemma walkAll_eq_flatMap (path : Path) (nodes : List Node) :
    ∀ index, walkAll path index nodes =
      (nodes.zipIdx index).flatMap fun entry => entry.1.walk (path ++ [entry.2]) := by
  induction nodes with
  | nil => exact fun index => rfl
  | cons node rest ih =>
    intro index
    rw [walkAll, ih, List.zipIdx_cons, List.flatMap_cons]

/-- The walk meets what stands at the paths below a node. -/
theorem mem_walk_iff {path : Path} {item : Node} (node : Node) :
    ∀ {base : Path}, (path, item) ∈ node.walk base ↔
      ∃ rest, base ++ rest = path ∧ node.below? rest = some item := by
  induction node using Node.induction with
  | condition c =>
    intro base
    rw [walk, List.mem_singleton, Prod.mk.injEq]
    constructor
    · rintro ⟨rfl, rfl⟩
      exact ⟨[], List.append_nil _, rfl⟩
    · rintro ⟨rest, rfl, hitem⟩
      cases rest with
      | nil =>
        obtain rfl := Option.some.inj hitem
        exact ⟨List.append_nil base, rfl⟩
      | cons i rest => simp [below?, group?] at hitem
  | group conjunction children ih =>
    intro base
    have hchild : ∀ i child, children[i]? = some child →
        ((path, item) ∈ child.walk (base ++ [i]) ↔
          ∃ rest, base ++ i :: rest = path ∧ child.below? rest = some item) := by
      intro i child hchild
      rw [ih child (List.mem_of_getElem? hchild)]
      simp only [List.append_assoc, List.singleton_append]
    rw [walk, List.mem_cons, walkAll_eq_flatMap, List.mem_flatMap, Prod.mk.injEq]
    constructor
    · rintro (⟨rfl, rfl⟩ | ⟨⟨child, i⟩, hmem, hwalk⟩)
      · exact ⟨[], List.append_nil _, rfl⟩
      · have hi : children[i]? = some child := List.mk_mem_zipIdx_iff_getElem?.1 hmem
        obtain ⟨rest, hpath, hitem⟩ := (hchild i child hi).1 hwalk
        refine ⟨i :: rest, hpath, ?_⟩
        rw [below?, group?, Option.bind_some, hi, Option.bind_some, hitem]
    · rintro ⟨rest, hpath, hitem⟩
      cases rest with
      | nil =>
        obtain rfl := Option.some.inj hitem
        exact .inl ⟨hpath.symm.trans (List.append_nil base), rfl⟩
      | cons i rest =>
        rw [below?, group?, Option.bind_some, Option.bind_eq_some_iff] at hitem
        obtain ⟨child, hi, hitem⟩ := hitem
        have hmem : (child, i) ∈ children.zipIdx := List.mk_mem_zipIdx_iff_getElem?.2 hi
        exact .inr ⟨(child, i), hmem, (hchild i child hi).2 ⟨rest, hpath, hitem⟩⟩

/-! ### The order -/

/-- What is met at a node stands at the path of the node or goes on from it. -/
lemma exists_append_of_mem_walk {base path : Path} {node item : Node}
    (h : (path, item) ∈ node.walk base) : ∃ rest, base ++ rest = path := by
  obtain ⟨rest, hpath, -⟩ := (mem_walk_iff node).1 h
  exact ⟨rest, hpath⟩

/-- The walk follows the order of paths. -/
theorem pairwise_walk (node : Node) :
    ∀ base : Path, (node.walk base).Pairwise fun earlier later => earlier.1 < later.1 := by
  induction node using Node.induction with
  | condition c =>
    intro base
    rw [walk]
    exact List.pairwise_singleton _ _
  | group conjunction children ih =>
    intro base
    rw [walk, walkAll_eq_flatMap, List.pairwise_cons, List.pairwise_flatMap]
    refine ⟨?_, ?_, ?_⟩
    · -- the group comes before all that is below it
      rintro ⟨path, item⟩ hmem
      obtain ⟨⟨child, i⟩, -, hwalk⟩ := List.mem_flatMap.1 hmem
      obtain ⟨rest, rfl⟩ := exists_append_of_mem_walk hwalk
      have hlt : base ++ [] < base ++ i :: rest := List.append_left_lt (List.nil_lt_cons i rest)
      simpa using hlt
    · rintro ⟨child, i⟩ hmem
      have hi : children[i]? = some child := List.mk_mem_zipIdx_iff_getElem?.1 hmem
      exact ih child (List.mem_of_getElem? hi) (base ++ [i])
    · -- what is below an earlier child comes before what is below a later one
      have hindices : children.zipIdx.Pairwise fun earlier later => earlier.2 < later.2 := by
        rw [List.pairwise_iff_getElem]
        intro i j hi hj hij
        simpa using hij
      refine hindices.imp ?_
      rintro ⟨child, i⟩ ⟨other, j⟩ hij ⟨path, item⟩ hpath ⟨later, second⟩ hlater
      obtain ⟨rest, rfl⟩ := exists_append_of_mem_walk hpath
      obtain ⟨more, rfl⟩ := exists_append_of_mem_walk hlater
      have hlt : base ++ i :: rest < base ++ j :: more :=
        List.append_left_lt (List.cons_lt_cons_iff.2 (.inl hij))
      simpa using hlt

end Node

namespace Group

/-- What the walk through a tree meets, with the paths. -/
def walk (g : Group) : List (Path × Node) :=
  (Node.group g).walk []

/-- The node at a path is what stands there below the root. -/
lemma nodeAt?_eq_below? {path : Path} :
    ∀ (g : Group), path ≠ [] → g.nodeAt? path = (Node.group g).below? path := by
  induction path with
  | nil => exact fun g h => absurd rfl h
  | cons i rest ih =>
    intro g _
    rw [Node.below?, Node.group?, Option.bind_some]
    by_cases hrest : rest = []
    · rw [hrest, nodeAt?]
      cases g.children[i]? <;> rfl
    · rw [nodeAt?_cons hrest]
      obtain ⟨j, more, rfl⟩ := List.exists_cons_of_ne_nil hrest
      cases hchild : g.children[i]? with
      | none => rfl
      | some child =>
        cases child with
        | condition c => rfl
        | group inner => exact ih inner hrest

/-- The group at a path is what stands there below the root, if that is a group. -/
lemma groupAt?_eq_below? {path : Path} :
    ∀ (g : Group), g.groupAt? path = ((Node.group g).below? path).bind Node.group? := by
  induction path with
  | nil => exact fun g => rfl
  | cons i rest ih =>
    intro g
    rw [groupAt?, Node.below?, Node.group?, Option.bind_some]
    cases hchild : g.children[i]? with
    | none => rfl
    | some child =>
      cases child with
      | condition c => cases rest <;> rfl
      | group inner => exact ih inner

/-- There is no node at the root. -/
lemma ne_nil_of_nodeAt? {g : Group} {path : Path} {item : Node} (h : g.nodeAt? path = some item) :
    path ≠ [] := by
  rintro rfl
  simp [nodeAt?] at h

/-- The group at the path of a node is the node, if that is a group. -/
lemma groupAt?_of_nodeAt? {g : Group} {path : Path} {item : Node}
    (h : g.nodeAt? path = some item) : g.groupAt? path = item.group? := by
  rw [groupAt?_eq_below?, ← nodeAt?_eq_below? g (ne_nil_of_nodeAt? h), h, Option.bind_some]

/-- The condition at a path is what stands there below the root, if that is a condition. -/
lemma conditionAt?_eq_below? (g : Group) (path : Path) :
    g.conditionAt? path = ((Node.group g).below? path).bind Node.condition? := by
  rw [conditionAt?]
  by_cases hpath : path = []
  · rw [hpath]
    rfl
  · rw [nodeAt?_eq_below? g hpath]

/-- The walk meets what stands at the paths below the root. -/
lemma mem_walk_iff {g : Group} {path : Path} {item : Node} :
    (path, item) ∈ g.walk ↔ (Node.group g).below? path = some item := by
  rw [walk, Node.mem_walk_iff]
  simp only [List.nil_append, exists_eq_left]

/-- The walk meets the groups at the paths of a tree. -/
theorem group_mem_walk_iff {g inner : Group} {path : Path} :
    (path, .group inner) ∈ g.walk ↔ g.groupAt? path = some inner := by
  rw [mem_walk_iff, groupAt?_eq_below?, Option.bind_eq_some_iff]
  simp only [Node.group?_eq_some_iff, exists_eq_right]

/-- The walk meets the conditions at the paths of a tree. -/
theorem condition_mem_walk_iff {g : Group} {path : Path} {c : Condition} :
    (path, .condition c) ∈ g.walk ↔ g.conditionAt? path = some c := by
  rw [mem_walk_iff, conditionAt?_eq_below?, Option.bind_eq_some_iff]
  simp only [Node.condition?_eq_some_iff, exists_eq_right]

end Group

end RecordFilter
