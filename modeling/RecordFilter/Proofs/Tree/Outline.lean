import RecordFilter.Proofs.Tree.Walk
import RecordFilter.Tree.Outline

/-!
# What the outline shows

The outline has one line for each node that the walk through a tree meets, in the same order
(`outline_eq_map_walk`), so that what is known of the walk holds of the outline: its paths are those
of the tree, in pre-order and each of them once.  The outline counts its indent apart from the path;
the two stay in step, so that the indent is the depth and only the line of the root is labelled as
such.  The line at a path shows what stands there (`outline_faithful`).
-/

namespace RecordFilter

namespace Node

/-- What the tree view says of a node at an indent. -/
def label (indent : Nat) : Node → String
  | .condition c => c.summary
  | .group g => g.conjunction.label indent

/-- The line of a node that the walk meets, indented as deep as its path leads. -/
def line (visit : Path × Node) : OutlineLine :=
  ⟨visit.1.length, visit.2.label visit.1.length, visit.1⟩

mutual

/-- The number of nodes at a node and below it. -/
def nodeCount : Node → Nat
  | .condition _ => 1
  | .group ⟨_, children⟩ => 1 + nodeCountOfAll children

/-- The number of nodes at some nodes and below them. -/
def nodeCountOfAll : List Node → Nat
  | [] => 0
  | node :: rest => nodeCount node + nodeCountOfAll rest

end

mutual

/-- The outline of a node has a line for each node that the walk meets.  The indent is counted apart
from the path, and the two stay in step: each level adds one to both. -/
lemma outline_eq_map_walk {path : Path} {indent : Nat} (h : indent = path.length) :
    (node : Node) → node.outline path indent = (node.walk path).map line
  | .condition c => by
    rw [h]
    rfl
  | .group ⟨conjunction, children⟩ => by
    rw [outline, walk, List.map_cons, outlineOfAll_eq_map_walkAll (congrArg (· + 1) h), h]
    rfl

/-- The outline of some children has a line for each node that the walk meets there. -/
lemma outlineOfAll_eq_map_walkAll {path : Path} {indent index : Nat}
    (h : indent = path.length + 1) :
    (nodes : List Node) → outlineOfAll path indent index nodes = (walkAll path index nodes).map line
  | [] => rfl
  | node :: rest => by
    have hchild : indent = (path ++ [index]).length := by
      rw [h, List.length_append, List.length_singleton]
    rw [outlineOfAll, walkAll, List.map_append, outline_eq_map_walk hchild,
      outlineOfAll_eq_map_walkAll h]

end

mutual

/-- The walk meets every node once. -/
lemma length_walk (path : Path) : (node : Node) → (node.walk path).length = node.nodeCount
  | .condition c => rfl
  | .group ⟨conjunction, children⟩ => by
    rw [walk, nodeCount, List.length_cons, length_walkAll, Nat.add_comm]

/-- The walk through some children meets every node there once. -/
lemma length_walkAll (path : Path) (index : Nat) : (nodes : List Node) →
    (walkAll path index nodes).length = nodeCountOfAll nodes
  | [] => rfl
  | node :: rest => by
    rw [walkAll, nodeCountOfAll, List.length_append, length_walk, length_walkAll]

end

mutual

/-- The conditions that the walk meets are those of the node, in order. -/
lemma filterMap_walk (path : Path) : (node : Node) →
    ((node.walk path).filterMap fun visit => visit.2.condition?) = node.leaves
  | .condition c => rfl
  | .group ⟨conjunction, children⟩ => by
    rw [walk, leaves, ← filterMap_walkAll path 0 children]
    rfl

/-- The conditions that the walk meets at some children are theirs, in order. -/
lemma filterMap_walkAll (path : Path) (index : Nat) : (nodes : List Node) →
    ((walkAll path index nodes).filterMap fun visit => visit.2.condition?) = leavesOfAll nodes
  | [] => rfl
  | node :: rest => by
    rw [walkAll, leavesOfAll, List.filterMap_append, filterMap_walk, filterMap_walkAll]

end

end Node

namespace Group

/-- The number of nodes below the root. -/
def nodeCount (g : Group) : Nat :=
  Node.nodeCountOfAll g.children

/-- The outline has one line for each node that the walk meets, the root among them. -/
lemma outline_eq_map_walk (g : Group) : g.outline = g.walk.map Node.line :=
  Node.outline_eq_map_walk List.length_nil.symm (.group g)

/-- The paths of the outline are those that the walk comes to, in the same order. -/
lemma map_path_outline (g : Group) : g.outline.map OutlineLine.path = g.walk.map Prod.fst := by
  rw [outline_eq_map_walk, List.map_map]
  rfl

/-- The walk through a tree starts at the root. -/
lemma walk_eq_cons (g : Group) : g.walk = ([], .group g) :: Node.walkAll [] 0 g.children := by
  obtain ⟨conjunction, children⟩ := g
  rw [walk, Node.walk]

/-- Below the root the walk meets the nodes at the paths of a tree. -/
lemma mem_walkAll_iff {g : Group} {path : Path} {item : Node} :
    (path, item) ∈ Node.walkAll [] 0 g.children ↔ g.nodeAt? path = some item := by
  have hsorted : g.walk.Pairwise fun a b => a.1 < b.1 := Node.pairwise_walk (.group g) []
  have hwalk : (path, item) ∈ g.walk ↔ (Node.group g).below? path = some item := mem_walk_iff
  rw [walk_eq_cons, List.pairwise_cons] at hsorted
  rw [walk_eq_cons, List.mem_cons] at hwalk
  constructor
  · intro hmem
    -- the root comes before all that is met below it
    have hne : path ≠ [] := by
      rintro rfl
      exact List.not_lt_nil [] (hsorted.1 _ hmem)
    rw [nodeAt?_eq_below? g hne]
    exact hwalk.1 (.inr hmem)
  · intro hitem
    have hne := ne_nil_of_nodeAt? hitem
    rw [nodeAt?_eq_below? g hne] at hitem
    exact (hwalk.2 hitem).resolve_left fun heq => hne (Prod.mk.inj heq).1

/-- A line shows what stands at its path. -/
structure Shows (g : Group) (line : OutlineLine) : Prop where
  /-- The line is indented as deep as its path leads. -/
  indent : line.indent = line.path.length
  /-- The root is labelled as such, with its conjunction. -/
  root : line.path = [] → line.label = "Root " ++ g.conjunction.display
  /-- A group below the root is labelled with its conjunction. -/
  group : ∀ inner, line.path ≠ [] → g.groupAt? line.path = some inner →
    line.label = inner.conjunction.display
  /-- Where there is no group there is a condition, and it is labelled with its summary. -/
  condition : g.groupAt? line.path = none →
    ∃ c, g.conditionAt? line.path = some c ∧ line.label = c.summary

/-- The line of a node that the walk meets shows it. -/
lemma shows_line {g : Group} {path : Path} {item : Node} (h : (path, item) ∈ g.walk) :
    g.Shows (Node.line (path, item)) where
  indent := rfl
  root := by
    intro hnil
    change path = [] at hnil
    rw [hnil, mem_walk_iff, Node.below?, Option.some.injEq] at h
    rw [hnil, ← h]
    rfl
  group := by
    intro inner hne hinner
    have hitem : item = .group inner :=
      Option.some.inj ((mem_walk_iff.1 h).symm.trans (mem_walk_iff.1 (group_mem_walk_iff.2 hinner)))
    rw [hitem]
    exact if_neg fun hlength => hne (List.length_eq_zero_iff.1 hlength)
  condition := by
    intro hnone
    change g.groupAt? path = none at hnone
    cases item with
    | condition c => exact ⟨c, condition_mem_walk_iff.1 h, rfl⟩
    | group inner => cases hnone.symm.trans (group_mem_walk_iff.1 h)

/-- The conditions at the paths of the outline are those of the tree, in order. -/
lemma filterMap_outline (g : Group) :
    (g.outline.filterMap fun line => g.conditionAt? line.path) = g.leaves := by
  have hwalk : ∀ visit ∈ g.walk, g.conditionAt? visit.1 = visit.2.condition? := by
    rintro ⟨path, item⟩ hmem
    rw [conditionAt?_eq_below?, mem_walk_iff.1 hmem, Option.bind_some]
  have hpaths : (g.outline.filterMap fun line => g.conditionAt? line.path) =
      (g.outline.map OutlineLine.path).filterMap g.conditionAt? := by
    rw [List.filterMap_map]
    rfl
  calc (g.outline.filterMap fun line => g.conditionAt? line.path)
      = (g.walk.map Prod.fst).filterMap g.conditionAt? := by rw [hpaths, map_path_outline]
    _ = g.walk.filterMap fun visit => visit.2.condition? := by
      rw [List.filterMap_map]
      exact List.filterMap_congr hwalk
    _ = g.leaves := Node.filterMap_walk [] (.group g)

/-- **The outline is an index of the tree.**  Its paths are that of the root and then those of the
nodes, each of them once: they are in pre-order, which is the order of paths.  Every line shows what
stands at its path.  So there is one line more than there are nodes, and as many lines show a
condition as the tree has conditions, which are met in their order. -/
theorem outline_faithful (g : Group) :
    (∃ rest, g.outline.map OutlineLine.path = [] :: rest ∧
      ∀ path, path ∈ rest ↔ g.nodeAt? path ≠ none) ∧
      (g.outline.map OutlineLine.path).Pairwise (· < ·) ∧
      (∀ line ∈ g.outline, g.Shows line) ∧
      g.outline.length = 1 + g.nodeCount ∧
      (g.outline.filterMap fun line => g.conditionAt? line.path) = g.leaves ∧
      (g.outline.countP fun line => (g.conditionAt? line.path).isSome) = g.leafCount := by
  have hsorted : (g.outline.map OutlineLine.path).Pairwise (· < ·) := by
    rw [map_path_outline, List.pairwise_map]
    exact Node.pairwise_walk (.group g) []
  refine ⟨⟨(Node.walkAll [] 0 g.children).map Prod.fst, ?_, fun path => ?_⟩, hsorted,
    fun line hline => ?_, ?_, g.filterMap_outline, ?_⟩
  · rw [map_path_outline, walk_eq_cons, List.map_cons]
  · rw [List.mem_map, Option.ne_none_iff_exists']
    simp only [Prod.exists, mem_walkAll_iff, exists_and_right, exists_eq_right]
  · rw [outline_eq_map_walk, List.mem_map] at hline
    obtain ⟨⟨path, item⟩, hmem, rfl⟩ := hline
    exact shows_line hmem
  · rw [outline_eq_map_walk, List.length_map, walk_eq_cons, List.length_cons, Node.length_walkAll,
      nodeCount, Nat.add_comm]
  · rw [leafCount_eq_length_leaves, ← filterMap_outline, List.length_filterMap_eq_countP]

/-- A tree with an empty group two levels deep, behind a condition. -/
def unevenTree : Group :=
  ⟨.or, [.condition .blank, .group ⟨.and,
    [.condition (.complete (.named "status" .text) .equals (.text "Open")), .group ⟨.or, []⟩]⟩]⟩

/-- `outline_faithful` at a tree with an empty group. -/
theorem outline_faithful_unevenTree :
    unevenTree.outline =
        [⟨0, "Root OR", []⟩, ⟨1, "<field> <operator>", [0]⟩, ⟨1, "AND", [1]⟩,
          ⟨2, "status equals \"Open\"", [1, 0]⟩, ⟨2, "OR", [1, 1]⟩] ∧
      unevenTree.Shows ⟨2, "status equals \"Open\"", [1, 0]⟩ ∧
      unevenTree.Shows ⟨2, "OR", [1, 1]⟩ ∧
      unevenTree.outline.length = 1 + unevenTree.nodeCount ∧
      (unevenTree.outline.countP fun line => (unevenTree.conditionAt? line.path).isSome) = 2 := by
  have hlines : unevenTree.outline =
      [⟨0, "Root OR", []⟩, ⟨1, "<field> <operator>", [0]⟩, ⟨1, "AND", [1]⟩,
        ⟨2, "status equals \"Open\"", [1, 0]⟩, ⟨2, "OR", [1, 1]⟩] := by decide
  obtain ⟨-, -, hshows, hlength, -, hcount⟩ := outline_faithful unevenTree
  exact ⟨hlines, hshows _ (by simp [hlines]), hshows _ (by simp [hlines]), hlength, hcount⟩

end Group

end RecordFilter
