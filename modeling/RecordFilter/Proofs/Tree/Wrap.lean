import RecordFilter.Proofs.Answered
import RecordFilter.Proofs.Tree.Defect
import RecordFilter.Proofs.Tree.Frame
import RecordFilter.Proofs.Tree.Insertion

/-!
# A group around a node

Putting a group around the node at a path moves the node and all that is below it one level down,
and nothing else (`Group.Wraps`).

What a tree keeps when a node is replaced is found at the node.  A relation between nodes that goes
through groups holds between two trees as soon as it holds between the nodes in which they differ
(`Node.GoesThroughGroups.setNode`).  The conditions, the meaning and the absence of defects are such
relations, and a group of one child has all three from its child, however it is joined.
-/

namespace RecordFilter

/-- Of two paths neither of which goes on from the other, each leaves the way that they share. -/
lemma Path.exists_fork {path other : Path} (h : ¬other <+: path) (h' : ¬path <+: other) :
    ∃ way i rest j more, way ++ i :: rest = path ∧ way ++ j :: more = other ∧ j ≠ i := by
  induction path generalizing other with
  | nil => exact absurd List.nil_prefix h'
  | cons i rest ih =>
    cases other with
    | nil => exact absurd List.nil_prefix h
    | cons j more =>
      by_cases hj : j = i
      · subst hj
        rw [List.cons_prefix_cons, and_iff_right rfl] at h h'
        obtain ⟨way, k, lower, l, below, rfl, rfl, hne⟩ := ih h h'
        exact ⟨j :: way, k, lower, l, below, rfl, rfl, hne⟩
      · exact ⟨[], i, rest, j, more, rfl, rfl, hj⟩

namespace Node

/-! ### Relations that go through groups -/

/-- A relation goes through groups if two groups are related that have related children at one
place and are otherwise the same. -/
def GoesThroughGroups (R : Node → Node → Prop) : Prop :=
  ∀ conjunction front back old new, R old new →
    R (.group ⟨conjunction, front ++ old :: back⟩) (.group ⟨conjunction, front ++ new :: back⟩)

namespace GoesThroughGroups

variable {R : Node → Node → Prop}

/-- Two groups are related that differ in one child, if these children are. -/
lemma setChild (hR : GoesThroughGroups R) {g : Group} {i : Nat} {old new : Node}
    (hold : g.children[i]? = some old) (h : R old new) :
    R (.group g) (.group (g.setChild i new)) := by
  obtain ⟨front, back, hchildren, hset, -⟩ := exists_append_of_getElem? hold
  obtain ⟨conjunction, children⟩ := g
  obtain rfl : children = front ++ old :: back := hchildren
  rw [Group.setChild, hset]
  exact hR conjunction front back old new h

/-- Two trees are related that differ in the group at a path, if these groups are. -/
theorem modifyGroup (hR : GoesThroughGroups R) {f : Group → Group} {target : Group} {path : Path}
    (h : R (.group target) (.group (f target))) :
    ∀ {g : Group}, g.groupAt? path = some target →
      R (.group g) (.group (Group.modifyGroup f path g)) := by
  induction path with
  | nil =>
    intro g hg
    obtain rfl := Option.some.inj hg
    exact h
  | cons i rest ih =>
    intro g hg
    obtain ⟨child, hchild, hrest⟩ := Group.groupAt?_cons_eq_some_iff.1 hg
    rw [Group.modifyGroup_cons hchild]
    exact hR.setChild hchild (ih hrest)

/-- Two trees are related that differ in the node at a path, if these nodes are. -/
theorem setNode (hR : GoesThroughGroups R) {g : Group} {path : Path} {old new : Node}
    (hold : g.nodeAt? path = some old) (h : R old new) :
    R (.group g) (.group (g.setNode path new)) := by
  rcases List.eq_nil_or_concat' path with rfl | ⟨above, i, rfl⟩
  · exact absurd rfl (Group.ne_nil_of_nodeAt? hold)
  · rw [Group.nodeAt?_concat, Option.bind_eq_some_iff] at hold
    obtain ⟨target, htarget, hchild⟩ := hold
    rw [Group.setNode_concat]
    exact hR.modifyGroup (hR.setChild hchild h) htarget

end GoesThroughGroups

/-- Having the same conditions goes through groups. -/
lemma goesThroughGroups_leaves : GoesThroughGroups fun old new => new.leaves = old.leaves := by
  intro conjunction front back old new h
  simp only [leaves_group, List.flatMap_append, List.flatMap_cons, h]

/-- Having the same meaning goes through groups. -/
lemma goesThroughGroups_holds (truth : Condition → Bool) :
    GoesThroughGroups fun old new => new.holds truth = old.holds truth := by
  intro conjunction front back old new h
  cases conjunction with
  | and => simp only [holds_and, List.all_append, List.all_cons, h]
  | or =>
    have hne : ∀ node : Node, (front ++ node :: back).isEmpty = false := fun node => by simp
    simp only [holds_or, hne, List.any_append, List.any_cons, h]

/-- Being complete together goes through groups. -/
lemma goesThroughGroups_complete :
    GoesThroughGroups fun old new => new.Complete ↔ old.Complete := by
  intro conjunction front back old new h
  have hne : ∀ node : Node, front ++ node :: back ≠ [] := fun node => by simp
  simp only [complete_group_iff, List.forall_mem_append, List.forall_mem_cons, h, ne_eq, hne,
    not_false_eq_true, true_and]

/-! ### A group of one child -/

/-- A group of one child has the conditions of the child. -/
lemma leaves_singleton (conjunction : Conjunction) (child : Node) :
    leaves (.group ⟨conjunction, [child]⟩) = child.leaves := by
  rw [leaves_group, List.flatMap_singleton]

/-- A group of one child is complete if the child is. -/
lemma complete_singleton_iff {conjunction : Conjunction} {child : Node} :
    Complete (.group ⟨conjunction, [child]⟩) ↔ child.Complete := by
  rw [complete_group_iff, List.forall_mem_singleton]
  exact and_iff_right (List.cons_ne_nil child [])

/-- Below a group of one child there is the child and what is below it. -/
lemma below?_singleton (conjunction : Conjunction) (child : Node) (j : Nat) (rest : Path) :
    below? (j :: rest) (.group ⟨conjunction, [child]⟩) =
      if j = 0 then child.below? rest else none := by
  cases j with
  | zero => rfl
  | succ j => rfl

end Node

namespace Group

/-! ### Around the node that is replaced -/

/-- The node that is put at the path of another is there. -/
lemma nodeAt?_setNode {g : Group} {path : Path} {old : Node} (hold : g.nodeAt? path = some old)
    (new : Node) : (g.setNode path new).nodeAt? path = some new := by
  rcases List.eq_nil_or_concat' path with rfl | ⟨above, i, rfl⟩
  · exact absurd rfl (ne_nil_of_nodeAt? hold)
  · rw [nodeAt?_concat, Option.bind_eq_some_iff] at hold
    obtain ⟨target, htarget, hchild⟩ := hold
    rw [setNode_concat, nodeAt?_concat, groupAt?_modifyGroup htarget, Option.bind_some, setChild,
      List.getElem?_set_self (List.getElem?_eq_some_iff.1 hchild).1]

/-- Below a group the tree shows what the group shows. -/
lemma nodeAt?_append_cons {g between : Group} {way : Path} (h : g.groupAt? way = some between)
    (j : Nat) (more : Path) : g.nodeAt? (way ++ j :: more) = between.nodeAt? (j :: more) := by
  rw [groupAt?_eq_below?, Option.bind_eq_some_iff] at h
  obtain ⟨node, hnode, hgroup⟩ := h
  obtain rfl := Node.group?_eq_some_iff.1 hgroup
  rw [nodeAt?_eq_below? g (by simp), Node.below?_append, hnode, Option.bind_some,
    nodeAt?_eq_below? between (List.cons_ne_nil j more)]

/-- A group on the way to the node that is replaced keeps its conjunction and its other children. -/
theorem exists_groupAt?_setNode {g : Group} {way rest : Path} {i : Nat} {old : Node}
    (hold : g.nodeAt? (way ++ i :: rest) = some old) (new : Node) :
    ∃ before after, g.groupAt? way = some before ∧
      (g.setNode (way ++ i :: rest) new).groupAt? way = some after ∧
        after.conjunction = before.conjunction ∧
          ∀ j, j ≠ i → after.children[j]? = before.children[j]? := by
  rcases List.eq_nil_or_concat' rest with rfl | ⟨lower, k, rfl⟩
  · -- the group that the node is a child of
    rw [nodeAt?_concat, Option.bind_eq_some_iff] at hold
    obtain ⟨target, htarget, -⟩ := hold
    rw [setNode_concat]
    exact ⟨target, _, htarget, groupAt?_modifyGroup htarget, rfl,
      fun j hj => List.getElem?_set_ne (Ne.symm hj)⟩
  · rw [← List.cons_append, ← List.append_assoc, nodeAt?_concat, Option.bind_eq_some_iff] at hold
    obtain ⟨target, htarget, -⟩ := hold
    obtain ⟨between, hbetween, hlower⟩ := groupAt?_append_eq_some_iff.1 htarget
    obtain ⟨child, hchild, -⟩ := groupAt?_cons_eq_some_iff.1 hlower
    rw [← List.cons_append, ← List.append_assoc, setNode_concat]
    refine ⟨between, _, hbetween, groupAt?_modifyGroup_append hbetween, ?_⟩
    rw [modifyGroup_cons hchild]
    exact ⟨rfl, fun j hj => List.getElem?_set_ne (Ne.symm hj)⟩

/-- A tree is another one but for a group around the node at a path. -/
structure Wraps (before : Group) (path : Path) (conjunction : Conjunction) (after : Group) :
    Prop where
  /-- The group is at the path, and the node is its only child. -/
  wrapped : ∃ node, before.nodeAt? path = some node ∧
    after.nodeAt? path = some (.group ⟨conjunction, [node]⟩)
  /-- The node and all that is below it is reached with one index more, a zero behind the path. -/
  deeper : ∀ rest, after.nodeAt? (path ++ 0 :: rest) = before.nodeAt? (path ++ rest)
  /-- There is nothing else below the path. -/
  nothing_else : ∀ j rest, j ≠ 0 → after.nodeAt? (path ++ j :: rest) = none
  /-- A node that is neither above the path nor below it is the same. -/
  beside : ∀ other, ¬other <+: path → ¬path <+: other → after.nodeAt? other = before.nodeAt? other
  /-- A group above the path has the same conjunction and the same other children. -/
  above : ∀ way i rest, way ++ i :: rest = path → ∃ old new,
    before.groupAt? way = some old ∧ after.groupAt? way = some new ∧
      new.conjunction = old.conjunction ∧ ∀ j, j ≠ i → new.children[j]? = old.children[j]?

/-- To put a group in place of a node, with the node as its child, is to put it around the node. -/
theorem wraps_setNode {g : Group} {path : Path} {node : Node} (hnode : g.nodeAt? path = some node)
    (conjunction : Conjunction) :
    g.Wraps path conjunction (g.setNode path (.group ⟨conjunction, [node]⟩)) := by
  have hne : path ≠ [] := ne_nil_of_nodeAt? hnode
  have hthere : (g.setNode path (.group ⟨conjunction, [node]⟩)).nodeAt? path =
      some (.group ⟨conjunction, [node]⟩) := nodeAt?_setNode hnode _
  have hold : (Node.group g).below? path = some node := by
    rw [← nodeAt?_eq_below? g hne, hnode]
  have hnew : (Node.group (g.setNode path (.group ⟨conjunction, [node]⟩))).below? path =
      some (.group ⟨conjunction, [node]⟩) := by
    rw [← nodeAt?_eq_below? _ hne, hthere]
  have habove : ∀ way i rest, way ++ i :: rest = path → ∃ old new, g.groupAt? way = some old ∧
      (g.setNode path (.group ⟨conjunction, [node]⟩)).groupAt? way = some new ∧
        new.conjunction = old.conjunction ∧
          ∀ j, j ≠ i → new.children[j]? = old.children[j]? := by
    rintro way i rest rfl
    exact exists_groupAt?_setNode hnode _
  have hbelow : ∀ j rest, (g.setNode path (.group ⟨conjunction, [node]⟩)).nodeAt?
      (path ++ j :: rest) = if j = 0 then node.below? rest else none := by
    intro j rest
    rw [nodeAt?_eq_below? _ (by simp), Node.below?_append, hnew, Option.bind_some,
      Node.below?_singleton]
  refine ⟨⟨node, hnode, hthere⟩, fun rest => ?_, fun j rest hj => ?_, fun other hup hdown => ?_,
    habove⟩
  · rw [hbelow, if_pos rfl, nodeAt?_eq_below? g (by simp [hne]), Node.below?_append, hold,
      Option.bind_some]
  · rw [hbelow, if_neg hj]
  · -- the two paths part at a group above, and from there on nothing is changed
    obtain ⟨way, i, rest, j, more, hpath, rfl, hj⟩ := Path.exists_fork hup hdown
    obtain ⟨old, new, holdGroup, hnewGroup, -, hsame⟩ := habove way i rest hpath
    rw [nodeAt?_append_cons hnewGroup, nodeAt?_append_cons holdGroup]
    exact nodeAt?_cons_congr (hsame j hj) more

/-! ### What a group around a node keeps -/

section Keeps

variable {g : Group} {path : Path} {node : Node} (hnode : g.nodeAt? path = some node)
  (conjunction : Conjunction)

include hnode

/-- A group around a node keeps the conditions. -/
lemma leaves_setNode_singleton :
    (g.setNode path (.group ⟨conjunction, [node]⟩)).leaves = g.leaves :=
  Node.goesThroughGroups_leaves.setNode hnode (Node.leaves_singleton conjunction node)

/-- A group around a node keeps the meaning, however it is joined. -/
lemma holds_setNode_singleton (truth : Condition → Bool) :
    (g.setNode path (.group ⟨conjunction, [node]⟩)).holds truth = g.holds truth :=
  (Node.goesThroughGroups_holds truth).setNode hnode (Node.holds_singleton truth conjunction node)

/-- A tree with a group around a node has a defect just when it has one without. -/
lemma defect?_setNode_singleton_eq_none_iff :
    (g.setNode path (.group ⟨conjunction, [node]⟩)).defect? = none ↔ g.defect? = none := by
  rw [defect?_eq_none_iff, defect?_eq_none_iff]
  exact Node.goesThroughGroups_complete.setNode hnode Node.complete_singleton_iff

end Keeps

end Group

namespace TreeEdit

/-- A group is put around a node if there is one. -/
lemma run_wrapInGroup_eq_ok_iff {path : Path} {conjunction : Conjunction} {tree after : Group} :
    (wrapInGroup path conjunction).run tree = .ok () after ↔
      ∃ node, tree.nodeAt? path = some node ∧
        tree.setNode path (.group ⟨conjunction, [node]⟩) = after := by
  simp only [wrapInGroup, EStateM.run_bind, EStateM.run_get]
  cases hnode : tree.nodeAt? path with
  | none => simp [run_throw_eq_error]
  | some node => simp

/-- Where there is no node, nothing is put around it. -/
lemma run_wrapInGroup_eq_error_iff {path : Path} {conjunction : Conjunction} {tree after : Group}
    {error : TreeError} :
    (wrapInGroup path conjunction).run tree = .error error after ↔
      tree.nodeAt? path = none ∧ error = .noSuchItem path ∧ after = tree := by
  simp only [wrapInGroup, EStateM.run_bind, EStateM.run_get]
  cases hnode : tree.nodeAt? path with
  | none => simp [run_throw_eq_error, eq_comm]
  | some node => simp

/-- A group is put around a node just when there is a node, and otherwise the tree is left as it is.
The node and all that is below it moves one level down, and nothing else moves.  The tree has the
same number of conditions, means the same and has a defect just when it had one, whatever the
conjunction of the group. -/
theorem wrapInGroup_exact (tree : Group) (path : Path) (conjunction : Conjunction) :
    (IsAnswered (wrapInGroup path conjunction) tree ↔ tree.nodeAt? path ≠ none) ∧
      (∀ error after, (wrapInGroup path conjunction).run tree = .error error after →
        error = .noSuchItem path ∧ after = tree) ∧
      (∀ after, (wrapInGroup path conjunction).run tree = .ok () after →
        tree.Wraps path conjunction after ∧ after.leafCount = tree.leafCount ∧
          (∀ truth, after.holds truth = tree.holds truth) ∧
            (after.defect? = none ↔ tree.defect? = none)) := by
  refine ⟨?_, fun error after h => (run_wrapInGroup_eq_error_iff.1 h).2, fun after h => ?_⟩
  · rw [Option.ne_none_iff_exists']
    constructor
    · rintro ⟨_, after, h⟩
      obtain ⟨node, hnode, -⟩ := run_wrapInGroup_eq_ok_iff.1 h
      exact ⟨node, hnode⟩
    · rintro ⟨node, hnode⟩
      exact ⟨(), _, run_wrapInGroup_eq_ok_iff.2 ⟨node, hnode, rfl⟩⟩
  · obtain ⟨node, hnode, rfl⟩ := run_wrapInGroup_eq_ok_iff.1 h
    have hleaves := Group.leaves_setNode_singleton hnode conjunction
    refine ⟨Group.wraps_setNode hnode conjunction, ?_,
      Group.holds_setNode_singleton hnode conjunction,
      Group.defect?_setNode_singleton_eq_none_iff hnode conjunction⟩
    rw [Group.leafCount_eq_length_leaves, Group.leafCount_eq_length_leaves, hleaves]

/-- A tree without a defect, with a nested group behind a condition. -/
def pairedTree : Group :=
  ⟨.and, [.condition openCondition, .group ⟨.or, [.condition openCondition]⟩]⟩

/-- `wrapInGroup_exact` at a nested group, and at a path where there is nothing. -/
theorem wrapInGroup_exact_pairedTree :
    (wrapInGroup [1] .and).run pairedTree =
        .ok () ⟨.and, [.condition openCondition,
          .group ⟨.and, [.group ⟨.or, [.condition openCondition]⟩]⟩]⟩ ∧
      pairedTree.Wraps [1] .and ⟨.and, [.condition openCondition,
        .group ⟨.and, [.group ⟨.or, [.condition openCondition]⟩]⟩]⟩ ∧
      pairedTree.defect? = none ∧
      (⟨.and, [.condition openCondition,
        .group ⟨.and, [.group ⟨.or, [.condition openCondition]⟩]⟩]⟩ : Group).defect? = none ∧
      (wrapInGroup [2] .or).run pairedTree = .error (.noSuchItem [2]) pairedTree ∧
      ¬IsAnswered (wrapInGroup [2] .or) pairedTree := by
  have hrun : (wrapInGroup [1] .and).run pairedTree =
      .ok () ⟨.and, [.condition openCondition,
        .group ⟨.and, [.group ⟨.or, [.condition openCondition]⟩]⟩]⟩ := rfl
  have hdefect : pairedTree.defect? = none := by decide
  obtain ⟨hwraps, -, -, hkeeps⟩ := (wrapInGroup_exact pairedTree [1] .and).2.2 _ hrun
  have hmissing : ¬IsAnswered (wrapInGroup [2] .or) pairedTree := fun h =>
    (wrapInGroup_exact pairedTree [2] .or).1.1 h rfl
  exact ⟨hrun, hwraps, hdefect, hkeeps.2 hdefect, rfl, hmissing⟩

end TreeEdit

end RecordFilter
