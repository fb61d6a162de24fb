import RecordFilter.Proofs.Tree.Edit
import RecordFilter.Proofs.Tree.Shift

/-!
# Insertion into a tree

Before something is inserted into a group, the rest of the tree is asked for defects, and that group
alone may still be empty.  This comes to the same as asking the whole tree after a complete
condition has been put into the group (`defectForInsert?_eq_none_iff`), since that condition is the
child which the group may lack.  So whether an insertion is answered does not depend on what is
inserted, nor on its place in the group (`insertNode_exact`).
-/

namespace RecordFilter

namespace Group

/-- In a group that is excused no defect is found just when it is complete with a complete condition
among its children. -/
lemma defectAt?_self_eq_none_iff_insertChild {g : Group} {index : Nat} {c : Condition}
    (hc : c.problem? = none) (hindex : index ≤ g.size) (base : Path) :
    (Node.group g).defectAt? (some base) base = none ↔
      (Node.group (g.insertChild index (.condition c))).Complete := by
  obtain ⟨joined, children⟩ := g
  change index ≤ children.length at hindex
  have hne : children.insertIdx index (.condition c) ≠ [] := by
    apply List.ne_nil_of_length_pos
    rw [List.length_insertIdx_of_le_length hindex]
    omega
  rw [Node.defectAt?_group_eq_none_iff, insertChild, Node.complete_group_iff, and_iff_right hne,
    and_iff_right fun _ => rfl]
  constructor
  · intro h child hchild
    rcases (List.mem_insertIdx hindex).1 hchild with rfl | hmem
    · exact .condition hc
    · obtain ⟨j, hj⟩ := List.mem_iff_getElem?.1 hmem
      exact (Node.defectAt?_below_eq_none_iff child).1 (h j child hj)
  · intro h j child hj
    have hmem : child ∈ children.insertIdx index (.condition c) :=
      (List.mem_insertIdx hindex).2 (.inr (List.mem_of_getElem? hj))
    exact (Node.defectAt?_below_eq_none_iff child).2 (h child hmem)

/-- In a node on the way to the group that is excused no defect is found just when it is complete
with a complete condition in that group. -/
lemma defectAt?_eq_none_iff_modifyGroup_insertChild {target : Group} {index : Nat} {c : Condition}
    (hc : c.problem? = none) (hindex : index ≤ target.size) {path : Path} :
    ∀ (g : Group) (base : Path), g.groupAt? path = some target →
      ((Node.group g).defectAt? (some (base ++ path)) base = none ↔
        (Node.group (g.modifyGroup (fun group => group.insertChild index (.condition c))
          path)).Complete) := by
  induction path with
  | nil =>
    intro g base htarget
    obtain rfl := Option.some.inj htarget
    rw [List.append_nil]
    exact defectAt?_self_eq_none_iff_insertChild hc hindex base
  | cons i rest ih =>
    intro g base htarget
    obtain ⟨child, hchild, hrest⟩ := groupAt?_cons_eq_some_iff.1 htarget
    obtain ⟨joined, children⟩ := g
    have hlt : i < children.length := (List.getElem?_eq_some_iff.1 hchild).1
    have hne : children ≠ [] := List.ne_nil_of_length_pos (Nat.zero_lt_of_lt hlt)
    have hinner := ih child (base ++ [i]) hrest
    rw [List.append_assoc, List.singleton_append] at hinner
    rw [modifyGroup_cons hchild, Node.defectAt?_group_eq_none_iff, Node.complete_group_iff,
      and_iff_right fun hnil => absurd hnil hne,
      and_iff_right fun hnil => hne ((List.set_eq_nil_iff _ _).1 hnil)]
    constructor
    · intro h other hother
      obtain ⟨j, hj⟩ := List.mem_iff_getElem?.1 hother
      by_cases hji : j = i
      · subst hji
        rw [List.getElem?_set_self hlt] at hj
        obtain rfl := Option.some.inj hj
        exact hinner.1 (h j (.group child) hchild)
      · rw [List.getElem?_set_ne (Ne.symm hji)] at hj
        exact (Node.defectAt?_beside_eq_none_iff hji other).1 (h j other hj)
    · intro h j other hj
      by_cases hji : j = i
      · subst hji
        obtain rfl := Option.some.inj (hchild.symm.trans hj)
        exact hinner.2 (h _ (List.mem_of_getElem? (List.getElem?_set_self hlt)))
      · have hmem : other ∈ children.set i (.group (modifyGroup
            (fun group => group.insertChild index (.condition c)) rest child)) := by
          apply List.mem_of_getElem?
          rw [List.getElem?_set_ne (Ne.symm hji)]
          exact hj
        exact (Node.defectAt?_beside_eq_none_iff hji other).2 (h other hmem)

/-- Nothing stands against an insertion into a group just when the tree has no defect with a
complete condition in that group. -/
theorem defectForInsert?_eq_none_iff {g target : Group} {path : Path} {index : Nat} {c : Condition}
    (hc : c.problem? = none) (htarget : g.groupAt? path = some target)
    (hindex : index ≤ target.size) :
    g.defectForInsert? path = none ↔
      (g.modifyGroup (fun group => group.insertChild index (.condition c)) path).defect? =
        none := by
  rw [defect?_eq_none_iff]
  exact defectAt?_eq_none_iff_modifyGroup_insertChild hc hindex g [] htarget

end Group

namespace TreeEdit

/-- An insertion is answered if there is a group and no defect beside it, whatever is inserted and
wherever in the group. -/
lemma isAnswered_insertNode_iff {path : Path} {position : Nat} {node : Node} {tree : Group} :
    IsAnswered (insertNode path position node) tree ↔
      tree.groupAt? path ≠ none ∧ tree.defectForInsert? path = none := by
  simp only [IsAnswered, run_insertNode_eq_ok_iff]
  constructor
  · rintro ⟨added, after, target, htarget, hdefect, -, -⟩
    exact ⟨by simp [htarget], hdefect⟩
  · rintro ⟨hsome, hdefect⟩
    obtain ⟨target, htarget⟩ := Option.ne_none_iff_exists'.1 hsome
    exact ⟨_, _, target, htarget, hdefect, rfl, rfl⟩

/-- Why an insertion is refused: there is no group, or there is a defect beside it. -/
lemma run_insertNode_eq_error_iff {path : Path} {position : Nat} {node : Node} {tree after : Group}
    {error : TreeError} :
    (insertNode path position node).run tree = .error error after ↔
      after = tree ∧
        (tree.groupAt? path = none ∧ error = .noSuchGroup path ∨
          tree.groupAt? path ≠ none ∧
            ∃ defect, tree.defectForInsert? path = some defect ∧ error = .invalid defect) := by
  simp only [insertNode, EStateM.run_bind, EStateM.run_get]
  cases htarget : tree.groupAt? path with
  | none => simp [run_throw_eq_error, eq_comm, and_comm]
  | some target =>
    cases hdefect : tree.defectForInsert? path with
    | none => simp only [EStateM.run_bind, EStateM.run_set, EStateM.run_pure]; simp
    | some defect => simp [run_throw_eq_error, eq_comm, and_comm]

/-- A complete condition is put into a group just when the tree then has no defect, and anything
else is put there just when a complete condition could be.  The node that is put there comes before
the child at the position or, past the end, behind the last child.  A refusal leaves the tree. -/
theorem insertNode_exact (tree : Group) (path : Path) (position : Nat) :
    (∀ c : Condition, c.problem? = none →
      (IsAnswered (insertCondition path position c) tree ↔
        ∃ target, tree.groupAt? path = some target ∧
          (tree.modifyGroup (fun group =>
            group.insertChild (min position target.size) (.condition c)) path).defect? = none)) ∧
      (∀ (c : Condition) (node : Node) (place : Nat),
        (IsAnswered (insertNode path place node) tree ↔
          IsAnswered (insertCondition path position c) tree)) ∧
      (∀ (node : Node) (added : Path) (after : Group),
        (insertNode path position node).run tree = .ok added after →
          ∃ target, tree.groupAt? path = some target ∧
            added = path ++ [min position target.size] ∧
              tree.Gains path (min position target.size) node after) ∧
      (∀ (node : Node) (error : TreeError) (after : Group),
        (insertNode path position node).run tree = .error error after →
          after = tree ∧
            (tree.groupAt? path = none ∧ error = .noSuchGroup path ∨
              tree.groupAt? path ≠ none ∧
                ∃ defect, tree.defectForInsert? path = some defect ∧ error = .invalid defect)) := by
  refine ⟨?_, ?_, ?_, fun node error after => run_insertNode_eq_error_iff.1⟩
  · intro c hc
    rw [insertCondition, isAnswered_insertNode_iff, Option.ne_none_iff_exists']
    constructor
    · rintro ⟨⟨target, htarget⟩, hdefect⟩
      have hindex : min position target.size ≤ target.size := Nat.min_le_right _ _
      exact ⟨target, htarget, (Group.defectForInsert?_eq_none_iff hc htarget hindex).1 hdefect⟩
    · rintro ⟨target, htarget, hdefect⟩
      have hindex : min position target.size ≤ target.size := Nat.min_le_right _ _
      exact ⟨⟨target, htarget⟩, (Group.defectForInsert?_eq_none_iff hc htarget hindex).2 hdefect⟩
  · intro c node place
    rw [insertCondition, isAnswered_insertNode_iff, isAnswered_insertNode_iff]
  · intro node added after h
    obtain ⟨target, htarget, -, rfl, rfl⟩ := run_insertNode_eq_ok_iff.1 h
    exact ⟨target, htarget, rfl, Group.gains_insertChild node htarget (Nat.min_le_right _ _)⟩

/-- A complete condition. -/
def openCondition : Condition :=
  .complete (.named "status" .text) .equals (.text "Open")

/-- A tree with an empty group behind a complete condition. -/
def unfilledTree : Group :=
  ⟨.and, [.condition openCondition, .group ⟨.or, []⟩]⟩

/-- `insertNode_exact` at a tree of which only the empty group can be added to. -/
theorem insertNode_exact_unfilledTree :
    openCondition.problem? = none ∧
      IsAnswered (insertCondition [1] 5 openCondition) unfilledTree ∧
      ¬IsAnswered (insertCondition [] 0 openCondition) unfilledTree ∧
      (insertNode [1] 5 (.condition .blank)).run unfilledTree =
        .ok [1, 0] ⟨.and, [.condition openCondition, .group ⟨.or, [.condition .blank]⟩]⟩ ∧
      unfilledTree.Gains [1] 0 (.condition .blank)
        ⟨.and, [.condition openCondition, .group ⟨.or, [.condition .blank]⟩]⟩ := by
  have hcomplete : openCondition.problem? = none := by decide
  have hfilled : IsAnswered (insertCondition [1] 5 openCondition) unfilledTree :=
    ((insertNode_exact unfilledTree [1] 5).1 openCondition hcomplete).2 ⟨⟨.or, []⟩, rfl, by decide⟩
  have hroot : ¬IsAnswered (insertCondition [] 0 openCondition) unfilledTree := by
    rw [(insertNode_exact unfilledTree [] 0).1 openCondition hcomplete]
    rintro ⟨target, htarget, hdefect⟩
    obtain rfl := Option.some.inj htarget
    exact absurd hdefect (by decide)
  have hrun : (insertNode [1] 5 (.condition .blank)).run unfilledTree =
      .ok [1, 0] ⟨.and, [.condition openCondition, .group ⟨.or, [.condition .blank]⟩]⟩ :=
    run_insertNode_eq_ok_iff.2 ⟨⟨.or, []⟩, rfl, by decide, rfl, rfl⟩
  obtain ⟨target, htarget, -, hgains⟩ := (insertNode_exact unfilledTree [1] 5).2.2.1 _ _ _ hrun
  obtain rfl := Option.some.inj htarget
  exact ⟨hcomplete, hfilled, hroot, hrun, hgains⟩

end TreeEdit

end RecordFilter
