import RecordFilter.Proofs.Answered
import RecordFilter.Proofs.Tree.Edit

/-!
# Edits of a tree that are answered

When an edit of a tree is answered, and the tree after it.  An insertion at the end needs a group to
insert into and no defect beside it; a change in place needs something to change.  A group that is
appended and then filled comes to the same as the filled group appended at once
(`modifyGroup_insertChild_concat`).
-/

namespace RecordFilter

namespace Group

/-- A group that is inserted empty and then filled is inserted filled. -/
lemma modifyGroup_insertChild_concat {g target : Group} {path : Path}
    (htarget : g.groupAt? path = some target) (conjunction : Conjunction) (node : Node) :
    modifyGroup (fun group => group.insertChild 0 node) (path ++ [target.size])
        (modifyGroup (fun group => group.insertChild target.size (.group ⟨conjunction, []⟩)) path
          g) =
      modifyGroup (fun group => group.insertChild target.size (.group ⟨conjunction, [node]⟩)) path
        g := by
  rw [modifyGroup_append, modifyGroup_modifyGroup]
  refine modifyGroup_congr ?_ htarget
  have hnew : (target.insertChild target.size (.group ⟨conjunction, []⟩)).children[target.size]? =
      some (.group ⟨conjunction, []⟩) := by
    rw [insertChild, List.getElem?_insertIdx_self]
    exact if_pos (Nat.le_refl _)
  rw [modifyGroup_cons hnew, insertChild, insertChild, size, List.insertIdx_length_self,
    List.insertIdx_length_self]
  simp [modifyGroup, insertChild]

end Group

namespace TreeEdit

/-- An insertion at the end is answered if there is a group and no defect beside it. -/
lemma run_appendNode_eq_ok_iff {path added : Path} {node : Node} {tree after : Group} :
    (appendNode path node).run tree = .ok added after ↔
      ∃ target, tree.groupAt? path = some target ∧ tree.defectForInsert? path = none ∧
        path ++ [target.size] = added ∧
          tree.modifyGroup (fun group => group.insertChild target.size node) path = after := by
  rw [appendNode, EStateM.run_bind, EStateM.run_get]
  simp only [run_insertNode_eq_ok_iff]
  refine exists_congr fun target => and_congr_right fun htarget => ?_
  rw [htarget, Option.map_some, Option.getD_some, Nat.min_self]

/-- A replacement is answered if there is a condition. -/
lemma run_replaceCondition_eq_ok_iff {path : Path} {c : Condition} {tree after : Group} :
    (replaceCondition path c).run tree = .ok () after ↔
      ∃ old, tree.conditionAt? path = some old ∧ tree.setNode path (.condition c) = after := by
  simp only [replaceCondition, EStateM.run_bind, EStateM.run_get, Group.conditionAt?]
  cases hnode : tree.nodeAt? path with
  | none => simp [run_throw_eq_error]
  | some node =>
    cases node with
    | condition old => simp [Node.condition?]
    | group inner => simp [run_throw_eq_error, Node.condition?]

/-- A change of a condition is answered if there is a condition. -/
lemma run_changeCondition_eq_ok_iff {path : Path} {change : Condition → Condition}
    {tree after : Group} :
    (changeCondition path change).run tree = .ok () after ↔
      ∃ old, tree.conditionAt? path = some old ∧
        tree.setNode path (.condition (change old)) = after := by
  simp only [changeCondition, EStateM.run_bind, EStateM.run_get]
  cases hold : tree.conditionAt? path with
  | none => simp [run_throw_eq_error]
  | some old => simp

/-- A change of a conjunction is answered if there is a group. -/
lemma run_setConjunction_eq_ok_iff {path : Path} {conjunction : Conjunction}
    {tree after : Group} :
    (setConjunction path conjunction).run tree = .ok () after ↔
      ∃ target, tree.groupAt? path = some target ∧
        tree.modifyGroup (fun group => group.withConjunction conjunction) path = after := by
  simp only [setConjunction, EStateM.run_bind, EStateM.run_get]
  cases htarget : tree.groupAt? path with
  | none => simp [run_throw_eq_error]
  | some target => simp

end TreeEdit

end RecordFilter
