import RecordFilter.Proofs.Atomic
import RecordFilter.Proofs.Tree.Defect

/-!
# Edits of a tree that are refused

An edit of a tree that is refused leaves the tree as it was.  Most edits look before they change
anything.  Two things change the tree and go on: a removal, which takes away the groups that it
leaves empty one after the other, and the insertion of a group that is filled afterwards.  Both go
on at a place that is there because of the step before (`isAnswered_removeUpwards`,
`isAnswered_insertCondition_of_insertGroup`).
-/

namespace RecordFilter

namespace TreeEdit

/-! ### Insertion -/

/-- An insertion is answered if there is a group and no defect beside it. -/
lemma run_insertNode_eq_ok_iff {path added : Path} {position : Nat} {node : Node}
    {tree after : Group} :
    (insertNode path position node).run tree = .ok added after ↔
      ∃ target, tree.groupAt? path = some target ∧ tree.defectForInsert? path = none ∧
        path ++ [min position target.size] = added ∧
          tree.modifyGroup (fun group => group.insertChild (min position target.size) node) path =
            after := by
  simp only [insertNode, EStateM.run_bind, EStateM.run_get]
  cases htarget : tree.groupAt? path with
  | none => simp [run_throw_eq_error]
  | some target =>
    cases hdefect : tree.defectForInsert? path with
    | none => simp only [EStateM.run_bind, EStateM.run_set, EStateM.run_pure]; simp
    | some defect => simp [run_throw_eq_error]

/-- An insertion that is refused leaves the tree. -/
lemma atomic_insertNode (path : Path) (position : Nat) (node : Node) :
    Atomic (insertNode path position node) := by
  refine readOnly_get.bind_atomic fun tree => ?_
  split
  · exact (readOnly_throw _).atomic
  · split
    · exact (readOnly_throw _).atomic
    · exact (atomic_set _).bind_isAnswered fun _ _ after _ => isAnswered_pure _ after

/-- An insertion at the end that is refused leaves the tree. -/
lemma atomic_appendNode (path : Path) (node : Node) : Atomic (appendNode path node) :=
  readOnly_get.bind_atomic fun _ => atomic_insertNode path _ node

/-- A group that has been inserted without children can be filled. -/
theorem isAnswered_insertCondition_of_insertGroup {path added : Path} {position : Nat}
    {conjunction : Conjunction} {tree after : Group}
    (h : (insertGroup path position conjunction).run tree = .ok added after) (c : Condition) :
    IsAnswered (insertCondition added 0 c) after := by
  obtain ⟨target, htarget, hdefect, rfl, rfl⟩ := run_insertNode_eq_ok_iff.1 h
  have hindex : min position target.size ≤ target.size := Nat.min_le_right _ _
  have hnew := Group.defectForInsert?_insertChild htarget hindex conjunction hdefect
  have hgroup : (tree.modifyGroup (fun group => group.insertChild (min position target.size)
      (.group ⟨conjunction, []⟩)) path).groupAt? (path ++ [min position target.size]) =
        some ⟨conjunction, []⟩ := by
    refine Group.groupAt?_append_eq_some_iff.2 ⟨_, Group.groupAt?_modifyGroup htarget, ?_⟩
    refine Group.groupAt?_cons_eq_some_iff.2 ⟨⟨conjunction, []⟩, ?_, rfl⟩
    exact List.getElem?_insertIdx_self.trans (if_pos hindex)
  exact ⟨_, _, run_insertNode_eq_ok_iff.2 ⟨_, hgroup, hnew, rfl, rfl⟩⟩

/-! ### Changes in place -/

/-- A replacement that is refused leaves the tree. -/
lemma atomic_replaceCondition (path : Path) (c : Condition) :
    Atomic (replaceCondition path c) := by
  refine readOnly_get.bind_atomic fun tree => ?_
  split
  · exact (readOnly_throw _).atomic
  · exact (readOnly_throw _).atomic
  · exact atomic_set _

/-- A change of a condition that is refused leaves the tree. -/
lemma atomic_changeCondition (path : Path) (change : Condition → Condition) :
    Atomic (changeCondition path change) := by
  refine readOnly_get.bind_atomic fun tree => ?_
  split
  · exact (readOnly_throw _).atomic
  · exact atomic_set _

/-- A change of a conjunction that is refused leaves the tree. -/
lemma atomic_setConjunction (path : Path) (conjunction : Conjunction) :
    Atomic (setConjunction path conjunction) := by
  refine readOnly_get.bind_atomic fun tree => ?_
  split
  · exact (readOnly_throw _).atomic
  · exact atomic_set _

/-! ### Removal -/

/-- What the removal of a child that is there does: where the child was the only one of a nested
group, the group goes too. -/
lemma run_removeUpwards {index : Nat} {above : Path} {tree parent : Group}
    (hparent : tree.groupAt? above.reverse = some parent) (hindex : index < parent.size) :
    (removeUpwards (index :: above)).run tree =
      if parent.size = 1 ∧ above ≠ [] then
        (removeUpwards above).run
          (tree.modifyGroup (fun group => group.eraseChild index) above.reverse)
      else
        .ok (above.reverse ++ Group.selectionAfter index (parent.size - 1))
          (tree.modifyGroup (fun group => group.eraseChild index) above.reverse) := by
  rw [removeUpwards]
  simp only [EStateM.run_bind, EStateM.run_get, hparent, if_neg (Nat.not_le.2 hindex),
    EStateM.run_set]
  split_ifs with hgo
  · rfl
  · rfl

/-- A removal of a child that is there is answered, also where it goes on with the groups above:
each of them is there, and so is the child through which the removal came. -/
theorem isAnswered_removeUpwards {above : Path} :
    ∀ {index : Nat} {tree parent : Group}, tree.groupAt? above.reverse = some parent →
      index < parent.size → IsAnswered (removeUpwards (index :: above)) tree := by
  induction above with
  | nil =>
    intro index tree parent hparent hindex
    rw [IsAnswered, run_removeUpwards hparent hindex, if_neg (fun h => h.2 rfl)]
    exact ⟨_, _, rfl⟩
  | cons i above ih =>
    intro index tree parent hparent hindex
    rw [IsAnswered, run_removeUpwards hparent hindex]
    split_ifs with hgo
    · rw [List.reverse_cons] at hparent ⊢
      obtain ⟨outer, houter, hinner⟩ := Group.groupAt?_append_eq_some_iff.1 hparent
      obtain ⟨child, hchild, -⟩ := Group.groupAt?_cons_eq_some_iff.1 hinner
      refine ih (Group.groupAt?_modifyGroup_append houter) ?_
      rw [Group.size_modifyGroup_singleton hchild]
      exact (List.getElem?_eq_some_iff.1 hchild).1
    · exact ⟨_, _, rfl⟩

/-- The removal of a child that is not there is refused at once. -/
lemma run_removeUpwards_eq_error {index : Nat} {above : Path} {tree : Group}
    (h : ∀ parent, tree.groupAt? above.reverse = some parent → parent.size ≤ index) :
    (removeUpwards (index :: above)).run tree =
      .error (.noSuchItem (above.reverse ++ [index])) tree := by
  rw [removeUpwards]
  simp only [EStateM.run_bind, EStateM.run_get]
  cases hparent : tree.groupAt? above.reverse with
  | none => rfl
  | some parent =>
    simp only [if_pos (h parent hparent)]
    rfl

/-- A removal that is refused leaves the tree. -/
lemma atomic_removeUpwards (reversed : Path) : Atomic (removeUpwards reversed) := by
  cases reversed with
  | nil => exact (readOnly_pure _).atomic
  | cons index above =>
    intro tree error after h
    by_cases hthere : ∃ parent, tree.groupAt? above.reverse = some parent ∧ index < parent.size
    · obtain ⟨parent, hparent, hindex⟩ := hthere
      obtain ⟨answer, final, hanswer⟩ := isAnswered_removeUpwards hparent hindex
      simp [hanswer] at h
    · rw [run_removeUpwards_eq_error fun parent hparent =>
        Nat.le_of_not_lt fun hindex => hthere ⟨parent, hparent, hindex⟩] at h
      exact (EStateM.Result.error.inj h).2.symm

/-- A removal that is refused leaves the tree. -/
lemma atomic_removeItem (path : Path) : Atomic (removeItem path) := by
  unfold removeItem
  split
  · exact (readOnly_throw _).atomic
  · exact atomic_removeUpwards path.reverse

end TreeEdit

end RecordFilter
