import RecordFilter.Proofs.Editor.Draft
import RecordFilter.Proofs.Tree.Deletion

/-!
# Undoing an addition

What has been added is removed again at the path that the addition answers with.  A condition goes
alone.  A group that was added goes with its condition, since it would stay empty, and nothing above
it goes: the group that it was added to is the root, or it has had a child before, since no nested
group of a tree that is edited is ever empty.  So the editor is just what it was before the addition
(`undo_addition_run`).
-/

namespace RecordFilter

namespace Group

/-- A child that has been inserted may be taken out again. -/
lemma eraseChild_insertChild (g : Group) (index : Nat) (node : Node) :
    (g.insertChild index node).eraseChild index = g := by
  obtain ⟨conjunction, children⟩ := g
  rw [eraseChild, insertChild, List.eraseIdx_insertIdx_self]

/-- Taking out a child that has been inserted brings the tree back. -/
lemma modifyGroup_eraseChild_insertChild {g target : Group} {path : Path}
    (htarget : g.groupAt? path = some target) (index : Nat) (node : Node) :
    modifyGroup (fun group => group.eraseChild index) path
      (modifyGroup (fun group => group.insertChild index node) path g) = g := by
  rw [modifyGroup_modifyGroup]
  exact modifyGroup_eq_self htarget (target.eraseChild_insertChild index node)

/-- The number of children after one has been inserted. -/
lemma size_insertChild {g : Group} {index : Nat} (h : index ≤ g.size) (node : Node) :
    (g.insertChild index node).size = g.size + 1 :=
  List.length_insertIdx_of_le_length h node

end Group

namespace TreeEdit

/-- What the removal of a node that is there does, seen from the group that it is in: where it is
the only child of a nested group, the removal goes on with the group. -/
lemma run_removeItem_concat {tree parent : Group} {path : Path} {index : Nat}
    (hparent : tree.groupAt? path = some parent) (hindex : index < parent.size) :
    (removeItem (path ++ [index])).run tree =
      if parent.size = 1 ∧ path ≠ [] then
        (removeItem path).run (tree.modifyGroup (fun group => group.eraseChild index) path)
      else
        .ok (path ++ Group.selectionAfter index (parent.size - 1))
          (tree.modifyGroup (fun group => group.eraseChild index) path) := by
  have hreversed : tree.groupAt? path.reverse.reverse = some parent := by
    rwa [List.reverse_reverse]
  have hne : path ++ [index] ≠ [] := List.append_ne_nil_of_right_ne_nil path (List.cons_ne_nil _ _)
  rw [removeItem, if_neg hne, List.reverse_concat, run_removeUpwards hreversed hindex,
    List.reverse_reverse]
  by_cases hpath : path = []
  · simp [hpath]
  · simp only [removeItem, hpath, ne_eq, List.reverse_eq_nil_iff, if_false]

/-- The removal of a child that has been inserted brings the tree back, if the child is not the only
one of a nested group. -/
lemma run_removeItem_insertChild {tree target : Group} {path : Path} {index : Nat}
    (htarget : tree.groupAt? path = some target) (hindex : index ≤ target.size)
    (hfilled : path ≠ [] → target.children ≠ []) (node : Node) :
    (removeItem (path ++ [index])).run
        (tree.modifyGroup (fun group => group.insertChild index node) path) =
      .ok (path ++ Group.selectionAfter index target.size) tree := by
  have hparent : (tree.modifyGroup (fun group => group.insertChild index node) path).groupAt?
      path = some (target.insertChild index node) := Group.groupAt?_modifyGroup htarget
  have hsize : (target.insertChild index node).size = target.size + 1 :=
    Group.size_insertChild hindex node
  have hlt : index < (target.insertChild index node).size := by omega
  have hstop : ¬((target.insertChild index node).size = 1 ∧ path ≠ []) := by
    rintro ⟨hone, hnested⟩
    have hempty : target.size = 0 := by omega
    exact hfilled hnested (List.length_eq_zero_iff.1 hempty)
  rw [run_removeItem_concat hparent hlt, if_neg hstop, hsize,
    Group.modifyGroup_eraseChild_insertChild htarget, Nat.add_sub_cancel]

/-- A node that has been appended is there, and it is removed alone. -/
theorem run_removeItem_appendNode {tree after : Group} {path added : Path} {node : Node}
    (hbelow : tree.FilledBelow) (h : (appendNode path node).run tree = .ok added after) :
    after.nodeAt? added = some node ∧
      ∃ selected, (removeItem added).run after = .ok selected tree := by
  obtain ⟨target, htarget, -, rfl, rfl⟩ := run_appendNode_eq_ok_iff.1 h
  have hindex : target.size ≤ target.size := Nat.le_refl _
  have hfilled : path ≠ [] → target.children ≠ [] := (hbelow.groupAt? htarget).2
  exact ⟨(Group.gains_insertChild node htarget hindex).there,
    path ++ Group.selectionAfter target.size target.size,
    run_removeItem_insertChild htarget hindex hfilled node⟩

/-- A condition that has been put into a group appended without children is there, and it is removed
with the group, but with nothing else. -/
theorem run_removeItem_insertCondition {tree between after : Group} {path added inner : Path}
    {conjunction : Conjunction} {c : Condition} (hbelow : tree.FilledBelow)
    (hgroup : (appendNode path (.group ⟨conjunction, []⟩)).run tree = .ok added between)
    (hcondition : (insertCondition added 0 c).run between = .ok inner after) :
    inner = added ++ [0] ∧ after.groupAt? added = some ⟨conjunction, [.condition c]⟩ ∧
      after.nodeAt? inner = some (.condition c) ∧
        ∃ selected, (removeItem inner).run after = .ok selected tree := by
  obtain ⟨hadded, selected, hback⟩ := run_removeItem_appendNode hbelow hgroup
  have hne : added ≠ [] := Group.ne_nil_of_nodeAt? hadded
  have hempty : between.groupAt? added = some ⟨conjunction, []⟩ := Group.groupAt?_of_nodeAt? hadded
  obtain ⟨target, htarget, -, rfl, rfl⟩ := run_insertNode_eq_ok_iff.1 hcondition
  obtain rfl : target = ⟨conjunction, []⟩ := Option.some.inj (htarget.symm.trans hempty)
  rw [Nat.zero_min]
  have hthere := (Group.gains_insertChild (.condition c) htarget (Nat.zero_le _)).there
  have hfilled : (between.modifyGroup (fun group => group.insertChild 0 (.condition c))
      added).groupAt? added = some ⟨conjunction, [.condition c]⟩ :=
    Group.groupAt?_modifyGroup htarget
  refine ⟨rfl, hfilled, hthere, selected, ?_⟩
  -- the condition is the only child of the group, so that the group goes next
  rw [run_removeItem_concat hfilled Nat.zero_lt_one, if_pos ⟨rfl, hne⟩,
    Group.modifyGroup_eraseChild_insertChild htarget, hback]

end TreeEdit

namespace Request

open Editor

variable {e after : Editor}

/-- A removal from the tree that brings an earlier tree back brings the earlier editor back. -/
lemma run_removeItem_withTree {path selected : Path} {tree : Group}
    (hmode : e.state.mode = .advanced)
    (h : (TreeEdit.removeItem path).run tree = .ok selected e.tree) :
    (removeItem path).run (e.withTree tree) = .ok selected e := by
  simp only [removeItem, run_bind_eq_ok_iff, run_requireMode_eq_ok_iff, run_onTree_eq_ok_iff]
  exact ⟨(), e.withTree tree, ⟨hmode, rfl⟩, e.tree, h, rfl⟩

/-- A condition that has been added is there, and its removal brings the editor back. -/
theorem run_removeItem_addCondition {group added : Path} (hbelow : e.tree.FilledBelow)
    (h : (addCondition group).run e = .ok added after) :
    after.tree.nodeAt? added = some (.condition .blank) ∧
      ∃ selected, (removeItem added).run after = .ok selected e := by
  simp only [addCondition, run_bind_eq_ok_iff, run_requireMode_eq_ok_iff,
    run_onTree_eq_ok_iff] at h
  obtain ⟨_, _, ⟨hmode, rfl⟩, tree, hadded, rfl⟩ := h
  obtain ⟨hthere, selected, hback⟩ := TreeEdit.run_removeItem_appendNode hbelow hadded
  exact ⟨hthere, selected, run_removeItem_withTree hmode hback⟩

/-- A group that has been added is there with a blank condition, and the removal of the condition
brings the editor back. -/
theorem run_removeItem_addGroup {group added : Path} {conjunction : Conjunction}
    (hbelow : e.tree.FilledBelow) (h : (addGroup group conjunction).run e = .ok added after) :
    after.tree.nodeAt? added = some (.condition .blank) ∧
      (∃ target, e.tree.groupAt? group = some target ∧ added = group ++ [target.size, 0] ∧
        after.tree.groupAt? (group ++ [target.size]) =
          some ⟨conjunction, [.condition .blank]⟩) ∧
      ∃ selected, (removeItem added).run after = .ok selected e := by
  simp only [addGroup, run_bind_eq_ok_iff, run_requireMode_eq_ok_iff, run_onTree_eq_ok_iff] at h
  obtain ⟨_, _, ⟨hmode, rfl⟩, seeded, _, ⟨between, hseeded, rfl⟩, tree, hadded, rfl⟩ := h
  obtain ⟨hinner, hgroup, hthere, selected, hback⟩ :=
    TreeEdit.run_removeItem_insertCondition hbelow hseeded hadded
  obtain ⟨target, htarget, -, rfl, -⟩ := TreeEdit.run_appendNode_eq_ok_iff.1 hseeded
  rw [List.append_assoc, List.singleton_append] at hinner
  exact ⟨hthere, ⟨target, htarget, hinner, hgroup⟩, selected, run_removeItem_withTree hmode hback⟩

end Request

namespace Editor

/-- **An addition can be undone.**  In whatever state the editor is, what has been added is there: a
blank condition at the path that the addition answers with, and around it, where a group was added,
that group as the last child of the one it was added to.  The removal of the condition is answered
and leaves the editor as it was before, with the tree of before: the group that was added has gone,
and no other has. -/
theorem undo_addition_run (list : RecordList) (ctx : Context) (events : List Event) :
    let e := (opened list ctx).run events
    (∀ group added after, (Request.addCondition group).run e = .ok added after →
      after.tree.nodeAt? added = some (.condition .blank) ∧
        ∃ selected, (Request.removeItem added).run after = .ok selected e) ∧
      ∀ group conjunction added after,
        (Request.addGroup group conjunction).run e = .ok added after →
          after.tree.nodeAt? added = some (.condition .blank) ∧
            (∃ target, e.tree.groupAt? group = some target ∧ added = group ++ [target.size, 0] ∧
              after.tree.groupAt? (group ++ [target.size]) =
                some ⟨conjunction, [.condition .blank]⟩) ∧
            ∃ selected, (Request.removeItem added).run after = .ok selected e := by
  have hdraft : ((opened list ctx).run events).tree.IsDraft :=
    (invariant_draft.run list ctx events fun _ _ _ _ h => h).1
  have hbelow : ((opened list ctx).run events).tree.FilledBelow := hdraft.filledBelow
  exact ⟨fun _ _ _ h => Request.run_removeItem_addCondition hbelow h,
    fun _ _ _ _ h => Request.run_removeItem_addGroup hbelow h⟩

/-- A run that goes on with the editor of a list that is filtered by nothing to a group of one
condition, whose value is still to be chosen. -/
def seededEvents : List Event :=
  [.setCatalog ⟨[.named "status" .text]⟩, .action (.switchMode .advanced),
    .action (.addGroup [] .or), .action (.setField [0, 0] "status"),
    .action (.setValueInput [0, 0] "Open")]

/-- `undo_addition_run` at a condition and at a group that are added to a nested group. -/
theorem undo_addition_run_seededEvents :
    let e := (opened ⟨.empty, none, none, []⟩ ⟨.empty, .standard⟩).run seededEvents
    e.state.mode = .advanced ∧
      (∃ after, (Request.addCondition [0]).run e = .ok [0, 1] after ∧ after ≠ e ∧
        after.tree.nodeAt? [0, 1] = some (.condition .blank) ∧
          ∃ selected, (Request.removeItem [0, 1]).run after = .ok selected e) ∧
      ∃ after, (Request.addGroup [0] .and).run e = .ok [0, 1, 0] after ∧ after ≠ e ∧
        after.tree.nodeAt? [0, 1, 0] = some (.condition .blank) ∧
          ∃ selected, (Request.removeItem [0, 1, 0]).run after = .ok selected e := by
  intro e
  obtain ⟨hconditions, hgroups⟩ := undo_addition_run ⟨.empty, none, none, []⟩ ⟨.empty, .standard⟩
    seededEvents
  have hmode : e.state.mode = .advanced := by decide
  have hsecond : e.tree.nodeAt? [0, 1] = none := by decide
  have hnested : e.tree.nodeAt? [0, 1, 0] = none := by decide
  obtain ⟨one, hone⟩ : ∃ after, (Request.addCondition [0]).run e = .ok [0, 1] after := ⟨_, rfl⟩
  obtain ⟨two, htwo⟩ : ∃ after, (Request.addGroup [0] .and).run e = .ok [0, 1, 0] after := ⟨_, rfl⟩
  obtain ⟨hcondition, hback⟩ := hconditions [0] _ _ hone
  obtain ⟨hseed, -, hbackGroup⟩ := hgroups [0] .and _ _ htwo
  -- nothing stood where the additions are, so that they have changed the tree
  have honeChanged : one ≠ e := by
    rintro rfl
    exact absurd (hcondition.symm.trans hsecond) (Option.some_ne_none _)
  have htwoChanged : two ≠ e := by
    rintro rfl
    exact absurd (hseed.symm.trans hnested) (Option.some_ne_none _)
  exact ⟨hmode, ⟨one, hone, honeChanged, hcondition, hback⟩,
    two, htwo, htwoChanged, hseed, hbackGroup⟩

end Editor

end RecordFilter
