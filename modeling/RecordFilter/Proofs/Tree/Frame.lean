import RecordFilter.Proofs.Tree.Path
import RecordFilter.Tree.Edit

/-!
# What a change of a tree leaves alone

The conditions of a tree, from left to right, are those before the group at a path, those in it
and those after it.  A change of the group changes those in it alone
(`exists_leaves_modifyGroup`), and a change of one condition that condition alone
(`exists_leaves_setNode`).
-/

namespace RecordFilter

/-- The items before and after the one at an index. -/
lemma exists_append_of_getElem? {α : Type _} {items : List α} {i : Nat} {item : α}
    (h : items[i]? = some item) :
    ∃ front back, items = front ++ item :: back ∧
      (∀ other, items.set i other = front ++ other :: back) ∧
        items.eraseIdx i = front ++ back := by
  obtain ⟨hlt, rfl⟩ := List.getElem?_eq_some_iff.1 h
  refine ⟨items.take i, items.drop (i + 1), ?_, fun other => ?_, List.eraseIdx_eq_take_drop_succ ..⟩
  · rw [List.getElem_cons_drop, List.take_append_drop]
  · rw [List.set_eq_take_append_cons_drop, if_pos hlt]

namespace Group

/-- A change of the group at a path changes its conditions, and none before or after them. -/
theorem exists_leaves_modifyGroup {path : Path} :
    ∀ {g target : Group}, g.groupAt? path = some target →
      ∃ before after, g.leaves = before ++ target.leaves ++ after ∧
        ∀ f, (modifyGroup f path g).leaves = before ++ (f target).leaves ++ after := by
  induction path with
  | nil =>
    intro g target hg
    obtain rfl := Option.some.inj hg
    exact ⟨[], [], by simp, fun f => by simp [modifyGroup]⟩
  | cons i rest ih =>
    intro g target hg
    obtain ⟨child, hchild, hrest⟩ := groupAt?_cons_eq_some_iff.1 hg
    obtain ⟨before, after, hleaves, hchanged⟩ := ih hrest
    obtain ⟨front, back, hchildren, hset, -⟩ := exists_append_of_getElem? hchild
    refine ⟨front.flatMap Node.leaves ++ before, after ++ back.flatMap Node.leaves, ?_, fun f => ?_⟩
    · have hnode : (Node.group child).leaves = before ++ target.leaves ++ after := hleaves
      rw [leaves_eq_flatMap, hchildren, List.flatMap_append, List.flatMap_cons, hnode]
      simp only [List.append_assoc]
    · have hnode : (Node.group (modifyGroup f rest child)).leaves =
          before ++ (f target).leaves ++ after := hchanged f
      rw [modifyGroup_cons hchild, leaves_mk, hset, List.flatMap_append, List.flatMap_cons, hnode]
      simp only [List.append_assoc]

/-- A node that is appended to a group comes after its conditions. -/
lemma leaves_insertChild_size (g : Group) (node : Node) :
    (g.insertChild g.size node).leaves = g.leaves ++ node.leaves := by
  rw [insertChild, size, List.insertIdx_length_self, leaves_mk, List.flatMap_append,
    ← leaves_eq_flatMap, List.flatMap_singleton]

/-- The conditions of a group with and without one of its children. -/
lemma exists_leaves_eraseChild {g : Group} {index : Nat} {node : Node}
    (hnode : g.children[index]? = some node) :
    ∃ before behind, g.leaves = before ++ node.leaves ++ behind ∧
      (g.eraseChild index).leaves = before ++ behind := by
  obtain ⟨front, back, hchildren, -, herase⟩ := exists_append_of_getElem? hnode
  refine ⟨front.flatMap Node.leaves, back.flatMap Node.leaves, ?_, ?_⟩
  · rw [leaves_eq_flatMap, hchildren, List.flatMap_append, List.flatMap_cons, List.append_assoc]
  · rw [eraseChild, herase, leaves_mk, List.flatMap_append]

/-- Taking a child out takes its conditions out. -/
lemma leaves_eraseChild_sublist {g : Group} {i : Nat} (h : i < g.size) :
    (g.eraseChild i).leaves.Sublist g.leaves := by
  obtain ⟨before, behind, hwith, hwithout⟩ :=
    exists_leaves_eraseChild (List.getElem?_eq_getElem h)
  rw [hwith, hwithout]
  exact (List.sublist_append_left before _).append_right behind

/-- The conditions of a group do not depend on its conjunction. -/
lemma leaves_withConjunction (g : Group) (conjunction : Conjunction) :
    (g.withConjunction conjunction).leaves = g.leaves := by
  rw [withConjunction, leaves_mk, leaves_eq_flatMap]

/-- A change of the condition at a path changes no other condition. -/
theorem exists_leaves_setNode {g : Group} {path : Path} {c : Condition}
    (h : g.conditionAt? path = some c) :
    ∃ before after, g.leaves = before ++ c :: after ∧
      ∀ new, (g.setNode path (.condition new)).leaves = before ++ new :: after := by
  obtain ⟨above, i, group, rfl, hgroup, hchild⟩ := conditionAt?_eq_some_iff.1 h
  obtain ⟨before, after, hleaves, hchanged⟩ := exists_leaves_modifyGroup hgroup
  obtain ⟨front, back, hchildren, hset, -⟩ := exists_append_of_getElem? hchild
  have hgroupLeaves : group.leaves =
      front.flatMap Node.leaves ++ c :: back.flatMap Node.leaves := by
    rw [leaves_eq_flatMap, hchildren]
    simp
  have hsetLeaves : ∀ new, (group.setChild i (.condition new)).leaves =
      front.flatMap Node.leaves ++ new :: back.flatMap Node.leaves := by
    intro new
    rw [setChild, leaves_mk, hset]
    simp
  refine ⟨before ++ front.flatMap Node.leaves, back.flatMap Node.leaves ++ after, ?_, fun new => ?_⟩
  · rw [hleaves, hgroupLeaves]
    simp
  · rw [setNode_concat, hchanged, hsetLeaves]
    simp

/-! ### What all conditions of a tree have -/

section Forall

variable {P : Condition → Prop} {g target : Group} {path : Path} {old : Condition}

/-- The condition at a path is one of the conditions of the tree. -/
lemma mem_leaves_of_conditionAt? (hold : g.conditionAt? path = some old) : old ∈ g.leaves := by
  obtain ⟨before, after, hleaves, -⟩ := exists_leaves_setNode hold
  rw [hleaves]
  exact List.mem_append_right before List.mem_cons_self

/-- A condition may be changed to one that has what all conditions have. -/
lemma forall_leaves_setNode (h : ∀ c ∈ g.leaves, P c) (hold : g.conditionAt? path = some old)
    {new : Condition} (hnew : P old → P new) :
    ∀ c ∈ (g.setNode path (.condition new)).leaves, P c := by
  obtain ⟨before, after, hleaves, hset⟩ := exists_leaves_setNode hold
  rw [hleaves, List.forall_mem_append, List.forall_mem_cons] at h
  rw [hset, List.forall_mem_append, List.forall_mem_cons]
  exact ⟨h.1, hnew h.2.1, h.2.2⟩

/-- A group may be changed if its conditions keep what all conditions have. -/
lemma forall_leaves_modifyGroup (h : ∀ c ∈ g.leaves, P c) (htarget : g.groupAt? path = some target)
    {f : Group → Group} (hf : (∀ c ∈ target.leaves, P c) → ∀ c ∈ (f target).leaves, P c) :
    ∀ c ∈ (g.modifyGroup f path).leaves, P c := by
  obtain ⟨before, after, hleaves, hchanged⟩ := exists_leaves_modifyGroup htarget
  rw [hleaves, List.forall_mem_append, List.forall_mem_append] at h
  rw [hchanged, List.forall_mem_append, List.forall_mem_append]
  exact ⟨⟨h.1.1, hf h.1.2⟩, h.2⟩

/-- A node may be appended to a group if its conditions have what all conditions have. -/
lemma forall_leaves_insertChild (h : ∀ c ∈ g.leaves, P c) {node : Node}
    (hnode : ∀ c ∈ node.leaves, P c) : ∀ c ∈ (g.insertChild g.size node).leaves, P c := by
  rw [leaves_insertChild_size, List.forall_mem_append]
  exact ⟨h, hnode⟩

end Forall

end Group

end RecordFilter
