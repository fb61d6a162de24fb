import RecordFilter.Proofs.Tree.Edit

/-!
# What a removal takes away

A removal takes the node at a path away, and then every nested group that it leaves empty.  Taking
them away one after the other comes to the same as taking the outermost of them away at once,
since what is taken out of a node before the node itself leaves no trace
(`eraseChild_modifyGroup`).  So a removal takes one child out of one group, on the way to the
path, and no nested group is left empty by it (`exists_removal`).  How far up it goes is said by
`Group.Collapses`.
-/

namespace RecordFilter

namespace Group

/-- A change of a child leaves no trace once the child is taken out. -/
lemma eraseChild_modifyGroup {f : Group → Group} (i : Nat) (rest : Path) (g : Group) :
    (modifyGroup f (i :: rest) g).eraseChild i = g.eraseChild i := by
  rcases exists_group_or_group?_eq_none g i with ⟨child, hchild⟩ | hnone
  · rw [modifyGroup_cons hchild, eraseChild, eraseChild, List.eraseIdx_set_eq]
  · rw [modifyGroup_cons_of_group?_eq_none hnone]

/-- The number of children after one has been taken out. -/
lemma size_eraseChild {g : Group} {index : Nat} (h : index < g.size) :
    (g.eraseChild index).size = g.size - 1 :=
  List.length_eraseIdx_of_lt h

/-- A change below a group leaves it with as many children. -/
lemma size_modifyGroup_cons {f : Group → Group} (i : Nat) (rest : Path) (g : Group) :
    (modifyGroup f (i :: rest) g).size = g.size := by
  rcases exists_group_or_group?_eq_none g i with ⟨child, hchild⟩ | hnone
  · rw [modifyGroup_cons hchild, size, size, List.length_set]
  · rw [modifyGroup_cons_of_group?_eq_none hnone]

/-- On the way to a change a group was there before, with as many children. -/
lemma exists_groupAt?_of_modifyGroup {f : Group → Group} {way : Path} {i : Nat} {rest : Path}
    {tree target group : Group} (htarget : tree.groupAt? (way ++ i :: rest) = some target)
    (h : (modifyGroup f (way ++ i :: rest) tree).groupAt? way = some group) :
    ∃ old, tree.groupAt? way = some old ∧ old.size = group.size := by
  obtain ⟨old, hold, -⟩ := groupAt?_append_eq_some_iff.1 htarget
  rw [groupAt?_modifyGroup_append hold] at h
  obtain rfl := Option.some.inj h
  exact ⟨old, hold, (size_modifyGroup_cons i rest old).symm⟩

/-- A removal at a path may go up to a node on the way: the groups from that node down to the path
have one child each, so that the removal leaves every one of them empty. -/
structure Collapses (tree : Group) (path top : Path) : Prop where
  ne_nil : top ≠ []
  isPrefix : top <+: path
  single : ∀ way, top <+: way → way <+: path → way ≠ path →
    ∃ group, tree.groupAt? way = some group ∧ group.size = 1

/-- A removal goes up to its own path. -/
lemma collapses_self (tree : Group) {path : Path} (h : path ≠ []) : tree.Collapses path path where
  ne_nil := h
  isPrefix := List.prefix_refl path
  single := by
    intro way htop hpath hne
    have hlength : way.length = path.length := Nat.le_antisymm hpath.length_le htop.length_le
    exact absurd (hpath.eq_of_length hlength) hne

/-- Where the group that the removed child was in has gone too, the removal goes up as far as the
removal of that group. -/
lemma Collapses.concat {f : Group → Group} {path top : Path} {index : Nat} {tree parent : Group}
    (hparent : tree.groupAt? path = some parent) (hone : parent.size = 1)
    (h : (modifyGroup f path tree).Collapses path top) : tree.Collapses (path ++ [index]) top where
  ne_nil := h.ne_nil
  isPrefix := h.isPrefix.trans (List.prefix_append path [index])
  single := by
    intro way htop hway hne
    have hbelow : way <+: path := (List.prefix_concat_iff.1 hway).resolve_left hne
    by_cases heq : way = path
    · exact ⟨parent, heq ▸ hparent, hone⟩
    · -- a group further up has as many children as before the first removal
      obtain ⟨group, hgroup, hsize⟩ := h.single way htop hbelow heq
      obtain ⟨more, rfl⟩ := hbelow
      have hmore : more ≠ [] := by
        rintro rfl
        exact heq (List.append_nil way).symm
      obtain ⟨i, rest, rfl⟩ := List.exists_cons_of_ne_nil hmore
      obtain ⟨old, hold, hsame⟩ := exists_groupAt?_of_modifyGroup hparent hgroup
      exact ⟨old, hold, hsame.trans hsize⟩

end Group

namespace TreeEdit

/-- A removal of a child that is there takes one child out of one group, up to which the tree
collapses.  It is not the only child, unless the group is the root. -/
theorem exists_removal_of_removeUpwards {above : Path} :
    ∀ {index : Nat} {tree parent : Group}, tree.groupAt? above.reverse = some parent →
      index < parent.size → ∃ upper i between,
        tree.Collapses (above.reverse ++ [index]) (upper ++ [i]) ∧
          tree.groupAt? upper = some between ∧ i < between.size ∧ (between.size = 1 → upper = []) ∧
            (removeUpwards (index :: above)).run tree =
              .ok (upper ++ Group.selectionAfter i (between.size - 1))
                (tree.modifyGroup (fun group => group.eraseChild i) upper) := by
  induction above with
  | nil =>
    intro index tree parent hparent hindex
    refine ⟨[], index, parent, tree.collapses_self (List.cons_ne_nil index []), hparent, hindex,
      fun _ => rfl, ?_⟩
    rw [run_removeUpwards hparent hindex, if_neg (fun h => h.2 rfl)]
    rfl
  | cons k above ih =>
    intro index tree parent hparent hindex
    rw [run_removeUpwards hparent hindex]
    split_ifs with hgo
    · -- the group that is left empty is removed from the tree in which it is empty
      rw [List.reverse_cons] at hparent ⊢
      obtain ⟨outer, houter, hinner⟩ := Group.groupAt?_append_eq_some_iff.1 hparent
      obtain ⟨child, hchild, -⟩ := Group.groupAt?_cons_eq_some_iff.1 hinner
      have hchanged : (Group.modifyGroup (fun group => group.eraseChild index)
          (above.reverse ++ [k]) tree).groupAt? above.reverse =
            some (Group.modifyGroup (fun group => group.eraseChild index) [k] outer) :=
        Group.groupAt?_modifyGroup_append houter
      have hk : k < (Group.modifyGroup (fun group => group.eraseChild index) [k] outer).size := by
        rw [Group.size_modifyGroup_singleton hchild]
        exact (List.getElem?_eq_some_iff.1 hchild).1
      obtain ⟨upper, i, between, hcollapses, hbetween, hi, hone, hrun⟩ := ih hchanged hk
      have hmore : tree.Collapses (above.reverse ++ [k] ++ [index]) (upper ++ [i]) :=
        hcollapses.concat hparent hgo.1
      obtain ⟨lower, hpath⟩ := hcollapses.isPrefix
      rw [List.append_assoc, List.singleton_append] at hpath
      rw [← hpath] at hparent hbetween hrun ⊢
      obtain ⟨old, hold, hsize⟩ := Group.exists_groupAt?_of_modifyGroup hparent hbetween
      refine ⟨upper, i, old, hpath ▸ hmore, hold, hsize ▸ hi, hsize ▸ hone, ?_⟩
      rw [hrun, hsize, Group.modifyGroup_append, Group.modifyGroup_modifyGroup]
      simp only [Group.eraseChild_modifyGroup]
    · exact ⟨(k :: above).reverse, index, parent, tree.collapses_self (by simp), hparent, hindex,
        fun hsize => absurd ⟨hsize, List.cons_ne_nil k above⟩ hgo, rfl⟩

/-- A removal that is answered takes one child out of one group, on the way to the path.  It is not
the only child, unless the group is the root. -/
theorem exists_removal {path selected : Path} {tree after : Group}
    (h : (removeItem path).run tree = .ok selected after) :
    ∃ upper i lower between, path = upper ++ i :: lower ∧ tree.groupAt? upper = some between ∧
      i < between.size ∧ (between.size = 1 → upper = []) ∧
        tree.modifyGroup (fun group => group.eraseChild i) upper = after := by
  rcases List.eq_nil_or_concat' path with rfl | ⟨above, index, rfl⟩
  · rw [removeItem, if_pos rfl, run_throw_eq_error] at h
    simp at h
  rw [removeItem, if_neg (by simp), List.reverse_concat] at h
  by_cases hthere : ∃ parent, tree.groupAt? above = some parent ∧ index < parent.size
  · obtain ⟨parent, hparent, hindex⟩ := hthere
    rw [← List.reverse_reverse above] at hparent
    obtain ⟨upper, i, between, hcollapses, hbetween, hi, hone, hrun⟩ :=
      exists_removal_of_removeUpwards hparent hindex
    obtain ⟨lower, hpath⟩ := hcollapses.isPrefix
    rw [List.reverse_reverse, List.append_assoc, List.singleton_append] at hpath
    refine ⟨upper, i, lower, between, hpath.symm, hbetween, hi, hone, ?_⟩
    rw [hrun] at h
    exact (EStateM.Result.ok.inj h).2
  · rw [run_removeUpwards_eq_error fun parent hparent => Nat.le_of_not_lt fun hindex =>
      hthere ⟨parent, List.reverse_reverse above ▸ hparent, hindex⟩] at h
    simp at h

end TreeEdit

end RecordFilter
