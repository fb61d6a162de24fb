import RecordFilter.Proofs.Tree.Filled
import RecordFilter.Proofs.Tree.Frame
import RecordFilter.Proofs.Tree.Shift

/-!
# What a removal leaves

A removal goes up from a path as far as the groups on the way have one child each, and takes the
node out of the tree that it comes to (`removeItem_exact`).  The conditions that go are those at the
path, since there are no others below that node (`leaves_eq_of_below?`).
-/

namespace RecordFilter

namespace Node

/-- Where the groups on the way down have one child each, a node has the conditions of what stands
at the end of the way. -/
lemma leaves_eq_of_below? {way : Path} :
    ∀ {top bottom : Node}, top.below? way = some bottom →
      (∀ front back, front ++ back = way → back ≠ [] →
        ∃ group, top.below? front = some (.group group) ∧ group.size = 1) →
          top.leaves = bottom.leaves := by
  induction way with
  | nil =>
    intro top bottom hbottom _
    obtain rfl := Option.some.inj hbottom
    rfl
  | cons i rest ih =>
    intro top bottom hbottom hsingle
    obtain ⟨group, htop, hone⟩ := hsingle [] (i :: rest) rfl (List.cons_ne_nil i rest)
    obtain rfl : top = .group group := Option.some.inj htop
    obtain ⟨conjunction, children⟩ := group
    obtain ⟨child, rfl⟩ : ∃ child, children = [child] := List.length_eq_one_iff.1 hone
    rw [below?, group?, Option.bind_some, Option.bind_eq_some_iff] at hbottom
    obtain ⟨next, hnext, hbelow⟩ := hbottom
    obtain ⟨rfl, rfl⟩ : i = 0 ∧ next = child := by
      rw [List.getElem?_singleton] at hnext
      split_ifs at hnext with hi
      exact ⟨hi, (Option.some.inj hnext).symm⟩
    have hrest : next.leaves = bottom.leaves := by
      refine ih hbelow fun front back hway hback => ?_
      exact hsingle (0 :: front) back (congrArg (0 :: ·) hway) hback
    rw [leaves_group, List.flatMap_singleton, hrest]

end Node

namespace Group

/-- The conditions at a path are all there are at the node up to which the tree collapses. -/
lemma Collapses.leaves_eq {tree : Group} {path top : Path} {node taken : Node}
    (h : tree.Collapses path top) (hnode : tree.nodeAt? path = some node)
    (htaken : tree.nodeAt? top = some taken) : taken.leaves = node.leaves := by
  obtain ⟨way, rfl⟩ := h.isPrefix
  have hroot : ∀ more, (Node.group tree).below? (top ++ more) = taken.below? more := by
    intro more
    rw [nodeAt?_eq_below? tree h.ne_nil] at htaken
    rw [Node.below?_append, htaken, Option.bind_some]
  have hne : top ++ way ≠ [] := List.append_ne_nil_of_left_ne_nil h.ne_nil way
  rw [nodeAt?_eq_below? tree hne, hroot] at hnode
  refine Node.leaves_eq_of_below? hnode fun front back hway hback => ?_
  subst hway
  obtain ⟨group, hgroup, hone⟩ := h.single (top ++ front) (List.prefix_append top front)
    ((List.prefix_append_right_inj top).2 (List.prefix_append front back)) (by simpa using hback)
  rw [groupAt?_eq_below?, hroot, Option.bind_eq_some_iff] at hgroup
  obtain ⟨item, hitem, hgroup⟩ := hgroup
  rw [Node.group?_eq_some_iff.1 hgroup] at hitem
  exact ⟨group, hitem, hone⟩

/-- No removal goes up further than to a node that is not the only child of a nested group. -/
lemma Collapses.length_le {tree between : Group} {path top above : Path} {index : Nat}
    (h : tree.Collapses path top) (hpath : above ++ [index] <+: path)
    (hbetween : tree.groupAt? above = some between) (hone : between.size = 1 → above = []) :
    (above ++ [index]).length ≤ top.length := by
  by_contra hlt
  rw [List.length_append, List.length_singleton, Nat.not_le, Nat.lt_succ_iff] at hlt
  have habove : above <+: path := (List.prefix_append above [index]).trans hpath
  have htop : top <+: above := List.prefix_of_prefix_length_le h.isPrefix habove hlt
  have hne : above ≠ path := by
    rintro rfl
    have hlength := hpath.length_le
    rw [List.length_append, List.length_singleton] at hlength
    omega
  obtain ⟨group, hgroup, hsize⟩ := h.single above htop habove hne
  obtain rfl := Option.some.inj (hbetween.symm.trans hgroup)
  rw [hone hsize, List.prefix_nil] at htop
  exact h.ne_nil htop

/-! ### The tree that is left -/

/-- A tree from which a child is taken out of a group has fewer conditions by those of the child. -/
lemma leafCount_eraseChild {g between : Group} {above : Path} {index : Nat} {node : Node}
    (hbetween : g.groupAt? above = some between) (hnode : between.children[index]? = some node) :
    (g.modifyGroup (fun group => group.eraseChild index) above).leafCount + node.leafCount =
      g.leafCount := by
  obtain ⟨before, behind, hold, hnew⟩ := exists_leaves_modifyGroup hbetween
  obtain ⟨front, back, hwith, hwithout⟩ := exists_leaves_eraseChild hnode
  rw [leafCount_eq_length_leaves, leafCount_eq_length_leaves, Node.leafCount_eq_length_leaves, hold,
    hnew, hwith, hwithout]
  simp only [List.length_append]
  omega

/-- The root is left empty if its only child is taken out. -/
lemma children_eraseChild_eq_nil_iff {g between : Group} {above : Path} {index : Nat}
    (hbetween : g.groupAt? above = some between) (hindex : index < between.size)
    (hone : between.size = 1 → above = []) :
    (g.modifyGroup (fun group => group.eraseChild index) above).children = [] ↔
      between.size = 1 := by
  rw [← List.length_eq_zero_iff]
  change size _ = 0 ↔ _
  cases above with
  | nil =>
    obtain rfl := Option.some.inj hbetween
    rw [modifyGroup, size_eraseChild hindex]
    omega
  | cons k rest =>
    obtain ⟨child, hchild, -⟩ := groupAt?_cons_eq_some_iff.1 hbetween
    have hlt : k < g.size := (List.getElem?_eq_some_iff.1 hchild).1
    have hnot : ¬between.size = 1 := fun h => absurd (hone h) (List.cons_ne_nil k rest)
    rw [size_modifyGroup_cons]
    omega

/-- What is selected after a child has gone from a group that keeps others: the child before it, or
the first. -/
lemma selectionAfter_eq {index size : Nat} (hindex : index < size) (h : size ≠ 1) :
    selectionAfter index (size - 1) = [index - 1] := by
  have hremaining : size - 1 ≠ 0 := by omega
  have hmin : min (index - 1) (size - 1 - 1) = index - 1 := by omega
  rw [selectionAfter, if_neg hremaining, hmin]

/-- What is selected in a group that keeps children is there. -/
lemma nodeAt?_eraseChild_ne_none {g between : Group} {above : Path} {index : Nat}
    (hbetween : g.groupAt? above = some between) (hindex : index < between.size)
    (h : between.size ≠ 1) :
    (g.modifyGroup (fun group => group.eraseChild index) above).nodeAt? (above ++ [index - 1]) ≠
      none := by
  have hlt : index - 1 < (between.eraseChild index).size := by
    rw [size_eraseChild hindex]
    omega
  rw [nodeAt?_concat, groupAt?_modifyGroup hbetween, Option.bind_some,
    List.getElem?_eq_getElem hlt]
  exact Option.some_ne_none _

end Group

namespace TreeEdit

/-- The root cannot be removed. -/
lemma run_removeItem_nil (tree : Group) :
    (removeItem []).run tree = .error .rootRemoval tree := rfl

/-- What is not there cannot be removed. -/
lemma run_removeItem_of_nodeAt?_eq_none {tree : Group} {path : Path} (hpath : path ≠ [])
    (h : tree.nodeAt? path = none) :
    (removeItem path).run tree = .error (.noSuchItem path) tree := by
  rcases List.eq_nil_or_concat' path with rfl | ⟨above, index, rfl⟩
  · exact absurd rfl hpath
  rw [removeItem, if_neg hpath, List.reverse_concat, run_removeUpwards_eq_error,
    List.reverse_reverse]
  intro parent hparent
  rw [List.reverse_reverse] at hparent
  rw [Group.nodeAt?_concat, hparent, Option.bind_some] at h
  exact List.getElem?_eq_none_iff.1 h

/-- What is there is removed with the groups that the removal would leave empty. -/
lemma exists_run_removeItem {tree : Group} {path : Path} {node : Node}
    (hnode : tree.nodeAt? path = some node) :
    ∃ above index between, tree.Collapses path (above ++ [index]) ∧
      tree.groupAt? above = some between ∧ index < between.size ∧
        (between.size = 1 → above = []) ∧
          (removeItem path).run tree =
            .ok (above ++ Group.selectionAfter index (between.size - 1))
              (tree.modifyGroup (fun group => group.eraseChild index) above) := by
  rcases List.eq_nil_or_concat' path with rfl | ⟨front, last, rfl⟩
  · simp [Group.nodeAt?] at hnode
  rw [Group.nodeAt?_concat, Option.bind_eq_some_iff] at hnode
  obtain ⟨parent, hparent, hlast⟩ := hnode
  rw [← List.reverse_reverse front] at hparent
  have hremoval := exists_removal_of_removeUpwards hparent (List.getElem?_eq_some_iff.1 hlast).1
  rw [List.reverse_reverse] at hremoval
  rw [removeItem, if_neg (by simp), List.reverse_concat]
  exact hremoval

/-- What is left of a tree, and what is selected in it, after a removal at a path has taken out the
child at an index of the group at another path. -/
structure Removes (tree : Group) (path above : Path) (index : Nat) (selected : Path)
    (after : Group) : Prop where
  /-- The groups from the child down to the path have one child each. -/
  collapses : tree.Collapses path (above ++ [index])
  /-- There is no such node further up. -/
  highest : ∀ top, tree.Collapses path top → (above ++ [index]).length ≤ top.length
  /-- The child is gone, and nothing else is changed. -/
  gains : ∃ taken, after.Gains above index taken tree
  /-- The conditions that are gone are those at the path. -/
  leafCount : ∀ node, tree.nodeAt? path = some node →
    after.leafCount + node.leafCount = tree.leafCount
  /-- No nested group is left empty that was not empty before. -/
  filledBelow : tree.FilledBelow → after.FilledBelow
  /-- The root is selected if it is empty now. -/
  selects_root : selected = [] ↔ after.children = []
  /-- Otherwise the child before the one that is gone is selected, or the first child. -/
  selects_sibling : after.children ≠ [] → selected = above ++ [index - 1]
  /-- What is selected is there. -/
  selected_there : after.children ≠ [] → after.nodeAt? selected ≠ none

/-- A removal takes out the child up to which the tree collapses, if it leaves no nested group
empty. -/
lemma removes_eraseChild {tree between : Group} {path above : Path} {index : Nat}
    (hcollapses : tree.Collapses path (above ++ [index]))
    (hbetween : tree.groupAt? above = some between) (hindex : index < between.size)
    (hone : between.size = 1 → above = []) :
    Removes tree path above index (above ++ Group.selectionAfter index (between.size - 1))
      (tree.modifyGroup (fun group => group.eraseChild index) above) := by
  have htaken : between.children[index]? = some between.children[index] :=
    List.getElem?_eq_getElem hindex
  have hnil := Group.children_eraseChild_eq_nil_iff hbetween hindex hone
  have hsibling : between.size ≠ 1 →
      above ++ Group.selectionAfter index (between.size - 1) = above ++ [index - 1] := by
    intro hsize
    rw [Group.selectionAfter_eq hindex hsize]
  exact {
    collapses := hcollapses
    highest := fun top htop => htop.length_le hcollapses.isPrefix hbetween hone
    gains := ⟨_, Group.gains_of_eraseChild hbetween htaken⟩
    leafCount := by
      intro node hnode
      have htop : tree.nodeAt? (above ++ [index]) = some between.children[index] := by
        rw [Group.nodeAt?_concat, hbetween, Option.bind_some, htaken]
      rw [Node.leafCount_eq_length_leaves, ← hcollapses.leaves_eq hnode htop,
        ← Node.leafCount_eq_length_leaves]
      exact Group.leafCount_eraseChild hbetween htaken
    filledBelow := fun h => h.modifyGroup_eraseChild hbetween hindex hone
    selects_root := by
      rw [hnil]
      by_cases hsize : between.size = 1
      · simp [hone hsize, hsize, Group.selectionAfter]
      · simp [hsibling hsize, hsize]
    selects_sibling := fun hne => hsibling (mt hnil.2 hne)
    selected_there := by
      intro hne
      rw [hsibling (mt hnil.2 hne)]
      exact Group.nodeAt?_eraseChild_ne_none hbetween hindex (mt hnil.2 hne) }

/-- Every removal is answered but for that of the root and of what is not there, which leave the
tree as it is.  A removal that is answered takes out the highest node on the way to the path from
which every group down to the path has one child. -/
theorem removeItem_exact (tree : Group) (path : Path) :
    (path = [] → (removeItem path).run tree = .error .rootRemoval tree) ∧
      (path ≠ [] → tree.nodeAt? path = none →
        (removeItem path).run tree = .error (.noSuchItem path) tree) ∧
      (tree.nodeAt? path ≠ none → ∃ above index selected after,
        (removeItem path).run tree = .ok selected after ∧
          Removes tree path above index selected after) := by
  refine ⟨?_, run_removeItem_of_nodeAt?_eq_none, ?_⟩
  · rintro rfl
    exact run_removeItem_nil tree
  · intro hthere
    obtain ⟨node, hnode⟩ := Option.ne_none_iff_exists'.1 hthere
    obtain ⟨above, index, between, hcollapses, hbetween, hindex, hone, hrun⟩ :=
      exists_run_removeItem hnode
    exact ⟨above, index, _, _, hrun, removes_eraseChild hcollapses hbetween hindex hone⟩

/-- A tree with a condition that is alone two groups deep. -/
def nestedTree : Group :=
  ⟨.and, [.condition .blank, .group ⟨.or, [.group ⟨.and, [.condition .blank]⟩]⟩]⟩

/-- `removeItem_exact` at a condition that goes with the groups around it. -/
theorem removeItem_exact_nestedTree :
    nestedTree.nodeAt? [1, 0, 0] ≠ none ∧
      (removeItem [1, 0, 0]).run nestedTree = .ok [0] ⟨.and, [.condition .blank]⟩ ∧
        ∃ above index,
          Removes nestedTree [1, 0, 0] above index [0] ⟨.and, [.condition .blank]⟩ := by
  have hthere : nestedTree.nodeAt? [1, 0, 0] ≠ none := Option.some_ne_none _
  have hresult : (removeItem [1, 0, 0]).run nestedTree = .ok [0] ⟨.and, [.condition .blank]⟩ := rfl
  obtain ⟨above, index, selected, after, hrun, hremoves⟩ :=
    (removeItem_exact nestedTree [1, 0, 0]).2.2 hthere
  obtain ⟨rfl, rfl⟩ := EStateM.Result.ok.inj (hresult.symm.trans hrun)
  exact ⟨hthere, hresult, above, index, hremoves⟩

end TreeEdit

end RecordFilter
