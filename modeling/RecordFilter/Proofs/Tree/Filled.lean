import RecordFilter.Proofs.ConditionList.Tidy
import RecordFilter.Proofs.Tree.Defect
import RecordFilter.Proofs.Tree.Removal

/-!
# Trees without empty groups

A tree may be empty at its root, but a nested group without children is a defect that no user can
see the reason of.  `FilledBelow` says that a tree has none.  A change of one group keeps that, if
the group does not lose its last child or is the root (`filledBelow_modifyGroup`).

Where no nested group is empty, the only group that can be reported as empty is the root
(`eq_nil_of_defect?_eq_emptyGroup`).
-/

namespace RecordFilter

namespace Node

/-- Every group of a node has a child. -/
inductive Filled : Node → Prop
  | condition (c : Condition) : Filled (.condition c)
  | group {conjunction : Conjunction} {children : List Node} (hne : children ≠ [])
      (h : ∀ child ∈ children, Filled child) : Filled (.group ⟨conjunction, children⟩)

/-- A complete node has no empty group. -/
lemma Complete.filled {node : Node} (h : node.Complete) : node.Filled := by
  induction h with
  | condition hc => exact .condition _
  | group hne hchildren ih => exact .group hne ih

/-- A tidy node has no empty group. -/
lemma Tidy.filled {node : Node} (h : node.Tidy) : node.Filled := by
  induction h with
  | condition c => exact .condition c
  | group hne hone hchildren ih => exact .group hne ih

end Node

namespace Group

/-- No group below the root is empty. -/
def FilledBelow (g : Group) : Prop :=
  ∀ child ∈ g.children, child.Filled

/-- A group is a filled node if it has a child and no group below it is empty. -/
lemma filled_iff {g : Group} : (Node.group g).Filled ↔ g.children ≠ [] ∧ g.FilledBelow := by
  obtain ⟨conjunction, children⟩ := g
  constructor
  · rintro (_ | ⟨hne, h⟩)
    exact ⟨hne, h⟩
  · rintro ⟨hne, h⟩
    exact .group hne h

/-- The empty tree has no group below the root. -/
lemma filledBelow_empty : FilledBelow .empty :=
  fun _ h => absurd h List.not_mem_nil

/-- A tree without a defect has no empty group. -/
lemma filledBelow_of_defect?_eq_none {g : Group} (h : g.defect? = none) : g.FilledBelow :=
  (filled_iff.1 (defect?_eq_none_iff.1 h).filled).2

/-- No group below a group is empty if none is below the root, and the group itself is not, unless
it is the root. -/
lemma FilledBelow.groupAt? {path : Path} :
    ∀ {g inner : Group}, g.FilledBelow → g.groupAt? path = some inner →
      inner.FilledBelow ∧ (path ≠ [] → inner.children ≠ []) := by
  induction path with
  | nil =>
    intro g inner h hinner
    obtain rfl := Option.some.inj hinner
    exact ⟨h, fun hne => absurd rfl hne⟩
  | cons i rest ih =>
    intro g inner h hinner
    obtain ⟨child, hchild, hrest⟩ := groupAt?_cons_eq_some_iff.1 hinner
    obtain ⟨hne, hbelow⟩ := filled_iff.1 (h _ (List.mem_of_getElem? hchild))
    obtain ⟨hinnerBelow, hinnerNe⟩ := ih hbelow hrest
    refine ⟨hinnerBelow, fun _ => ?_⟩
    -- the group is the child itself, or it is below the child
    rcases List.eq_nil_or_concat' rest with rfl | ⟨front, j, rfl⟩
    · obtain rfl := Option.some.inj hrest
      exact hne
    · exact hinnerNe (by simp)

/-- A change of a group leaves no group empty that is below the root, if the group is filled below
afterwards and has a child or is the root. -/
theorem filledBelow_modifyGroup {f : Group → Group} {path : Path} :
    ∀ {g target : Group}, g.FilledBelow → g.groupAt? path = some target →
      (f target).FilledBelow → (path ≠ [] → (f target).children ≠ []) →
        (modifyGroup f path g).FilledBelow := by
  induction path with
  | nil =>
    intro g target _ htarget hf _
    obtain rfl := Option.some.inj htarget
    exact hf
  | cons i rest ih =>
    intro g target h htarget hf hne
    obtain ⟨child, hchild, hrest⟩ := groupAt?_cons_eq_some_iff.1 htarget
    obtain ⟨hchildNe, hchildBelow⟩ := filled_iff.1 (h _ (List.mem_of_getElem? hchild))
    have hbelow : (modifyGroup f rest child).FilledBelow :=
      ih hchildBelow hrest hf fun _ => hne (by simp)
    have hsome : (modifyGroup f rest child).children ≠ [] := by
      cases rest with
      | nil =>
        obtain rfl := Option.some.inj hrest
        exact hne (by simp)
      | cons j more =>
        -- a change further down leaves the group with as many children
        have hsize : (modifyGroup f (j :: more) child).size = child.size :=
          size_modifyGroup_cons j more child
        intro hnil
        rw [size, size, hnil, List.length_nil] at hsize
        exact hchildNe (List.length_eq_zero_iff.1 hsize.symm)
    rw [modifyGroup_cons hchild]
    intro other hother
    rcases List.mem_or_eq_of_mem_set hother with hmem | rfl
    · exact h other hmem
    · exact filled_iff.2 ⟨hsome, hbelow⟩

/-- A filled node may be appended to a group. -/
lemma FilledBelow.insertChild {g : Group} (h : g.FilledBelow) {node : Node} (hnode : node.Filled) :
    (g.insertChild g.size node).FilledBelow := by
  intro child hchild
  rcases (List.mem_insertIdx (Nat.le_refl g.size)).1 hchild with rfl | hmem
  · exact hnode
  · exact h child hmem

/-- A child may be taken out of a group. -/
lemma FilledBelow.eraseChild {g : Group} (h : g.FilledBelow) (index : Nat) :
    (g.eraseChild index).FilledBelow :=
  fun child hchild => h child (List.mem_of_mem_eraseIdx hchild)

/-- Taking a child out leaves no nested group empty, if it is not the only child of one. -/
lemma FilledBelow.modifyGroup_eraseChild {g between : Group} {above : Path} {index : Nat}
    (h : g.FilledBelow) (hbetween : g.groupAt? above = some between) (hindex : index < between.size)
    (hone : between.size = 1 → above = []) :
    (g.modifyGroup (fun group => group.eraseChild index) above).FilledBelow := by
  have hbelow := (h.groupAt? hbetween).1.eraseChild index
  refine filledBelow_modifyGroup h hbetween hbelow fun hnested hnil => ?_
  have hsize : (between.eraseChild index).size = 0 := congrArg List.length hnil
  rw [size_eraseChild hindex] at hsize
  have hsingle : between.size = 1 := by omega
  exact hnested (hone hsingle)

/-- A condition may take the place of a child. -/
lemma FilledBelow.setChild {g : Group} (h : g.FilledBelow) (index : Nat) (c : Condition) :
    (g.setChild index (.condition c)).FilledBelow := by
  intro child hchild
  rcases List.mem_or_eq_of_mem_set hchild with hmem | rfl
  · exact h child hmem
  · exact .condition c

/-- A condition may be changed. -/
lemma FilledBelow.setNode {g : Group} (h : g.FilledBelow) {path : Path} {old : Condition}
    (hold : g.conditionAt? path = some old) (c : Condition) :
    (g.setNode path (.condition c)).FilledBelow := by
  obtain ⟨above, i, group, rfl, hgroup, hchild⟩ := conditionAt?_eq_some_iff.1 hold
  have hlt : i < group.children.length := (List.getElem?_eq_some_iff.1 hchild).1
  rw [setNode_concat]
  refine filledBelow_modifyGroup h hgroup ((h.groupAt? hgroup).1.setChild i c) fun _ hnil => ?_
  rw [Group.setChild, List.set_eq_nil_iff] at hnil
  rw [hnil] at hlt
  exact absurd hlt (Nat.not_lt_zero i)

end Group

/-! ### Defects -/

/-- A condition is never reported as an empty group. -/
lemma Condition.problem?_ne_emptyGroup (c : Condition) : c.problem? ≠ some .emptyGroup := by
  have hvalue : c.value.problem? ≠ some .emptyGroup := by
    unfold Value.problem?
    split <;> (try split_ifs) <;> simp
  unfold problem?
  split_ifs
  · simp
  · cases c.operator with
    | none => simp
    | some op =>
      dsimp only
      split_ifs
      · exact hvalue
      · simp

namespace Node

/-- A defect among some nodes is the defect of one of them. -/
lemma exists_defectAt?_of_defectAmong? {exempt : Option Path} {path : Path} {defect : Defect}
    {nodes : List Node} :
    ∀ {index : Nat}, defectAmong? exempt path index nodes = some defect →
      ∃ node ∈ nodes, ∃ place, node.defectAt? exempt place = some defect := by
  induction nodes with
  | nil => simp [defectAmong?]
  | cons node rest ih =>
    intro index h
    rw [defectAmong?] at h
    cases hnode : node.defectAt? exempt (path ++ [index]) with
    | some found =>
      simp only [hnode, Option.some.injEq] at h
      exact ⟨node, List.mem_cons_self, _, h ▸ hnode⟩
    | none =>
      simp only [hnode] at h
      obtain ⟨other, hother, hdefect⟩ := ih h
      exact ⟨other, List.mem_cons_of_mem node hother, hdefect⟩

/-- A node without an empty group is not reported to have one. -/
lemma Filled.problem_ne_emptyGroup {node : Node} (h : node.Filled) :
    ∀ {exempt : Option Path} {path : Path} {defect : Defect},
      node.defectAt? exempt path = some defect → defect.problem ≠ .emptyGroup := by
  induction h with
  | condition c =>
    intro exempt path defect hdefect hempty
    rw [defectAt?, Option.map_eq_some_iff] at hdefect
    obtain ⟨problem, hproblem, rfl⟩ := hdefect
    obtain rfl : problem = .emptyGroup := hempty
    exact c.problem?_ne_emptyGroup hproblem
  | @group conjunction children hne hchildren ih =>
    intro exempt path defect hdefect
    rw [defectAt?, List.isEmpty_eq_false_iff.2 hne, Bool.false_and, if_neg Bool.false_ne_true]
      at hdefect
    obtain ⟨child, hchild, _, hfound⟩ := exists_defectAt?_of_defectAmong? hdefect
    exact ih child hchild hfound

/-- Where no defect is found, whatever group is excused, no condition has a problem. -/
lemma problem?_eq_none_of_defectAt? {exempt : Option Path} (node : Node) :
    ∀ {path : Path}, node.defectAt? exempt path = none → ∀ c ∈ node.leaves, c.problem? = none := by
  induction node using Node.induction with
  | condition c =>
    intro path h
    rw [leaves_condition, List.forall_mem_singleton]
    rwa [defectAt?, Option.map_eq_none_iff] at h
  | group conjunction children ih =>
    intro path h
    rw [leaves_group, List.forall_mem_flatMap]
    intro child hchild
    obtain ⟨j, hj⟩ := List.mem_iff_getElem?.1 hchild
    exact ih child hchild ((defectAt?_group_eq_none_iff.1 h).2 j child hj)

end Node

namespace Group

/-- Where something can be inserted, no condition has a problem. -/
lemma problem?_eq_none_of_defectForInsert? {g : Group} {path : Path}
    (h : g.defectForInsert? path = none) : ∀ c ∈ g.leaves, c.problem? = none :=
  Node.problem?_eq_none_of_defectAt? (.group g) h

/-- Only the root can be reported as an empty group, if no group below it is empty. -/
theorem eq_nil_of_defect?_eq_emptyGroup {g : Group} {path : Path} (h : g.FilledBelow)
    (hdefect : g.defect? = some ⟨path, .emptyGroup⟩) : path = [] := by
  obtain ⟨conjunction, children⟩ := g
  rw [defect?, Node.defectAt?] at hdefect
  split_ifs at hdefect
  · exact (Defect.mk.inj (Option.some.inj hdefect)).1.symm
  · obtain ⟨child, hchild, _, hfound⟩ := Node.exists_defectAt?_of_defectAmong? hdefect
    exact absurd rfl ((h child hchild).problem_ne_emptyGroup hfound)

end Group

end RecordFilter
