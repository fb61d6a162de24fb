import RecordFilter.Proofs.Tree.Path
import RecordFilter.Tree.Edit

/-!
# When a tree has no defect

The search for a defect follows paths, but whether it finds one does not depend on them:
`Node.Complete` says that every group has a child and every condition is complete, and a search
that excuses no group of a node finds nothing just when the node is complete
(`defectAt?_eq_none_iff_complete`).

A search that excuses the group at a path goes down that path, and beside it everything has to be
complete.  So the excuse can move from a group into an empty group that is inserted there
(`defectForInsert?_insertChild`).
-/

namespace RecordFilter

namespace Node

/-- Every group of a node has a child, and no condition has a problem. -/
inductive Complete : Node → Prop
  | condition {c : Condition} (h : c.problem? = none) : Complete (.condition c)
  | group {conjunction : Conjunction} {children : List Node} (hne : children ≠ [])
      (h : ∀ child ∈ children, Complete child) : Complete (.group ⟨conjunction, children⟩)

/-- A condition is complete if it has no problem. -/
lemma complete_condition_iff {c : Condition} :
    Complete (.condition c) ↔ c.problem? = none := by
  constructor
  · rintro (h | _)
    exact h
  · exact .condition

/-- A group is complete if it has children and they are complete. -/
lemma complete_group_iff {conjunction : Conjunction} {children : List Node} :
    Complete (.group ⟨conjunction, children⟩) ↔
      children ≠ [] ∧ ∀ child ∈ children, child.Complete := by
  constructor
  · rintro (_ | ⟨hne, h⟩)
    exact ⟨hne, h⟩
  · rintro ⟨hne, h⟩
    exact .group hne h

/-- The conditions of a complete node have no problem. -/
lemma Complete.problem?_eq_none {node : Node} (h : node.Complete) :
    ∀ c ∈ node.leaves, c.problem? = none := by
  induction h with
  | condition hc =>
    intro c hmem
    rw [leaves_condition, List.mem_singleton] at hmem
    exact hmem ▸ hc
  | group hne hchildren ih =>
    intro c hmem
    rw [leaves_group, List.mem_flatMap] at hmem
    obtain ⟨child, hchild, hc⟩ := hmem
    exact ih child hchild c hc

/-! ### The search among children -/

/-- No defect is found among some nodes if none is found at any of them. -/
lemma defectAmong?_eq_none_iff {exempt : Option Path} {path : Path} {nodes : List Node} :
    ∀ {index : Nat}, defectAmong? exempt path index nodes = none ↔
      ∀ (j : Nat) (node : Node), nodes[j]? = some node →
        node.defectAt? exempt (path ++ [index + j]) = none := by
  induction nodes with
  | nil => simp [defectAmong?]
  | cons node rest ih =>
    intro index
    rw [defectAmong?]
    constructor
    · intro h j other hother
      cases hnode : node.defectAt? exempt (path ++ [index]) with
      | some defect => simp [hnode] at h
      | none =>
        simp only [hnode] at h
        cases j with
        | zero =>
          obtain rfl := Option.some.inj hother
          exact hnode
        | succ j =>
          have hrest := ih.1 h j other hother
          rwa [Nat.add_assoc, Nat.add_comm 1 j] at hrest
    · intro h
      have hnode : node.defectAt? exempt (path ++ [index]) = none := h 0 node rfl
      simp only [hnode]
      refine ih.2 fun j other hother => ?_
      have hrest := h (j + 1) other hother
      rwa [Nat.add_comm j 1, ← Nat.add_assoc] at hrest

/-- No defect is found at a group if it has children or is excused, and none is found at the
children. -/
lemma defectAt?_group_eq_none_iff {exempt : Option Path} {path : Path}
    {conjunction : Conjunction} {children : List Node} :
    defectAt? exempt path (.group ⟨conjunction, children⟩) = none ↔
      (children = [] → exempt = some path) ∧
        ∀ (j : Nat) (child : Node), children[j]? = some child →
          child.defectAt? exempt (path ++ [j]) = none := by
  rw [defectAt?]
  split_ifs with hempty
  · simp only [Bool.and_eq_true, List.isEmpty_iff, bne_iff_ne] at hempty
    simp [hempty]
  · rw [defectAmong?_eq_none_iff]
    simp only [Bool.and_eq_true, List.isEmpty_iff, bne_iff_ne, not_and, not_not] at hempty
    simp only [Nat.zero_add]
    exact ⟨fun h => ⟨hempty, h⟩, fun h => h.2⟩

/-- Where no group of a node is excused, no defect is found just when the node is complete. -/
lemma defectAt?_eq_none_iff_complete {exempt : Option Path} (node : Node) :
    ∀ {path : Path}, (∀ excused, exempt = some excused → ¬path <+: excused) →
      (node.defectAt? exempt path = none ↔ node.Complete) := by
  induction node using Node.induction with
  | condition c =>
    intro path _
    rw [defectAt?, complete_condition_iff, Option.map_eq_none_iff]
  | group conjunction children ih =>
    intro path hfree
    have hchild : ∀ j, ∀ excused, exempt = some excused → ¬path ++ [j] <+: excused :=
      fun j excused heq hprefix =>
        hfree excused heq ((List.prefix_append path [j]).trans hprefix)
    have hnot : exempt ≠ some path := fun heq => hfree path heq (List.prefix_refl path)
    rw [defectAt?_group_eq_none_iff, complete_group_iff]
    constructor
    · rintro ⟨hne, hdefect⟩
      refine ⟨fun hnil => hnot (hne hnil), fun child hmem => ?_⟩
      obtain ⟨j, hj⟩ := List.mem_iff_getElem?.1 hmem
      exact (ih child hmem (hchild j)).1 (hdefect j child hj)
    · rintro ⟨hne, hcomplete⟩
      refine ⟨fun hnil => absurd hnil hne, fun j child hj => ?_⟩
      have hmem := List.mem_of_getElem? hj
      exact (ih child hmem (hchild j)).2 (hcomplete child hmem)

/-- Beside the way to the group that is excused, no defect is found just at complete nodes. -/
lemma defectAt?_beside_eq_none_iff {path rest : Path} {i j : Nat} (hne : j ≠ i) (node : Node) :
    node.defectAt? (some (path ++ i :: rest)) (path ++ [j]) = none ↔ node.Complete := by
  refine defectAt?_eq_none_iff_complete node ?_
  rintro excused heq hprefix
  obtain rfl := Option.some.inj heq
  rw [List.prefix_append_right_inj, List.cons_prefix_cons] at hprefix
  exact hne hprefix.1

/-- Below the group that is excused, no defect is found just at complete nodes. -/
lemma defectAt?_below_eq_none_iff {path : Path} {j : Nat} (node : Node) :
    node.defectAt? (some path) (path ++ [j]) = none ↔ node.Complete := by
  refine defectAt?_eq_none_iff_complete node ?_
  rintro excused heq hprefix
  obtain rfl := Option.some.inj heq
  have hlength := hprefix.length_le
  rw [List.length_append, List.length_singleton] at hlength
  omega

end Node

namespace Group

/-- A tree has no defect just when it is complete. -/
theorem defect?_eq_none_iff {g : Group} : g.defect? = none ↔ (Node.group g).Complete :=
  Node.defectAt?_eq_none_iff_complete (.group g) (by simp)

/-! ### Inserting an empty group -/

/-- An empty group that is inserted into the excused group is excused in its place. -/
lemma defectAt?_insertChild {g : Group} {path : Path} {index : Nat} (hindex : index ≤ g.size)
    (conjunction : Conjunction) (h : (Node.group g).defectAt? (some path) path = none) :
    (Node.group (g.insertChild index (.group ⟨conjunction, []⟩))).defectAt?
      (some (path ++ [index])) path = none := by
  obtain ⟨joined, children⟩ := g
  change index ≤ children.length at hindex
  have hcomplete := (Node.defectAt?_group_eq_none_iff.1 h).2
  refine Node.defectAt?_group_eq_none_iff.2 ⟨fun hnil => ?_, fun j child hchild => ?_⟩
  · have hlength := congrArg List.length hnil
    rw [List.length_insertIdx_of_le_length hindex] at hlength
    exact absurd hlength (Nat.succ_ne_zero _)
  · by_cases hj : j = index
    · subst hj
      have hself : (children.insertIdx j (.group ⟨conjunction, []⟩))[j]? =
          some (.group ⟨conjunction, []⟩) := by
        rw [List.getElem?_insertIdx, if_neg (Nat.lt_irrefl j), if_pos rfl, if_pos hindex]
      obtain rfl := Option.some.inj (hself.symm.trans hchild)
      exact Node.defectAt?_group_eq_none_iff.2 ⟨fun _ => rfl, fun _ _ hnone => by simp at hnone⟩
    · -- the other children have moved at most, and they are complete
      have hmem : child ∈ children := by
        rw [List.getElem?_insertIdx, if_neg hj] at hchild
        split_ifs at hchild with hlt
        · exact List.mem_of_getElem? hchild
        · exact List.mem_of_getElem? hchild
      obtain ⟨k, hk⟩ := List.mem_iff_getElem?.1 hmem
      have hold := (Node.defectAt?_below_eq_none_iff child).1 (hcomplete k child hk)
      exact (Node.defectAt?_beside_eq_none_iff hj child).2 hold

/-- An empty group that is inserted at the end of a path is excused in place of the group that it
is inserted into. -/
lemma defectAt?_modifyGroup_insertChild {target : Group} {index : Nat}
    (hindex : index ≤ target.size) (conjunction : Conjunction) {path : Path} :
    ∀ (g : Group) (base : Path), g.groupAt? path = some target →
      (Node.group g).defectAt? (some (base ++ path)) base = none →
        (Node.group (g.modifyGroup
          (fun group => group.insertChild index (.group ⟨conjunction, []⟩)) path)).defectAt?
            (some (base ++ path ++ [index])) base = none := by
  induction path with
  | nil =>
    intro g base htarget h
    obtain rfl := Option.some.inj htarget
    rw [List.append_nil] at h ⊢
    exact defectAt?_insertChild hindex conjunction h
  | cons i rest ih =>
    intro g base htarget h
    obtain ⟨child, hchild, hrest⟩ := groupAt?_cons_eq_some_iff.1 htarget
    obtain ⟨joined, children⟩ := g
    rw [modifyGroup_cons hchild]
    obtain ⟨-, hdefect⟩ := Node.defectAt?_group_eq_none_iff.1 h
    have hlt : i < children.length := (List.getElem?_eq_some_iff.1 hchild).1
    refine Node.defectAt?_group_eq_none_iff.2 ⟨fun hnil => ?_, fun j other hother => ?_⟩
    · obtain rfl : children = [] := (List.set_eq_nil_iff _ _).1 hnil
      exact absurd hlt (Nat.not_lt_zero i)
    · by_cases hj : j = i
      · subst hj
        rw [List.getElem?_set_self hlt] at hother
        obtain rfl := Option.some.inj hother
        have hinner := ih child (base ++ [j]) hrest (by
          simpa using hdefect j (.group child) hchild)
        simpa using hinner
      · rw [List.getElem?_set_ne (Ne.symm hj)] at hother
        have hcomplete := (Node.defectAt?_beside_eq_none_iff hj other).1 (hdefect j other hother)
        rw [List.append_assoc, List.cons_append]
        exact (Node.defectAt?_beside_eq_none_iff hj other).2 hcomplete

/-- After an empty group has been inserted, something can be inserted into it. -/
theorem defectForInsert?_insertChild {g target : Group} {path : Path} {index : Nat}
    (htarget : g.groupAt? path = some target) (hindex : index ≤ target.size)
    (conjunction : Conjunction) (h : g.defectForInsert? path = none) :
    (g.modifyGroup (fun group => group.insertChild index (.group ⟨conjunction, []⟩))
      path).defectForInsert? (path ++ [index]) = none :=
  defectAt?_modifyGroup_insertChild hindex conjunction g [] htarget h

end Group

end RecordFilter
