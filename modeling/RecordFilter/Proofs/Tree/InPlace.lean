import RecordFilter.Proofs.Tree.Answered
import RecordFilter.Proofs.Tree.Walk

/-!
# Changes in place

A change in place puts another item where one has been: a condition for a condition, or a group with
the same children.  `Group.AgreesOff` says what two trees have in common that differ at one path:
the paths lead to items of the same kind, and all that is neither at the path nor above it is the
same.

Where two nodes agree off a path, so do two groups that have them as the child at one index
(`Node.AgreesOff.child`).  So a change has to be looked at in the group that it is made in, and the
tree around it follows by induction on the way down to it (`Node.AgreesOff.modifyGroup`).
-/

namespace RecordFilter

namespace Node

/-- Two nodes agree off a path below them: the same paths lead to conditions and to groups, and what
is neither at the path nor above it is the same.  A group above the path has the same conjunction
and the same other children. -/
structure AgreesOff (path : Path) (before after : Node) : Prop where
  kinds : ∀ other, (after.below? other).map isCondition = (before.below? other).map isCondition
  beside : ∀ other, ¬other <+: path → after.below? other = before.below? other
  above : ∀ way i rest, way ++ i :: rest = path → ∃ old new,
    before.below? way = some (.group old) ∧ after.below? way = some (.group new) ∧
      new.conjunction = old.conjunction ∧ ∀ j, j ≠ i → new.children[j]? = old.children[j]?

/-- A node below a group is reached through a child. -/
lemma below?_group_cons (g : Group) (i : Nat) (rest : Path) :
    (Node.group g).below? (i :: rest) = g.children[i]?.bind (below? rest) := rfl

/-- Two conditions agree below them, since nothing is there. -/
lemma agreesOff_condition (old new : Condition) :
    AgreesOff [] (.condition old) (.condition new) where
  kinds := fun other => by cases other <;> rfl
  beside := by
    intro other hother
    cases other with
    | nil => exact absurd List.nil_prefix hother
    | cons i rest => rfl
  above := fun way i rest h => by simp at h

/-- A group agrees below it with the group that has another conjunction. -/
lemma agreesOff_withConjunction (g : Group) (conjunction : Conjunction) :
    AgreesOff [] (.group g) (.group (g.withConjunction conjunction)) where
  kinds := fun other => by cases other <;> rfl
  beside := by
    intro other hother
    cases other with
    | nil => exact absurd List.nil_prefix hother
    | cons i rest => rfl
  above := fun way i rest h => by simp at h

/-- Two groups agree that differ in one child, if these children agree. -/
theorem AgreesOff.child {g : Group} {i : Nat} {rest : Path} {old new : Node}
    (hold : g.children[i]? = some old) (h : old.AgreesOff rest new) :
    AgreesOff (i :: rest) (.group g) (.group (g.setChild i new)) := by
  have hlt : i < g.children.length := (List.getElem?_eq_some_iff.1 hold).1
  have hnew : (g.setChild i new).children[i]? = some new := List.getElem?_set_self hlt
  have hother : ∀ j, j ≠ i → (g.setChild i new).children[j]? = g.children[j]? :=
    fun j hj => List.getElem?_set_ne (Ne.symm hj)
  refine ⟨fun other => ?_, fun other hprefix => ?_, fun way j more hway => ?_⟩
  · cases other with
    | nil => rfl
    | cons j more =>
      rw [below?_group_cons, below?_group_cons]
      by_cases hj : j = i
      · subst hj
        rw [hnew, hold]
        exact h.kinds more
      · rw [hother j hj]
  · cases other with
    | nil => exact absurd List.nil_prefix hprefix
    | cons j more =>
      rw [below?_group_cons, below?_group_cons]
      by_cases hj : j = i
      · subst hj
        rw [hnew, hold]
        exact h.beside more fun hmore => hprefix (List.cons_prefix_cons.2 ⟨rfl, hmore⟩)
      · rw [hother j hj]
  · cases way with
    | nil =>
      -- the group that the child is in
      obtain ⟨rfl, rfl⟩ := List.cons.inj hway
      exact ⟨g, g.setChild j new, rfl, rfl, rfl, hother⟩
    | cons k way =>
      obtain ⟨rfl, hrest⟩ := List.cons.inj hway
      rw [below?_group_cons, below?_group_cons, hnew, hold]
      exact h.above way j more hrest

/-- Two trees agree that differ in the group at a path, if these groups agree. -/
theorem AgreesOff.modifyGroup {f : Group → Group} {target : Group} {path more : Path}
    (h : AgreesOff more (.group target) (.group (f target))) :
    ∀ {g : Group}, g.groupAt? path = some target →
      AgreesOff (path ++ more) (.group g) (.group (Group.modifyGroup f path g)) := by
  induction path with
  | nil =>
    intro g hg
    obtain rfl := Option.some.inj hg
    exact h
  | cons i rest ih =>
    intro g hg
    obtain ⟨child, hchild, hrest⟩ := Group.groupAt?_cons_eq_some_iff.1 hg
    rw [Group.modifyGroup_cons hchild, List.cons_append]
    exact AgreesOff.child hchild (ih hrest)

end Node

namespace Group

/-- Two trees agree off a path. -/
structure AgreesOff (path : Path) (before after : Group) : Prop where
  /-- There are nodes at the same paths. -/
  nodes : ∀ other, after.nodeAt? other ≠ none ↔ before.nodeAt? other ≠ none
  /-- There are groups at the same paths. -/
  groups : ∀ other, after.groupAt? other ≠ none ↔ before.groupAt? other ≠ none
  /-- A node that is neither at the path nor above it is the same. -/
  beside : ∀ other, ¬other <+: path → after.nodeAt? other = before.nodeAt? other
  /-- A group above the path has the same conjunction and the same other children. -/
  above : ∀ way i rest, way ++ i :: rest = path → ∃ old new,
    before.groupAt? way = some old ∧ after.groupAt? way = some new ∧
      new.conjunction = old.conjunction ∧ ∀ j, j ≠ i → new.children[j]? = old.children[j]?

/-- There is a group at a path just if what stands there is no condition. -/
lemma groupAt?_ne_none_iff {g : Group} {path : Path} :
    g.groupAt? path ≠ none ↔ ((Node.group g).below? path).map Node.isCondition = some false := by
  rw [groupAt?_eq_below?]
  cases (Node.group g).below? path with
  | none => simp
  | some node => cases node <;> simp [Node.group?, Node.isCondition]

/-- Two trees agree off a path if they do as nodes. -/
lemma agreesOff_of_node {before after : Group} {path : Path}
    (h : Node.AgreesOff path (.group before) (.group after)) : before.AgreesOff path after where
  nodes := by
    intro other
    by_cases hother : other = []
    · rw [hother, nodeAt?, nodeAt?]
    · rw [nodeAt?_eq_below? _ hother, nodeAt?_eq_below? _ hother, Ne, Ne,
        ← Option.map_eq_none_iff (f := Node.isCondition), h.kinds, Option.map_eq_none_iff]
  groups := by
    intro other
    rw [groupAt?_ne_none_iff, groupAt?_ne_none_iff, h.kinds]
  beside := by
    intro other hother
    have hne : other ≠ [] := by
      rintro rfl
      exact hother List.nil_prefix
    rw [nodeAt?_eq_below? _ hne, nodeAt?_eq_below? _ hne, h.beside other hother]
  above := by
    intro way i rest hway
    obtain ⟨old, new, hold, hnew, hsame⟩ := h.above way i rest hway
    refine ⟨old, new, ?_, ?_, hsame⟩
    · rw [groupAt?_eq_below?, hold, Option.bind_some, Node.group?]
    · rw [groupAt?_eq_below?, hnew, Option.bind_some, Node.group?]

/-- The condition that is put at the path of a condition is there. -/
lemma conditionAt?_setNode {g : Group} {path : Path} {old : Condition}
    (hold : g.conditionAt? path = some old) (new : Condition) :
    (g.setNode path (.condition new)).conditionAt? path = some new := by
  obtain ⟨above, i, group, rfl, hgroup, hchild⟩ := conditionAt?_eq_some_iff.1 hold
  refine conditionAt?_eq_some_iff.2 ⟨above, i, group.setChild i (.condition new), rfl, ?_, ?_⟩
  · rw [setNode_concat]
    exact groupAt?_modifyGroup hgroup
  · exact List.getElem?_set_self (List.getElem?_eq_some_iff.1 hchild).1

/-- To put a condition at the path of a condition changes nothing beside it. -/
theorem agreesOff_setNode {g : Group} {path : Path} {old : Condition}
    (hold : g.conditionAt? path = some old) (new : Condition) :
    g.AgreesOff path (g.setNode path (.condition new)) := by
  obtain ⟨above, i, group, rfl, hgroup, hchild⟩ := conditionAt?_eq_some_iff.1 hold
  rw [setNode_concat]
  have hchildren := Node.AgreesOff.child hchild (Node.agreesOff_condition old new)
  exact agreesOff_of_node (hchildren.modifyGroup hgroup)

/-- To join a group by another conjunction changes nothing beside the conjunction. -/
theorem agreesOff_modifyGroup_withConjunction {g target : Group} {path : Path}
    (htarget : g.groupAt? path = some target) (conjunction : Conjunction) :
    g.AgreesOff path (g.modifyGroup (fun group => group.withConjunction conjunction) path) := by
  have hnode := (Node.agreesOff_withConjunction target conjunction).modifyGroup
    (f := fun group => group.withConjunction conjunction) htarget
  rw [List.append_nil] at hnode
  exact agreesOff_of_node hnode

end Group

namespace TreeEdit

/-- A condition is replaced if there is one. -/
lemma isAnswered_replaceCondition_iff {path : Path} {c : Condition} {tree : Group} :
    IsAnswered (replaceCondition path c) tree ↔ tree.conditionAt? path ≠ none := by
  rw [Option.ne_none_iff_exists']
  constructor
  · rintro ⟨_, after, h⟩
    obtain ⟨old, hold, -⟩ := run_replaceCondition_eq_ok_iff.1 h
    exact ⟨old, hold⟩
  · rintro ⟨old, hold⟩
    exact ⟨(), _, run_replaceCondition_eq_ok_iff.2 ⟨old, hold, rfl⟩⟩

/-- A conjunction is set if there is a group. -/
lemma isAnswered_setConjunction_iff {path : Path} {conjunction : Conjunction} {tree : Group} :
    IsAnswered (setConjunction path conjunction) tree ↔ tree.groupAt? path ≠ none := by
  rw [Option.ne_none_iff_exists']
  constructor
  · rintro ⟨_, after, h⟩
    obtain ⟨target, htarget, -⟩ := run_setConjunction_eq_ok_iff.1 h
    exact ⟨target, htarget⟩
  · rintro ⟨target, htarget⟩
    exact ⟨(), _, run_setConjunction_eq_ok_iff.2 ⟨target, htarget, rfl⟩⟩

end TreeEdit

end RecordFilter
