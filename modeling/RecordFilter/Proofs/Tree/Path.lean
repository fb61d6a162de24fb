import Mathlib.Data.List.Basic
import RecordFilter.Proofs.Tree.Basic

/-!
# Groups at paths

A change of the group at a path changes the groups on the way to it, and nothing else there: the
group at a part of the path is the old one with the change made further down
(`groupAt?_modifyGroup_append`).  A node is a child of the group at the path to it, so that what is
known of groups holds of nodes (`nodeAt?_concat`, `setNode_concat`).
-/

namespace RecordFilter

namespace Node

/-- The node of a condition is the only one that has it. -/
lemma condition?_eq_some_iff {node : Node} {c : Condition} :
    node.condition? = some c ↔ node = .condition c := by
  cases node with
  | condition other => simp [condition?]
  | group inner => simp [condition?]

/-- The node of a group is the only one that has it. -/
lemma group?_eq_some_iff {node : Node} {inner : Group} :
    node.group? = some inner ↔ node = .group inner := by
  cases node with
  | condition c => simp [group?]
  | group other => simp [group?]

end Node

namespace Group

/-- A group below the root is reached through a child that is a group. -/
lemma groupAt?_cons_eq_some_iff {g inner : Group} {i : Nat} {rest : Path} :
    g.groupAt? (i :: rest) = some inner ↔
      ∃ child, g.children[i]? = some (.group child) ∧ child.groupAt? rest = some inner := by
  rw [groupAt?]
  cases hchild : g.children[i]? with
  | none => simp
  | some node =>
    cases node with
    | condition c => simp
    | group child => simp

/-- The group at a path that goes on is the group at the rest of it, seen from the group on the
way. -/
lemma groupAt?_append_eq_some_iff {path more : Path} {inner : Group} :
    ∀ {g : Group}, g.groupAt? (path ++ more) = some inner ↔
      ∃ between, g.groupAt? path = some between ∧ between.groupAt? more = some inner := by
  induction path with
  | nil =>
    intro g
    simp [groupAt?]
  | cons i rest ih =>
    intro g
    rw [List.cons_append, groupAt?_cons_eq_some_iff]
    constructor
    · rintro ⟨child, hchild, hinner⟩
      obtain ⟨between, hbetween, hmore⟩ := ih.1 hinner
      exact ⟨between, groupAt?_cons_eq_some_iff.2 ⟨child, hchild, hbetween⟩, hmore⟩
    · rintro ⟨between, hbetween, hmore⟩
      obtain ⟨child, hchild, hrest⟩ := groupAt?_cons_eq_some_iff.1 hbetween
      exact ⟨child, hchild, ih.2 ⟨between, hrest, hmore⟩⟩

/-- A group is changed through a child that is a group. -/
lemma modifyGroup_cons {f : Group → Group} {g child : Group} {i : Nat} {rest : Path}
    (hchild : g.children[i]? = some (.group child)) :
    modifyGroup f (i :: rest) g =
      ⟨g.conjunction, g.children.set i (.group (modifyGroup f rest child))⟩ := by
  rw [modifyGroup, hchild]

/-- The group on the way to a change is the old one with the change made further down. -/
theorem groupAt?_modifyGroup_append {f : Group → Group} {path more : Path} {between : Group} :
    ∀ {g : Group}, g.groupAt? path = some between →
      (modifyGroup f (path ++ more) g).groupAt? path = some (modifyGroup f more between) := by
  induction path with
  | nil =>
    intro g hg
    obtain rfl := Option.some.inj hg
    rfl
  | cons i rest ih =>
    intro g hg
    obtain ⟨child, hchild, hrest⟩ := groupAt?_cons_eq_some_iff.1 hg
    have hlt : i < g.children.length := (List.getElem?_eq_some_iff.1 hchild).1
    rw [List.cons_append, modifyGroup_cons hchild, groupAt?_cons_eq_some_iff]
    exact ⟨_, List.getElem?_set_self hlt, ih hrest⟩

/-- The group at the path of a change is the changed one. -/
lemma groupAt?_modifyGroup {f : Group → Group} {path : Path} {g inner : Group}
    (h : g.groupAt? path = some inner) :
    (modifyGroup f path g).groupAt? path = some (f inner) := by
  have hchanged : (modifyGroup f (path ++ []) g).groupAt? path = some (modifyGroup f [] inner) :=
    groupAt?_modifyGroup_append h
  rwa [List.append_nil] at hchanged

/-- A change of a child leaves a group with as many children. -/
lemma size_modifyGroup_singleton {f : Group → Group} {g child : Group} {i : Nat}
    (hchild : g.children[i]? = some (.group child)) : (modifyGroup f [i] g).size = g.size := by
  rw [modifyGroup_cons hchild, size, List.length_set]
  rfl

/-! ### Changes made of changes -/

/-- Where no group stands below a group, there is nothing to change. -/
lemma modifyGroup_cons_of_group?_eq_none {f : Group → Group} {g : Group} {i : Nat} {rest : Path}
    (h : g.children[i]?.bind Node.group? = none) : modifyGroup f (i :: rest) g = g := by
  rw [modifyGroup]
  cases hchild : g.children[i]? with
  | none => rfl
  | some node =>
    cases node with
    | condition c => rfl
    | group child => simp [hchild, Node.group?] at h

/-- There is a group at an index, or there is none. -/
lemma exists_group_or_group?_eq_none (g : Group) (i : Nat) :
    (∃ child, g.children[i]? = some (.group child)) ∨
      g.children[i]?.bind Node.group? = none := by
  cases hchild : g.children[i]? with
  | none => exact .inr rfl
  | some node =>
    cases node with
    | condition c => exact .inr rfl
    | group child => exact .inl ⟨child, rfl⟩

/-- A change at the end of a path is a change at the rest of it, made in the group on the way. -/
lemma modifyGroup_append {f : Group → Group} {path more : Path} :
    ∀ (g : Group), modifyGroup f (path ++ more) g = modifyGroup (modifyGroup f more) path g := by
  induction path with
  | nil => exact fun g => rfl
  | cons i rest ih =>
    intro g
    rcases exists_group_or_group?_eq_none g i with ⟨child, hchild⟩ | hnone
    · rw [List.cons_append, modifyGroup_cons hchild, modifyGroup_cons hchild, ih child]
    · rw [List.cons_append, modifyGroup_cons_of_group?_eq_none hnone,
        modifyGroup_cons_of_group?_eq_none hnone]

/-- Two changes of one group are one change. -/
lemma modifyGroup_modifyGroup {f h : Group → Group} {path : Path} :
    ∀ (g : Group),
      modifyGroup f path (modifyGroup h path g) =
        modifyGroup (fun group => f (h group)) path g := by
  induction path with
  | nil => exact fun g => rfl
  | cons i rest ih =>
    intro g
    rcases exists_group_or_group?_eq_none g i with ⟨child, hchild⟩ | hnone
    · have hlt : i < g.children.length := (List.getElem?_eq_some_iff.1 hchild).1
      rw [modifyGroup_cons hchild, modifyGroup_cons (List.getElem?_set_self hlt),
        modifyGroup_cons hchild, ih child, List.set_set]
    · simp only [modifyGroup_cons_of_group?_eq_none hnone]

/-- A change depends on what it does to the group at the path only. -/
lemma modifyGroup_congr {f h : Group → Group} {path : Path} {target : Group}
    (hsame : f target = h target) :
    ∀ {g : Group}, g.groupAt? path = some target → modifyGroup f path g = modifyGroup h path g := by
  induction path with
  | nil =>
    intro g hg
    obtain rfl := Option.some.inj hg
    exact hsame
  | cons i rest ih =>
    intro g hg
    obtain ⟨child, hchild, hrest⟩ := groupAt?_cons_eq_some_iff.1 hg
    rw [modifyGroup_cons hchild, modifyGroup_cons hchild, ih hrest]

/-! ### Nodes at paths -/

/-- The group with another child at an index. -/
def setChild (g : Group) (index : Nat) (node : Node) : Group :=
  { g with children := g.children.set index node }

/-- A node below a child is reached through the child, if it is a group. -/
lemma nodeAt?_cons {g : Group} {i : Nat} {rest : Path} (h : rest ≠ []) :
    g.nodeAt? (i :: rest) =
      (g.children[i]?.bind Node.group?).bind fun child => child.nodeAt? rest := by
  obtain ⟨j, more, rfl⟩ := List.exists_cons_of_ne_nil h
  rw [nodeAt?]
  · rcases exists_group_or_group?_eq_none g i with ⟨child, hchild⟩ | hnone
    · simp [hchild, Node.group?]
    · rw [hnone]
      cases hchild : g.children[i]? with
      | none => rfl
      | some node =>
        cases node with
        | condition c => rfl
        | group child => simp [hchild, Node.group?] at hnone
  · simp

/-- The node at a path is a child of the group at the path to it. -/
lemma nodeAt?_concat {above : Path} {i : Nat} :
    ∀ (g : Group),
      g.nodeAt? (above ++ [i]) = (g.groupAt? above).bind fun group => group.children[i]? := by
  induction above with
  | nil => exact fun g => rfl
  | cons j rest ih =>
    intro g
    rw [List.cons_append, nodeAt?_cons (by simp)]
    rcases exists_group_or_group?_eq_none g j with ⟨child, hchild⟩ | hnone
    · rw [groupAt?, hchild]
      exact ih child
    · have hgroup : g.groupAt? (j :: rest) = none := by
        rw [Option.eq_none_iff_forall_ne_some]
        intro inner hinner
        obtain ⟨child, hchild, -⟩ := groupAt?_cons_eq_some_iff.1 hinner
        simp [hchild, Node.group?] at hnone
      rw [hnone, hgroup]
      rfl

/-- To set a node is to set a child of the group at the path to it. -/
lemma setNode_concat {above : Path} {i : Nat} {node : Node} :
    ∀ (g : Group),
      g.setNode (above ++ [i]) node = modifyGroup (fun group => group.setChild i node) above g := by
  induction above with
  | nil =>
    intro g
    rw [List.nil_append, setNode, modifyNode, modifyGroup, setChild, List.modify_eq_set]
  | cons j rest ih =>
    intro g
    have hsome : rest ++ [i] ≠ [] := by simp
    obtain ⟨k, more, hmore⟩ := List.exists_cons_of_ne_nil hsome
    rw [List.cons_append, setNode, hmore, modifyNode]
    · rw [← hmore]
      rcases exists_group_or_group?_eq_none g j with ⟨child, hchild⟩ | hnone
      · rw [modifyGroup_cons hchild, ← ih child, hchild]
        rfl
      · rw [modifyGroup_cons_of_group?_eq_none hnone]
        cases hchild : g.children[j]? with
        | none => rfl
        | some node =>
          cases node with
          | condition c => rfl
          | group child => simp [hchild, Node.group?] at hnone
    · simp

/-- A condition at a path is a child of the group at the path to it. -/
lemma conditionAt?_eq_some_iff {g : Group} {path : Path} {c : Condition} :
    g.conditionAt? path = some c ↔
      ∃ above i group, path = above ++ [i] ∧ g.groupAt? above = some group ∧
        group.children[i]? = some (.condition c) := by
  rcases List.eq_nil_or_concat' path with rfl | ⟨above, i, rfl⟩
  · simp [conditionAt?, nodeAt?]
  · rw [conditionAt?, nodeAt?_concat, Option.bind_eq_some_iff]
    simp only [Node.condition?_eq_some_iff, exists_eq_right, Option.bind_eq_some_iff]
    constructor
    · rintro ⟨group, hgroup, hchild⟩
      exact ⟨above, i, group, rfl, hgroup, hchild⟩
    · rintro ⟨above', i', group, hpath, hgroup, hchild⟩
      obtain ⟨rfl, hlast⟩ := List.append_inj' hpath rfl
      obtain rfl := (List.cons.inj hlast).1
      exact ⟨group, hgroup, hchild⟩

end Group

end RecordFilter
