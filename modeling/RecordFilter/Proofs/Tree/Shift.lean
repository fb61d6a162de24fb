import Mathlib.Data.List.InsertIdx
import RecordFilter.Proofs.Tree.Removal
import RecordFilter.Proofs.Tree.Walk

/-!
# Where the nodes stand when there is one more

A tree with one node more is compared with the tree without it.  Whatever stands at or behind the
place of the new node moves on by one, on the level of that node alone, and `Path.makeRoom` says
where a path leads then.  `Group.Gains` says that a tree has one node more than another: the node is
at its place, all else is where it has moved, and the conjunctions are the same.

An insertion makes such a tree (`gains_insertChild`), and so a removal leaves a tree from which the
tree before is made in this way (`gains_of_eraseChild`).
-/

namespace RecordFilter

/-- Where the node at a path stands after a node has been put before the child at an index of the
group at another path. -/
def Path.makeRoom : (above : Path) → (index : Nat) → Path → Path
  | _, _, [] => []
  | [], index, i :: rest => (if index ≤ i then i + 1 else i) :: rest
  | a :: above, index, i :: rest => i :: (if i = a then makeRoom above index rest else rest)

namespace Path

/-- The root stays where it is. -/
@[simp] lemma makeRoom_nil (above : Path) (index : Nat) : makeRoom above index [] = [] := by
  cases above <;> rfl

/-- What is below the root stays below it. -/
lemma makeRoom_eq_nil_iff {above path : Path} {index : Nat} :
    makeRoom above index path = [] ↔ path = [] := by
  cases path with
  | nil => simp
  | cons i rest =>
    refine iff_of_false ?_ (List.cons_ne_nil i rest)
    cases above with
    | nil => exact List.cons_ne_nil _ _
    | cons a above => exact List.cons_ne_nil _ _

/-- A group on the way to the new node stays where it is. -/
lemma makeRoom_of_prefix {above path : Path} (index : Nat) (h : path <+: above) :
    makeRoom above index path = path := by
  induction above generalizing path with
  | nil => rw [List.prefix_nil.1 h, makeRoom_nil]
  | cons a above ih =>
    cases path with
    | nil => rfl
    | cons i rest =>
      obtain ⟨rfl, hrest⟩ := List.cons_prefix_cons.1 h
      rw [makeRoom, if_pos rfl, ih hrest]

/-- A path that does not lead to the new node or below it is where some path has moved. -/
lemma exists_makeRoom_eq {above path : Path} {index : Nat} (h : ¬above ++ [index] <+: path) :
    ∃ old, makeRoom above index old = path := by
  induction above generalizing path with
  | nil =>
    cases path with
    | nil => exact ⟨[], rfl⟩
    | cons i rest =>
      have hne : i ≠ index := by
        rintro rfl
        exact h (List.cons_prefix_cons.2 ⟨rfl, List.nil_prefix⟩)
      rcases Nat.lt_or_gt_of_ne hne with hlt | hgt
      · exact ⟨i :: rest, by rw [makeRoom, if_neg (Nat.not_le.2 hlt)]⟩
      · refine ⟨(i - 1) :: rest, ?_⟩
        have hle : index ≤ i - 1 := by omega
        have hsucc : i - 1 + 1 = i := by omega
        rw [makeRoom, if_pos hle, hsucc]
  | cons a above ih =>
    cases path with
    | nil => exact ⟨[], rfl⟩
    | cons i rest =>
      by_cases hi : i = a
      · subst hi
        rw [List.cons_append, List.cons_prefix_cons, and_iff_right rfl] at h
        obtain ⟨old, rfl⟩ := ih h
        exact ⟨i :: old, by rw [makeRoom, if_pos rfl]⟩
      · exact ⟨i :: rest, by rw [makeRoom, if_neg hi]⟩

end Path

namespace Group

/-- A tree has one node more than another, before the child at an index of the group at a path. -/
structure Gains (small : Group) (above : Path) (index : Nat) (node : Node) (large : Group) :
    Prop where
  /-- The node is at its place. -/
  there : large.nodeAt? (above ++ [index]) = some node
  /-- Every other node is where it has moved; the groups on the way to the place, which have the
  node in them, are not compared as a whole. -/
  moved : ∀ path, ¬path <+: above →
    large.nodeAt? (Path.makeRoom above index path) = small.nodeAt? path
  /-- Every group has its conjunction, also those on the way to the place. -/
  conjunction : ∀ path,
    (large.groupAt? (Path.makeRoom above index path)).map Group.conjunction =
      (small.groupAt? path).map Group.conjunction
  /-- There is nothing else: what is not at the place or below it has moved there. -/
  nothing_else : ∀ path, large.nodeAt? path ≠ none → ¬above ++ [index] <+: path →
    ∃ old, Path.makeRoom above index old = path ∧ small.nodeAt? old ≠ none

/-! ### Insertion -/

/-- The items of a list after another has been put before one of them. -/
lemma getElem?_insertIdx_of_moved {α : Type*} (items : List α) (item : α) (index i : Nat) :
    (items.insertIdx index item)[if index ≤ i then i + 1 else i]? = items[i]? := by
  by_cases h : index ≤ i
  · rw [if_pos h, List.getElem?_insertIdx_of_gt (Nat.lt_succ_of_le h), Nat.succ_sub_one]
  · rw [if_neg h, List.getElem?_insertIdx_of_lt (Nat.not_le.1 h)]

/-- A change of a group that keeps its conjunction keeps all conjunctions. -/
lemma conjunction_modifyGroup {f : Group → Group} (hf : ∀ g, (f g).conjunction = g.conjunction)
    (path : Path) (g : Group) : (modifyGroup f path g).conjunction = g.conjunction := by
  cases path with
  | nil => exact hf g
  | cons i rest =>
    rcases exists_group_or_group?_eq_none g i with ⟨child, hchild⟩ | hnone
    · rw [modifyGroup_cons hchild]
    · rw [modifyGroup_cons_of_group?_eq_none hnone]

/-- Nodes that are reached through the same child are the same. -/
lemma nodeAt?_cons_congr {g h : Group} {i j : Nat} (hchild : g.children[i]? = h.children[j]?)
    (rest : Path) : g.nodeAt? (i :: rest) = h.nodeAt? (j :: rest) := by
  rw [nodeAt?_eq_below? g (List.cons_ne_nil i rest), nodeAt?_eq_below? h (List.cons_ne_nil j rest),
    Node.below?, Node.below?, Node.group?, Node.group?, Option.bind_some, Option.bind_some, hchild]

/-- An insertion moves every node that is not on the way to the place. -/
lemma nodeAt?_modifyGroup_insertChild {node : Node} {index : Nat} {above : Path} :
    ∀ {g target : Group} {path : Path}, g.groupAt? above = some target → ¬path <+: above →
      (modifyGroup (fun group => group.insertChild index node) above g).nodeAt?
        (Path.makeRoom above index path) = g.nodeAt? path := by
  induction above with
  | nil =>
    intro g target path _ hpath
    cases path with
    | nil => exact absurd (List.prefix_refl []) hpath
    | cons i rest =>
      rw [modifyGroup, Path.makeRoom]
      exact nodeAt?_cons_congr (getElem?_insertIdx_of_moved g.children node index i) rest
  | cons a above ih =>
    intro g target path htarget hpath
    obtain ⟨child, hchild, hrest⟩ := groupAt?_cons_eq_some_iff.1 htarget
    have hlt : a < g.children.length := (List.getElem?_eq_some_iff.1 hchild).1
    cases path with
    | nil => exact absurd List.nil_prefix hpath
    | cons i rest =>
      rw [modifyGroup_cons hchild, Path.makeRoom]
      by_cases hi : i = a
      · subst hi
        have hbelow : ¬rest <+: above := fun h => hpath (List.cons_prefix_cons.2 ⟨rfl, h⟩)
        have hne : rest ≠ [] := by
          rintro rfl
          exact hbelow List.nil_prefix
        rw [if_pos rfl, nodeAt?_cons hne, nodeAt?_cons (mt Path.makeRoom_eq_nil_iff.1 hne), hchild,
          List.getElem?_set_self hlt]
        exact ih hrest hbelow
      · rw [if_neg hi]
        exact nodeAt?_cons_congr (List.getElem?_set_ne (Ne.symm hi)) rest

/-- An insertion moves every group and keeps its conjunction. -/
lemma conjunction_groupAt?_modifyGroup_insertChild {node : Node} {index : Nat} {above : Path}
    {g target : Group} (htarget : g.groupAt? above = some target) (path : Path) :
    ((modifyGroup (fun group => group.insertChild index node) above g).groupAt?
        (Path.makeRoom above index path)).map Group.conjunction =
      (g.groupAt? path).map Group.conjunction := by
  by_cases hpath : path <+: above
  · -- a group on the way is changed below, or it is the one that the node is put into
    rw [Path.makeRoom_of_prefix index hpath]
    obtain ⟨more, rfl⟩ := hpath
    obtain ⟨between, hbetween, -⟩ := groupAt?_append_eq_some_iff.1 htarget
    rw [groupAt?_modifyGroup_append hbetween, hbetween, Option.map_some, Option.map_some]
    have hkeep : ∀ g : Group, (g.insertChild index node).conjunction = g.conjunction := fun _ => rfl
    rw [conjunction_modifyGroup hkeep]
  · have hne : path ≠ [] := by
      rintro rfl
      exact hpath List.nil_prefix
    rw [groupAt?_eq_below?, groupAt?_eq_below?, ← nodeAt?_eq_below? _ hne,
      ← nodeAt?_eq_below? _ (mt Path.makeRoom_eq_nil_iff.1 hne),
      nodeAt?_modifyGroup_insertChild htarget hpath]

/-- After an insertion a tree has the node that was inserted, and is as it was but for that. -/
theorem gains_insertChild {g target : Group} {above : Path} {index : Nat} (node : Node)
    (htarget : g.groupAt? above = some target) (hindex : index ≤ target.size) :
    g.Gains above index node
      (modifyGroup (fun group => group.insertChild index node) above g) where
  there := by
    rw [nodeAt?_concat, groupAt?_modifyGroup htarget, Option.bind_some, insertChild,
      List.getElem?_insertIdx_self]
    exact if_pos hindex
  moved := fun path hpath => nodeAt?_modifyGroup_insertChild htarget hpath
  conjunction := fun path => conjunction_groupAt?_modifyGroup_insertChild htarget path
  nothing_else := by
    intro path hthere hpath
    obtain ⟨old, rfl⟩ := Path.exists_makeRoom_eq hpath
    refine ⟨old, rfl, ?_⟩
    by_cases hold : old <+: above
    · -- what stands on the way to the place has been a group before
      rw [Path.makeRoom_of_prefix index hold] at hthere
      obtain ⟨more, rfl⟩ := hold
      obtain ⟨between, hbetween, -⟩ := groupAt?_append_eq_some_iff.1 htarget
      have hne : old ≠ [] := by
        rintro rfl
        exact hthere rfl
      intro hnone
      rw [groupAt?_eq_below?, ← nodeAt?_eq_below? g hne, hnone] at hbetween
      simp at hbetween
    · rwa [nodeAt?_modifyGroup_insertChild htarget hold] at hthere

/-! ### Removal -/

/-- A change that does nothing to the group at its path does nothing. -/
lemma modifyGroup_eq_self {f : Group → Group} {path : Path} :
    ∀ {g target : Group}, g.groupAt? path = some target → f target = target →
      modifyGroup f path g = g := by
  induction path with
  | nil =>
    intro g target htarget hf
    obtain rfl := Option.some.inj htarget
    exact hf
  | cons i rest ih =>
    intro g target htarget hf
    obtain ⟨child, hchild, hrest⟩ := groupAt?_cons_eq_some_iff.1 htarget
    obtain ⟨hlt, hget⟩ := List.getElem?_eq_some_iff.1 hchild
    rw [modifyGroup_cons hchild, ih hrest hf, ← hget, List.set_getElem_self hlt]
    cases g
    rfl

/-- Before a removal a tree has the node that is removed, and else it is as it is afterwards. -/
theorem gains_of_eraseChild {g target : Group} {above : Path} {index : Nat} {node : Node}
    (htarget : g.groupAt? above = some target) (hnode : target.children[index]? = some node) :
    (modifyGroup (fun group => group.eraseChild index) above g).Gains above index node g := by
  obtain ⟨hlt, rfl⟩ := List.getElem?_eq_some_iff.1 hnode
  have hback : (target.eraseChild index).insertChild index target.children[index] = target := by
    rw [insertChild, eraseChild, List.insertIdx_eraseIdx_getElem hlt]
    cases target
    rfl
  have hsize : index ≤ (target.eraseChild index).size := by
    rw [size_eraseChild hlt]
    exact Nat.le_sub_one_of_lt hlt
  have herased : (modifyGroup (fun group => group.eraseChild index) above g).groupAt? above =
      some (target.eraseChild index) := groupAt?_modifyGroup htarget
  have hrestored : modifyGroup (fun group => group.insertChild index target.children[index]) above
      (modifyGroup (fun group => group.eraseChild index) above g) = g := by
    rw [modifyGroup_modifyGroup]
    exact modifyGroup_eq_self htarget hback
  have hgains := gains_insertChild target.children[index] herased hsize
  rwa [hrestored] at hgains

end Group

end RecordFilter
