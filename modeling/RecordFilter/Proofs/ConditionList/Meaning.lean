import RecordFilter.ConditionList.Meaning
import RecordFilter.Proofs.Tree.Basic

/-!
# The tree of a condition list means what the list means

A list is read by growing a group from left to right: a group of one child takes over the next
conjunction, a group joined by another conjunction is wrapped, and otherwise the group is
extended.  A scan of the list keeps one truth value instead.  `Reading.Follows` says that the two
have come equally far: they wait with the same conjunction, and the group means the value.  Every
item keeps it (`follows_readItem`), so the tree of a list means what the list means
(`holds_toGroup`).

Beside the meaning, the tree has the conditions of the list in order (`leaves_toGroup`), so that it
is empty just when the list has none, which is what decides whether a nested list is an operand.
-/

namespace RecordFilter

/-- A property that holds of every word and condition, and of a nested list as soon as it holds of
the items in it, holds of every item. -/
@[elab_as_elim]
theorem ListItem.induction {motive : ListItem → Prop}
    (word : ∀ conjunction, motive (.word conjunction))
    (condition : ∀ c, motive (.condition c))
    (list : ∀ items, (∀ item ∈ items, motive item) → motive (.list items))
    (item : ListItem) : motive item :=
  @ListItem.rec motive (fun items => ∀ item ∈ items, motive item) word condition list
    (fun _ h => absurd h List.not_mem_nil)
    (fun _ _ hitem hrest => List.forall_mem_cons.2 ⟨hitem, hrest⟩) item

namespace ConditionList

/-! ### The conditions of a list -/

@[simp] lemma leaves_nil : leaves [] = [] := by
  rw [leaves]

@[simp] lemma leaves_cons (item : ListItem) (rest : List ListItem) :
    leaves (item :: rest) = leavesOfItem item ++ leaves rest := by
  rw [leaves]

@[simp] lemma leavesOfItem_word (conjunction : Conjunction) :
    leavesOfItem (.word conjunction) = [] := by
  rw [leavesOfItem]

@[simp] lemma leavesOfItem_condition (c : Condition) : leavesOfItem (.condition c) = [c] := by
  rw [leavesOfItem]

@[simp] lemma leavesOfItem_list (items : List ListItem) :
    leavesOfItem (.list items) = leaves items := by
  rw [leavesOfItem]

/-- The conditions of a list are those of each item, one item after the other. -/
lemma leaves_eq_flatMap (items : List ListItem) : leaves items = items.flatMap leavesOfItem := by
  induction items with
  | nil => rw [leaves_nil, List.flatMap_nil]
  | cons item rest ih => rw [leaves_cons, ih, List.flatMap_cons]

/-- The items that follow a child of a group have the conditions of the children, if each child has
its own. -/
lemma leaves_moreItemsOf (conjunction : Conjunction) {children : List Node}
    (h : ∀ child ∈ children, leavesOfItem child.toItem = child.leaves) :
    leaves (Node.moreItemsOf conjunction children) = children.flatMap Node.leaves := by
  induction children with
  | nil => rw [Node.moreItemsOf, leaves_nil, List.flatMap_nil]
  | cons child rest ih =>
    rw [List.forall_mem_cons] at h
    rw [Node.moreItemsOf, leaves_cons, leaves_cons, leavesOfItem_word, List.nil_append, h.1,
      ih h.2, List.flatMap_cons]

/-- The items of a group have the conditions of its children, if each child has its own. -/
lemma leaves_itemsOf (conjunction : Conjunction) {children : List Node}
    (h : ∀ child ∈ children, leavesOfItem child.toItem = child.leaves) :
    leaves (Node.itemsOf conjunction children) = children.flatMap Node.leaves := by
  cases children with
  | nil => rw [Node.itemsOf, leaves_nil, List.flatMap_nil]
  | cons child rest =>
    rw [List.forall_mem_cons] at h
    rw [Node.itemsOf, leaves_cons, h.1, leaves_moreItemsOf conjunction h.2, List.flatMap_cons]

/-- The item of a node has its conditions, in order. -/
lemma leavesOfItem_toItem (node : Node) : leavesOfItem node.toItem = node.leaves := by
  induction node using Node.induction with
  | condition c => rw [Node.toItem, leavesOfItem_condition, Node.leaves_condition]
  | group conjunction children ih =>
    rw [Node.toItem, leavesOfItem_list, leaves_itemsOf conjunction ih, Node.leaves_group]

/-- The list of a tree has its conditions, in order. -/
theorem leaves_toList (g : Group) : leaves g.toList = g.leaves := by
  rw [Group.toList, leaves_itemsOf g.conjunction fun child _ => leavesOfItem_toItem child,
    Group.leaves_eq_flatMap]

namespace Reading

/-! ### What joining does -/

/-- A joined node comes after the conditions of the group. -/
lemma leaves_join (g : Group) (conjunction : Conjunction) (node : Node) :
    (join g conjunction node).leaves = g.leaves ++ node.leaves := by
  obtain ⟨joined, children⟩ := g
  unfold join
  split_ifs
  · simp [Group.leaves_mk]
  · simp [Group.leaves_mk]
  · simp [Group.leaves_mk, Node.leaves_group]

/-- A joined node is combined with the meaning of the group, whichever of the three ways of joining
is taken. -/
lemma holds_join (truth : Condition → Bool) {g : Group} (hg : g.children ≠ [])
    (conjunction : Conjunction) (node : Node) :
    (join g conjunction node).holds truth =
      conjunction.combine (g.holds truth) (node.holds truth) := by
  obtain ⟨joined, children⟩ := g
  unfold join
  split_ifs with hone hsame
  · -- the conjunction of a single child has no meaning
    obtain ⟨child, rfl⟩ := List.length_eq_one_iff.1 hone
    cases conjunction <;>
      simp [Group.holds_mk, Node.holds_singleton, Node.holds_and, Node.holds_or,
        Conjunction.combine]
  · obtain rfl : joined = conjunction := hsame
    have hempty : children.isEmpty = false := List.isEmpty_eq_false_iff.2 hg
    cases joined <;>
      simp [Group.holds_mk, Node.holds_and, Node.holds_or, Conjunction.combine, hempty]
  · cases conjunction <;>
      simp [Group.holds_mk, Node.holds_and, Node.holds_or, Conjunction.combine]

/-! ### Conditions in order -/

/-- The conditions of what has been read. -/
def leaves (r : Reading) : List Condition :=
  (r.group.map Group.leaves).getD []

/-- What has been read has some conditions, and a group only if there is one. -/
structure HasRead (r : Reading) (seen : List Condition) : Prop where
  leaves_eq : r.leaves = seen
  seen_ne_nil : ∀ g, r.group = some g → seen ≠ []

/-- Nothing has been read at the start. -/
lemma hasRead_start : start.HasRead [] where
  leaves_eq := rfl
  seen_ne_nil := fun _ h => by simp [start] at h

/-- Reading an operand adds its conditions. -/
lemma HasRead.operand {r : Reading} {seen : List Condition} (h : r.HasRead seen) {node : Node}
    (hnode : node.leaves ≠ []) : (r.operand node).HasRead (seen ++ node.leaves) := by
  obtain ⟨group, pending⟩ := r
  have hseen := h.leaves_eq
  refine ⟨?_, fun _ _ hnil => hnode (List.append_eq_nil_iff.1 hnil).2⟩
  cases group with
  | none =>
    obtain rfl : [] = seen := hseen
    simp [operand_none, leaves, Group.leaves_mk]
  | some g =>
    obtain rfl : g.leaves = seen := hseen
    simp [operand_some, leaves, leaves_join]

/-- Finishing keeps the conditions. -/
lemma HasRead.leaves_finish {r : Reading} {seen : List Condition} (h : r.HasRead seen) :
    r.finish.leaves = seen := by
  obtain ⟨group, pending⟩ := r
  have hseen := h.leaves_eq
  cases group with
  | none => exact hseen
  | some g =>
    obtain rfl : g.leaves = seen := hseen
    rw [finish_some]
    split_ifs
    · rw [Group.leaves_mk, ← Group.leaves_eq_flatMap]
    · rfl

/-- What is finished is empty just when no condition has been read. -/
lemma HasRead.isEmpty_finish {r : Reading} {seen : List Condition} (h : r.HasRead seen) :
    r.finish.isEmpty = seen.isEmpty := by
  obtain ⟨group, pending⟩ := r
  cases group with
  | none =>
    obtain rfl : [] = seen := h.leaves_eq
    rw [finish_none]
    rfl
  | some g =>
    have hne : seen ≠ [] := h.seen_ne_nil g rfl
    have hleaves : (finish ⟨some g, pending⟩).leaves ≠ [] := h.leaves_finish ▸ hne
    rw [List.isEmpty_eq_false_iff.2 hne, Group.isEmpty, List.isEmpty_eq_false_iff]
    intro hchildren
    exact hleaves (by rw [Group.leaves_eq_flatMap, hchildren, List.flatMap_nil])

/-! ### Meaning -/

/-- A reading has come as far as a scan: the same conjunction waits, and the group, which has a
child if there is one, means the truth value. -/
structure Follows (truth : Condition → Bool) (r : Reading) (s : Scan) : Prop where
  pending_eq : r.pending = s.pending
  value_eq : s.value = r.group.map fun g => g.holds truth
  children_ne_nil : ∀ g, r.group = some g → g.children ≠ []

variable {truth : Condition → Bool} {r : Reading} {s : Scan}

/-- At the start nothing has been read or scanned. -/
lemma follows_start : Follows truth start .start where
  pending_eq := rfl
  value_eq := rfl
  children_ne_nil := fun _ h => by simp [start] at h

/-- A word waits on both sides. -/
lemma Follows.word (h : Follows truth r s) (conjunction : Conjunction) :
    Follows truth { r with pending := some conjunction }
      { s with pending := some conjunction } where
  pending_eq := rfl
  value_eq := h.value_eq
  children_ne_nil := h.children_ne_nil

/-- An operand is joined to the group and combined with the value alike. -/
lemma Follows.operand (h : Follows truth r s) (node : Node) :
    Follows truth (r.operand node) (s.operand (node.holds truth)) := by
  obtain ⟨group, pending⟩ := r
  obtain ⟨value, waiting⟩ := s
  obtain rfl : pending = waiting := h.pending_eq
  cases group with
  | none =>
    obtain rfl : value = none := h.value_eq
    refine ⟨rfl, ?_, ?_⟩
    · simp [operand_none, Scan.operand, Group.holds_mk, Node.holds_singleton]
    · rintro g hg
      obtain rfl := Option.some.inj hg
      simp
  | some g =>
    obtain rfl : value = some (g.holds truth) := h.value_eq
    refine ⟨rfl, ?_, ?_⟩
    · simp [operand_some, Scan.operand, holds_join truth (h.children_ne_nil g rfl)]
    · rintro joined hjoined
      obtain rfl := Option.some.inj hjoined
      unfold join
      split_ifs <;> simp

/-- Finishing keeps the meaning. -/
lemma Follows.holds_finish (h : Follows truth r s) : r.finish.holds truth = s.result := by
  obtain ⟨group, pending⟩ := r
  have hvalue := h.value_eq
  cases group with
  | none =>
    rw [Scan.result, hvalue, finish_none]
    simp [Group.empty, Group.holds_mk, Node.holds_and]
  | some g =>
    rw [Scan.result, hvalue, finish_some]
    obtain ⟨conjunction, children⟩ := g
    split_ifs with hone
    · obtain ⟨child, rfl⟩ := List.length_eq_one_iff.1 hone
      simp [Group.holds_mk, Node.holds_singleton]
    · rfl

end Reading

/-! ### Reading a list -/

open Reading

/-- Reading some items adds their conditions if reading each of them does. -/
lemma hasRead_readItems_of_forall {items : List ListItem}
    (hitems : ∀ item ∈ items, ∀ {r : Reading} {seen : List Condition}, r.HasRead seen →
      (readItem r item).HasRead (seen ++ leavesOfItem item))
    {r : Reading} {seen : List Condition} (h : r.HasRead seen) :
    (readItems r items).HasRead (seen ++ leaves items) := by
  induction items generalizing r seen with
  | nil => rwa [readItems, leaves_nil, List.append_nil]
  | cons item rest ih =>
    rw [readItems, leaves_cons, ← List.append_assoc]
    exact ih (fun other hother => hitems other (List.mem_cons_of_mem item hother))
      (hitems item List.mem_cons_self h)

/-- Reading an item adds its conditions. -/
lemma hasRead_readItem (item : ListItem) :
    ∀ {r : Reading} {seen : List Condition}, r.HasRead seen →
      (readItem r item).HasRead (seen ++ leavesOfItem item) := by
  induction item using ListItem.induction with
  | word conjunction =>
    intro r seen h
    rw [readItem, leavesOfItem_word, List.append_nil]
    exact ⟨h.leaves_eq, h.seen_ne_nil⟩
  | condition c =>
    intro r seen h
    rw [readItem, leavesOfItem_condition, ← Node.leaves_condition c]
    exact h.operand (by simp)
  | list items ih =>
    intro r seen h
    have hnested : (readItems .start items).HasRead (leaves items) :=
      hasRead_readItems_of_forall ih hasRead_start
    rw [readItem, leavesOfItem_list, hnested.isEmpty_finish]
    split_ifs with hempty
    · rwa [List.isEmpty_iff.1 hempty, List.append_nil]
    · have hnode : (Node.group (readItems .start items).finish).leaves = leaves items :=
        hnested.leaves_finish
      rw [← hnode]
      exact h.operand (by rw [hnode]; simpa using hempty)

/-- Reading a list from the start reads its conditions. -/
lemma hasRead_readItems (items : ConditionList) : (readItems .start items).HasRead (leaves items) :=
  hasRead_readItems_of_forall (fun item _ => hasRead_readItem item) hasRead_start

/-- The tree of a list has the conditions of the list, in order. -/
theorem leaves_toGroup (items : ConditionList) : (toGroup items).leaves = leaves items :=
  (hasRead_readItems items).leaves_finish

/-- Reading and scanning some items come equally far if they do for each of them. -/
lemma follows_readItems_of_forall {truth : Condition → Bool} {items : List ListItem}
    (hitems : ∀ item ∈ items, ∀ {r : Reading} {s : Scan}, Follows truth r s →
      Follows truth (readItem r item) (scanItem truth s item))
    {r : Reading} {s : Scan} (h : Follows truth r s) :
    Follows truth (readItems r items) (scanItems truth s items) := by
  induction items generalizing r s with
  | nil => rwa [readItems, scanItems]
  | cons item rest ih =>
    rw [readItems, scanItems]
    exact ih (fun other hother => hitems other (List.mem_cons_of_mem item hother))
      (hitems item List.mem_cons_self h)

/-- Reading and scanning an item come equally far. -/
lemma follows_readItem {truth : Condition → Bool} (item : ListItem) :
    ∀ {r : Reading} {s : Scan}, Follows truth r s →
      Follows truth (readItem r item) (scanItem truth s item) := by
  induction item using ListItem.induction with
  | word conjunction =>
    intro r s h
    rw [readItem, scanItem]
    exact h.word conjunction
  | condition c =>
    intro r s h
    rw [readItem, scanItem, ← Node.holds_condition truth c]
    exact h.operand (.condition c)
  | list items ih =>
    intro r s h
    have hnested : Follows truth (readItems .start items) (scanItems truth .start items) :=
      follows_readItems_of_forall ih follows_start
    -- an empty nested list is no operand on either side
    rw [readItem, scanItem, (hasRead_readItems items).isEmpty_finish]
    split_ifs
    · exact h
    · rw [← hnested.holds_finish]
      exact h.operand (.group (readItems .start items).finish)

/-- The tree of a list means what the list means. -/
theorem holds_toGroup (truth : Condition → Bool) (items : ConditionList) :
    (toGroup items).holds truth = holds truth items :=
  (follows_readItems_of_forall (fun item _ => follows_readItem item) follows_start).holds_finish

end ConditionList

end RecordFilter
