import RecordFilter.Proofs.ConditionList.Meaning

/-!
# Trees that are read back from their list

The list of a tree loses two things: whether an empty nested group stands in it, and the
conjunction of a group of one child.  A tree that has no such things to lose is tidy, and a tidy
tree is read back from its list (`toGroup_toList`).  The other way round, every tree that is read
from a list is tidy below its root (`tidy_toGroup`).

The children of a group come one after the other with its conjunction between them.  A group that
has read some of them is joined by that conjunction, unless it has one child, and then it takes the
conjunction over; this is what the induction on the remaining children carries along.
-/

namespace RecordFilter

namespace Node

/-- Every group of a node has a child, and a group of one child is joined by "and". -/
inductive Tidy : Node → Prop
  | condition (c : Condition) : Tidy (.condition c)
  | group {conjunction : Conjunction} {children : List Node} (hne : children ≠ [])
      (hone : children.length = 1 → conjunction = .and) (h : ∀ child ∈ children, Tidy child) :
    Tidy (.group ⟨conjunction, children⟩)

/-- A group with tidy children is tidy unless it is empty or joins a single child by "or". -/
lemma tidy_of_children {g : Group} (hne : g.children ≠ [])
    (hone : g.size = 1 → g.conjunction = .and) (h : ∀ child ∈ g.children, child.Tidy) :
    (Node.group g).Tidy := by
  obtain ⟨conjunction, children⟩ := g
  exact .group hne hone h

end Node

namespace ConditionList

open Reading

/-- A node that is joined by the conjunction of a group, or to a single child, is added to the
children. -/
lemma Reading.join_of_or {conjunction joined : Conjunction} {children : List Node}
    (h : children.length = 1 ∨ joined = conjunction) (node : Node) :
    join ⟨joined, children⟩ conjunction node = ⟨conjunction, children ++ [node]⟩ := by
  unfold join
  split_ifs with hone hsame
  · rfl
  · rfl
  · rcases h with h | h
    · exact absurd h hone
    · exact absurd h hsame

/-- Reading the remaining children of a group adds them to those that have been read. -/
lemma readItems_moreItemsOf {conjunction : Conjunction} {rest : List Node}
    (hrest : ∀ child ∈ rest, ∀ r, readItem r child.toItem = r.operand child) :
    ∀ (joined : Conjunction) (children : List Node),
      children.length = 1 ∨ joined = conjunction →
        readItems ⟨some ⟨joined, children⟩, none⟩ (Node.moreItemsOf conjunction rest) =
          ⟨some ⟨if rest = [] then joined else conjunction, children ++ rest⟩, none⟩ := by
  induction rest with
  | nil =>
    intro joined children _
    rw [Node.moreItemsOf, readItems, if_pos rfl, List.append_nil]
  | cons node rest ih =>
    intro joined children hjoined
    have hnode := hrest node List.mem_cons_self
    have hmore := ih fun child hchild => hrest child (List.mem_cons_of_mem node hchild)
    rw [Node.moreItemsOf, readItems, readItems, readItem, hnode, operand_some, Option.getD_some,
      join_of_or hjoined, hmore _ _ (.inr rfl), if_neg (List.cons_ne_nil node rest), ite_self,
      List.append_assoc, List.singleton_append]

/-- Reading the children of a group that has some gives the group back, but for the conjunction of
a single child. -/
lemma finish_readItems_itemsOf {conjunction : Conjunction} {children : List Node}
    (hne : children ≠ []) (hone : children.length = 1 → conjunction = .and)
    (hchildren : ∀ child ∈ children, ∀ r, readItem r child.toItem = r.operand child) :
    (readItems start (Node.itemsOf conjunction children)).finish = ⟨conjunction, children⟩ := by
  cases children with
  | nil => exact absurd rfl hne
  | cons node rest =>
    have hnode := hchildren node List.mem_cons_self
    have hrest := fun child hchild => hchildren child (List.mem_cons_of_mem node hchild)
    rw [Node.itemsOf, readItems, hnode, start, operand_none,
      readItems_moreItemsOf hrest _ _ (.inl rfl), finish_some, List.singleton_append]
    cases rest with
    | nil =>
      obtain rfl : conjunction = .and := hone rfl
      rfl
    | cons second rest => simp [Group.size]

/-- A tidy node is read as an operand. -/
lemma readItem_toItem {node : Node} (h : node.Tidy) :
    ∀ r, readItem r node.toItem = r.operand node := by
  induction h with
  | condition c =>
    intro r
    rw [Node.toItem, readItem]
  | @group conjunction children hne hone hchildren ih =>
    intro r
    have hnested := finish_readItems_itemsOf hne hone ih
    rw [Node.toItem, readItem, hnested]
    exact if_neg (by simpa [Group.isEmpty] using hne)

/-- A tidy tree is read back from its list. -/
theorem toGroup_toList {g : Group} (h : (Node.group g).Tidy) : toGroup g.toList = g := by
  cases h with
  | group hne hone hchildren =>
    exact finish_readItems_itemsOf hne hone fun child hchild =>
      readItem_toItem (hchildren child hchild)

/-! ### Trees that are read -/

namespace Reading

/-- A group that grows while a list is read: it has a child, and its children are tidy.  Its own
conjunction is settled only at the end. -/
structure Grown (g : Group) : Prop where
  children_ne_nil : g.children ≠ []
  tidy : ∀ child ∈ g.children, child.Tidy

/-- A group stays grown when a tidy node is joined to it. -/
lemma Grown.join {g : Group} (h : Grown g) (conjunction : Conjunction) {node : Node}
    (hnode : node.Tidy) : Grown (join g conjunction node) := by
  obtain ⟨joined, children⟩ := g
  have hmore : Grown ⟨conjunction, children ++ [node]⟩ := by
    refine ⟨by simp, List.forall_mem_append.2 ⟨h.tidy, ?_⟩⟩
    exact List.forall_mem_singleton.2 hnode
  unfold Reading.join
  split_ifs with hone hsame
  · exact hmore
  · exact hmore
  · -- a group that is wrapped has more than one child, so its conjunction counts
    have hgroup : (Node.group ⟨joined, children⟩).Tidy :=
      .group h.children_ne_nil (fun hsize => absurd hsize hone) h.tidy
    exact ⟨List.cons_ne_nil _ _,
      List.forall_mem_cons.2 ⟨hgroup, List.forall_mem_singleton.2 hnode⟩⟩

/-- What has been read is grown, if there is a group. -/
def HasGrown (r : Reading) : Prop :=
  ∀ g, r.group = some g → Grown g

/-- At the start there is no group. -/
lemma hasGrown_start : start.HasGrown :=
  fun _ h => by simp [start] at h

/-- A tidy operand keeps what has been read grown. -/
lemma HasGrown.operand {r : Reading} (h : r.HasGrown) {node : Node} (hnode : node.Tidy) :
    (r.operand node).HasGrown := by
  obtain ⟨group, pending⟩ := r
  intro g hg
  cases group with
  | none =>
    obtain rfl := Option.some.inj hg
    exact ⟨List.cons_ne_nil _ _, List.forall_mem_singleton.2 hnode⟩
  | some old =>
    obtain rfl := Option.some.inj hg
    exact (h old rfl).join _ hnode

/-- What is finished has tidy children, and a single child is joined by "and". -/
lemma HasGrown.finish {r : Reading} (h : r.HasGrown) :
    (∀ child ∈ r.finish.children, child.Tidy) ∧
      (r.finish.size = 1 → r.finish.conjunction = .and) := by
  obtain ⟨group, pending⟩ := r
  cases group with
  | none => exact ⟨fun _ hchild => absurd hchild List.not_mem_nil, fun _ => rfl⟩
  | some g =>
    have hg := h g rfl
    rw [finish_some]
    split_ifs with hone
    · exact ⟨hg.tidy, fun _ => rfl⟩
    · exact ⟨hg.tidy, fun hsize => absurd hsize hone⟩

/-- What is finished is a tidy node unless it is empty. -/
lemma HasGrown.tidy_finish {r : Reading} (h : r.HasGrown) (hempty : r.finish.isEmpty = false) :
    (Node.group r.finish).Tidy := by
  obtain ⟨htidy, hone⟩ := h.finish
  exact Node.tidy_of_children (List.isEmpty_eq_false_iff.1 hempty) hone htidy

end Reading

/-- Reading some items keeps what has been read grown if reading each of them does. -/
lemma hasGrown_readItems_of_forall {items : List ListItem}
    (hitems : ∀ item ∈ items, ∀ {r : Reading}, r.HasGrown → (readItem r item).HasGrown)
    {r : Reading} (h : r.HasGrown) : (readItems r items).HasGrown := by
  induction items generalizing r with
  | nil => rwa [readItems]
  | cons item rest ih =>
    rw [readItems]
    exact ih (fun other hother => hitems other (List.mem_cons_of_mem item hother))
      (hitems item List.mem_cons_self h)

/-- Reading an item keeps what has been read grown. -/
lemma hasGrown_readItem (item : ListItem) :
    ∀ {r : Reading}, r.HasGrown → (readItem r item).HasGrown := by
  induction item using ListItem.induction with
  | word conjunction =>
    intro r h
    rw [readItem]
    exact h
  | condition c =>
    intro r h
    rw [readItem]
    exact h.operand (.condition c)
  | list items ih =>
    intro r h
    have hnested : (readItems .start items).HasGrown :=
      hasGrown_readItems_of_forall ih hasGrown_start
    rw [readItem]
    cases hempty : (readItems .start items).finish.isEmpty with
    | true => exact h
    | false => exact h.operand (hnested.tidy_finish hempty)

/-- The tree of a list is tidy below its root, and a single child is joined by "and". -/
theorem tidy_toGroup (items : ConditionList) :
    (∀ child ∈ (toGroup items).children, child.Tidy) ∧
      ((toGroup items).size = 1 → (toGroup items).conjunction = .and) :=
  (hasGrown_readItems_of_forall (fun item _ => hasGrown_readItem item) hasGrown_start).finish

/-- The tree of a list is a tidy node unless it is empty, and then it is the empty tree. -/
lemma toGroup_eq_empty_or_tidy (items : ConditionList) :
    toGroup items = .empty ∨ (Node.group (toGroup items)).Tidy := by
  have hgrown : (readItems .start items).HasGrown :=
    hasGrown_readItems_of_forall (fun item _ => hasGrown_readItem item) hasGrown_start
  obtain ⟨htidy, hone⟩ := tidy_toGroup items
  rw [toGroup] at htidy hone ⊢
  cases hread : readItems .start items with
  | mk group pending =>
    rw [hread] at hgrown htidy hone
    cases group with
    | none => exact .inl (finish_none pending)
    | some g =>
      refine .inr (Node.tidy_of_children ?_ hone htidy)
      rw [finish_some]
      split_ifs
      · exact (hgrown g rfl).children_ne_nil
      · exact (hgrown g rfl).children_ne_nil

/-- A tree that is read from a list is read back from its own list. -/
theorem toGroup_toList_toGroup (items : ConditionList) :
    toGroup (toGroup items).toList = toGroup items := by
  rcases toGroup_eq_empty_or_tidy items with hempty | htidy
  · rw [hempty]
    rfl
  · exact toGroup_toList htidy

end ConditionList

end RecordFilter
