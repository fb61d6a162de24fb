import RecordFilter.Proofs.Editor.Run
import RecordFilter.Proofs.Tree.Filled
import RecordFilter.Proofs.Wire.Reading

/-!
# The tree that is edited

A condition is added blank and gets its field later, so that the tree that is edited may have a
condition without a field.  It has one at most, since nothing is added while a condition is
unfinished, and the conditions of the tree that was applied all have a field and an operator.
Nested groups are never empty in either tree (`draft_run`).
-/

namespace RecordFilter

namespace Condition

/-- A condition lacks a field or an operator. -/
def isUnchosen (c : Condition) : Bool :=
  c.field.isNone || c.operator.isNone

/-- A condition without a problem lacks nothing. -/
lemma isUnchosen_of_problem?_eq_none {c : Condition} (h : c.problem? = none) :
    c.isUnchosen = false := by
  obtain ⟨field, op, hfield, hop, -⟩ := problem?_eq_none_iff.1 h
  rw [isUnchosen, hfield, hop]
  rfl

/-- A condition lacks nothing if it has a field and an operator. -/
lemma isUnchosen_eq_false_iff {c : Condition} :
    c.isUnchosen = false ↔ c.field ≠ none ∧ c.operator ≠ none := by
  rw [isUnchosen, Bool.or_eq_false_iff, ← Bool.not_eq_true, ← Bool.not_eq_true,
    Option.isNone_iff_eq_none, Option.isNone_iff_eq_none]

/-- A condition that lacks nothing has a field just when it has an operator. -/
lemma field_eq_none_iff_of_isUnchosen {c : Condition} (h : c.isUnchosen = false) :
    c.field = none ↔ c.operator = none :=
  iff_of_false (isUnchosen_eq_false_iff.1 h).1 (isUnchosen_eq_false_iff.1 h).2

end Condition

/-- A condition that has been read lacks nothing. -/
lemma Context.Whole.isUnchosen {ctx : Context} {c : Condition} (h : ctx.Whole c) :
    c.isUnchosen = false := by
  obtain ⟨name, op, value, -, rfl⟩ := h
  rfl

namespace Group

/-- A tree that may have been applied: no group below the root is empty, and no condition lacks a
field or an operator. -/
structure IsChosen (g : Group) : Prop where
  filledBelow : g.FilledBelow
  chosen : ∀ c ∈ g.leaves, c.isUnchosen = false

/-- A tree that may be edited: no group below the root is empty, and one condition at most lacks a
field or an operator, and then it lacks both. -/
structure IsDraft (g : Group) : Prop where
  filledBelow : g.FilledBelow
  lacks_both : ∀ c ∈ g.leaves, c.field = none ↔ c.operator = none
  lacks_once : g.leaves.countP Condition.isUnchosen ≤ 1

/-- A tree in which no condition lacks anything may be edited. -/
lemma IsChosen.isDraft {g : Group} (h : g.IsChosen) : g.IsDraft where
  filledBelow := h.filledBelow
  lacks_both := fun c hc => Condition.field_eq_none_iff_of_isUnchosen (h.chosen c hc)
  lacks_once := by
    rw [List.countP_eq_zero.2 fun c hc => Bool.eq_false_iff.1 (h.chosen c hc)]
    exact Nat.zero_le 1

/-- The empty tree has no condition. -/
lemma isChosen_empty : IsChosen .empty where
  filledBelow := filledBelow_empty
  chosen := fun _ h => absurd h List.not_mem_nil

/-- A tree without a defect lacks nothing. -/
lemma isChosen_of_defect?_eq_none {g : Group} (h : g.defect? = none) : g.IsChosen where
  filledBelow := filledBelow_of_defect?_eq_none h
  chosen := fun c hc => Condition.isUnchosen_of_problem?_eq_none
    ((defect?_eq_none_iff.1 h).problem?_eq_none c hc)

/-- The tree of simple filters lacks nothing. -/
lemma isChosen_toTree (f : SimpleFilters) (catalog : Catalog) : (f.toTree catalog).IsChosen where
  filledBelow := List.forall_mem_map.2 fun _ _ => .condition _
  chosen := by
    rw [SimpleFilters.toTree, Group.all, leaves_mk, List.forall_mem_flatMap, List.forall_mem_map]
    intro entry _
    rw [Node.leaves_condition, List.forall_mem_singleton]
    rfl

/-- What has been read lacks nothing. -/
lemma isChosen_of_whole {ctx : Context} {g : Group} (hwhole : ∀ c ∈ g.leaves, ctx.Whole c)
    (htidy : ∀ child ∈ g.children, child.Tidy) : g.IsChosen where
  filledBelow := fun child hchild => (htidy child hchild).filled
  chosen := fun c hc => (hwhole c hc).isUnchosen

/-- A tree that has been read lacks nothing. -/
lemma isChosen_of_decodeTree {ctx : Context} {raw : Json} {g : Group}
    (h : ctx.decodeTree raw = .ok g) : g.IsChosen :=
  isChosen_of_whole (Context.whole_of_decodeTree h) (Context.tidy_of_decodeTree h)

/-! ### Edits -/

/-- A blank condition, alone or in a group, may be appended where nothing else has a defect: it is
the only one that lacks a field. -/
lemma IsDraft.insertChild {g target : Group} {path : Path} {node : Node} (h : g.IsDraft)
    (htarget : g.groupAt? path = some target) (hdefect : g.defectForInsert? path = none)
    (hnode : node.Filled) (hleaves : node.leaves = [.blank]) :
    (g.modifyGroup (fun group => group.insertChild target.size node) path).IsDraft := by
  -- nothing may be inserted beside an unfinished condition, so that the blank one stays alone
  have hchosen : ∀ c ∈ g.leaves, c.isUnchosen = false := fun c hc =>
    Condition.isUnchosen_of_problem?_eq_none (problem?_eq_none_of_defectForInsert? hdefect c hc)
  obtain ⟨before, after, hold, hnew⟩ := exists_leaves_modifyGroup htarget
  have hinserted : (g.modifyGroup (fun group => group.insertChild target.size node) path).leaves =
      before ++ target.leaves ++ .blank :: after := by
    rw [hnew, leaves_insertChild_size, hleaves]
    simp
  have hfront : ∀ c ∈ before ++ target.leaves, c.isUnchosen = false :=
    fun c hc => hchosen c (hold ▸ List.mem_append_left after hc)
  have hback : ∀ c ∈ after, c.isUnchosen = false :=
    fun c hc => hchosen c (hold ▸ List.mem_append_right (before ++ target.leaves) hc)
  refine ⟨?_, ?_, ?_⟩
  · refine filledBelow_modifyGroup h.filledBelow htarget
      ((h.filledBelow.groupAt? htarget).1.insertChild hnode) fun _ hnil => ?_
    rw [Group.insertChild, size, List.insertIdx_length_self] at hnil
    simp at hnil
  · rw [hinserted, List.forall_mem_append, List.forall_mem_cons]
    exact ⟨fun c hc => Condition.field_eq_none_iff_of_isUnchosen (hfront c hc),
      iff_of_true rfl rfl, fun c hc => Condition.field_eq_none_iff_of_isUnchosen (hback c hc)⟩
  · rw [hinserted, List.countP_append, List.countP_cons,
      List.countP_eq_zero.2 fun c hc => Bool.eq_false_iff.1 (hfront c hc),
      List.countP_eq_zero.2 fun c hc => Bool.eq_false_iff.1 (hback c hc)]
    exact Nat.le_refl 1

/-- A condition may be changed to one that lacks nothing, or that lacks what it lacked. -/
lemma IsDraft.setNode {g : Group} {path : Path} {old new : Condition} (h : g.IsDraft)
    (hold : g.conditionAt? path = some old)
    (hboth : (old.field = none ↔ old.operator = none) → (new.field = none ↔ new.operator = none))
    (hlacks : new.isUnchosen = true → old.isUnchosen = true) :
    (g.setNode path (.condition new)).IsDraft := by
  obtain ⟨before, after, hleaves, hset⟩ := exists_leaves_setNode hold
  have hbefore := h.lacks_both
  have honce := h.lacks_once
  rw [hleaves, List.forall_mem_append, List.forall_mem_cons] at hbefore
  rw [hleaves, List.countP_append, List.countP_cons] at honce
  refine ⟨h.filledBelow.setNode hold new, ?_, ?_⟩
  · rw [hset, List.forall_mem_append, List.forall_mem_cons]
    exact ⟨hbefore.1, hboth hbefore.2.1, hbefore.2.2⟩
  · rw [hset, List.countP_append, List.countP_cons]
    split_ifs at honce ⊢ with hnew hwas
    · exact honce
    · exact absurd (hlacks hnew) hwas
    · omega
    · exact honce

/-- A child may be taken out of a group, if the group does not stay empty below the root. -/
lemma IsDraft.eraseChild {g between : Group} {upper : Path} {i : Nat} (h : g.IsDraft)
    (hbetween : g.groupAt? upper = some between) (hi : i < between.size)
    (hone : between.size = 1 → upper = []) :
    (g.modifyGroup (fun group => group.eraseChild i) upper).IsDraft := by
  obtain ⟨before, after, hold, hnew⟩ := exists_leaves_modifyGroup hbetween
  have hsub : (g.modifyGroup (fun group => group.eraseChild i) upper).leaves.Sublist g.leaves := by
    rw [hold, hnew]
    exact ((leaves_eraseChild_sublist hi).append_left before).append_right after
  exact ⟨h.filledBelow.modifyGroup_eraseChild hbetween hi hone,
    fun c hc => h.lacks_both c (hsub.subset hc), Nat.le_trans hsub.countP_le h.lacks_once⟩

/-- The conjunction of a group may be changed. -/
lemma IsDraft.withConjunction {g target : Group} {path : Path} (h : g.IsDraft)
    (htarget : g.groupAt? path = some target) (conjunction : Conjunction) :
    (g.modifyGroup (fun group => group.withConjunction conjunction) path).IsDraft := by
  obtain ⟨before, after, hold, hnew⟩ := exists_leaves_modifyGroup htarget
  have hsame : (g.modifyGroup (fun group => group.withConjunction conjunction) path).leaves =
      g.leaves := by
    rw [hold, hnew, leaves_withConjunction]
  obtain ⟨hbelow, hne⟩ := h.filledBelow.groupAt? htarget
  exact ⟨filledBelow_modifyGroup h.filledBelow htarget hbelow hne, hsame ▸ h.lacks_both,
    hsame ▸ h.lacks_once⟩

end Group

namespace Editor

/-- An edit of the advanced view leaves a tree that may be edited. -/
theorem Edits.isDraft {e : Editor} {action : Action} {tree : Group} (hedit : e.Edits action tree)
    (h : e.tree.IsDraft) : tree.IsDraft := by
  cases hedit with
  | addCondition htarget hdefect =>
    exact h.insertChild htarget hdefect (.condition .blank) (Node.leaves_condition _)
  | addGroup htarget hdefect =>
    refine h.insertChild htarget hdefect ?_ ?_
    · exact .group (List.cons_ne_nil _ _) (List.forall_mem_singleton.2 (.condition .blank))
    · rw [Node.leaves_group, List.flatMap_singleton, Node.leaves_condition]
  | removeItem hrun =>
    obtain ⟨upper, i, lower, between, -, hbetween, hi, hone, rfl⟩ := TreeEdit.exists_removal hrun
    exact h.eraseChild hbetween hi hone
  | setConjunction htarget => exact h.withConjunction htarget _
  | setField hfield hold =>
    refine h.setNode hold (fun _ => ?_) fun hlacks => ?_
    · exact iff_of_false (by simp [Condition.complete]) (by simp [Condition.complete])
    · exact absurd hlacks (by simp [Condition.complete, Condition.isUnchosen])
  | @setOperator path op field old hold hfield hoffer =>
    -- only a condition that has a field is given an operator
    have hchosen : old.field ≠ none := by
      intro hnone
      rw [fieldAt?, hold, Option.bind_some, hnone] at hfield
      simp at hfield
    refine h.setNode hold (fun _ => ?_) fun hlacks => ?_
    · exact iff_of_false hchosen (by simp [withOperator])
    · simp [Condition.isUnchosen, withOperator, hchosen] at hlacks
  | setValue hold => exact h.setNode hold id id
  | setValueInput hold hop => exact h.setNode hold id id

/-- Whatever changes, the tree that was applied lacks nothing, and the tree that is edited may be
edited. -/
theorem invariant_draft :
    Invariant fun _ s => s.tree.IsDraft ∧ s.appliedTree.IsChosen where
  hydrate := by
    intro e
    have hboth : ∀ {tree : Group}, tree.IsChosen → tree.IsDraft ∧ tree.IsChosen :=
      fun h => ⟨h.isDraft, h⟩
    rcases e.hydrate_cases with ⟨hydrated, hread, hstate | ⟨tree, -, htree, hstate⟩⟩ | hstate
    · rw [hstate]
      obtain ⟨hwhole, htidy, -⟩ := Context.whole_of_hydrate hread
      exact hboth (Group.isChosen_of_whole hwhole htidy)
    · rw [hstate]
      obtain ⟨raw, hraw⟩ := exists_decodeTree_of_rememberedTree? htree
      exact hboth (Group.isChosen_of_decodeTree hraw)
    · rw [hstate]
      exact hboth Group.isChosen_empty
  edit := fun he _ hedit => ⟨hedit.isDraft he.1, he.2⟩
  applySimple := fun _ _ _ =>
    ⟨(Group.isChosen_toTree _ _).isDraft, Group.isChosen_toTree _ _⟩
  applyTree := fun he _ hdefect => ⟨he.1, Group.isChosen_of_defect?_eq_none hdefect⟩
  setTags := fun _ he => he
  discard := fun he _ => ⟨he.2.isDraft, he.2⟩
  clear := fun _ => ⟨Group.isChosen_empty.isDraft, Group.isChosen_empty⟩
  enterAdvanced := by
    intro e _ _
    have hchosen : (e.rememberedTree?.getD .empty).IsChosen := by
      rcases e.rememberedTree?_getD_cases with hempty | ⟨raw, hraw⟩
      · rw [hempty]
        exact Group.isChosen_empty
      · exact Group.isChosen_of_decodeTree hraw
    exact ⟨hchosen.isDraft, hchosen⟩

/-- **The tree that is edited.**  After every run no group below the root is empty, neither in the
tree that is edited nor in the one that was applied.  In the tree that is edited one condition at
most lacks a field or an operator, and such a condition lacks both; in the tree that was applied
every condition has both.  So an empty group can be reported at the root only. -/
theorem draft_run (list : RecordList) (ctx : Context) (events : List Event) :
    let s := ((opened list ctx).run events).state
    (∀ path inner, path ≠ [] → s.tree.groupAt? path = some inner ∨
        s.appliedTree.groupAt? path = some inner → inner.children ≠ []) ∧
      s.tree.leaves.countP (fun c => c.field.isNone || c.operator.isNone) ≤ 1 ∧
      (∀ c ∈ s.tree.leaves, c.field = none ↔ c.operator = none) ∧
      (∀ c ∈ s.appliedTree.leaves, c.field ≠ none ∧ c.operator ≠ none) ∧
      ∀ path, s.tree.defect? = some ⟨path, .emptyGroup⟩ → path = [] := by
  obtain ⟨hdraft, hchosen⟩ := invariant_draft.run list ctx events fun _ _ _ _ h => h
  refine ⟨fun path inner hpath hinner => ?_, hdraft.lacks_once, hdraft.lacks_both, fun c hc => ?_,
    fun path hdefect => ?_⟩
  · rcases hinner with hinner | hinner
    · exact (hdraft.filledBelow.groupAt? hinner).2 hpath
    · exact (hchosen.filledBelow.groupAt? hinner).2 hpath
  · exact Condition.isUnchosen_eq_false_iff.1 (hchosen.chosen c hc)
  · exact Group.eq_nil_of_defect?_eq_emptyGroup hdraft.filledBelow hdefect

end Editor

end RecordFilter
