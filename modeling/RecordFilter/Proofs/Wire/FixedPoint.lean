import RecordFilter.Proofs.Wire.Normal

/-!
# Trees that are read are read again

Whatever list the server sends, the tree that is read from it is tidy: no nested group is empty, and
a group of one child is joined by "and".  Its conditions are whole, on fields that are not called
like a conjunction, and their values are in normal form but for patterns.  So a second round trip
changes nothing, unless a pattern still has a wildcard at both ends (`decodeTree_fixed`).
-/

namespace RecordFilter

/-- Whether a condition compares with a pattern that has a wildcard at both ends. -/
def Condition.isWrapped (c : Condition) : Bool :=
  match c.operator, c.value with
  | some op, .text text => op.isLike && Wildcard.isAround text
  | _, _ => false

namespace Settings

variable (s : Settings)

/-- A tidy node is its own normal form if its conditions are in normal form. -/
lemma normalNode_eq_self {node : Node} (h : node.Tidy) :
    (∀ c ∈ node.leaves, s.IsNormal c) → s.normalNode node = node := by
  induction h with
  | condition c =>
    intro hnormal
    rw [Node.leaves_condition, List.forall_mem_singleton] at hnormal
    rw [normalNode, s.normalCondition_eq_self_iff.2 hnormal]
  | @group conjunction children hne hone hchildren ih =>
    intro hnormal
    rw [Node.leaves_group, List.forall_mem_flatMap] at hnormal
    have hconjunction : (if children.length = 1 then .and else conjunction) = conjunction := by
      split_ifs with hsize
      · exact (hone hsize).symm
      · rfl
    have hmap : children.map s.normalNode = children.map id :=
      List.map_congr_left fun child hchild => ih child hchild (hnormal child hchild)
    rw [normalNode_group, hconjunction, hmap, List.map_id]

/-- The tree of a list is its own normal form if its conditions are in normal form. -/
lemma normalTree_toGroup {items : ConditionList}
    (h : ∀ c ∈ items.toGroup.leaves, s.IsNormal c) :
    s.normalTree items.toGroup = items.toGroup := by
  rcases ConditionList.toGroup_eq_empty_or_tidy items with hempty | htidy
  · rw [hempty]
    rfl
  · have hnode := s.normalNode_eq_self htidy h
    rw [← s.group_normalTree] at hnode
    exact Node.group.inj hnode

end Settings

namespace Context

variable {ctx : Context}

/-- A condition that is read is on a field that the catalog has for a name other than a conjunction,
and its value is in normal form, unless it is a pattern with a wildcard at both ends. -/
lemma exists_complete_of_decodeCondition {name token : String} {raw : Json} {c : Condition}
    (hname : Conjunction.ofWord? name = none)
    (h : ctx.decodeCondition name token raw = .ok c) :
    ∃ name op value, Conjunction.ofWord? name = none ∧ value.shape = op.shape ∧
      c = .complete (ctx.catalog.resolve name) op value ∧
      (c.isWrapped = false → ctx.settings.IsNormal c) := by
  unfold decodeCondition at h
  split at h
  · simp at h
  · next op _ =>
    obtain ⟨value, hvalue, rfl⟩ := exceptMap_eq_ok_iff.1 h
    have hdecode := exceptMapError_eq_ok_iff.1 hvalue
    refine ⟨name, op, value, hname, Settings.shape_of_decodeValue hdecode, rfl, ?_⟩
    intro hwrapped field operator hfield hop
    obtain rfl := Option.some.inj hfield
    obtain rfl := Option.some.inj hop
    refine ctx.settings.isNormalValue_of_decodeValue hdecode ?_
    rintro hlike text rfl
    simpa [Condition.isWrapped, Condition.complete, hlike] using hwrapped

/-- **Trees that are read are fixed.**  A tree that is read is tidy, also at its root, and each of
its conditions is on a field that the catalog has for a name other than a conjunction, with a value
that fits its operator.  It is read back from its own list as it is, unless a pattern in it still
has a wildcard at both ends. -/
theorem decodeTree_fixed {raw : Json} {tree : Group} (h : ctx.decodeTree raw = .ok tree) :
    (∀ child ∈ tree.children, child.Tidy) ∧
      (tree.size = 1 → tree.conjunction = .and) ∧
      (∀ c ∈ tree.leaves, ∃ name op value, Conjunction.ofWord? name = none ∧
        value.shape = op.shape ∧ c = .complete (ctx.catalog.resolve name) op value) ∧
      ((∀ c ∈ tree.leaves, c.isWrapped = false) →
        ctx.decodeTree (ctx.encodeTree tree) = .ok tree) := by
  have hconditions := forall_leaves_of_decodeTree exists_complete_of_decodeCondition h
  obtain ⟨contents, hcontents⟩ := exists_denotesList h
  obtain rfl := eq_toGroup_of_denotesList hcontents h
  obtain ⟨htidy, hone⟩ := ConditionList.tidy_toGroup contents
  refine ⟨htidy, hone, fun c hc => ?_, fun hwrapped => ?_⟩
  · obtain ⟨name, op, value, hname, hshape, hcomplete, -⟩ := hconditions c hc
    exact ⟨name, op, value, hname, hshape, hcomplete⟩
  · have hback : ∀ c ∈ contents.toGroup.leaves, ctx.decodeItem (ctx.encodeCondition c) =
        .ok (.condition (ctx.settings.normalCondition c)) := by
      intro c hc
      obtain ⟨name, op, value, hname, hshape, rfl, -⟩ := hconditions c hc
      rw [← ctx.catalog.name_resolve name] at hname
      exact decodeItem_encodeCondition_normal hshape (by rw [Catalog.name_resolve]) hname
    have hnormal : ∀ c ∈ contents.toGroup.leaves, ctx.settings.IsNormal c := by
      intro c hc
      obtain ⟨-, -, -, -, -, -, hnormal⟩ := hconditions c hc
      exact hnormal (hwrapped c hc)
    rw [decodeTree_encodeTree_of_forall hback, ctx.settings.normalTree_toGroup hnormal,
      ConditionList.toGroup_toList_toGroup]

/-- A list with a leading word, an empty list, a nested list of one condition, values that are not
written as they are sent, and a condition without a value, written as a JSON value. -/
def looseList : Json :=
  .array [.string "OR", .array [.string "enabled", .string "==", .bool true], .array [],
    .string "and", .array [.string "or", .array [.string "subject", .string "Like",
      .string "%a%"]],
    .string "or", .array [.string "status", .string "IN", .string "1, 2"],
    .array [.string "status", .string "=", .null]]

/-- The tree of `looseList`; its last condition is not complete. -/
def looseTree : Group :=
  let status (op : Operator) (value : Value) : Node :=
    .condition (.complete (.named "status" .text) op value)
  ⟨.and, [.group ⟨.or, [.group ⟨.and, [
      .condition (.complete ⟨"enabled", "Enabled", .boolean, []⟩ .equals (.text "Yes")),
      .group ⟨.and, [.condition (.complete (.named "subject" .text) .like (.text "a"))]⟩]⟩,
    status .isIn (.list ["1", "2"])]⟩, status .equals (.text "")]⟩

/-- `decodeTree_fixed` at a list that is not written as it is sent, and whose tree has a defect. -/
theorem decodeTree_fixed_looseList :
    enabledContext.decodeTree looseList = .ok looseTree ∧
      looseTree.defect? = some ⟨[1], .emptyValue⟩ ∧
      (∀ child ∈ looseTree.children, child.Tidy) ∧
      (looseTree.size = 1 → looseTree.conjunction = .and) ∧
      (∀ c ∈ looseTree.leaves, ∃ name op value, Conjunction.ofWord? name = none ∧
        value.shape = op.shape ∧
          c = .complete (enabledContext.catalog.resolve name) op value) ∧
      (∀ c ∈ looseTree.leaves, c.isWrapped = false) ∧
      enabledContext.decodeTree (enabledContext.encodeTree looseTree) = .ok looseTree := by
  have hread : enabledContext.decodeTree looseList = .ok looseTree := by decide
  obtain ⟨htidy, hone, hconditions, hfixed⟩ := decodeTree_fixed hread
  have hwrapped : ∀ c ∈ looseTree.leaves, c.isWrapped = false := by decide
  exact ⟨hread, by decide, htidy, hone, hconditions, hwrapped, hfixed hwrapped⟩

end Context

end RecordFilter
