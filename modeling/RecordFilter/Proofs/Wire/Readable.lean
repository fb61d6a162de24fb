import RecordFilter.Proofs.Wire.RoundTrip

/-!
# What is sent can be read

A condition list that is sent is told apart from its conditions by words, so what is read depends
on how the fields are called.  A tree that is sent can be read just when none of its fields is
called like a conjunction, and then no condition is lost (`exists_hydrate_iff_of_compileAdvanced`).
It does not matter whether the catalog still has the fields as they stand in the tree: whether a
value can be read depends on its operator alone.

A field that is called like a conjunction is not refused when the tree is sent, but its condition is
then taken as a nested list, in which the token of the operator is no conjunction
(`hydrate_conjunctionTree`).
-/

namespace RecordFilter

/-- Whether a value can be read does not depend on the field. -/
lemma Settings.exists_decodeValue_of_decodeValue {s : Settings} {field : Field} (other : Field)
    {op : Operator} {raw : Json} {value : Value} (h : s.decodeValue field op raw = .ok value) :
    ∃ read, s.decodeValue other op raw = .ok read := by
  unfold decodeValue at h ⊢
  cases hshape : op.shape with
  | scalar =>
    simp only [hshape] at h ⊢
    cases htext : raw.scalarText? with
    | none => simp [htext] at h
    | some text => exact ⟨_, rfl⟩
  | _ =>
    simp only [hshape] at h ⊢
    exact ⟨value, h⟩

namespace Context

variable {ctx : Context}

/-! ### Items -/

/-- A condition without a problem is read as a condition, unless the name of its field is a
conjunction. -/
lemma exists_decodeItem_encodeCondition {c : Condition} (hproblem : c.problem? = none)
    (hname : Conjunction.ofWord? c.fieldName = none) :
    ∃ read, ctx.decodeItem (ctx.encodeCondition c) = .ok (.condition read) := by
  obtain ⟨field, op, hfield, hop, -, hshape, -⟩ := Condition.problem?_eq_none_iff.1 hproblem
  obtain ⟨cField, cOperator, value⟩ := c
  obtain rfl : cField = some field := hfield
  obtain rfl : cOperator = some op := hop
  have hvalue := ctx.settings.decodeValue_encodeValue field op value hshape
  obtain ⟨read, hread⟩ :=
    Settings.exists_decodeValue_of_decodeValue (ctx.catalog.resolve field.name) hvalue
  refine ⟨.complete (ctx.catalog.resolve field.name) op read,
    (decodeItem_encodeCondition_complete op value hname).trans ?_⟩
  rw [Settings.readValue, hread]
  rfl

/-- Some items are read without losing a condition if each of them is. -/
lemma exists_decodeItems_encodeItems_of_forall {items : List ListItem}
    (h : ∀ item ∈ items, ∃ read, ctx.decodeItem (ctx.encodeItem item) = .ok read ∧
      (ConditionList.leavesOfItem read).length = (ConditionList.leavesOfItem item).length) :
    ∃ contents, ctx.decodeItems (ctx.encodeItems items) = .ok contents ∧
      (ConditionList.leaves contents).length = (ConditionList.leaves items).length := by
  induction items with
  | nil => exact ⟨[], rfl, rfl⟩
  | cons item rest ih =>
    rw [List.forall_mem_cons] at h
    obtain ⟨⟨read, hread, hcount⟩, hrest⟩ := h
    obtain ⟨contents, hcontents, hcounts⟩ := ih hrest
    refine ⟨read :: contents, ?_, ?_⟩
    · rw [encodeItems]
      exact decodeItems_cons_eq_ok_iff.2 ⟨read, contents, hread, hcontents, rfl⟩
    · rw [ConditionList.leaves_cons, ConditionList.leaves_cons, List.length_append,
        List.length_append, hcount, hcounts]

/-- An item is read without losing a condition if each of its conditions is read as one. -/
lemma exists_decodeItem_encodeItem (item : ListItem) :
    (∀ c ∈ ConditionList.leavesOfItem item,
      ∃ read, ctx.decodeItem (ctx.encodeCondition c) = .ok (.condition read)) →
    ∃ read, ctx.decodeItem (ctx.encodeItem item) = .ok read ∧
      (ConditionList.leavesOfItem read).length = (ConditionList.leavesOfItem item).length := by
  induction item using ListItem.induction with
  | word conjunction =>
    intro _
    refine ⟨.word conjunction, ?_, rfl⟩
    rw [encodeItem, decodeItem, Conjunction.ofWord?_token]
  | condition c =>
    intro h
    rw [ConditionList.leavesOfItem_condition, List.forall_mem_singleton] at h
    obtain ⟨read, hread⟩ := h
    refine ⟨.condition read, ?_, ?_⟩
    · rw [encodeItem, hread]
    · rw [ConditionList.leavesOfItem_condition, ConditionList.leavesOfItem_condition,
        List.length_singleton, List.length_singleton]
  | list items ih =>
    intro h
    rw [ConditionList.leavesOfItem_list, ConditionList.leaves_eq_flatMap,
      List.forall_mem_flatMap] at h
    obtain ⟨contents, hcontents, hcount⟩ := exists_decodeItems_encodeItems_of_forall
      fun item hitem => ih item hitem (h item hitem)
    refine ⟨.list contents, ?_, ?_⟩
    · rw [decodeItem_encodeItem_list, hcontents]
      rfl
    · rw [ConditionList.leavesOfItem_list, ConditionList.leavesOfItem_list, hcount]

/-! ### Trees and payloads -/

/-- The list of a tree without a defect is read, with as many conditions, unless the name of a field
is a conjunction. -/
lemma exists_decodeTree_encodeTree {tree : Group} (h : tree.defect? = none)
    (hnames : ∀ c ∈ tree.leaves, Conjunction.ofWord? c.fieldName = none) :
    ∃ read, ctx.decodeTree (ctx.encodeTree tree) = .ok read ∧
      read.leafCount = tree.leafCount := by
  have hcomplete := Group.defect?_eq_none_iff.1 h
  have hconditions : ∀ c ∈ tree.leaves,
      ∃ read, ctx.decodeItem (ctx.encodeCondition c) = .ok (.condition read) :=
    fun c hc => exists_decodeItem_encodeCondition (hcomplete.problem?_eq_none c hc) (hnames c hc)
  rw [← ConditionList.leaves_toList, ConditionList.leaves_eq_flatMap,
    List.forall_mem_flatMap] at hconditions
  obtain ⟨contents, hcontents, hcount⟩ := exists_decodeItems_encodeItems_of_forall
    fun item hitem => exists_decodeItem_encodeItem item (hconditions item hitem)
  refine ⟨ConditionList.toGroup contents, ?_, ?_⟩
  · rw [decodeTree_encodeTree_eq_map, hcontents]
    rfl
  · rw [Group.leafCount_eq_length_leaves, ConditionList.leaves_toGroup, hcount,
      ConditionList.leaves_toList, Group.leafCount_eq_length_leaves]

/-- **What is sent can be read.**  A tree that has been sent is read just when none of its fields is
called like a conjunction, and then in the advanced view and with as many conditions. -/
theorem exists_hydrate_iff_of_compileAdvanced {tree : Group} {payload : Payload}
    (h : ctx.compileAdvanced tree = .ok payload) :
    ((∃ hydrated, ctx.hydrate payload = .ok hydrated) ↔
        ∀ c ∈ tree.leaves, Conjunction.ofWord? c.fieldName = none) ∧
      ∀ hydrated, ctx.hydrate payload = .ok hydrated →
        hydrated.mode = .advanced ∧ hydrated.tree.leafCount = tree.leafCount := by
  obtain ⟨hdefect, rfl⟩ := compileAdvanced_eq_ok_iff.1 h
  simp only [hydrate_insert_advancedKey, exceptMap_eq_ok_iff]
  have hread : ∀ {read}, ctx.decodeTree (ctx.encodeTree tree) = .ok read →
      read.leafCount = tree.leafCount := by
    intro read hread
    obtain ⟨other, hother, hcount⟩ :=
      exists_decodeTree_encodeTree hdefect (ofWord?_fieldName_of_decodeTree hdefect hread)
    obtain rfl := Except.ok.inj (hread.symm.trans hother)
    exact hcount
  refine ⟨⟨?_, fun hnames => ?_⟩, ?_⟩
  · rintro ⟨_, read, hread, -⟩
    exact ofWord?_fieldName_of_decodeTree hdefect hread
  · obtain ⟨read, hread, -⟩ := exists_decodeTree_encodeTree hdefect hnames
    exact ⟨_, read, hread, rfl⟩
  · rintro _ ⟨read, hdecode, rfl⟩
    exact ⟨rfl, hread hdecode⟩

/-- `exists_hydrate_iff_of_compileAdvanced` at a tree with a boolean field that the catalog does not
have any more. -/
theorem exists_hydrate_iff_of_compileAdvanced_enabledTree :
    ∃ payload, compileAdvanced ⟨.empty, .standard⟩ enabledTree = .ok payload ∧
      (∀ c ∈ enabledTree.leaves, Conjunction.ofWord? c.fieldName = none) ∧
      ∃ hydrated, hydrate ⟨.empty, .standard⟩ payload = .ok hydrated ∧
        hydrated.mode = .advanced ∧ hydrated.tree.leafCount = 2 := by
  have hcompile : compileAdvanced ⟨.empty, .standard⟩ enabledTree =
      .ok (Payload.empty.insert "_conditions" (encodeTree ⟨.empty, .standard⟩ enabledTree)) := by
    decide
  have hnames : ∀ c ∈ enabledTree.leaves, Conjunction.ofWord? c.fieldName = none := by decide
  obtain ⟨hiff, hkept⟩ := exists_hydrate_iff_of_compileAdvanced hcompile
  obtain ⟨hydrated, hread⟩ := hiff.2 hnames
  obtain ⟨hmode, hcount⟩ := hkept hydrated hread
  exact ⟨_, hcompile, hnames, hydrated, hread, hmode, hcount⟩

/-- A catalog with a field that is called like a conjunction. -/
def conjunctionContext : Context :=
  ⟨⟨[⟨"and", "And", .text, []⟩]⟩, .standard⟩

/-- The tree of one condition on the field of `conjunctionContext`. -/
def conjunctionTree : Group :=
  .all [.condition (.complete ⟨"and", "And", .text, []⟩ .equals (.text "x"))]

/-- A tree with a field that is called like a conjunction is sent but cannot be read: its condition
is taken as a nested list. -/
theorem hydrate_conjunctionTree :
    (∀ c ∈ conjunctionTree.leaves,
      ∃ field ∈ conjunctionContext.catalog.fields, c.field = some field) ∧
    ∃ payload, conjunctionContext.compileAdvanced conjunctionTree = .ok payload ∧
      conjunctionContext.hydrate payload =
        .error (.malformedConditions (.unknownConjunction "=")) := by
  have hpayload : conjunctionContext.compileAdvanced conjunctionTree = .ok
      (Payload.empty.insert "_conditions" (conjunctionContext.encodeTree conjunctionTree)) := by
    decide
  exact ⟨by decide, _, hpayload, by decide⟩

end Context

end RecordFilter
