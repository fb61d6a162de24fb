import RecordFilter.Proofs.Condition
import RecordFilter.Proofs.ConditionList.Tidy
import RecordFilter.Proofs.Tree.Defect
import RecordFilter.Proofs.Wire.Value
import RecordFilter.Wire.Filter

/-!
# Condition lists that come back from the wire

A tree without a defect is sent as a condition list that is read as the normal form of the tree.
Conditions and nested lists are both arrays, and they are told apart by the words in front: the
items of a nested list are conjunctions, conditions and lists, so that no string but a conjunction
stands among them, and such an array is never taken as a condition (`conditionParts?_encodeItems`).
A condition is recognised as long as the name of its field is no conjunction.
-/

namespace RecordFilter

namespace Settings

variable (s : Settings)

/-- The normal forms of some nodes are those of each. -/
lemma normalNodes_eq_map (nodes : List Node) : s.normalNodes nodes = nodes.map s.normalNode := by
  induction nodes with
  | nil => rfl
  | cons node rest ih => rw [normalNodes, ih, List.map_cons]

/-- The normal form of a group. -/
lemma normalNode_group (conjunction : Conjunction) (children : List Node) :
    s.normalNode (.group ⟨conjunction, children⟩) =
      .group ⟨if children.length = 1 then .and else conjunction, children.map s.normalNode⟩ := by
  rw [normalNode, normalNodes_eq_map]

/-- The normal form of a tree is that of the node it is. -/
lemma group_normalTree (tree : Group) :
    .group (s.normalTree tree) = s.normalNode (.group tree) := by
  obtain ⟨conjunction, children⟩ := tree
  rw [normalNode]
  rfl

/-- The normal form of a complete node is tidy. -/
lemma tidy_normalNode {node : Node} (h : node.Complete) : (s.normalNode node).Tidy := by
  induction h with
  | @condition c hc =>
    rw [normalNode]
    exact .condition (s.normalCondition c)
  | @group conjunction children hne hchildren ih =>
    rw [normalNode_group]
    refine .group (by simpa using hne) (fun hone => ?_) fun child hchild => ?_
    · rw [List.length_map] at hone
      exact if_pos hone
    · obtain ⟨original, hmem, rfl⟩ := List.mem_map.1 hchild
      exact ih original hmem

end Settings

namespace Context

variable {ctx : Context}

/-! ### Nested lists are no conditions -/

/-- Of the items of a list only conjunctions are written as strings. -/
lemma ofWord?_of_encodeItem_eq_string {item : ListItem} {s : String}
    (h : ctx.encodeItem item = .string s) : (Conjunction.ofWord? s).isSome := by
  cases item with
  | word conjunction =>
    rw [encodeItem, Json.string.injEq] at h
    rw [← h, Conjunction.ofWord?_token]
    rfl
  | condition c =>
    rw [encodeItem, encodeCondition] at h
    split at h <;> simp at h
  | list items => simp [encodeItem] at h

/-- The items of a list are never the parts of a condition. -/
lemma conditionParts?_encodeItems (items : List ListItem) :
    Json.conditionParts? (ctx.encodeItems items) = none := by
  rw [Option.eq_none_iff_forall_ne_some]
  rintro ⟨name, token, value⟩ h
  obtain ⟨hitems, hname, -⟩ := Json.conditionParts?_eq_some_iff.1 h
  cases items with
  | nil => simp [encodeItems] at hitems
  | cons item rest =>
    rw [encodeItems, List.cons.injEq] at hitems
    have hword := ofWord?_of_encodeItem_eq_string hitems.1
    rw [hname] at hword
    exact absurd hword (by decide)

/-- A nested list is read item by item. -/
lemma decodeItem_encodeItem_list (items : List ListItem) :
    ctx.decodeItem (ctx.encodeItem (.list items)) =
      (ctx.decodeItems (ctx.encodeItems items)).map .list := by
  rw [encodeItem, decodeItem]
  simp only [conditionParts?_encodeItems]

/-- The list of a tree is read item by item. -/
lemma decodeTree_encodeTree_eq_map (tree : Group) :
    ctx.decodeTree (ctx.encodeTree tree) =
      (ctx.decodeItems (ctx.encodeItems tree.toList)).map ConditionList.toGroup := by
  rw [encodeTree, decodeTree]
  · simp only [decodeList, conditionParts?_encodeItems]
  · simp

/-! ### Items that come back -/

/-- A condition comes back as a condition unless the name of its field is a conjunction: its value
is read for the field that the catalog has for the name. -/
lemma decodeItem_encodeCondition_complete {field : Field} (op : Operator) (value : Value)
    (hname : Conjunction.ofWord? field.name = none) :
    ctx.decodeItem (ctx.encodeCondition (.complete field op value)) =
      (ctx.settings.readValue (ctx.catalog.resolve field.name) op
        (ctx.settings.encodeValue field op value)).map fun read =>
          .condition (.complete (ctx.catalog.resolve field.name) op read) := by
  have hparts : Json.conditionParts? [.string field.name, .string op.wireToken,
      ctx.settings.encodeValue field op value] =
        some (field.name, op.wireToken, ctx.settings.encodeValue field op value) :=
    Json.conditionParts?_eq_some_iff.2 ⟨rfl, hname, op.ofWord?_wireToken⟩
  simp only [encodeCondition, Condition.complete, decodeItem, hparts, decodeCondition,
    Operator.ofWireToken?_wireToken]
  cases ctx.settings.readValue (ctx.catalog.resolve field.name) op
    (ctx.settings.encodeValue field op value) with
  | error e => rfl
  | ok read => rfl

/-- A condition whose value fits its operator comes back in normal form, if its field is the one
that the catalog has for its name and is not called like a conjunction. -/
lemma decodeItem_encodeCondition_normal {field : Field} {op : Operator} {value : Value}
    (hshape : value.shape = op.shape) (hresolve : ctx.catalog.resolve field.name = field)
    (hname : Conjunction.ofWord? field.name = none) :
    ctx.decodeItem (ctx.encodeCondition (.complete field op value)) =
      .ok (.condition (ctx.settings.normalCondition (.complete field op value))) := by
  have hvalue := ctx.settings.decodeValue_encodeValue field op value hshape
  rw [decodeItem_encodeCondition_complete op value hname, hresolve, Settings.readValue, hvalue]
  rfl

/-- A condition without a problem comes back in normal form, unless the name of its field is a
conjunction. -/
lemma decodeItem_encodeCondition {c : Condition} (hproblem : c.problem? = none)
    (hresolved : ctx.catalog.Resolved c) (hname : Conjunction.ofWord? c.fieldName = none) :
    ctx.decodeItem (ctx.encodeCondition c) = .ok (.condition (ctx.settings.normalCondition c)) := by
  obtain ⟨field, op, hfield, hop, -, hshape, -⟩ := Condition.problem?_eq_none_iff.1 hproblem
  obtain ⟨cField, cOperator, value⟩ := c
  obtain rfl : cField = some field := hfield
  obtain rfl : cOperator = some op := hop
  exact decodeItem_encodeCondition_normal hshape (hresolved field rfl) hname

/-- The words between children come back with the children. -/
lemma decodeItems_moreItemsOf (conjunction : Conjunction) {children : List Node}
    (h : ∀ child ∈ children,
      ctx.decodeItem (ctx.encodeItem child.toItem) = .ok (ctx.settings.normalNode child).toItem) :
    ctx.decodeItems (ctx.encodeItems (Node.moreItemsOf conjunction children)) =
      .ok (Node.moreItemsOf conjunction (children.map ctx.settings.normalNode)) := by
  induction children with
  | nil => rfl
  | cons child rest ih =>
    have hrest := ih fun other hother => h other (List.mem_cons_of_mem child hother)
    simp only [Node.moreItemsOf, encodeItems, encodeItem, decodeItems, decodeItem,
      Conjunction.ofWord?_token, h child List.mem_cons_self, hrest, Except.map, List.map_cons]

/-- The items of a group come back with its children.  The conjunction is not written for a single
child. -/
lemma decodeItems_itemsOf (conjunction : Conjunction) {children : List Node}
    (h : ∀ child ∈ children,
      ctx.decodeItem (ctx.encodeItem child.toItem) = .ok (ctx.settings.normalNode child).toItem) :
    ctx.decodeItems (ctx.encodeItems (Node.itemsOf conjunction children)) =
      .ok (Node.itemsOf (if children.length = 1 then .and else conjunction)
        (children.map ctx.settings.normalNode)) := by
  cases children with
  | nil => rfl
  | cons child rest =>
    have hrest := decodeItems_moreItemsOf conjunction fun other hother =>
      h other (List.mem_cons_of_mem child hother)
    simp only [Node.itemsOf, encodeItems, decodeItems, h child List.mem_cons_self, hrest,
      Except.map, List.map_cons]
    cases rest with
    | nil => rfl
    | cons second rest => simp

/-- A node comes back in normal form if each of its conditions does. -/
lemma decodeItem_encodeItem_toItem_of_forall {node : Node}
    (h : ∀ c ∈ node.leaves, ctx.decodeItem (ctx.encodeCondition c) =
      .ok (.condition (ctx.settings.normalCondition c))) :
    ctx.decodeItem (ctx.encodeItem node.toItem) = .ok (ctx.settings.normalNode node).toItem := by
  induction node using Node.induction with
  | condition c =>
    rw [Node.leaves_condition, List.forall_mem_singleton] at h
    rw [Node.toItem, encodeItem, h, Settings.normalNode, Node.toItem]
  | group conjunction children ih =>
    rw [Node.leaves_group, List.forall_mem_flatMap] at h
    have hitems := decodeItems_itemsOf conjunction fun child hchild =>
      ih child hchild (h child hchild)
    rw [Node.toItem, decodeItem_encodeItem_list, hitems, Settings.normalNode_group, Node.toItem]
    rfl

/-- The list of a tree comes back as that of its normal form if each of its conditions does. -/
lemma decodeTree_encodeTree_of_forall {tree : Group}
    (h : ∀ c ∈ tree.leaves, ctx.decodeItem (ctx.encodeCondition c) =
      .ok (.condition (ctx.settings.normalCondition c))) :
    ctx.decodeTree (ctx.encodeTree tree) =
      .ok (ConditionList.toGroup (ctx.settings.normalTree tree).toList) := by
  obtain ⟨conjunction, children⟩ := tree
  rw [Group.leaves_mk, List.forall_mem_flatMap] at h
  have hitems := decodeItems_itemsOf conjunction fun child hchild =>
    decodeItem_encodeItem_toItem_of_forall (h child hchild)
  rw [decodeTree_encodeTree_eq_map, Group.toList, hitems, ← Settings.normalNodes_eq_map]
  rfl

/-- **Trees come back in normal form.**  A tree without a defect is written as a condition list
that is read as its normal form. -/
theorem decodeTree_encodeTree {tree : Group} (h : tree.defect? = none)
    (hresolved : ∀ c ∈ tree.leaves, ctx.catalog.Resolved c)
    (hnames : ∀ c ∈ tree.leaves, Conjunction.ofWord? c.fieldName = none) :
    ctx.decodeTree (ctx.encodeTree tree) = .ok (ctx.settings.normalTree tree) := by
  have hcomplete := Group.defect?_eq_none_iff.1 h
  have htidy := ctx.settings.tidy_normalNode hcomplete
  rw [← Settings.group_normalTree] at htidy
  rw [decodeTree_encodeTree_of_forall fun c hc => decodeItem_encodeCondition
    (hcomplete.problem?_eq_none c hc) (hresolved c hc) (hnames c hc)]
  exact congrArg Except.ok (ConditionList.toGroup_toList htidy)

/-! ### Names of fields that are read -/

/-- If some items are read, each of them is. -/
lemma exists_decodeItem_of_decodeItems {items : List Json} :
    ∀ {contents : List ListItem}, ctx.decodeItems items = .ok contents →
      ∀ raw ∈ items, ∃ item, ctx.decodeItem raw = .ok item := by
  induction items with
  | nil => exact fun _ raw hraw => absurd hraw List.not_mem_nil
  | cons first rest ih =>
    intro contents h raw hraw
    obtain ⟨item, tail, hfirst, htail, -⟩ := decodeItems_cons_eq_ok_iff.1 h
    rcases List.mem_cons.1 hraw with rfl | hmem
    · exact ⟨item, hfirst⟩
    · exact ih htail raw hmem

/-- The children of a group are among its items. -/
lemma mem_encodeItems_itemsOf {conjunction : Conjunction} {children : List Node} :
    ∀ child ∈ children,
      ctx.encodeItem child.toItem ∈ ctx.encodeItems (Node.itemsOf conjunction children) := by
  have hmore : ∀ rest : List Node, ∀ child ∈ rest,
      ctx.encodeItem child.toItem ∈ ctx.encodeItems (Node.moreItemsOf conjunction rest) := by
    intro rest
    induction rest with
    | nil => exact fun child hchild => absurd hchild List.not_mem_nil
    | cons first rest ih =>
      intro child hchild
      rw [Node.moreItemsOf, encodeItems, encodeItems]
      rcases List.mem_cons.1 hchild with rfl | hmem
      · exact List.mem_cons_of_mem _ List.mem_cons_self
      · exact List.mem_cons_of_mem _ (List.mem_cons_of_mem _ (ih child hmem))
  intro child hchild
  cases children with
  | nil => exact absurd hchild List.not_mem_nil
  | cons first rest =>
    rw [Node.itemsOf, encodeItems]
    rcases List.mem_cons.1 hchild with rfl | hmem
    · exact List.mem_cons_self
    · exact List.mem_cons_of_mem _ (hmore rest child hmem)

/-- A condition is read only if the name of its field is no conjunction: otherwise it is taken as a
list, and the token of its operator is no item of a list. -/
lemma ofWord?_fieldName_of_decodeItem {c : Condition} (hproblem : c.problem? = none)
    {item : ListItem} (h : ctx.decodeItem (ctx.encodeCondition c) = .ok item) :
    Conjunction.ofWord? c.fieldName = none := by
  obtain ⟨field, op, hfield, hop, -⟩ := Condition.problem?_eq_none_iff.1 hproblem
  have hname : c.fieldName = field.name := by rw [Condition.fieldName, hfield]; rfl
  simp only [encodeCondition, hfield, hop] at h
  rw [decodeItem] at h
  rw [hname]
  cases hword : Conjunction.ofWord? field.name with
  | none => rfl
  | some conjunction =>
    have hparts : Json.conditionParts? [.string field.name, .string op.wireToken,
        ctx.settings.encodeValue field op c.value] = none := by
      simp [Json.conditionParts?, Json.isName, hword]
    simp only [hparts] at h
    obtain ⟨contents, hcontents, -⟩ := exceptMap_eq_ok_iff.1 h
    obtain ⟨token, htoken⟩ := exists_decodeItem_of_decodeItems hcontents
      (.string op.wireToken) (by simp)
    simp [decodeItem, op.ofWord?_wireToken] at htoken

/-- A complete node is read only if no name of a field in it is a conjunction. -/
lemma ofWord?_fieldName_of_decodeItem_toItem {node : Node} (h : node.Complete) :
    ∀ {item : ListItem}, ctx.decodeItem (ctx.encodeItem node.toItem) = .ok item →
      ∀ c ∈ node.leaves, Conjunction.ofWord? c.fieldName = none := by
  induction h with
  | @condition c hc =>
    intro item hitem
    rw [Node.leaves_condition, List.forall_mem_singleton]
    rw [Node.toItem, encodeItem] at hitem
    exact ofWord?_fieldName_of_decodeItem hc hitem
  | @group conjunction children hne hchildren ih =>
    intro item hitem
    rw [Node.leaves_group, List.forall_mem_flatMap]
    rw [Node.toItem, decodeItem_encodeItem_list] at hitem
    obtain ⟨contents, hcontents, -⟩ := exceptMap_eq_ok_iff.1 hitem
    intro child hchild
    obtain ⟨childItem, hchildItem⟩ := exists_decodeItem_of_decodeItems hcontents _
      (mem_encodeItems_itemsOf child hchild)
    exact ih child hchild hchildItem

/-- A tree without a defect is read only if no name of a field in it is a conjunction. -/
theorem ofWord?_fieldName_of_decodeTree {tree read : Group} (h : tree.defect? = none)
    (hread : ctx.decodeTree (ctx.encodeTree tree) = .ok read) :
    ∀ c ∈ tree.leaves, Conjunction.ofWord? c.fieldName = none := by
  have hcomplete := Group.defect?_eq_none_iff.1 h
  obtain ⟨conjunction, children⟩ := tree
  rw [decodeTree_encodeTree_eq_map] at hread
  obtain ⟨contents, hcontents, -⟩ := exceptMap_eq_ok_iff.1 hread
  have hitem : ctx.decodeItem (ctx.encodeItem (Node.group ⟨conjunction, children⟩).toItem) =
      .ok (.list contents) := by
    rw [Node.toItem, decodeItem_encodeItem_list]
    exact congrArg (Except.map ListItem.list) hcontents
  exact ofWord?_fieldName_of_decodeItem_toItem hcomplete hitem

/-! ### Payloads -/

/-- A payload that holds a condition list alone is read as the tree of the list. -/
lemma hydrate_insert_advancedKey (raw : Json) :
    ctx.hydrate (Payload.empty.insert ctx.settings.advancedKey raw) =
      (ctx.decodeTree raw).map fun tree => ⟨.advanced, tree, .empty, .empty⟩ := by
  have hreserved : ctx.isReserved ctx.settings.advancedKey = true := by
    simp [isReserved, Settings.isReserved]
  have hsplit : ctx.split (Payload.empty.insert ctx.settings.advancedKey raw) =
      .ok ⟨.empty, Payload.empty.insert ctx.settings.advancedKey raw⟩ := by
    simp [split, splitEntries, Payload.insert, Payload.empty, Ordered.insert_nil, hreserved]
  have hget : (Payload.empty.insert ctx.settings.advancedKey raw).get? ctx.settings.advancedKey =
      some raw := by
    simp [Payload.get?, Payload.insert, Payload.empty, Ordered.insert_nil, Ordered.get?]
  have herase : (Payload.empty.insert ctx.settings.advancedKey raw).erase
      ctx.settings.advancedKey = .empty := by
    simp [Payload.erase, Payload.insert, Payload.empty, Ordered.insert_nil, Ordered.swapErase,
      Ordered.lastFirst]
  simp only [hydrate, hsplit, hget, herase]
  cases ctx.decodeTree raw with
  | error e => rfl
  | ok tree => rfl

/-- A tree without a defect is sent as a payload that holds its condition list alone. -/
lemma compileAdvanced_eq_ok_iff {tree : Group} {payload : Payload} :
    ctx.compileAdvanced tree = .ok payload ↔
      tree.defect? = none ∧
        Payload.empty.insert ctx.settings.advancedKey (ctx.encodeTree tree) = payload := by
  unfold compileAdvanced
  cases tree.defect? with
  | none => simp
  | some defect => simp

/-- **The round trip of the advanced view.**  A tree that is valid, whose fields are those of the
catalog and are not called like a conjunction, is read back in normal form, from its condition list
and from the payload that it is sent as; in particular a tree in normal form is read back as it
is. -/
theorem advanced_round_trip {tree : Group} (h : tree.defect? = none)
    (hresolved : ∀ c ∈ tree.leaves, ctx.catalog.Resolved c)
    (hnames : ∀ c ∈ tree.leaves, Conjunction.ofWord? c.fieldName = none) :
    ctx.decodeTree (ctx.encodeTree tree) = .ok (ctx.settings.normalTree tree) ∧
      (∃ payload, ctx.compileAdvanced tree = .ok payload ∧
        ctx.hydrate payload = .ok ⟨.advanced, ctx.settings.normalTree tree, .empty, .empty⟩) ∧
      (ctx.settings.normalTree tree = tree → ctx.decodeTree (ctx.encodeTree tree) = .ok tree) := by
  have hdecode := decodeTree_encodeTree h hresolved hnames
  refine ⟨hdecode, ⟨_, compileAdvanced_eq_ok_iff.2 ⟨h, rfl⟩, ?_⟩, fun hnormal => ?_⟩
  · rw [hydrate_insert_advancedKey, hdecode]
    rfl
  · rw [hdecode, hnormal]

/-- A catalog with a boolean field. -/
def enabledContext : Context :=
  ⟨⟨[⟨"enabled", "Enabled", .boolean, []⟩]⟩, .standard⟩

/-- A tree on which the round trip changes a pattern, the text of a boolean field and the
conjunction of a single child. -/
def enabledTree : Group :=
  ⟨.or, [.condition (.complete (.named "subject" .text) .like (.text "%a%b%")),
    .group ⟨.or, [.condition
      (.complete ⟨"enabled", "Enabled", .boolean, []⟩ .equals (.text "TRUE"))]⟩]⟩

/-- The normal form of that tree: the pattern has lost the wildcards around it, the text has become
a label and the group of one child is joined by "and". -/
def enabledNormalTree : Group :=
  ⟨.or, [.condition (.complete (.named "subject" .text) .like (.text "a%b")),
    .group ⟨.and, [.condition
      (.complete ⟨"enabled", "Enabled", .boolean, []⟩ .equals (.text "Yes"))]⟩]⟩

/-- `advanced_round_trip` at a tree that is not in normal form. -/
theorem advanced_round_trip_enabledTree :
    enabledTree.defect? = none ∧
      (∀ c ∈ enabledTree.leaves, enabledContext.catalog.Resolved c) ∧
      (∀ c ∈ enabledTree.leaves, Conjunction.ofWord? c.fieldName = none) ∧
      enabledContext.settings.normalTree enabledTree = enabledNormalTree ∧
      enabledContext.decodeTree (enabledContext.encodeTree enabledTree) = .ok enabledNormalTree ∧
      (∃ payload, enabledContext.compileAdvanced enabledTree = .ok payload ∧
        enabledContext.hydrate payload = .ok ⟨.advanced, enabledNormalTree, .empty, .empty⟩) ∧
      (enabledNormalTree = enabledTree →
        enabledContext.decodeTree (enabledContext.encodeTree enabledTree) = .ok enabledTree) := by
  have hdefect : enabledTree.defect? = none := by decide
  have hresolved : ∀ c ∈ enabledTree.leaves, enabledContext.catalog.Resolved c := by
    rintro c hc field hfield
    rw [enabledTree, Group.leaves_mk, List.flatMap_cons, List.flatMap_singleton,
      Node.leaves_condition, Node.leaves_group, List.flatMap_singleton, Node.leaves_condition,
      List.singleton_append, List.mem_cons, List.mem_singleton] at hc
    rcases hc with rfl | rfl
    · obtain rfl := Option.some.inj hfield
      decide
    · obtain rfl := Option.some.inj hfield
      decide
  have hnames : ∀ c ∈ enabledTree.leaves, Conjunction.ofWord? c.fieldName = none := by decide
  have hnormal : enabledContext.settings.normalTree enabledTree = enabledNormalTree := by decide
  have hround := advanced_round_trip hdefect hresolved hnames
  rw [hnormal] at hround
  exact ⟨hdefect, hresolved, hnames, hnormal, hround⟩

end Context

end RecordFilter
