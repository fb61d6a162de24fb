import RecordFilter.Proofs.Wire.Reserved
import RecordFilter.Proofs.Wire.Steady

/-!
# Filters that are sent again

A filter that has been sent and read back can be sent once more.  In either mode it is the same
payload just when every condition in it is steady (`compile_hydrated_eq_ok_iff`).
-/

namespace RecordFilter

namespace Context

variable {ctx : Context}

/-! ### Trees -/

/-- The normal form of a complete node is complete if its conditions are. -/
lemma complete_normalNode_iff (s : Settings) {node : Node} (h : node.Complete) :
    (s.normalNode node).Complete ↔ ∀ c ∈ node.leaves, (s.normalCondition c).problem? = none := by
  induction h with
  | @condition c hc =>
    rw [Settings.normalNode, Node.complete_condition_iff, Node.leaves_condition,
      List.forall_mem_singleton]
  | @group conjunction children hne hchildren ih =>
    rw [Settings.normalNode_group, Node.complete_group_iff, Node.leaves_group,
      List.forall_mem_flatMap, List.forall_mem_map]
    have hsome : children.map s.normalNode ≠ [] := by simpa using hne
    rw [and_iff_right hsome]
    exact forall₂_congr ih

/-- The children that follow are sent as before if each of them is. -/
lemma encodeItems_moreItemsOf_eq_iff (conjunction : Conjunction) (children : List Node) :
    ctx.encodeItems (Node.moreItemsOf conjunction (children.map ctx.settings.normalNode)) =
        ctx.encodeItems (Node.moreItemsOf conjunction children) ↔
      ∀ child ∈ children, ctx.encodeItem (ctx.settings.normalNode child).toItem =
        ctx.encodeItem child.toItem := by
  induction children with
  | nil => simp [Node.moreItemsOf]
  | cons child rest ih =>
    rw [List.forall_mem_cons, ← ih]
    simp [Node.moreItemsOf, encodeItems]

/-- The items of a group are sent as before if each of its children is.  The conjunction is not sent
for a single child. -/
lemma encodeItems_itemsOf_eq_iff (conjunction : Conjunction) (children : List Node) :
    ctx.encodeItems (Node.itemsOf (if children.length = 1 then .and else conjunction)
        (children.map ctx.settings.normalNode)) =
        ctx.encodeItems (Node.itemsOf conjunction children) ↔
      ∀ child ∈ children, ctx.encodeItem (ctx.settings.normalNode child).toItem =
        ctx.encodeItem child.toItem := by
  cases children with
  | nil => simp [Node.itemsOf]
  | cons child rest =>
    rw [List.forall_mem_cons, ← encodeItems_moreItemsOf_eq_iff conjunction rest]
    cases rest with
    | nil => simp [Node.itemsOf, Node.moreItemsOf, encodeItems]
    | cons second rest => simp [Node.itemsOf, encodeItems]

/-- The normal form of a node is sent as the node is just when its conditions are. -/
lemma encodeItem_normalNode_eq_iff (node : Node) :
    ctx.encodeItem (ctx.settings.normalNode node).toItem = ctx.encodeItem node.toItem ↔
      ∀ c ∈ node.leaves,
        ctx.encodeCondition (ctx.settings.normalCondition c) = ctx.encodeCondition c := by
  induction node using Node.induction with
  | condition c =>
    rw [Settings.normalNode, Node.toItem, Node.toItem, encodeItem, encodeItem,
      Node.leaves_condition, List.forall_mem_singleton]
  | group conjunction children ih =>
    rw [Settings.normalNode_group, Node.toItem, Node.toItem, encodeItem, encodeItem,
      Json.array.injEq, encodeItems_itemsOf_eq_iff, Node.leaves_group, List.forall_mem_flatMap]
    exact forall₂_congr ih

/-- The normal form of a tree without a defect is sent as the tree is just when every condition is
steady. -/
theorem compileAdvanced_normalTree_eq_ok_iff {tree : Group} {payload : Payload}
    (h : ctx.compileAdvanced tree = .ok payload) :
    ctx.compileAdvanced (ctx.settings.normalTree tree) = .ok payload ↔
      ∀ c ∈ tree.leaves, ctx.settings.Steady c := by
  obtain ⟨hdefect, rfl⟩ := compileAdvanced_eq_ok_iff.1 h
  have hcomplete := Group.defect?_eq_none_iff.1 hdefect
  have hsteady : ∀ c ∈ tree.leaves, (ctx.settings.Steady c ↔ _) :=
    fun c hc => steady_iff (hcomplete.problem?_eq_none c hc)
  have hinsert : ∀ raw : Json, Payload.empty.insert ctx.settings.advancedKey raw =
      Payload.empty.insert ctx.settings.advancedKey (ctx.encodeTree tree) ↔
        raw = ctx.encodeTree tree := by
    intro raw
    simp [Payload.insert, Payload.empty, Ordered.insert_nil]
  have htree : ctx.encodeTree (ctx.settings.normalTree tree) = ctx.encodeTree tree ↔
      ∀ c ∈ tree.leaves,
        ctx.encodeCondition (ctx.settings.normalCondition c) = ctx.encodeCondition c := by
    obtain ⟨conjunction, children⟩ := tree
    refine Iff.trans ?_ (encodeItem_normalNode_eq_iff (.group ⟨conjunction, children⟩))
    rw [← Settings.group_normalTree]
    rfl
  rw [compileAdvanced_eq_ok_iff, Group.defect?_eq_none_iff, Settings.group_normalTree,
    complete_normalNode_iff ctx.settings hcomplete, hinsert, htree]
  constructor
  · rintro ⟨hproblem, hsame⟩ c hc
    exact (hsteady c hc).2 ⟨hproblem c hc, hsame c hc⟩
  · intro h
    exact ⟨fun c hc => ((hsteady c hc).1 (h c hc)).1, fun c hc => ((hsteady c hc).1 (h c hc)).2⟩

/-! ### Simple filters -/

/-- The normal form of a filter is sent as the filter is just when its condition is. -/
lemma encodeEntry_normalFilter_eq_iff (entry : String × SimpleFilter) :
    ctx.encodeEntry entry.1 (ctx.normalFilter entry.1 entry.2) =
        ctx.encodeEntry entry.1 entry.2 ↔
      ctx.encodeCondition
          (ctx.settings.normalCondition (SimpleFilters.condition ctx.catalog entry)) =
        ctx.encodeCondition (SimpleFilters.condition ctx.catalog entry) := by
  obtain ⟨name, ⟨op, value⟩⟩ := entry
  by_cases hequals : op = .equals
  · simp [encodeEntry, normalFilter, hequals, encodeCondition, SimpleFilters.condition,
      Settings.normalCondition, Condition.complete]
  · simp [encodeEntry, normalFilter, hequals, encodeCondition, SimpleFilters.condition,
      Settings.normalCondition, Condition.complete]

/-- A tree is sent in simple mode as the filters that show it. -/
lemma compile_simple_eq_ok_iff {tree : Group} {payload : Payload} :
    ctx.compile .simple tree = .ok payload ↔
      ∃ f, SimpleFilters.ofTree tree = .ok f ∧ ctx.encodeFilters f = payload := by
  rw [compile, exceptMap_eq_ok_iff]
  simp only [exceptMapError_eq_ok_iff]

/-- The normal forms of complete filters are sent as the filters are just when their conditions are
steady. -/
theorem compile_simple_normalFilters_eq_ok_iff {f : SimpleFilters}
    (hkeys : (Ordered.keys f.entries).Nodup)
    (hcomplete : ∀ entry ∈ f.entries,
      (SimpleFilters.condition ctx.catalog entry).problem? = none) :
    ctx.compile .simple ((ctx.normalFilters f).toTree ctx.catalog) = .ok (ctx.encodeFilters f) ↔
      ∀ entry ∈ f.entries,
        ctx.settings.Steady (SimpleFilters.condition ctx.catalog entry) := by
  have hsteady : ∀ entry ∈ f.entries,
      (ctx.settings.Steady (SimpleFilters.condition ctx.catalog entry) ↔ _) :=
    fun entry hentry => steady_iff (hcomplete entry hentry)
  have hkeys' : (Ordered.keys (ctx.normalFilters f).entries).Nodup := by
    simpa [Ordered.keys, normalFilters, Function.comp_def] using hkeys
  have hproblem : (∀ entry ∈ (ctx.normalFilters f).entries,
      (SimpleFilters.condition ctx.catalog entry).problem? = none) ↔
        ∀ entry ∈ f.entries, (ctx.settings.normalCondition
          (SimpleFilters.condition ctx.catalog entry)).problem? = none := by
    rw [normalFilters, List.forall_mem_map]
    rfl
  have hpayload : ctx.encodeFilters (ctx.normalFilters f) = ctx.encodeFilters f ↔
      ∀ entry ∈ f.entries, ctx.encodeCondition
          (ctx.settings.normalCondition (SimpleFilters.condition ctx.catalog entry)) =
        ctx.encodeCondition (SimpleFilters.condition ctx.catalog entry) := by
    rw [Payload.eq_iff_entries_eq, entries_encodeFilters hkeys, entries_encodeFilters hkeys',
      normalFilters, List.map_map, List.map_inj_left]
    refine forall₂_congr fun entry _ => ?_
    rw [← encodeEntry_normalFilter_eq_iff, Function.comp_apply, Prod.mk.injEq]
    exact and_iff_right rfl
  rw [compile_simple_eq_ok_iff]
  simp only [SimpleFilters.ofTree_toTree_eq_ok_iff]
  constructor
  · rintro ⟨_, ⟨hdone, -, rfl⟩, hsame⟩ entry hentry
    exact (hsteady entry hentry).2 ⟨hproblem.1 hdone entry hentry, hpayload.1 hsame entry hentry⟩
  · intro h
    refine ⟨_, ⟨hproblem.2 fun entry hentry => ?_, hkeys', rfl⟩, hpayload.2 fun entry hentry => ?_⟩
    · exact ((hsteady entry hentry).1 (h entry hentry)).1
    · exact ((hsteady entry hentry).1 (h entry hentry)).2

/-- **Sending again.**  A filter that has been sent in either mode and read back is sent again as
the same payload just when every condition in it is steady. -/
theorem compile_hydrated_eq_ok_iff {mode : Mode} {tree : Group} {payload : Payload}
    {back : Hydrated} (hcompile : ctx.compile mode tree = .ok payload)
    (hhydrate : ctx.hydrate payload = .ok back)
    (hresolved : ∀ c ∈ tree.leaves, ctx.catalog.Resolved c)
    (hreserved : mode = .simple → ∀ c ∈ tree.leaves, ctx.isReserved c.fieldName = false) :
    ctx.compile back.mode back.tree = .ok payload ↔
      ∀ c ∈ tree.leaves, ctx.settings.Steady c := by
  cases mode with
  | advanced =>
    obtain ⟨hdefect, rfl⟩ := compileAdvanced_eq_ok_iff.1 hcompile
    rw [hydrate_insert_advancedKey] at hhydrate
    obtain ⟨read, hread, rfl⟩ := exceptMap_eq_ok_iff.1 hhydrate
    have hnames := ofWord?_fieldName_of_decodeTree hdefect hread
    obtain rfl := Except.ok.inj
      ((decodeTree_encodeTree hdefect hresolved hnames).symm.trans hread)
    exact compileAdvanced_normalTree_eq_ok_iff hcompile
  | simple =>
    obtain ⟨f, htree, rfl⟩ := compile_simple_eq_ok_iff.1 hcompile
    obtain ⟨hleaves, hcomplete, hkeys⟩ := SimpleFilters.leaves_of_ofTree htree hresolved
    have hreserved := hreserved rfl
    rw [hleaves, List.forall_mem_map] at hreserved ⊢
    have hback := hydrate_encodeFilters hkeys
      (fun entry hentry => by
        obtain ⟨_, op, -, hop, -, hshape, -⟩ :=
          Condition.problem?_eq_none_iff.1 (hcomplete entry hentry)
        obtain rfl := Option.some.inj hop
        exact hshape)
      (fun entry hentry => by
        have hname := hreserved entry hentry
        rwa [SimpleFilters.condition, Condition.fieldName_complete, Catalog.name_resolve] at hname)
    obtain rfl := Except.ok.inj (hback.symm.trans hhydrate)
    exact compile_simple_normalFilters_eq_ok_iff hkeys hcomplete

/-- A filter by one pattern. -/
def patternFilters (pattern : String) : SimpleFilters :=
  ⟨[("subject", ⟨.like, .text pattern⟩)]⟩

/-- The tree of a filter by one pattern. -/
def patternTree (pattern : String) : Group :=
  (patternFilters pattern).toTree .empty

/-- `compile_hydrated_eq_ok_iff` at a pattern that is sent again as it was. -/
theorem compile_hydrated_eq_ok_iff_patternTree :
    compile ⟨.empty, .standard⟩ .simple (patternTree "%abc%") =
        .ok (encodeFilters ⟨.empty, .standard⟩ (patternFilters "%abc%")) ∧
      hydrate ⟨.empty, .standard⟩ (encodeFilters ⟨.empty, .standard⟩ (patternFilters "%abc%")) =
        .ok ⟨.simple, patternTree "abc", patternFilters "abc", .empty⟩ ∧
      (∀ c ∈ (patternTree "%abc%").leaves, Catalog.empty.Resolved c) ∧
      (Mode.simple = .simple → ∀ c ∈ (patternTree "%abc%").leaves,
        isReserved ⟨.empty, .standard⟩ c.fieldName = false) ∧
      (compile ⟨.empty, .standard⟩ .simple (patternTree "abc") =
          .ok (encodeFilters ⟨.empty, .standard⟩ (patternFilters "%abc%")) ↔
        ∀ c ∈ (patternTree "%abc%").leaves, Settings.standard.Steady c) := by
  have hcompile : compile ⟨.empty, .standard⟩ .simple (patternTree "%abc%") =
      .ok (encodeFilters ⟨.empty, .standard⟩ (patternFilters "%abc%")) := by decide
  have hhydrate :
      hydrate ⟨.empty, .standard⟩ (encodeFilters ⟨.empty, .standard⟩ (patternFilters "%abc%")) =
        .ok ⟨.simple, patternTree "abc", patternFilters "abc", .empty⟩ := by decide
  have hresolved : ∀ c ∈ (patternTree "%abc%").leaves, Catalog.empty.Resolved c := by
    rintro c hc field hfield
    obtain rfl := List.mem_singleton.1 hc
    obtain rfl := Option.some.inj hfield
    decide
  have hreserved : Mode.simple = .simple → ∀ c ∈ (patternTree "%abc%").leaves,
      isReserved ⟨.empty, .standard⟩ c.fieldName = false := by decide
  exact ⟨hcompile, hhydrate, hresolved, hreserved,
    compile_hydrated_eq_ok_iff hcompile hhydrate hresolved hreserved⟩

/-- A pattern with a wildcard at both ends and one in the middle is not sent again as it was: it
loses the wildcards at its ends. -/
theorem compile_hydrated_ne_patternTree :
    (∀ c ∈ (patternTree "%a%b%").leaves, Catalog.empty.Resolved c ∧
      isReserved ⟨.empty, .standard⟩ c.fieldName = false) ∧
    compile ⟨.empty, .standard⟩ .simple (patternTree "%a%b%") =
      .ok (encodeFilters ⟨.empty, .standard⟩ (patternFilters "%a%b%")) ∧
    hydrate ⟨.empty, .standard⟩ (encodeFilters ⟨.empty, .standard⟩ (patternFilters "%a%b%")) =
      .ok ⟨.simple, patternTree "a%b", patternFilters "a%b", .empty⟩ ∧
    compile ⟨.empty, .standard⟩ .simple (patternTree "a%b") =
      .ok (encodeFilters ⟨.empty, .standard⟩ (patternFilters "a%b")) ∧
    encodeFilters ⟨.empty, .standard⟩ (patternFilters "a%b") ≠
      encodeFilters ⟨.empty, .standard⟩ (patternFilters "%a%b%") := by
  refine ⟨?_, by decide, by decide, by decide, by decide⟩
  rintro c hc
  obtain rfl := List.mem_singleton.1 hc
  refine ⟨fun field hfield => ?_, by decide⟩
  obtain rfl := Option.some.inj hfield
  decide

end Context

end RecordFilter
