import Mathlib.Data.Set.List
import RecordFilter.Proofs.SimpleFilters
import RecordFilter.Wire.Filter

/-!
# What the simple view shows of a tree

The fields in the conditions of a tree may not be those that the catalog has for their names, since
a tree can be older than the catalog.  The simple view looks only at the names, so it shows such a
tree as it shows the tree over the fields of the catalog (`ofNodes_map_resolveCondition`).  Which
trees it shows follows from what is known of those (`ofTree_eq_ok_iff_leaves`).

Where it refuses a tree because of a condition, it has come to that condition as the search for a
defect of the tree does, which therefore stops at the same place (`defect?_of_ofTree`).
-/

namespace RecordFilter

namespace Catalog

/-- A condition with the field that a catalog has for the name of its own. -/
def resolveCondition (catalog : Catalog) (c : Condition) : Condition :=
  { c with field := c.field.map fun field => catalog.resolve field.name }

/-- The field of a resolved condition is that of the catalog. -/
lemma resolved_resolveCondition (catalog : Catalog) (c : Condition) :
    catalog.Resolved (catalog.resolveCondition c) := by
  intro field hfield
  obtain ⟨old, -, rfl⟩ := Option.map_eq_some_iff.1 hfield
  rw [name_resolve]

/-- The name of the field is kept. -/
@[simp] lemma fieldName_resolveCondition (catalog : Catalog) (c : Condition) :
    (catalog.resolveCondition c).fieldName = c.fieldName := by
  rw [Condition.fieldName, Condition.fieldName, resolveCondition, Option.map_map]
  simp only [Function.comp_def, name_resolve]

/-- The search for a problem looks at nothing of the field but its name. -/
@[simp] lemma problem?_resolveCondition (catalog : Catalog) (c : Condition) :
    (catalog.resolveCondition c).problem? = c.problem? := by
  rw [Condition.problem?, Condition.problem?, fieldName_resolveCondition]
  rfl

end Catalog

namespace Node

/-- A node is a condition if it is not a group. -/
lemma isCondition_iff {node : Node} : node.isCondition = true ↔ node.group? = none := by
  cases node with
  | condition c => simp [isCondition, group?]
  | group g => simp [isCondition, group?]

/-- Conditions are the conditions of themselves. -/
lemma leaves_map_condition (conditions : List Condition) :
    (conditions.map Node.condition).flatMap leaves = conditions := by
  simp [List.flatMap_map]

/-- Where no node is a group, the nodes are their conditions. -/
lemma exists_conditions_of_isCondition {nodes : List Node}
    (h : ∀ node ∈ nodes, node.isCondition = true) :
    ∃ conditions : List Condition, conditions.map .condition = nodes := by
  change nodes ∈ Set.range (List.map Node.condition)
  rw [Set.range_list_map]
  intro node hnode
  have hcondition := h node hnode
  cases node with
  | condition c => exact ⟨c, rfl⟩
  | group g => simp [isCondition] at hcondition

end Node

namespace Group

/-- A group is flat if no child is a group. -/
lemma isFlat_iff {g : Group} : g.isFlat = true ↔ ∀ child ∈ g.children, child.group? = none := by
  simp only [isFlat, List.all_eq_true, Node.isCondition_iff]

/-- The children of a flat group are its conditions. -/
lemma children_eq_of_isFlat {g : Group} (h : g.isFlat = true) :
    g.children = g.leaves.map .condition := by
  obtain ⟨conditions, hchildren⟩ := Node.exists_conditions_of_isCondition (List.all_eq_true.1 h)
  rw [leaves_eq_flatMap, ← hchildren, Node.leaves_map_condition]

end Group

namespace SimpleFilters

variable {catalog : Catalog}

/-! ### Fields that the catalog has otherwise -/

/-- Conditions are added to filters as they are over the fields of a catalog. -/
lemma ofNodes_map_resolveCondition (catalog : Catalog) {conditions : List Condition} :
    ∀ {f : SimpleFilters} {index : Nat},
      ofNodes f index (conditions.map fun c => .condition (catalog.resolveCondition c)) =
        ofNodes f index (conditions.map .condition) := by
  induction conditions with
  | nil => exact rfl
  | cons c rest ih =>
    intro f index
    have hdefect : (catalog.resolveCondition c).defect? = c.defect? := by
      rw [Condition.defect?, Condition.defect?, catalog.problem?_resolveCondition]
    rw [List.map_cons, List.map_cons, ofNodes, ofNodes, hdefect]
    simp only [ih]
    obtain ⟨field, operator, value⟩ := c
    cases field with
    | none => rfl
    | some field =>
      cases operator with
      | none => rfl
      | some op => simp only [Catalog.resolveCondition, Option.map_some, Catalog.name_resolve]

/-- Conditions and pairs are compared as nodes or by themselves. -/
lemma map_node_condition_eq_iff {entries : List (String × SimpleFilter)}
    {conditions : List Condition} :
    entries.map (fun entry => Node.condition (condition catalog entry)) =
        conditions.map (fun c => .condition (catalog.resolveCondition c)) ↔
      entries.map (condition catalog) = conditions.map catalog.resolveCondition := by
  rw [← List.map_inj_right (f := Node.condition) fun _ _ => Node.condition.inj, List.map_map,
    List.map_map]
  rfl

/-- Complete conditions are those of some pairs, up to their fields. -/
lemma exists_entries_of_problem?_eq_none {conditions : List Condition}
    (h : ∀ c ∈ conditions, c.problem? = none) :
    ∃ entries : List (String × SimpleFilter),
      entries.map (condition catalog) = conditions.map catalog.resolveCondition := by
  change _ ∈ Set.range (List.map (condition catalog))
  rw [Set.range_list_map]
  refine List.forall_mem_map.2 fun c hc => ?_
  have hproblem := (catalog.problem?_resolveCondition c).trans (h c hc)
  exact exists_entry_of_problem?_eq_none hproblem (catalog.resolved_resolveCondition c)

/-- Conditions that are filters are those of some pairs, up to their fields. -/
lemma exists_entries_of_ofNodes_conditions {conditions : List Condition} {f filters : SimpleFilters}
    {index : Nat} (h : ofNodes f index (conditions.map .condition) = .ok filters) :
    ∃ entries : List (String × SimpleFilter),
      entries.map (condition catalog) = conditions.map catalog.resolveCondition := by
  rw [← ofNodes_map_resolveCondition catalog] at h
  have hresolved : ∀ node ∈ conditions.map fun c => Node.condition (catalog.resolveCondition c),
      ∀ c ∈ node.leaves, catalog.Resolved c := by
    refine List.forall_mem_map.2 fun c _ => ?_
    rw [Node.leaves_condition, List.forall_mem_singleton]
    exact catalog.resolved_resolveCondition c
  obtain ⟨entries, hentries⟩ := exists_entries_of_ofNodes h hresolved
  exact ⟨entries, map_node_condition_eq_iff.1 hentries⟩

/-- Conditions that are those of some pairs, up to their fields, are filters just when they are
complete and on distinct fields, and then the filters are the pairs. -/
lemma ofNodes_conditions_eq_ok_iff_of_entries {conditions : List Condition}
    {filters : SimpleFilters} {entries : List (String × SimpleFilter)}
    (h : entries.map (condition catalog) = conditions.map catalog.resolveCondition) :
    ofNodes empty 0 (conditions.map .condition) = .ok filters ↔
      (∀ c ∈ conditions, c.problem? = none) ∧ (conditions.map Condition.fieldName).Nodup ∧
        ⟨entries⟩ = filters := by
  have hcomplete : (∀ entry ∈ entries, (condition catalog entry).problem? = none) ↔
      ∀ c ∈ conditions, c.problem? = none := by
    rw [← List.forall_mem_map (P := fun c : Condition => c.problem? = none), h, List.forall_mem_map]
    simp only [catalog.problem?_resolveCondition]
  have hnames : Ordered.keys entries = conditions.map Condition.fieldName := by
    have hfields := congrArg (List.map Condition.fieldName) h
    simpa [Function.comp_def, condition, Condition.fieldName_complete, Catalog.name_resolve,
      Ordered.keys] using hfields
  rw [← ofNodes_map_resolveCondition catalog, ← map_node_condition_eq_iff.2 h,
    ofNodes_map_condition_eq_ok_iff (f := empty) List.nodup_nil, hcomplete, ← hnames]
  rfl

/-! ### The trees that are shown -/

/-- The filters of a tree, for a tree over any fields: it has one level, is not a choice of several
conditions, its conditions are complete and on distinct fields, and the filters say the same. -/
theorem ofTree_eq_ok_iff_leaves (catalog : Catalog) {tree : Group} {f : SimpleFilters} :
    ofTree tree = .ok f ↔
      tree.isFlat = true ∧ ¬(tree.conjunction = .or ∧ 1 < tree.size) ∧
        (∀ c ∈ tree.leaves, c.problem? = none) ∧ (tree.leaves.map Condition.fieldName).Nodup ∧
          f.entries.map (condition catalog) = tree.leaves.map catalog.resolveCondition := by
  rw [ofTree_eq_ok_iff]
  refine and_congr_right fun hflat => and_congr_right fun _ => ?_
  rw [Group.children_eq_of_isFlat hflat]
  constructor
  · intro h
    obtain ⟨entries, hentries⟩ := exists_entries_of_ofNodes_conditions h
    obtain ⟨hcomplete, hnames, rfl⟩ := (ofNodes_conditions_eq_ok_iff_of_entries hentries).1 h
    exact ⟨hcomplete, hnames, hentries⟩
  · rintro ⟨hcomplete, hnames, hentries⟩
    exact (ofNodes_conditions_eq_ok_iff_of_entries hentries).2 ⟨hcomplete, hnames, rfl⟩

/-- A tree is shown just when it has one level, is joined by "and" or has one child at most, and its
conditions are complete and on distinct fields. -/
theorem exists_ofTree_eq_ok_iff {tree : Group} :
    (∃ f, ofTree tree = .ok f) ↔
      (∀ child ∈ tree.children, child.group? = none) ∧
        (tree.conjunction = .and ∨ tree.size ≤ 1) ∧
          (∀ c ∈ tree.leaves, c.defect? = none) ∧
            (tree.leaves.map Condition.fieldName).Nodup := by
  have hjoined : ¬(tree.conjunction = .or ∧ 1 < tree.size) ↔
      tree.conjunction = .and ∨ tree.size ≤ 1 := by
    cases tree.conjunction with
    | and => simp
    | or => simp
  simp only [ofTree_eq_ok_iff_leaves .empty, ← Group.isFlat_iff, ← hjoined,
    Condition.defect?_eq_none_iff]
  constructor
  · rintro ⟨f, hflat, hor, hcomplete, hnames, -⟩
    exact ⟨hflat, hor, hcomplete, hnames⟩
  · rintro ⟨hflat, hor, hcomplete, hnames⟩
    obtain ⟨entries, hentries⟩ := exists_entries_of_problem?_eq_none hcomplete
    exact ⟨⟨entries⟩, hflat, hor, hcomplete, hnames, hentries⟩

/-- The tree of the filters of a tree has its conditions, over the fields of the catalog. -/
theorem toTree_of_ofTree {tree : Group} {f : SimpleFilters} (h : ofTree tree = .ok f) :
    f.toTree catalog = .all (tree.leaves.map fun c => .condition (catalog.resolveCondition c)) := by
  obtain ⟨-, -, -, -, hentries⟩ := (ofTree_eq_ok_iff_leaves catalog).1 h
  exact congrArg Group.all (map_node_condition_eq_iff.2 hentries)

/-! ### Incomplete conditions -/

/-- The condition because of which nodes are not filters is the first defect among them. -/
lemma defectAmong?_of_ofNodes {nodes : List Node} {defect : Defect} :
    ∀ {f : SimpleFilters} {index : Nat}, ofNodes f index nodes = .error (.incomplete defect) →
      Node.defectAmong? none [] index nodes = some defect := by
  induction nodes with
  | nil =>
    intro f index h
    simp [ofNodes] at h
  | cons node rest ih =>
    intro f index h
    cases node with
    | group g => simp [ofNodes] at h
    | condition c =>
      rw [ofNodes, Condition.defect?] at h
      rw [Node.defectAmong?, Node.defectAt?]
      cases hproblem : c.problem? with
      | some problem =>
        rw [hproblem] at h
        simpa [Defect.under] using h
      | none =>
        rw [hproblem] at h
        simp only [Option.map_none] at h ⊢
        split at h
        · split_ifs at h with hcontains
          · simp at h
          · exact ih h
        · exact ih h

/-- The condition because of which a tree is not shown is the first defect of the tree. -/
theorem defect?_of_ofTree {tree : Group} {defect : Defect}
    (h : ofTree tree = .error (.incomplete defect)) : tree.defect? = some defect := by
  obtain ⟨conjunction, children⟩ := tree
  rw [ofTree] at h
  split_ifs at h with hflat hor
  · simp at h
  · simp at h
  have hdefect := defectAmong?_of_ofNodes h
  have hne : children ≠ [] := by
    rintro rfl
    simp [Node.defectAmong?] at hdefect
  rw [Group.defect?, Node.defectAt?, if_neg (by simp [hne]), hdefect]

end SimpleFilters

namespace Context

/-- The simple view shows just the trees of one level whose conditions are complete, on distinct
fields, and joined by "and" unless there is only one.  Its filters are the tree again, over the
fields of the catalog, and complete filters with distinct names are those of their tree.  Where an
incomplete condition keeps it from showing a tree, this is the first defect of the tree. -/
theorem simple_tree_exact (ctx : Context) (tree : Group) :
    ((∃ f, SimpleFilters.ofTree tree = .ok f) ↔
      (∀ child ∈ tree.children, child.group? = none) ∧
        (tree.conjunction = .and ∨ tree.size ≤ 1) ∧
          (∀ c ∈ tree.leaves, c.defect? = none) ∧
            (tree.leaves.map Condition.fieldName).Nodup) ∧
      (∀ defect, SimpleFilters.ofTree tree = .error (.incomplete defect) →
        tree.defect? = some defect) ∧
      (∀ f, SimpleFilters.ofTree tree = .ok f →
        tree.children = tree.leaves.map .condition ∧
          f.toTree ctx.catalog =
            .all (tree.leaves.map fun c => .condition (ctx.catalog.resolveCondition c))) ∧
      (∀ f : SimpleFilters, f.names.Nodup →
        (∀ entry ∈ f.entries, (SimpleFilters.condition ctx.catalog entry).defect? = none) →
          SimpleFilters.ofTree (f.toTree ctx.catalog) = .ok f ∧
            ctx.compile .simple (f.toTree ctx.catalog) = .ok (ctx.encodeFilters f)) := by
  refine ⟨SimpleFilters.exists_ofTree_eq_ok_iff, fun _ => SimpleFilters.defect?_of_ofTree, ?_, ?_⟩
  · intro f hf
    have hflat := (SimpleFilters.ofTree_eq_ok_iff.1 hf).1
    exact ⟨Group.children_eq_of_isFlat hflat, SimpleFilters.toTree_of_ofTree hf⟩
  · intro f hnames hcomplete
    have hback : SimpleFilters.ofTree (f.toTree ctx.catalog) = .ok f :=
      SimpleFilters.ofTree_toTree_eq_ok_iff.2
        ⟨fun entry hentry => Condition.defect?_eq_none_iff.1 (hcomplete entry hentry), hnames, rfl⟩
    refine ⟨hback, ?_⟩
    rw [compile, hback]
    rfl

/-- Conditions on two fields, one of them with a label that the catalog does not have. -/
def staleTree : Group :=
  ⟨.and, [.condition (.complete ⟨"status", "Status", .text, []⟩ .equals (.text "Open")),
    .condition (.complete (.named "owner" .text) .like (.text "ann"))]⟩

/-- A condition that is alone under "or". -/
def loneTree : Group :=
  ⟨.or, [.condition (.complete (.named "status" .text) .equals (.text "Open"))]⟩

/-- `simple_tree_exact` at trees that are not the trees of their filters. -/
theorem simple_tree_exact_staleTree :
    (∃ f, SimpleFilters.ofTree staleTree = .ok f ∧ f.names = ["status", "owner"] ∧
      f.toTree .empty =
        .all [.condition (.complete (.named "status" .text) .equals (.text "Open")),
          .condition (.complete (.named "owner" .text) .like (.text "ann"))] ∧
      SimpleFilters.ofTree (f.toTree .empty) = .ok f ∧
        compile ⟨.empty, .standard⟩ .simple (f.toTree .empty) =
          .ok (encodeFilters ⟨.empty, .standard⟩ f)) ∧
      ∃ f, SimpleFilters.ofTree loneTree = .ok f ∧
        f.toTree .empty =
          .all [.condition (.complete (.named "status" .text) .equals (.text "Open"))] := by
  constructor
  · obtain ⟨hshown, -, htree, hback⟩ := simple_tree_exact ⟨.empty, .standard⟩ staleTree
    obtain ⟨f, hf⟩ := hshown.2 ⟨by decide, by decide, by decide, by decide⟩
    have hfilters : f = ⟨[("status", ⟨.equals, .text "Open"⟩), ("owner", ⟨.like, .text "ann"⟩)]⟩ :=
      Except.ok.inj (hf.symm.trans (by decide))
    subst hfilters
    exact ⟨_, hf, rfl, (htree _ hf).2, hback _ (by decide) (by decide)⟩
  · obtain ⟨hshown, -, htree, -⟩ := simple_tree_exact ⟨.empty, .standard⟩ loneTree
    obtain ⟨f, hf⟩ := hshown.2 ⟨by decide, by decide, by decide, by decide⟩
    exact ⟨f, hf, (htree f hf).2⟩

end Context

end RecordFilter
