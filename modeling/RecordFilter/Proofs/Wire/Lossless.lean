import RecordFilter.Proofs.Wire.Reading

/-!
# Reading loses nothing

Every entry of a payload that is read is found again in what is shown of it.  A reserved key keeps
its JSON value, and every other key is one condition: in simple mode these are the simple filters,
and in advanced mode they stand in front of the tree that is read under the advanced key.  The two
are put together in different ways, but the tree always holds just when the conditions and that
tree do (`holds_inFront`).

The main statement is `hydrate_keeps`.
-/

namespace RecordFilter

/-! ### Conditions and trees -/

namespace Group

/-- A group holds if all its children do, where it is joined by "and" or has no two children to be
joined. -/
lemma holds_eq_all (truth : Condition → Bool) {g : Group} (h : g.conjunction = .and ∨ g.size ≤ 1) :
    g.holds truth = g.children.all (Node.holds truth) := by
  obtain ⟨conjunction, children⟩ := g
  cases conjunction with
  | and => exact Node.holds_and truth children
  | or =>
    have hsize : children.length ≤ 1 := h.resolve_left (by simp)
    rw [holds_mk, Node.holds_or]
    match children, hsize with
    | [], _ => rfl
    | [child], _ => simp

end Group

namespace SimpleFilters

/-- The conditions of some filters, in order. -/
def conditions (catalog : Catalog) (f : SimpleFilters) : List Condition :=
  f.entries.map (condition catalog)

/-- There are as many conditions as filters. -/
lemma length_conditions (catalog : Catalog) (f : SimpleFilters) :
    (f.conditions catalog).length = f.size :=
  List.length_map _

variable {catalog : Catalog} (f : SimpleFilters)

/-- The tree of some filters is the group of their conditions. -/
lemma toTree_eq_conditions :
    f.toTree catalog = .all ((f.conditions catalog).map Node.condition) := by
  rw [toTree, conditions, List.map_map]
  rfl

/-- The tree of some filters has their conditions. -/
lemma leaves_toTree : (f.toTree catalog).leaves = f.conditions catalog := by
  rw [toTree_eq_conditions, Group.all, Group.leaves_mk, List.flatMap_map]
  simp only [Node.leaves_condition, List.flatMap_singleton']

/-- The tree of some filters holds if their conditions do. -/
lemma holds_toTree (truth : Condition → Bool) :
    (f.toTree catalog).holds truth = (f.conditions catalog).all truth := by
  rw [toTree_eq_conditions, Group.holds_eq_all truth (.inl rfl), Group.all, List.all_map]
  refine congrArg (List.all _) (funext fun c => ?_)
  rw [Function.comp_apply, Node.holds_condition]

end SimpleFilters

namespace Context

variable {ctx : Context}

/-- Conditions joined by "and" that are put in front of a tree hold together with it, whichever way
they are put there. -/
lemma holds_mergeTrees (truth : Condition → Bool) (leading : List Node) (tree : Group) :
    (mergeTrees (.all leading) tree).holds truth =
      ((Group.all leading).holds truth && tree.holds truth) := by
  rw [Group.holds_eq_all truth (.inl rfl : (Group.all leading).conjunction = .and ∨ _)]
  unfold mergeTrees
  split_ifs with hsame
  · rw [Group.all, Group.holds_eq_all truth (.inl rfl), Group.holds_eq_all truth hsame,
      List.all_append]
  · -- a choice between several children stays a group of its own
    rw [Group.all, Group.holds_eq_all truth (.inl rfl), List.all_append, List.all_cons,
      List.all_nil, Bool.and_true]
    rfl

/-- Conditions that are put in front of a tree are its first children. -/
lemma children_prefix_mergeTrees (leading tree : Group) :
    leading.children <+: (mergeTrees leading tree).children := by
  unfold mergeTrees
  split_ifs
  · exact List.prefix_append _ _
  · exact List.prefix_append _ _

/-! ### Filters in front of a tree -/

/-- The tree of some filters and a tree: the filters are put in front, if there are any. -/
def inFront (ctx : Context) (f : SimpleFilters) (tree : Group) : Group :=
  if f.isEmpty then tree else mergeTrees (f.toTree ctx.catalog) tree

/-- Without filters there are no conditions. -/
lemma conditions_of_isEmpty {f : SimpleFilters} (h : f.isEmpty = true) :
    f.conditions ctx.catalog = [] := by
  rw [SimpleFilters.conditions, List.isEmpty_iff.1 h, List.map_nil]

/-- The conditions of filters that are put in front are the first children. -/
lemma conditions_prefix_inFront (f : SimpleFilters) (tree : Group) :
    (f.conditions ctx.catalog).map Node.condition <+: (ctx.inFront f tree).children := by
  unfold inFront
  split_ifs with hempty
  · rw [conditions_of_isEmpty hempty]
    exact List.nil_prefix
  · rw [SimpleFilters.toTree_eq_conditions]
    exact children_prefix_mergeTrees (.all _) tree

/-- Filters that are put in front of a tree hold together with it. -/
lemma holds_inFront (truth : Condition → Bool) (f : SimpleFilters) (tree : Group) :
    (ctx.inFront f tree).holds truth =
      ((f.conditions ctx.catalog).all truth && tree.holds truth) := by
  unfold inFront
  split_ifs with hempty
  · rw [conditions_of_isEmpty hempty, List.all_nil, Bool.true_and]
  · rw [← SimpleFilters.holds_toTree, SimpleFilters.toTree_eq_conditions, holds_mergeTrees]

/-- Filters that are put in front of a tree are one condition each. -/
lemma leafCount_inFront (f : SimpleFilters) (tree : Group) :
    (ctx.inFront f tree).leafCount = f.size + tree.leafCount := by
  have hsize := f.length_conditions ctx.catalog
  unfold inFront
  split_ifs with hempty
  · rw [← hsize, conditions_of_isEmpty hempty, List.length_nil, Nat.zero_add]
  · rw [Group.leafCount_eq_length_leaves, leaves_mergeTrees, List.length_append,
      SimpleFilters.leaves_toTree, hsize, Group.leafCount_eq_length_leaves]

/-! ### Payloads -/

/-- A payload says the tree that is read under the advanced key, and the empty tree where nothing
stands there. -/
def DenotesAdvanced (ctx : Context) (payload : Payload) (tree : Group) : Prop :=
  match payload.get? ctx.settings.advancedKey with
  | none => tree = .empty
  | some raw => ctx.decodeTree raw = .ok tree

/-- The reserved keys that a payload is split into are its own. -/
lemma get?_reserved_of_split {payload : Payload} {split : SplitPayload}
    (h : ctx.split payload = .ok split) (key : String) :
    split.reserved.get? key = if ctx.isReserved key = true then payload.get? key else none := by
  rw [(split_eq_ok_iff.1 h).2, Payload.get?_filterKeys]

/-- What stands under the advanced key is split off as it is. -/
lemma get?_advancedKey_of_split {payload : Payload} {split : SplitPayload}
    (h : ctx.split payload = .ok split) :
    split.reserved.get? ctx.settings.advancedKey = payload.get? ctx.settings.advancedKey := by
  rw [get?_reserved_of_split h, if_pos isReserved_advancedKey]

/-- The reserved keys that are shown of a payload are its own other than the advanced key, with
their JSON values. -/
lemma get?_reserved_of_hydrate {payload : Payload} {hydrated : Hydrated}
    (h : ctx.hydrate payload = .ok hydrated) (key : String) (raw : Json) :
    hydrated.reserved.get? key = some raw ↔
      payload.get? key = some raw ∧ ctx.isReserved key = true ∧
        key ≠ ctx.settings.advancedKey := by
  obtain ⟨split, hsplit, ⟨hnone, rfl⟩ | ⟨_, tree, -, -, rfl⟩⟩ := hydrate_eq_ok_iff.1 h
  · rw [get?_advancedKey_of_split hsplit] at hnone
    rw [get?_reserved_of_split hsplit]
    split_ifs with hkey
    · refine ⟨fun hraw => ⟨hraw, hkey, ?_⟩, And.left⟩
      rintro rfl
      simp [hnone] at hraw
    · simp [hkey]
  · rw [Payload.get?_erase, get?_reserved_of_split hsplit]
    split_ifs with hadvanced hkey
    · simp [hadvanced]
    · simp [hkey, Ne.symm hadvanced]
    · simp [hkey]

/-- **Reading loses nothing.**  The advanced key decides the mode; every other reserved key keeps
its JSON value, and no further key is kept beside it.  The remaining entries say one filter each,
in their order: these are the simple filters and the tree of them in simple mode, and their
conditions stand in front in advanced mode.  The tree holds just when these conditions and the tree
under the advanced key do, and it has the conditions of both. -/
theorem hydrate_keeps {payload : Payload} {hydrated : Hydrated}
    (h : ctx.hydrate payload = .ok hydrated) :
    (hydrated.mode = .advanced ↔ ctx.settings.advancedKey ∈ payload.keys) ∧
      (∀ key raw, hydrated.reserved.get? key = some raw ↔
        payload.get? key = some raw ∧ ctx.isReserved key = true ∧
          key ≠ ctx.settings.advancedKey) ∧
      ∃ (filters : SimpleFilters) (tree : Group),
        List.Forall₂ ctx.DenotesEntry (ctx.fieldEntries payload) filters.entries ∧
        ctx.DenotesAdvanced payload tree ∧
        (hydrated.mode = .simple → hydrated.simple = filters ∧
          hydrated.tree = .all ((filters.conditions ctx.catalog).map .condition)) ∧
        (hydrated.mode = .advanced → hydrated.simple = .empty ∧
          (filters.conditions ctx.catalog).map .condition <+: hydrated.tree.children) ∧
        (∀ truth, hydrated.tree.holds truth =
          ((filters.conditions ctx.catalog).all truth && tree.holds truth)) ∧
        hydrated.tree.leafCount = filters.size + tree.leafCount := by
  have hreserved := get?_reserved_of_hydrate h
  rw [Payload.mem_keys_iff]
  obtain ⟨split, hsplit, ⟨hnone, rfl⟩ | ⟨raw, tree, hraw, htree, rfl⟩⟩ := hydrate_eq_ok_iff.1 h
  · have hadvanced := (get?_advancedKey_of_split hsplit).symm.trans hnone
    refine ⟨by simp [hadvanced], hreserved, split.filters, .empty, (split_eq_ok_iff.1 hsplit).1,
      by simp only [DenotesAdvanced, hadvanced], fun _ => ⟨rfl, ?_⟩, by simp, fun truth => ?_, ?_⟩
    · exact split.filters.toTree_eq_conditions
    · rw [SimpleFilters.holds_toTree]
      exact (Bool.and_true _).symm
    · rw [Group.leafCount_eq_length_leaves, SimpleFilters.leaves_toTree,
        SimpleFilters.length_conditions]
      rfl
  · have hadvanced := (get?_advancedKey_of_split hsplit).symm.trans hraw
    exact ⟨by simp [hadvanced], hreserved, split.filters, tree, (split_eq_ok_iff.1 hsplit).1,
      by simp only [DenotesAdvanced, hadvanced, htree], by simp,
      fun _ => ⟨rfl, conditions_prefix_inFront split.filters tree⟩,
      fun truth => holds_inFront truth split.filters tree, leafCount_inFront split.filters tree⟩

/-- A payload with the filter of a field, selected tags and a choice between two conditions. -/
def mixedPayload : Payload :=
  .ofList [("status", .string "Open"), ("_tags", .array [.string "billing"]),
    ("_conditions", .array [.array [.string "priority", .string "=", .string "High"],
      .string "or", .array [.string "priority", .string "=", .string "Low"]])]

/-- What is shown of `mixedPayload`: the choice stays a group of its own. -/
def mixedHydrated : Hydrated :=
  let c (name value : String) : Node :=
    .condition (.complete (.named name .text) .equals (.text value))
  ⟨.advanced, .all [c "status" "Open", .group ⟨.or, [c "priority" "High", c "priority" "Low"]⟩],
    .empty, .ofList [("_tags", .array [.string "billing"])]⟩

/-- `hydrate_keeps` at a payload of which nothing may be lost. -/
theorem hydrate_keeps_mixedPayload :
    hydrate ⟨.empty, .standard⟩ mixedPayload = .ok mixedHydrated ∧
      (mixedHydrated.mode = .advanced ↔ "_conditions" ∈ mixedPayload.keys) ∧
      (mixedHydrated.reserved.get? "_tags" = some (.array [.string "billing"]) ↔
        mixedPayload.get? "_tags" = some (.array [.string "billing"]) ∧
          isReserved ⟨.empty, .standard⟩ "_tags" = true ∧ "_tags" ≠ "_conditions") ∧
      ∃ (filters : SimpleFilters) (tree : Group),
        List.Forall₂ (DenotesEntry ⟨.empty, .standard⟩)
          (fieldEntries ⟨.empty, .standard⟩ mixedPayload) filters.entries ∧
        DenotesAdvanced ⟨.empty, .standard⟩ mixedPayload tree ∧
        (∀ truth, mixedHydrated.tree.holds truth =
          ((filters.conditions .empty).all truth && tree.holds truth)) ∧
        3 = filters.size + tree.leafCount := by
  have hread : hydrate ⟨.empty, .standard⟩ mixedPayload = .ok mixedHydrated := by decide
  obtain ⟨hmode, hreserved, filters, tree, hfilters, htree, -, -, hholds, hcount⟩ :=
    hydrate_keeps hread
  exact ⟨hread, hmode, hreserved "_tags" _, filters, tree, hfilters, htree, hholds, hcount⟩

end Context

end RecordFilter
