import RecordFilter.Proofs.ConditionList.Tidy
import RecordFilter.Proofs.Condition
import RecordFilter.Proofs.Tree.Frame
import RecordFilter.Proofs.Wire.Denotation
import RecordFilter.Proofs.Wire.Split
import RecordFilter.Wire.Filter

/-!
# What is read is whole

Whatever a payload holds, what is read from it is whole: a condition has a field, which is the one
that the catalog has for its name, and an operator, whose shape its value has; no nested group is
empty; and the simple filters are on distinct fields, none of which is a reserved key.
-/

namespace RecordFilter

/-! ### Values -/

/-- A list that is read is a list. -/
lemma Value.shape_of_listOfJson {raw : Json} {value : Value} (h : listOfJson raw = .ok value) :
    value.shape = .list := by
  unfold listOfJson at h
  split at h
  · split at h
    · obtain rfl := Except.ok.inj h
      rfl
    · simp at h
  · obtain rfl := Except.ok.inj h
    rfl
  · simp at h

/-- A range that is read is a range. -/
lemma Value.shape_of_rangeOfJson {raw : Json} {value : Value} (h : rangeOfJson raw = .ok value) :
    value.shape = .range := by
  unfold rangeOfJson at h
  split at h
  · split at h
    · obtain rfl := Except.ok.inj h
      rfl
    · simp at h
  · split at h
    · obtain rfl := Except.ok.inj h
      rfl
    · simp at h
  · simp at h

/-- A value that is read has the shape that its operator takes. -/
theorem Settings.shape_of_decodeValue {s : Settings} {field : Field} {op : Operator} {raw : Json}
    {value : Value} (h : s.decodeValue field op raw = .ok value) : value.shape = op.shape := by
  unfold decodeValue at h
  split at h
  · next hshape =>
    split at h
    · obtain rfl := Except.ok.inj h
      exact hshape.symm
    · simp at h
  · next hshape => exact (Value.shape_of_listOfJson h).trans hshape.symm
  · next hshape => exact (Value.shape_of_rangeOfJson h).trans hshape.symm
  · next hshape =>
    unfold Value.timespanOfJson at h
    split at h
    · obtain rfl := Except.ok.inj h
      exact hshape.symm
    · simp at h
  · next hshape =>
    unfold Value.presenceOfJson at h
    split at h
    · obtain rfl := Except.ok.inj h
      exact hshape.symm
    · simp at h

namespace Context

variable {ctx : Context}

/-! ### Conditions -/

/-- A condition is whole: it has the field that the catalog has for some name, an operator, and a
value of the shape that the operator takes. -/
def Whole (ctx : Context) (c : Condition) : Prop :=
  ∃ name op value, value.shape = op.shape ∧ c = .complete (ctx.catalog.resolve name) op value

/-- The field of a whole condition is the one that the catalog has for its name. -/
lemma Whole.resolved {c : Condition} (h : ctx.Whole c) : ctx.catalog.Resolved c := by
  obtain ⟨name, op, value, -, rfl⟩ := h
  intro field hfield
  obtain rfl := Option.some.inj hfield
  rw [Catalog.name_resolve]

/-- A condition that is read is whole. -/
lemma whole_of_decodeCondition {name token : String} {raw : Json} {c : Condition}
    (h : ctx.decodeCondition name token raw = .ok c) : ctx.Whole c := by
  unfold decodeCondition at h
  split at h
  · simp at h
  · next op _ =>
    obtain ⟨value, hvalue, rfl⟩ := exceptMap_eq_ok_iff.1 h
    have hdecode := exceptMapError_eq_ok_iff.1 hvalue
    exact ⟨name, op, value, Settings.shape_of_decodeValue hdecode, rfl⟩

/-! ### Condition lists -/

section Conditions

variable {P : Condition → Prop}
  (hP : ∀ {name token : String} {raw : Json} {c : Condition}, Conjunction.ofWord? name = none →
    ctx.decodeCondition name token raw = .ok c → P c)

/-- A property of the conditions in each of some items is one of the conditions in all of them. -/
lemma forall_leaves_of_forall₂_denotes {items : List Json} {contents : List ListItem}
    (hall : List.Forall₂ ctx.Denotes items contents)
    (hitems : ∀ raw ∈ items, ∀ item, ctx.Denotes raw item →
      ∀ c ∈ ConditionList.leavesOfItem item, P c) :
    ∀ c ∈ ConditionList.leaves contents, P c := by
  induction hall with
  | nil => simp
  | @cons raw item rest more hitem _ ih =>
    rw [ConditionList.leaves_cons, List.forall_mem_append]
    exact ⟨hitems raw List.mem_cons_self item hitem,
      ih fun other hother => hitems other (List.mem_cons_of_mem raw hother)⟩

include hP

/-- A property of every condition that is read is one of the conditions in an item that a JSON value
says. -/
lemma forall_leavesOfItem_of_denotes (raw : Json) :
    ∀ item, ctx.Denotes raw item → ∀ c ∈ ConditionList.leavesOfItem item, P c := by
  induction raw using Json.induction_items with
  | array items ih =>
    intro item h
    cases h with
    | condition hparts hc =>
      rw [ConditionList.leavesOfItem_condition, List.forall_mem_singleton]
      exact hP (Json.conditionParts?_eq_some_iff.1 hparts).2.1 hc
    | list hparts hall =>
      rw [ConditionList.leavesOfItem_list]
      exact forall_leaves_of_forall₂_denotes hall ih
  | other raw hraw =>
    intro item h
    cases h with
    | word hword => simp
    | condition hparts hc => simp [Json.items?] at hraw
    | list hparts hall => simp [Json.items?] at hraw

/-- A property of every condition that is read is one of the conditions in a list that a JSON value
says. -/
lemma forall_leaves_of_denotesList {raw : Json} {contents : ConditionList}
    (h : ctx.DenotesList raw contents) : ∀ c ∈ ConditionList.leaves contents, P c := by
  induction h with
  | null => simp
  | condition hparts hc =>
    rw [ConditionList.leaves_cons, ConditionList.leavesOfItem_condition, ConditionList.leaves_nil,
      List.append_nil, List.forall_mem_singleton]
    exact hP (Json.conditionParts?_eq_some_iff.1 hparts).2.1 hc
  | list hparts hall =>
    exact forall_leaves_of_forall₂_denotes hall fun raw _ => forall_leavesOfItem_of_denotes hP raw
  | text hparse hraw ih => exact ih

/-- **Conditions of a tree that is read.**  A property of every condition that is read, from a name
that is no conjunction, is one of the conditions of a tree that is read. -/
theorem forall_leaves_of_decodeTree {raw : Json} {tree : Group}
    (h : ctx.decodeTree raw = .ok tree) : ∀ c ∈ tree.leaves, P c := by
  obtain ⟨contents, hcontents⟩ := exists_denotesList h
  obtain rfl := eq_toGroup_of_denotesList hcontents h
  rw [ConditionList.leaves_toGroup]
  exact forall_leaves_of_denotesList hP hcontents

end Conditions

/-- The conditions of a tree that is read are whole. -/
theorem whole_of_decodeTree {raw : Json} {tree : Group} (h : ctx.decodeTree raw = .ok tree) :
    ∀ c ∈ tree.leaves, ctx.Whole c :=
  forall_leaves_of_decodeTree (fun _ hc => whole_of_decodeCondition hc) h

/-- A tree that is read is tidy below its root. -/
theorem tidy_of_decodeTree {raw : Json} {tree : Group} (h : ctx.decodeTree raw = .ok tree) :
    ∀ child ∈ tree.children, child.Tidy := by
  obtain ⟨contents, hcontents⟩ := exists_denotesList h
  obtain rfl := eq_toGroup_of_denotesList hcontents h
  exact (ConditionList.tidy_toGroup contents).1

/-! ### Simple filters and reserved keys -/

/-- Simple filters that may be read from a payload: they are on distinct fields, none of which is a
reserved key, and every value has the shape that its operator takes. -/
structure Fitting (ctx : Context) (f : SimpleFilters) : Prop where
  names_nodup : f.names.Nodup
  not_reserved : ∀ entry ∈ f.entries, ctx.isReserved entry.1 = false
  shape_eq : ∀ entry ∈ f.entries, entry.2.value.shape = entry.2.operator.shape

/-- There may be no filters. -/
lemma fitting_empty : ctx.Fitting .empty where
  names_nodup := List.nodup_nil
  not_reserved := fun _ h => absurd h List.not_mem_nil
  shape_eq := fun _ h => absurd h List.not_mem_nil

/-- A filter may be set whose field is no reserved key and whose value fits its operator. -/
lemma Fitting.insert {f : SimpleFilters} (h : ctx.Fitting f) {name : String}
    {filter : SimpleFilter} (hname : ctx.isReserved name = false)
    (hshape : filter.value.shape = filter.operator.shape) : ctx.Fitting (f.insert name filter) where
  names_nodup := SimpleFilters.nodup_names_insert h.names_nodup
  not_reserved := SimpleFilters.forall_entries_insert h.not_reserved hname
  shape_eq := SimpleFilters.forall_entries_insert h.shape_eq hshape

/-- A filter may be taken out. -/
lemma Fitting.erase {f : SimpleFilters} (h : ctx.Fitting f) (name : String) :
    ctx.Fitting (f.erase name) where
  names_nodup := SimpleFilters.nodup_names_erase h.names_nodup name
  not_reserved := SimpleFilters.forall_entries_erase h.not_reserved name
  shape_eq := SimpleFilters.forall_entries_erase h.shape_eq name

/-- A filter that is read has a value that fits its operator. -/
lemma shape_of_decodeEntry {name : String} {raw : Json} {filter : SimpleFilter}
    (h : ctx.decodeEntry name raw = .ok filter) : filter.value.shape = filter.operator.shape := by
  have hread : ∀ {op : Operator} {value : Json}, ctx.readFilter name op value = .ok filter →
      filter.value.shape = filter.operator.shape := by
    intro op value hfilter
    obtain ⟨decoded, hdecoded, rfl⟩ := exceptMap_eq_ok_iff.1 hfilter
    exact Settings.shape_of_decodeValue (exceptMapError_eq_ok_iff.1 hdecoded)
  unfold decodeEntry at h
  split at h
  · next token value =>
    dsimp only at h
    split at h
    · exact hread h
    · simp at h
  · simp at h
  · exact hread h

/-- The filters that a payload is split into fit. -/
theorem fitting_of_split {payload : Payload} {split : SplitPayload}
    (h : ctx.split payload = .ok split) : ctx.Fitting split.filters := by
  obtain ⟨hall, -⟩ := split_eq_ok_iff.1 h
  have hkeys := keys_eq_of_denotesEntry hall
  have hentry := exists_denotesEntry_of_mem hall
  refine ⟨?_, fun filter hfilter => ?_, fun filter hfilter => ?_⟩
  · rw [SimpleFilters.names, ← hkeys]
    exact (payload.filterKeys fun key => !ctx.isReserved key).nodup_keys
  · obtain ⟨entry, hmem, hdenotes⟩ := hentry filter hfilter
    simpa [← hdenotes.name_eq] using (List.mem_filter.1 hmem).2
  · obtain ⟨entry, hmem, hdenotes⟩ := hentry filter hfilter
    exact shape_of_decodeEntry hdenotes.decodeEntry_eq

/-! ### Whole payloads -/

/-- What a payload is read as: the simple filters, or the tree of a condition list with the filters
beside it in front. -/
lemma hydrate_eq_ok_iff {payload : Payload} {hydrated : Hydrated} :
    ctx.hydrate payload = .ok hydrated ↔
      ∃ split, ctx.split payload = .ok split ∧
        ((split.reserved.get? ctx.settings.advancedKey = none ∧
            ⟨.simple, split.filters.toTree ctx.catalog, split.filters, split.reserved⟩ = hydrated) ∨
          ∃ raw tree, split.reserved.get? ctx.settings.advancedKey = some raw ∧
            ctx.decodeTree raw = .ok tree ∧
              ⟨.advanced,
                if split.filters.isEmpty then tree
                else mergeTrees (split.filters.toTree ctx.catalog) tree,
                .empty, split.reserved.erase ctx.settings.advancedKey⟩ = hydrated) := by
  unfold hydrate
  cases ctx.split payload with
  | error error => simp
  | ok split =>
    cases hraw : split.reserved.get? ctx.settings.advancedKey with
    | none => simp [hraw]
    | some raw =>
      cases htree : ctx.decodeTree raw with
      | error error => simp [hraw, htree]
      | ok tree => simp [hraw, htree]

/-- The conditions of simple filters whose values fit are whole. -/
lemma Fitting.whole {f : SimpleFilters} (h : ctx.Fitting f) :
    ∀ c ∈ (f.toTree ctx.catalog).leaves, ctx.Whole c := by
  rw [SimpleFilters.toTree, Group.all, Group.leaves_mk, List.forall_mem_flatMap,
    List.forall_mem_map]
  intro entry hentry
  rw [Node.leaves_condition, List.forall_mem_singleton]
  exact ⟨entry.1, entry.2.operator, entry.2.value, h.shape_eq entry hentry, rfl⟩

/-- The children of the tree of simple filters are tidy. -/
lemma tidy_toTree (f : SimpleFilters) : ∀ child ∈ (f.toTree ctx.catalog).children, child.Tidy :=
  List.forall_mem_map.2 fun _ _ => .condition _

/-- A tree is put behind the conditions in front of it, with its own conditions in order. -/
lemma leaves_mergeTrees (leading tree : Group) :
    (mergeTrees leading tree).leaves = leading.leaves ++ tree.leaves := by
  unfold mergeTrees
  split_ifs
  · rw [Group.leaves_mk, List.flatMap_append, ← Group.leaves_eq_flatMap, ← Group.leaves_eq_flatMap]
  · rw [Group.leaves_mk, List.flatMap_append, List.flatMap_singleton, ← Group.leaves_eq_flatMap]
    rfl

/-- A tree that is put behind conditions stays tidy: it becomes a group of its own only if it has
several children. -/
lemma tidy_mergeTrees {leading tree : Group} (hleading : ∀ child ∈ leading.children, child.Tidy)
    (htree : ∀ child ∈ tree.children, child.Tidy) :
    ∀ child ∈ (mergeTrees leading tree).children, child.Tidy := by
  unfold mergeTrees
  split_ifs with hsame
  · exact List.forall_mem_append.2 ⟨hleading, htree⟩
  · rw [not_or, Nat.not_le] at hsame
    refine List.forall_mem_append.2 ⟨hleading, List.forall_mem_singleton.2 ?_⟩
    refine Node.tidy_of_children (fun hnil => ?_) (fun hone => ?_) htree
    · rw [Group.size, hnil] at hsame
      exact absurd hsame.2 (by simp)
    · exact absurd hone (Nat.ne_of_gt hsame.2)

/-- **What is read is whole.**  The conditions of the tree that is read from a payload are whole,
the tree is tidy below its root, and the simple filters fit. -/
theorem whole_of_hydrate {payload : Payload} {hydrated : Hydrated}
    (h : ctx.hydrate payload = .ok hydrated) :
    (∀ c ∈ hydrated.tree.leaves, ctx.Whole c) ∧
      (∀ child ∈ hydrated.tree.children, child.Tidy) ∧ ctx.Fitting hydrated.simple := by
  obtain ⟨split, hsplit, ⟨-, rfl⟩ | ⟨raw, tree, -, htree, rfl⟩⟩ := hydrate_eq_ok_iff.1 h
  · have hfitting := fitting_of_split hsplit
    exact ⟨hfitting.whole, tidy_toTree _, hfitting⟩
  · have hfitting := fitting_of_split hsplit
    have hwhole := whole_of_decodeTree htree
    have htidy := tidy_of_decodeTree htree
    refine ⟨?_, ?_, fitting_empty⟩
    · split_ifs
      · exact hwhole
      · rw [leaves_mergeTrees]
        exact List.forall_mem_append.2 ⟨hfitting.whole, hwhole⟩
    · split_ifs
      · exact htidy
      · exact tidy_mergeTrees (tidy_toTree _) htidy

end Context

end RecordFilter
