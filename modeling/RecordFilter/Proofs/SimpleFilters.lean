import RecordFilter.Proofs.Condition
import RecordFilter.Proofs.Ordered
import RecordFilter.Proofs.Tree.Basic
import RecordFilter.SimpleFilters

/-!
# Trees that the simple view can show

A tree over the fields of a catalog that the simple view can show is the tree of some pairs of names
and filters, and its filters are these pairs (`leaves_of_ofTree`).  The other way round, the
tree of some pairs can be shown just when their names are distinct and their conditions complete
(`ofTree_toTree_eq_ok_iff`).
-/

namespace RecordFilter

/-- A condition has a defect if it has a problem. -/
lemma Condition.defect?_eq_none_iff {c : Condition} : c.defect? = none ↔ c.problem? = none :=
  Option.map_eq_none_iff

namespace SimpleFilters

variable {catalog : Catalog}

/-- A complete condition on a field of the catalog is that of a filter. -/
lemma exists_entry_of_problem?_eq_none {c : Condition} (hproblem : c.problem? = none)
    (hresolved : catalog.Resolved c) : ∃ entry, condition catalog entry = c := by
  obtain ⟨field, op, hfield, hop, -⟩ := Condition.problem?_eq_none_iff.1 hproblem
  refine ⟨(field.name, ⟨op, c.value⟩), ?_⟩
  obtain ⟨cField, cOperator, value⟩ := c
  obtain rfl : cField = some field := hfield
  obtain rfl : cOperator = some op := hop
  rw [condition, hresolved field rfl]
  rfl

/-- The condition of a pair is added to filters if it is complete and its field is new. -/
lemma ofNodes_cons_eq_ok_iff {f filters : SimpleFilters} {index : Nat}
    {entry : String × SimpleFilter} {rest : List Node} :
    ofNodes f index (.condition (condition catalog entry) :: rest) = .ok filters ↔
      (condition catalog entry).problem? = none ∧ entry.1 ∉ Ordered.keys f.entries ∧
        ofNodes (f.insert entry.1 entry.2) (index + 1) rest = .ok filters := by
  rw [ofNodes, ← Condition.defect?_eq_none_iff, ← Ordered.contains_iff_mem_keys]
  cases hdefect : (condition catalog entry).defect? with
  | some defect => simp
  | none =>
    simp only [condition, Condition.complete, Catalog.name_resolve, contains]
    split_ifs with hcontains
    · simp [hcontains]
    · simp [hcontains]

/-- Nodes that are filters are the conditions of some pairs. -/
lemma exists_entries_of_ofNodes {nodes : List Node} :
    ∀ {f filters : SimpleFilters} {index : Nat}, ofNodes f index nodes = .ok filters →
      (∀ node ∈ nodes, ∀ c ∈ node.leaves, catalog.Resolved c) →
        ∃ entries : List (String × SimpleFilter),
          entries.map (fun entry => .condition (condition catalog entry)) = nodes := by
  induction nodes with
  | nil => exact fun _ _ => ⟨[], rfl⟩
  | cons node rest ih =>
    intro f filters index h hresolved
    cases node with
    | group g => simp [ofNodes] at h
    | condition c =>
      have hdefect : c.defect? = none := by
        cases hdefect : c.defect? with
        | some defect => simp [ofNodes, hdefect] at h
        | none => rfl
      have hc : catalog.Resolved c :=
        hresolved (.condition c) List.mem_cons_self c (by rw [Node.leaves, List.mem_singleton])
      obtain ⟨entry, rfl⟩ :=
        exists_entry_of_problem?_eq_none (Condition.defect?_eq_none_iff.1 hdefect) hc
      obtain ⟨-, -, hrest⟩ := ofNodes_cons_eq_ok_iff.1 h
      obtain ⟨entries, rfl⟩ := ih hrest fun node hnode =>
        hresolved node (List.mem_cons_of_mem _ hnode)
      exact ⟨entry :: entries, rfl⟩

/-- The conditions of some pairs are added to filters just when they are complete and on new and
distinct fields. -/
lemma ofNodes_map_condition_eq_ok_iff {entries : List (String × SimpleFilter)} :
    ∀ {f filters : SimpleFilters} {index : Nat}, (Ordered.keys f.entries).Nodup →
      (ofNodes f index (entries.map fun entry => .condition (condition catalog entry)) =
          .ok filters ↔
        (∀ entry ∈ entries, (condition catalog entry).problem? = none) ∧
          (Ordered.keys (f.entries ++ entries)).Nodup ∧ ⟨f.entries ++ entries⟩ = filters) := by
  induction entries with
  | nil =>
    intro f filters index hf
    simp [ofNodes, hf]
  | cons entry rest ih =>
    intro f filters index hf
    rw [List.map_cons, ofNodes_cons_eq_ok_iff, List.forall_mem_cons]
    by_cases hnew : entry.1 ∈ Ordered.keys f.entries
    · -- a field that is filtered already is refused, and its name is repeated
      have hrepeated : ¬(Ordered.keys (f.entries ++ entry :: rest)).Nodup :=
        fun h => Ordered.not_mem_keys_of_nodup h hnew
      simp [hnew, hrepeated]
    · have hinsert : (f.insert entry.1 entry.2).entries = f.entries ++ [entry] :=
        Ordered.insert_of_not_mem hnew
      have hkeys : (Ordered.keys (f.insert entry.1 entry.2).entries).Nodup :=
        Ordered.nodup_keys_insert hf
      rw [ih hkeys, hinsert, ← List.append_cons]
      simp [hnew, and_assoc]

/-! ### Trees -/

/-- A tree is shown if it has one level, is not a choice of several conditions, and its nodes are
filters. -/
lemma ofTree_eq_ok_iff {tree : Group} {filters : SimpleFilters} :
    ofTree tree = .ok filters ↔
      tree.isFlat = true ∧ ¬(tree.conjunction = .or ∧ 1 < tree.size) ∧
        ofNodes empty 0 tree.children = .ok filters := by
  unfold ofTree
  split_ifs with hflat hor
  · simp_all
  · simp [hor]
  · simp_all

/-- A tree over the catalog that can be shown has the conditions of its filters. -/
theorem leaves_of_ofTree {tree : Group} {filters : SimpleFilters}
    (h : ofTree tree = .ok filters) (hresolved : ∀ c ∈ tree.leaves, catalog.Resolved c) :
    tree.leaves = filters.entries.map (condition catalog) ∧
      (∀ entry ∈ filters.entries, (condition catalog entry).problem? = none) ∧
        (Ordered.keys filters.entries).Nodup := by
  obtain ⟨-, -, hnodes⟩ := ofTree_eq_ok_iff.1 h
  obtain ⟨conjunction, children⟩ := tree
  rw [Group.leaves_mk, List.forall_mem_flatMap] at hresolved
  obtain ⟨entries, rfl⟩ := exists_entries_of_ofNodes hnodes hresolved
  obtain ⟨hcomplete, hkeys, rfl⟩ :=
    (ofNodes_map_condition_eq_ok_iff (f := empty) List.nodup_nil).1 hnodes
  refine ⟨?_, hcomplete, hkeys⟩
  rw [Group.leaves_mk, List.flatMap_map]
  simp [empty, ← List.map_eq_flatMap]

/-- The tree of some filters can be shown just when their conditions are complete and their names
distinct, and then its filters are the same. -/
theorem ofTree_toTree_eq_ok_iff {f filters : SimpleFilters} :
    ofTree (f.toTree catalog) = .ok filters ↔
      (∀ entry ∈ f.entries, (condition catalog entry).problem? = none) ∧
        (Ordered.keys f.entries).Nodup ∧ f = filters := by
  have hflat : (f.toTree catalog).isFlat = true := by
    simp [toTree, Group.all, Group.isFlat, Node.isCondition]
  have hand : ¬((f.toTree catalog).conjunction = .or ∧ 1 < (f.toTree catalog).size) :=
    fun h => absurd h.1 (by simp [toTree, Group.all])
  rw [ofTree_eq_ok_iff, and_iff_right hflat, and_iff_right hand]
  exact ofNodes_map_condition_eq_ok_iff (f := empty) List.nodup_nil

end SimpleFilters

end RecordFilter
