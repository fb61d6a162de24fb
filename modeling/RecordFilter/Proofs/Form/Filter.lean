import Mathlib.Tactic.Common
import RecordFilter.Form.Filter
import RecordFilter.Proofs.Form
import RecordFilter.Proofs.Tree.Basic
import RecordFilter.Proofs.Wire.Value

/-!
# The forms of fields, conditions and trees are lawful

Everything that a filter is made of is read back from its form: the words of the vocabularies, the
records, the values with their kinds before them, and the trees.

A tree is read up to the depth of its form.  What matters is that this is deep enough for every
part: a node is read from its form at every depth that is not less than the depth of the form
(`Node.readForm?_draft_encodeForm`), and the depth that is left for a child is not less than the
depth of the form of the child.
-/

namespace RecordFilter

open JsonForm
open Json (Draft)

/-! ### Words -/

instance : Lawful FieldKind where
  read?_draft_encode := read?_draft_encode_ofNames fun kind => by cases kind <;> decide

instance : Lawful Conjunction where
  read?_draft_encode := read?_draft_encode_ofNames fun conjunction => by
    cases conjunction <;> decide

instance : Lawful Operator where
  read?_draft_encode := read?_draft_encode_ofNames fun op => by cases op <;> decide

instance : Lawful Timespan where
  read?_draft_encode span := by
    rw [encode, read?, instJsonFormTimespan]
    simp [Draft.string?, Timespan.ofTokenLoosely?_token]

instance : Lawful Presence where
  read?_draft_encode presence := by
    rw [encode, read?, instJsonFormPresence]
    simp [Draft.string?, Presence.ofTokenLoosely?_token]

/-! ### Records -/

instance : Lawful Field where
  read?_draft_encode field := by
    rw [encode, read?, instJsonFormField]
    simp [record?_object]

instance : Lawful Catalog where
  read?_draft_encode catalog := by
    rw [encode, read?, instJsonFormCatalog]
    simp [record?_object]

/-! ### Values -/

namespace Value

/-- A value is read back from what its form says of its kind and of what it holds. -/
lemma readKind?_form (value : Value) : readKind? value.form.1 value.form.2.draft = some value := by
  cases value with
  | text s => rfl
  | range first last => simp [form, readKind?, namedMembers?_object]
  | list items => rw [form, readKind?, read?_draft_ofStrings, Option.map_some]
  | timespan span => rw [form, readKind?, Lawful.read?_draft_encode, Option.map_some]
  | presence mark => rw [form, readKind?, Lawful.read?_draft_encode, Option.map_some]

instance : Lawful Value where
  read?_draft_encode value := by
    rw [encode, read?, instJsonFormValue]
    simp [record?_object, contentFirst, name?, readKind?_form]

end Value

/-! ### Conditions -/

/-- A field is never written as null. -/
lemma Field.encode_ne_null (field : Field) : encode field ≠ .null := by
  rw [encode, instJsonFormField]
  exact Json.noConfusion

/-- An operator is never written as null. -/
lemma Operator.encode_ne_null (op : Operator) : encode op ≠ .null := by
  rw [encode, instJsonFormOperator]
  exact Json.noConfusion

instance : Lawful Condition where
  read?_draft_encode c := by
    rw [encode, read?, instJsonFormCondition]
    simp [record?_object, read?_draft_encode_option Field.encode_ne_null,
      read?_draft_encode_option Operator.encode_ne_null]

/-! ### Trees -/

namespace Node

/-- The forms of some nodes are those of each. -/
lemma encodeForms_eq_map (nodes : List Node) : encodeForms nodes = nodes.map encodeForm := by
  induction nodes with
  | nil => rfl
  | cons node rest ih => rw [encodeForms, ih, List.map_cons]

/-- The draft of the form of a condition. -/
lemma draft_encodeForm_condition (c : Condition) :
    (encodeForm (.condition c)).draft = .object [("condition", (encode c).draft)] := by
  simp [encodeForm]

/-- The draft of the form of a node that is a group. -/
lemma draft_encodeForm_group (g : Group) :
    (encodeForm (.group g)).draft = .object [("group", (encode g).draft)] := by
  obtain ⟨conjunction, children⟩ := g
  rw [encodeForm, Json.draft_object]
  rfl

end Node

/-- The draft of the form of a group. -/
lemma Group.draft_encode (g : Group) :
    (encode g).draft = .object [
      ("conjunction", (encode g.conjunction).draft),
      ("children", .array (g.children.map fun child => child.encodeForm.draft))] := by
  rw [encode, instJsonFormGroup]
  simp [Node.encodeForms_eq_map]

namespace Node

/-- A group is read back at a depth that is enough for its form if every child is. -/
lemma readGroupForm?_draft_encode {conjunction : Conjunction} {children : List Node} {depth : Nat}
    (hchildren : ∀ child ∈ children, ∀ depth, child.encodeForm.draft.depth ≤ depth →
      readForm? depth child.encodeForm.draft = some child)
    (hdepth : (encode (⟨conjunction, children⟩ : Group)).draft.depth ≤ depth) :
    readGroupForm? depth (encode (⟨conjunction, children⟩ : Group)).draft =
      some ⟨conjunction, children⟩ := by
  rw [Group.draft_encode] at hdepth ⊢
  obtain ⟨rest, rfl, hrest⟩ := Draft.exists_depthOfMembers_le hdepth
  simp only [Draft.depthOfMembers, Draft.depth] at hrest
  have hread : ∀ child ∈ children, readForm? rest child.encodeForm.draft = some child := by
    intro child hchild
    have hle := Draft.depth_le_depthOfItems
      (List.mem_map_of_mem hchild (f := fun child => child.encodeForm.draft))
    exact hchildren child hchild rest (by omega)
  simp [readGroupForm?, record?_object, readAll?_map hread]

/-- **Trees are read back.**  A node is read back from its form at every depth that is enough for
the form. -/
theorem readForm?_draft_encodeForm (node : Node) {depth : Nat}
    (hdepth : node.encodeForm.draft.depth ≤ depth) :
    readForm? depth node.encodeForm.draft = some node := by
  induction node using Node.induction generalizing depth with
  | condition c =>
    rw [draft_encodeForm_condition] at hdepth ⊢
    obtain ⟨rest, rfl, -⟩ := Draft.exists_depthOfMembers_le hdepth
    simp [readForm?]
  | group conjunction children ih =>
    rw [draft_encodeForm_group] at hdepth ⊢
    obtain ⟨rest, rfl, hrest⟩ := Draft.exists_depthOfMembers_le hdepth
    rw [Draft.depthOfMembers, Draft.depthOfMembers, Nat.max_zero] at hrest
    have hgroup := readGroupForm?_draft_encode (fun child hchild _ => ih child hchild) hrest
    simp [readForm?, hgroup]

end Node

instance : Lawful Node where
  read?_draft_encode node := node.readForm?_draft_encodeForm (Nat.le_refl _)

instance : Lawful Group where
  read?_draft_encode g := by
    obtain ⟨conjunction, children⟩ := g
    exact Node.readGroupForm?_draft_encode (fun child _ _ => child.readForm?_draft_encodeForm)
      (Nat.le_refl _)

/-! ### Simple filters -/

instance : Lawful SimpleFilter where
  read?_draft_encode filter := by
    rw [encode, read?, instJsonFormSimpleFilter]
    simp [record?_object]

instance : Lawful SimpleFilters where
  read?_draft_encode filters := by
    rw [encode, read?, instJsonFormSimpleFilters]
    simp [record?_object]

end RecordFilter
