import Mathlib.Tactic.Common
import RecordFilter.Json.Draft

/-!
# Induction over JSON values

An array is a list of values and an object a list of members, and what is computed of a value is
computed by a function on values together with functions on these lists.  `Json.induction` is the
induction that follows the items of an array and the members of an object.

With it, the draft of a value has no void part and stands for the value (`value?_draft`).
-/

namespace RecordFilter.Json

/-- A property of every scalar that holds of an array as soon as it holds of the items, and of an
object as soon as it holds of the values of the members, holds of every JSON value. -/
@[elab_as_elim]
theorem induction {motive : Json → Prop} (null : motive .null)
    (bool : ∀ b, motive (.bool b)) (number : ∀ n, motive (.number n))
    (string : ∀ s, motive (.string s))
    (array : ∀ items, (∀ item ∈ items, motive item) → motive (.array items))
    (object : ∀ members, (∀ member ∈ members, motive member.2) → motive (.object members))
    (json : Json) : motive json :=
  @Json.rec motive (fun items => ∀ item ∈ items, motive item)
    (fun members => ∀ member ∈ members, motive member.2) (fun member => motive member.2)
    null bool number string array object (fun _ h => absurd h List.not_mem_nil)
    (fun _ _ hitem hrest => List.forall_mem_cons.2 ⟨hitem, hrest⟩)
    (fun _ h => absurd h List.not_mem_nil)
    (fun _ _ hmember hrest => List.forall_mem_cons.2 ⟨hmember, hrest⟩) (fun _ _ h => h) json

/-! ### Drafts of lists -/

/-- The drafts of some items are those of each. -/
lemma draftsOf_eq_map (items : List Json) : draftsOf items = items.map draft := by
  induction items with
  | nil => rfl
  | cons item rest ih => rw [draftsOf, ih, List.map_cons]

/-- The drafts of some members are those of each, under the same keys. -/
lemma memberDrafts_eq_map (members : List (String × Json)) :
    memberDrafts members = members.map fun member => (member.1, member.2.draft) := by
  induction members with
  | nil => rfl
  | cons member rest ih =>
    obtain ⟨key, value⟩ := member
    rw [memberDrafts, ih, List.map_cons]

/-- The draft of an array. -/
@[simp] lemma draft_array (items : List Json) :
    draft (.array items) = .array (items.map draft) := by
  rw [draft, draftsOf_eq_map]

/-- The draft of an object. -/
@[simp] lemma draft_object (members : List (String × Json)) :
    draft (.object members) = .object (members.map fun member => (member.1, member.2.draft)) := by
  rw [draft, memberDrafts_eq_map]

/-- The draft of a string. -/
@[simp] lemma draft_string (s : String) : draft (.string s) = .string s := rfl

/-- Only null has the draft of null. -/
lemma eq_null_of_draft_eq_null {json : Json} (h : json.draft = .null) : json = .null := by
  cases json with
  | null => rfl
  | bool b => cases h
  | number n => cases h
  | string s => cases h
  | array items => cases h
  | object members => cases h

/-! ### Values of drafts -/

namespace Draft

/-- The drafts of some items stand for them if each does. -/
lemma values?_map_draft {items : List Json}
    (h : ∀ item ∈ items, item.draft.value? = some item) :
    values? (items.map draft) = some items := by
  induction items with
  | nil => rfl
  | cons item rest ih =>
    rw [List.forall_mem_cons] at h
    rw [List.map_cons, values?, h.1, ih h.2]

/-- The drafts of some members stand for them if each does. -/
lemma memberValues?_map_draft {members : List (String × Json)}
    (h : ∀ member ∈ members, member.2.draft.value? = some member.2) :
    memberValues? (members.map fun member => (member.1, member.2.draft)) = some members := by
  induction members with
  | nil => rfl
  | cons member rest ih =>
    rw [List.forall_mem_cons] at h
    rw [List.map_cons, memberValues?, h.1, ih h.2]

end Draft

/-- **Drafts stand for values.**  The draft of a value has no void part, and it stands for the
value. -/
theorem value?_draft (json : Json) : json.draft.value? = some json := by
  induction json using Json.induction with
  | null => rfl
  | bool b => rfl
  | number n => rfl
  | string s => rfl
  | array items ih => rw [draft_array, Draft.value?, Draft.values?_map_draft ih, Option.map_some]
  | object members ih =>
    rw [draft_object, Draft.value?, Draft.memberValues?_map_draft ih, Option.map_some]

/-! ### Depth -/

/-- An item is not deeper than the deepest of the items. -/
lemma Draft.depth_le_depthOfItems {item : Draft} {items : List Draft} (h : item ∈ items) :
    item.depth ≤ depthOfItems items := by
  induction items with
  | nil => exact absurd h List.not_mem_nil
  | cons first rest ih =>
    rw [depthOfItems]
    rcases List.mem_cons.1 h with rfl | hmem
    · exact Nat.le_max_left _ _
    · exact Nat.le_trans (ih hmem) (Nat.le_max_right _ _)

/-- A depth that is enough for an object leaves one that is enough for the members. -/
lemma Draft.exists_depthOfMembers_le {members : List (String × Draft)} {depth : Nat}
    (h : (Draft.object members).depth ≤ depth) :
    ∃ rest, depth = rest + 1 ∧ depthOfMembers members ≤ rest := by
  rw [Draft.depth] at h
  cases depth with
  | zero => exact absurd h (Nat.not_succ_le_zero _)
  | succ rest => exact ⟨rest, rfl, Nat.le_of_succ_le_succ h⟩

end RecordFilter.Json
