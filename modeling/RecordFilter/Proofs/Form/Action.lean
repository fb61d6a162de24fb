import Mathlib.Tactic.Common
import RecordFilter.Form.Action
import RecordFilter.Proofs.Form.Filter
import RecordFilter.Proofs.Ordered

/-!
# The form of actions is lawful

An action is read back from its form: the name says how what the action carries is read, and what
it carries has a lawful form.  With that, everything that is edited and everything that asks for an
edit is read back from the JSON value that is written for it (`edit_data_read_back`).
-/

namespace RecordFilter

open JsonForm
open Json (Draft)

instance : Lawful Mode where
  read?_draft_encode := read?_draft_encode_ofNames fun mode => by cases mode <;> decide

/-- A payload is made of its entries again. -/
lemma Payload.ofList_entries (p : Payload) : ofList p.entries = p :=
  eq_iff_entries_eq.2 (Ordered.ofList_of_nodup p.nodup_keys)

instance : Lawful Payload where
  read?_draft_encode p := by
    have hvalues := Draft.memberValues?_map_draft fun entry (_ : entry ∈ p.entries) =>
      entry.2.value?_draft
    rw [encode, read?, instJsonFormPayload]
    simp [Payload.toJson, hvalues, Payload.ofList_entries]

namespace Action

/-- An action that carries something is read back from its name and what it carries. -/
lemma ofContent?_of_content? {action : Action} {content : Json}
    (h : action.content? = some content) :
    ofContent? namedMembers? action.name content.draft = some action := by
  cases action with
  | applyFilters | discardFilters | clearFilters => cases h
  | setTags | switchMode | filtersApplied | error =>
    cases h
    simp [name, ofContent?]
  | addCondition | removeItem | removeSimpleFilter =>
    cases h
    simp [name, ofContent?, ofMember?, namedMembers?_object]
  | addGroup | setConjunction | setField | setOperator | setValue | setValueInput =>
    cases h
    simp [name, ofContent?, ofMembers?, namedMembers?_object]
  | setSimpleFilter =>
    cases h
    simp [name, ofContent?, ofSimpleFilter?, namedMembers?_object]

/-- An action that carries nothing is read back from its name. -/
lemma ofName?_name {action : Action} (h : action.content? = none) :
    ofName? action.name = some action := by
  cases action with
  | applyFilters | discardFilters | clearFilters => rfl
  | _ => cases h

end Action

instance : Lawful Action where
  read?_draft_encode action := by
    rw [encode, read?, instJsonFormAction]
    cases hcontent : action.content? with
    | some content => simp [hcontent, Action.ofDraft?, Action.ofContent?_of_content? hcontent]
    | none => simp [hcontent, Action.ofDraft?, Action.ofName?_name hcontent]

namespace JsonForm

/-- **Edits are read back.**  The values, the conditions, the trees of any depth, the simple
filters, the catalogs and the actions are read back from the JSON values that are written for them,
and so are the words of every vocabulary that they are written in. -/
theorem edit_data_read_back :
    (∀ value : Value, decode? (encode value) = some value) ∧
    (∀ c : Condition, decode? (encode c) = some c) ∧
    (∀ node : Node, decode? (encode node) = some node) ∧
    (∀ g : Group, decode? (encode g) = some g) ∧
    (∀ filters : SimpleFilters, decode? (encode filters) = some filters) ∧
    (∀ catalog : Catalog, decode? (encode catalog) = some catalog) ∧
    (∀ action : Action, decode? (encode action) = some action) ∧
    (∀ span : Timespan, decode? (encode span) = some span) ∧
    (∀ presence : Presence, decode? (encode presence) = some presence) ∧
    (∀ op : Operator, decode? (encode op) = some op) ∧
    (∀ conjunction : Conjunction, decode? (encode conjunction) = some conjunction) ∧
    (∀ kind : FieldKind, decode? (encode kind) = some kind) ∧
    (∀ mode : Mode, decode? (encode mode) = some mode) :=
  ⟨decode?_encode, decode?_encode, decode?_encode, decode?_encode, decode?_encode, decode?_encode,
    decode?_encode, decode?_encode, decode?_encode, decode?_encode, decode?_encode, decode?_encode,
    decode?_encode⟩

end JsonForm

end RecordFilter
