import RecordFilter.Proofs.Json.Draft
import RecordFilter.Wire.ConditionList

/-!
# Reading JSON values as conditions

Small facts that every statement about condition lists on the wire rests on: when a result that
may be an error is a value, which arrays can be conditions, and the induction that follows the
items of an array.
-/

namespace RecordFilter

/-- A result that is changed is a value if it was one before. -/
lemma exceptMap_eq_ok_iff {ε α β : Type _} {f : α → β} {x : Except ε α} {b : β} :
    x.map f = .ok b ↔ ∃ a, x = .ok a ∧ f a = b := by
  cases x with
  | error e => simp [Except.map]
  | ok a => simp [Except.map]

/-- A result with its error changed is a value if it was one before. -/
lemma exceptMapError_eq_ok_iff {ε δ α : Type _} {f : ε → δ} {x : Except ε α} {a : α} :
    x.mapError f = .ok a ↔ x = .ok a := by
  cases x with
  | error e => simp [Except.mapError]
  | ok b => simp [Except.mapError]

namespace Json

/-- A property that holds of every array as soon as it holds of its items, and of everything that
is no array, holds of every JSON value. -/
@[elab_as_elim]
theorem induction_items {motive : Json → Prop}
    (array : ∀ items, (∀ item ∈ items, motive item) → motive (.array items))
    (other : ∀ raw, raw.items? = none → motive raw)
    (raw : Json) : motive raw :=
  Json.induction (other _ rfl) (fun _ => other _ rfl) (fun _ => other _ rfl)
    (fun _ => other _ rfl) array (fun _ _ => other _ rfl) raw

/-- Only a string has a text. -/
lemma string?_eq_some_iff {raw : Json} {s : String} : raw.string? = some s ↔ raw = .string s := by
  cases raw with
  | string text => simp [string?]
  | _ => simp [string?]

/-- A condition is an array of two words that are no conjunctions and a value. -/
lemma conditionParts?_eq_some_iff {items : List Json} {name token : String} {value : Json} :
    conditionParts? items = some (name, token, value) ↔
      items = [.string name, .string token, value] ∧
        Conjunction.ofWord? name = none ∧ Conjunction.ofWord? token = none := by
  unfold conditionParts?
  constructor
  · intro h
    split at h
    · split_ifs at h with hnames
      obtain ⟨rfl, rfl, rfl⟩ := by simpa using h
      simpa [isName] using hnames
    · simp at h
  · rintro ⟨rfl, hname, htoken⟩
    simp [isName, hname, htoken]

end Json

/-- Items are read if the first of them is and the others are. -/
lemma Context.decodeItems_cons_eq_ok_iff {ctx : Context} {raw : Json} {rest : List Json}
    {contents : List ListItem} :
    ctx.decodeItems (raw :: rest) = .ok contents ↔
      ∃ item tail, ctx.decodeItem raw = .ok item ∧ ctx.decodeItems rest = .ok tail ∧
        contents = item :: tail := by
  rw [decodeItems]
  cases ctx.decodeItem raw with
  | error e => simp
  | ok item =>
    simp only [exceptMap_eq_ok_iff, Except.ok.injEq, exists_and_left, exists_eq_left']
    simp only [eq_comm]

end RecordFilter
