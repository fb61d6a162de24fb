import RecordFilter.Proofs.SimpleFilters
import RecordFilter.Proofs.Wire.Split
import RecordFilter.Proofs.Wire.Value
import RecordFilter.Wire.Filter

/-!
# Simple filters on the wire

The filters of distinct fields are sent as one entry each, in their order (`entries_encodeFilters`),
and the entry of a filter whose value fits its operator says the normal form of the filter
(`decodeEntry_encodeEntry`).
-/

namespace RecordFilter

namespace Context

variable {ctx : Context}

/-- The bare value of a filter is read as the value, since it is never an array. -/
lemma decodeEntry_of_items?_eq_none {name : String} {raw : Json} (h : raw.items? = none) :
    ctx.decodeEntry name raw = ctx.readFilter name .equals raw := by
  cases raw with
  | array items => simp [Json.items?] at h
  | _ => rfl

/-- A text is never sent as an array. -/
lemma items?_encodeText (s : Settings) (kind : FieldKind) (op : Operator) (text : String) :
    (s.encodeText kind op text).items? = none := by
  unfold Settings.encodeText
  split_ifs <;> rfl

/-- The value of a filter with the operator "equals" is never sent as an array. -/
lemma items?_encodeValue_equals (s : Settings) (field : Field) {value : Value}
    (hshape : value.shape = Operator.equals.shape) :
    (s.encodeValue field .equals value).items? = none := by
  cases value with
  | text text => exact items?_encodeText s field.kind .equals text
  | _ => simp [Value.shape, Operator.shape] at hshape

/-- The value that is sent under an operator is read as the normal form of the filter. -/
lemma readFilter_encodeValue (name : String) {filter : SimpleFilter}
    (hshape : filter.value.shape = filter.operator.shape) :
    ctx.readFilter name filter.operator
        (ctx.settings.encodeValue (ctx.catalog.resolve name) filter.operator filter.value) =
      .ok (ctx.normalFilter name filter) := by
  have hvalue := ctx.settings.decodeValue_encodeValue (ctx.catalog.resolve name) filter.operator
    filter.value hshape
  simp only [readFilter, Settings.readValue, hvalue, Except.mapError, Except.map, normalFilter]

/-- A filter whose value fits its operator comes back in normal form. -/
lemma decodeEntry_encodeEntry (name : String) {filter : SimpleFilter}
    (hshape : filter.value.shape = filter.operator.shape) :
    ctx.decodeEntry name (ctx.encodeEntry name filter) = .ok (ctx.normalFilter name filter) := by
  have hread : ctx.readFilter name filter.operator
      (ctx.settings.encodeValue (ctx.catalog.resolve name) filter.operator filter.value) =
        .ok (ctx.normalFilter name filter) := readFilter_encodeValue name hshape
  unfold encodeEntry
  split_ifs with hequals
  · obtain ⟨op, value⟩ := filter
    obtain rfl : op = .equals := hequals
    rw [decodeEntry_of_items?_eq_none (items?_encodeValue_equals _ _ hshape)]
    exact hread
  · simp only [decodeEntry, Json.string?, Option.getD_some, Operator.ofWireToken?_wireToken]
    exact hread

/-- The payload of filters of distinct fields has an entry for each, in the same order. -/
lemma entries_encodeFilters {f : SimpleFilters} (hkeys : (Ordered.keys f.entries).Nodup) :
    (ctx.encodeFilters f).entries =
      f.entries.map fun entry => (entry.1, ctx.encodeEntry entry.1 entry.2) := by
  refine Ordered.ofList_of_nodup ?_
  simpa [Ordered.keys, Function.comp_def] using hkeys

/-- What the payload of filters of distinct fields says under a key is the filter of that field. -/
lemma get?_encodeFilters {f : SimpleFilters} (hkeys : (Ordered.keys f.entries).Nodup)
    (key : String) :
    (ctx.encodeFilters f).get? key = (f.get? key).map (ctx.encodeEntry key) := by
  rw [Payload.get?, entries_encodeFilters hkeys]
  exact Ordered.get?_map ctx.encodeEntry key f.entries

/-- The entries of filters whose values fit say their normal forms, in order. -/
lemma denotesEntry_encodeEntry {entries : List (String × SimpleFilter)}
    (hshape : ∀ entry ∈ entries, entry.2.value.shape = entry.2.operator.shape) :
    List.Forall₂ ctx.DenotesEntry
      (entries.map fun entry => (entry.1, ctx.encodeEntry entry.1 entry.2))
      (entries.map fun entry => (entry.1, ctx.normalFilter entry.1 entry.2)) := by
  rw [List.forall₂_map_left_iff, List.forall₂_map_right_iff, List.forall₂_same]
  exact fun entry hentry => ⟨rfl, decodeEntry_encodeEntry entry.1 (hshape entry hentry)⟩

end Context

end RecordFilter
