import Mathlib.Data.List.Forall2
import RecordFilter.Proofs.Ordered
import RecordFilter.Wire.Entry

/-!
# The entries of a payload

Every entry of a payload is either reserved, and then it is kept as it is, or it says the filter of
a field.  A payload is split into the filters that its entries say, in their order, and the entries
that are reserved; and it cannot be split only if one of its entries says nothing
(`split_eq_ok_iff`).
-/

namespace RecordFilter

namespace Context

variable {ctx : Context}

/-- The advanced key is reserved. -/
lemma isReserved_advancedKey : ctx.isReserved ctx.settings.advancedKey = true := by
  simp [isReserved, Settings.isReserved]

/-- The tags key is reserved. -/
lemma isReserved_tagsKey : ctx.isReserved ctx.settings.tagsKey = true := by
  simp [isReserved, Settings.isReserved]

/-- The entries of a payload that are not reserved. -/
def fieldEntries (ctx : Context) (payload : Payload) : List (String × Json) :=
  payload.entries.filter fun entry => !ctx.isReserved entry.1

/-- An entry says the filter of a field: it stands under the name of the field, and its value is
read as the filter. -/
structure DenotesEntry (ctx : Context) (entry : String × Json) (filter : String × SimpleFilter) :
    Prop where
  name_eq : entry.1 = filter.1
  decodeEntry_eq : ctx.decodeEntry entry.1 entry.2 = .ok filter.2

/-- The filters that entries say stand under the same names. -/
lemma keys_eq_of_denotesEntry {entries : List (String × Json)}
    {filters : List (String × SimpleFilter)} (h : List.Forall₂ ctx.DenotesEntry entries filters) :
    Ordered.keys entries = Ordered.keys filters := by
  induction h with
  | nil => rfl
  | cons hentry _ ih =>
    rw [Ordered.keys, Ordered.keys] at ih
    rw [Ordered.keys, Ordered.keys, List.map_cons, List.map_cons, hentry.name_eq, ih]

/-- Every filter that entries say is said by one of them. -/
lemma exists_denotesEntry_of_mem {entries : List (String × Json)}
    {filters : List (String × SimpleFilter)} (h : List.Forall₂ ctx.DenotesEntry entries filters) :
    ∀ filter ∈ filters, ∃ entry ∈ entries, ctx.DenotesEntry entry filter := by
  induction h with
  | nil => simp
  | @cons entry filter _ _ hentry _ ih =>
    rw [List.forall_mem_cons]
    refine ⟨⟨entry, List.mem_cons_self, hentry⟩, fun other hother => ?_⟩
    obtain ⟨found, hfound, hdenotes⟩ := ih other hother
    exact ⟨found, List.mem_cons_of_mem entry hfound, hdenotes⟩

/-- Entries are split into the filters that they say and those that are reserved, which are set one
after the other. -/
lemma splitEntries_eq_ok_iff {entries : List (String × Json)} :
    ∀ {split after : SplitPayload}, ctx.splitEntries split entries = .ok after ↔
      ∃ filters,
        List.Forall₂ ctx.DenotesEntry (entries.filter fun entry => !ctx.isReserved entry.1)
            filters ∧
          after.filters.entries = Ordered.insertAll split.filters.entries filters ∧
          after.reserved.entries = Ordered.insertAll split.reserved.entries
            (entries.filter fun entry => ctx.isReserved entry.1) := by
  induction entries with
  | nil =>
    rintro ⟨⟨filters⟩, reserved⟩ ⟨⟨filters'⟩, reserved'⟩
    simp [splitEntries, Ordered.insertAll, Payload.eq_iff_entries_eq, eq_comm]
  | cons entry rest ih =>
    intro split after
    cases hkey : ctx.isReserved entry.1 with
    | true =>
      simp only [splitEntries, hkey, if_true, ih, List.filter_cons, Bool.not_true,
        Bool.false_eq_true, if_false]
      rfl
    | false =>
      simp only [splitEntries, hkey, Bool.false_eq_true, if_false, List.filter_cons,
        Bool.not_false, if_true, List.forall₂_cons_left_iff]
      cases hfilter : ctx.decodeEntry entry.1 entry.2 with
      | error error =>
        refine iff_of_false (by simp) ?_
        rintro ⟨_, ⟨filter, _, hentry, -⟩, -⟩
        simp [hentry.decodeEntry_eq] at hfilter
      | ok filter =>
        rw [ih]
        constructor
        · rintro ⟨filters, hrest, hafter⟩
          exact ⟨_, ⟨(entry.1, filter), filters, ⟨rfl, hfilter⟩, hrest, rfl⟩, hafter⟩
        · rintro ⟨_, ⟨⟨name, read⟩, filters, ⟨hname, hread⟩, hrest, rfl⟩, hafter⟩
          obtain rfl : entry.1 = name := hname
          obtain rfl : filter = read := Except.ok.inj (hfilter.symm.trans hread)
          exact ⟨filters, hrest, hafter⟩

/-- **How a payload is split**: into the filters that its entries say, in their order, and the
entries that are reserved. -/
theorem split_eq_ok_iff {payload : Payload} {split : SplitPayload} :
    ctx.split payload = .ok split ↔
      List.Forall₂ ctx.DenotesEntry (ctx.fieldEntries payload) split.filters.entries ∧
        split.reserved = payload.filterKeys ctx.isReserved := by
  -- the keys of a payload are distinct, so that nothing that is set replaces anything
  have hreserved : Ordered.insertAll Payload.empty.entries
      (payload.entries.filter fun entry => ctx.isReserved entry.1) =
        (payload.filterKeys ctx.isReserved).entries :=
    Ordered.ofList_of_nodup (payload.filterKeys ctx.isReserved).nodup_keys
  have hfilters : ∀ {filters : List (String × SimpleFilter)},
      List.Forall₂ ctx.DenotesEntry (ctx.fieldEntries payload) filters →
        Ordered.insertAll SimpleFilters.empty.entries filters = filters := by
    intro filters hall
    refine Ordered.ofList_of_nodup ?_
    rw [← keys_eq_of_denotesEntry hall]
    exact (payload.filterKeys fun key => !ctx.isReserved key).nodup_keys
  rw [Context.split, splitEntries_eq_ok_iff, Payload.eq_iff_entries_eq, hreserved]
  constructor
  · rintro ⟨filters, hall, heq, hrest⟩
    rw [heq, hfilters hall]
    exact ⟨hall, hrest⟩
  · rintro ⟨hall, hrest⟩
    exact ⟨_, hall, (hfilters hall).symm, hrest⟩

/-- Entries of fields and the reserved keys behind them are told apart. -/
lemma split_of_entries_eq_append {payload reserved : Payload} {fields : List (String × Json)}
    {filters : SimpleFilters} (hentries : payload.entries = fields ++ reserved.entries)
    (hfields : ∀ entry ∈ fields, ctx.isReserved entry.1 = false)
    (hreserved : ∀ key ∈ reserved.keys, ctx.isReserved key = true)
    (hdenotes : List.Forall₂ ctx.DenotesEntry fields filters.entries) :
    ctx.split payload = .ok ⟨filters, reserved⟩ := by
  have hbehind : ∀ entry ∈ reserved.entries, ctx.isReserved entry.1 = true :=
    fun entry hentry => hreserved entry.1 (List.mem_map_of_mem hentry)
  refine split_eq_ok_iff.2 ⟨?_, Payload.eq_iff_entries_eq.2 ?_⟩
  · rw [fieldEntries, hentries, List.filter_append, List.filter_eq_self.2 (by simpa using hfields),
      List.filter_eq_nil_iff.2 (by simpa using hbehind), List.append_nil]
    exact hdenotes
  · change reserved.entries = payload.entries.filter fun entry => ctx.isReserved entry.1
    rw [hentries, List.filter_append,
      List.filter_eq_nil_iff.2 (by simpa using hfields), List.filter_eq_self.2 hbehind,
      List.nil_append]

end Context

end RecordFilter
