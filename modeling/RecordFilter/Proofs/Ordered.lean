import Mathlib.Tactic.Common
import RecordFilter.Payload
import RecordFilter.SimpleFilters

/-!
# Distinct keys

Where the keys are distinct, setting pairs one after the other puts them at the end in their
order, so that the pairs are the map that is made of them (`ofList_of_nodup`).  What stands under
a key then does not depend on the order of the pairs (`get?_eq_of_perm`).  The last two sections
carry this over to payloads and to simple filters.
-/

namespace RecordFilter

namespace Ordered

variable {α : Type _}

/-- A key that is not there goes to the end. -/
lemma insert_of_not_mem {key : String} {value : α} {entries : List (String × α)}
    (h : key ∉ keys entries) : insert key value entries = entries ++ [(key, value)] := by
  induction entries with
  | nil => rfl
  | cons entry rest ih =>
    rw [keys, List.map_cons, List.mem_cons, not_or] at h
    rw [insert_cons, if_neg (Ne.symm h.1), ih h.2, List.cons_append]

/-- A pair that is there after an insertion is the new one, or it was there before. -/
lemma eq_or_mem_of_mem_insert {key : String} {value : α} {entry : String × α}
    {entries : List (String × α)} (h : entry ∈ insert key value entries) :
    entry = (key, value) ∨ entry ∈ entries := by
  induction entries with
  | nil => exact .inl (List.mem_singleton.1 h)
  | cons first rest ih =>
    rw [insert_cons] at h
    split_ifs at h with hkey
    · obtain rfl := hkey
      rcases List.mem_cons.1 h with heq | hmem
      · exact .inl heq
      · exact .inr (List.mem_cons_of_mem _ hmem)
    · rcases List.mem_cons.1 h with heq | hmem
      · exact .inr (List.mem_cons.2 (.inl heq))
      · exact (ih hmem).imp_right (List.mem_cons_of_mem first)

/-- There is a value under a key if the key is there. -/
lemma contains_iff_mem_keys {key : String} {entries : List (String × α)} :
    contains key entries = true ↔ key ∈ keys entries := by
  induction entries with
  | nil => simp [contains, get?, keys]
  | cons entry rest ih =>
    rw [contains] at ih
    rw [keys, List.map_cons, List.mem_cons, contains, get?]
    by_cases hkey : entry.1 = key
    · simp [hkey]
    · rw [if_neg hkey, ih, keys]
      simp [Ne.symm hkey]

/-- The keys of two lists of pairs one after the other. -/
lemma keys_append (entries more : List (String × α)) :
    keys (entries ++ more) = keys entries ++ keys more :=
  List.map_append

/-- Where the keys are distinct, the key of a pair does not stand before it. -/
lemma not_mem_keys_of_nodup {entries more : List (String × α)} {entry : String × α}
    (h : (keys (entries ++ entry :: more)).Nodup) : entry.1 ∉ keys entries := by
  rw [keys_append, List.nodup_append] at h
  exact fun hmem => h.2.2 _ hmem entry.1 List.mem_cons_self rfl

/-- Pairs with new and distinct keys go to the end in their order. -/
lemma insertAll_of_nodup {more : List (String × α)} :
    ∀ {entries : List (String × α)}, (keys (entries ++ more)).Nodup →
      insertAll entries more = entries ++ more := by
  induction more with
  | nil =>
    intro entries _
    rw [insertAll, List.append_nil]
  | cons entry more ih =>
    intro entries h
    have hkey := not_mem_keys_of_nodup h
    rw [List.append_cons] at h
    rw [insertAll, insert_of_not_mem hkey, ih h, ← List.append_cons]

/-- Pairs with distinct keys are the map that is made of them. -/
lemma ofList_of_nodup {entries : List (String × α)} (h : (keys entries).Nodup) :
    ofList entries = entries :=
  insertAll_of_nodup h

/-- To replace a value leaves the keys in their places. -/
lemma keys_insert_of_mem {key : String} {entries : List (String × α)} (h : key ∈ keys entries)
    (value : α) : keys (insert key value entries) = keys entries := by
  induction entries with
  | nil => simp [keys] at h
  | cons entry rest ih =>
    rw [keys, List.map_cons, List.mem_cons] at h
    rw [insert_cons]
    split_ifs with hentry
    · rfl
    · rw [keys, List.map_cons, keys, List.map_cons]
      exact congrArg (entry.1 :: ·) (ih (h.resolve_left (Ne.symm hentry)))

/-- To take a pair out takes its key out. -/
lemma keys_erase (key : String) (entries : List (String × α)) :
    keys (erase key entries) = (keys entries).erase key := by
  induction entries with
  | nil => rfl
  | cons entry rest ih =>
    rw [erase_cons, keys, keys, List.map_cons, List.erase_cons]
    by_cases hentry : entry.1 = key
    · simp [hentry]
    · rw [if_neg hentry, if_neg (by simpa using hentry), List.map_cons]
      exact congrArg (entry.1 :: ·) ih

/-! ### Values under keys -/

/-- Nothing stands under a key that is not there. -/
lemma get?_eq_none_of_not_mem {key : String} {entries : List (String × α)}
    (h : key ∉ keys entries) : get? key entries = none := by
  rw [← contains_iff_mem_keys, contains, Bool.not_eq_true, Option.isSome_eq_false_iff] at h
  exact Option.isNone_iff_eq_none.1 h

/-- The value that is set stands under its key, and every other key keeps its value. -/
lemma get?_insert (k key : String) (value : α) (entries : List (String × α)) :
    get? k (insert key value entries) = if key = k then some value else get? k entries := by
  induction entries with
  | nil => rfl
  | cons entry rest ih =>
    by_cases hentry : entry.1 = key
    · rw [insert_cons, if_pos hentry, get?, get?, hentry]
      split_ifs <;> rfl
    · rw [insert_cons, if_neg hentry, get?, get?, ih]
      by_cases hkey : key = k
      · rw [if_pos hkey, if_pos hkey, if_neg (hkey ▸ hentry)]
      · rw [if_neg hkey, if_neg hkey]

/-- To set what a key holds changes nothing. -/
lemma insert_of_get?_eq_some {key : String} {value : α} {entries : List (String × α)}
    (h : get? key entries = some value) : insert key value entries = entries := by
  induction entries with
  | nil => simp [get?] at h
  | cons entry rest ih =>
    rw [get?] at h
    rw [insert_cons]
    split_ifs at h ⊢ with hkey
    · obtain rfl := Option.some.inj h
      rfl
    · rw [ih h]

/-- To take out a key that is not there changes nothing. -/
lemma swapErase_of_get?_eq_none {key : String} {entries : List (String × α)}
    (h : get? key entries = none) : swapErase key entries = entries := by
  induction entries with
  | nil => rfl
  | cons entry rest ih =>
    rw [get?] at h
    rw [swapErase]
    split_ifs at h ⊢ with hkey
    rw [ih h]

/-- After pairs with distinct keys have been set, their values stand under their keys, and every
other key keeps its value. -/
lemma get?_insertAll {more : List (String × α)} (k : String) :
    ∀ (entries : List (String × α)), (keys more).Nodup →
      get? k (insertAll entries more) = (get? k more).or (get? k entries) := by
  induction more with
  | nil =>
    intro entries _
    rw [insertAll, get?, Option.none_or]
  | cons entry more ih =>
    intro entries h
    rw [keys, List.map_cons, List.nodup_cons] at h
    rw [insertAll, ih _ h.2, get?_insert, get?]
    split_ifs with hkey
    · rw [get?_eq_none_of_not_mem (hkey ▸ h.1), Option.none_or, Option.some_or]
    · rfl

/-- Where the keys are distinct, a value stands under a key if the pair is there. -/
lemma get?_eq_some_iff_mem {key : String} {value : α} {entries : List (String × α)}
    (h : (keys entries).Nodup) : get? key entries = some value ↔ (key, value) ∈ entries := by
  induction entries with
  | nil => simp [get?]
  | cons entry rest ih =>
    rw [keys, List.map_cons, List.nodup_cons] at h
    rw [get?, List.mem_cons]
    split_ifs with hkey
    · have hrest : (key, value) ∉ rest := fun hmem =>
        h.1 (hkey ▸ List.mem_map_of_mem (f := Prod.fst) hmem)
      obtain ⟨k, old⟩ := entry
      obtain rfl : k = key := hkey
      simp [hrest, eq_comm]
    · rw [ih h.2, or_iff_right]
      rintro rfl
      exact hkey rfl

/-- What stands under a key does not depend on the order of the pairs. -/
lemma get?_eq_of_perm {entries other : List (String × α)} (hperm : entries.Perm other)
    (h : (keys entries).Nodup) (key : String) : get? key entries = get? key other := by
  have hother : (keys other).Nodup := (hperm.map Prod.fst).nodup_iff.1 h
  refine Option.ext fun value => ?_
  rw [get?_eq_some_iff_mem h, get?_eq_some_iff_mem hother, hperm.mem_iff]

/-- Where the keys are distinct, nothing stands under a key that has been taken out, and every other
key keeps its value. -/
lemma get?_erase {key : String} {entries : List (String × α)} (h : (keys entries).Nodup)
    (k : String) : get? k (erase key entries) = if key = k then none else get? k entries := by
  induction entries with
  | nil => simp [erase_nil, get?]
  | cons entry rest ih =>
    rw [keys, List.map_cons, List.nodup_cons] at h
    by_cases hentry : entry.1 = key
    · rw [erase_cons, if_pos hentry, get?, hentry]
      split_ifs with hkey
      · exact get?_eq_none_of_not_mem (hkey ▸ hentry ▸ h.1)
      · rfl
    · rw [erase_cons, if_neg hentry, get?, get?, ih h.2]
      by_cases hkey : key = k
      · rw [if_pos hkey, if_pos hkey, if_neg (hkey ▸ hentry)]
      · rw [if_neg hkey, if_neg hkey]

/-- Where the keys are distinct, the pairs do not have to keep their places. -/
lemma get?_swapErase {key : String} {entries : List (String × α)} (h : (keys entries).Nodup)
    (k : String) : get? k (swapErase key entries) = if key = k then none else get? k entries := by
  rw [get?_eq_of_perm (perm_swapErase key entries) (nodup_keys_swapErase h), get?_erase h]

/-- An insertion gives the value that the key has had. -/
lemma fst_getThenInsert (key : String) (value : α) (entries : List (String × α)) :
    (getThenInsert key value entries).1 = get? key entries := by
  induction entries with
  | nil => rfl
  | cons entry rest ih =>
    rw [getThenInsert, get?]
    split_ifs
    · rfl
    · exact ih

/-- A removal gives the value that the key has had. -/
lemma fst_getThenErase (key : String) (entries : List (String × α)) :
    (getThenErase key entries).1 = get? key entries := by
  induction entries with
  | nil => rfl
  | cons entry rest ih =>
    rw [getThenErase, get?]
    split_ifs
    · rfl
    · exact ih

/-- The values of pairs that are changed one by one. -/
lemma get?_map {β : Type _} (f : String → α → β) (k : String) (entries : List (String × α)) :
    get? k (entries.map fun entry => (entry.1, f entry.1 entry.2)) =
      (get? k entries).map (f k) := by
  induction entries with
  | nil => rfl
  | cons entry rest ih =>
    rw [List.map_cons, get?, get?, ih]
    split_ifs with hkey
    · rw [hkey, Option.map_some]
    · rfl

/-- Where pairs are kept by their keys, a key that is kept has the value that it had. -/
lemma get?_filter (keep : String → Bool) (k : String) (entries : List (String × α)) :
    get? k (entries.filter fun entry => keep entry.1) =
      if keep k = true then get? k entries else none := by
  induction entries with
  | nil => rw [List.filter_nil, get?, ite_self]
  | cons entry rest ih =>
    rw [List.filter_cons, get?]
    by_cases hkey : entry.1 = k
    · by_cases hkeep : keep entry.1 = true
      · rw [if_pos hkeep, get?, if_pos hkey, if_pos (hkey ▸ hkeep), if_pos hkey]
      · rw [if_neg hkeep, ih, if_neg (hkey ▸ hkeep), if_neg (hkey ▸ hkeep)]
    · rw [if_neg hkey, ← ih]
      split_ifs
      · rw [get?, if_neg hkey]
      · rfl

end Ordered

namespace Payload

/-- A payload is known by its entries. -/
lemma eq_iff_entries_eq {p q : Payload} : p = q ↔ p.entries = q.entries := by
  cases p
  cases q
  simp

/-- A key is there if something stands under it. -/
lemma mem_keys_iff {p : Payload} {key : String} : key ∈ p.keys ↔ p.get? key ≠ none := by
  rw [keys, ← Ordered.contains_iff_mem_keys, Ordered.contains, Option.isSome_iff_ne_none]
  exact Iff.rfl

/-- Nothing stands in the empty payload. -/
lemma get?_empty (key : String) : empty.get? key = none := rfl

/-- The value that is set stands under its key. -/
lemma get?_insert (p : Payload) (key k : String) (value : Json) :
    (p.insert key value).get? k = if key = k then some value else p.get? k :=
  Ordered.get?_insert k key value p.entries

/-- Nothing stands under a key that has been taken out. -/
lemma get?_erase (p : Payload) (key k : String) :
    (p.erase key).get? k = if key = k then none else p.get? k :=
  Ordered.get?_swapErase p.nodup_keys k

/-- The values of the payload that is set win. -/
lemma get?_overlay (p more : Payload) (k : String) :
    (p.overlay more).get? k = (more.get? k).or (p.get? k) :=
  Ordered.get?_insertAll k p.entries more.nodup_keys

/-- A key that is kept has the value that it had. -/
lemma get?_filterKeys (p : Payload) (keep : String → Bool) (k : String) :
    (p.filterKeys keep).get? k = if keep k = true then p.get? k else none :=
  Ordered.get?_filter keep k p.entries

end Payload

namespace SimpleFilters

variable {f : SimpleFilters} {name : String} {filter : SimpleFilter}
  {P : String × SimpleFilter → Prop}

/-- A field is filtered if it is among the names. -/
lemma mem_names_iff : name ∈ f.names ↔ f.get? name ≠ none := by
  rw [names, ← Ordered.contains_iff_mem_keys, Ordered.contains, Option.isSome_iff_ne_none]
  exact Iff.rfl

/-- The filter that is set stands under its name. -/
lemma get?_insert (f : SimpleFilters) (name k : String) (filter : SimpleFilter) :
    (f.insert name filter).get? k = if name = k then some filter else f.get? k :=
  Ordered.get?_insert k name filter f.entries

/-- Nothing stands under a name that has been taken out. -/
lemma get?_erase (h : f.names.Nodup) (name k : String) :
    (f.erase name).get? k = if name = k then none else f.get? k :=
  Ordered.get?_erase h k

/-- The fields after a filter has been set: a field that is new goes to the end. -/
lemma names_insert (f : SimpleFilters) (name : String) (filter : SimpleFilter) :
    (f.insert name filter).names =
      if f.contains name then f.names else f.names ++ [name] := by
  split_ifs with hthere
  · exact Ordered.keys_insert_of_mem (Ordered.contains_iff_mem_keys.1 hthere) filter
  · have hnew : name ∉ Ordered.keys f.entries := mt Ordered.contains_iff_mem_keys.2 hthere
    change Ordered.keys (Ordered.insert name filter f.entries) = _
    rw [Ordered.insert_of_not_mem hnew, Ordered.keys_append]
    rfl

/-- The fields after a filter has been taken out: the gap is closed. -/
lemma names_erase (f : SimpleFilters) (name : String) :
    (f.erase name).names = f.names.erase name :=
  Ordered.keys_erase name f.entries

/-- A filter may be set if it has what all filters have. -/
lemma forall_entries_insert (h : ∀ entry ∈ f.entries, P entry) (hnew : P (name, filter)) :
    ∀ entry ∈ (f.insert name filter).entries, P entry := by
  intro entry hentry
  rcases Ordered.eq_or_mem_of_mem_insert hentry with rfl | hmem
  · exact hnew
  · exact h entry hmem

/-- A filter may be taken out. -/
lemma forall_entries_erase (h : ∀ entry ∈ f.entries, P entry) (name : String) :
    ∀ entry ∈ (f.erase name).entries, P entry :=
  fun entry hentry => h entry ((Ordered.sublist_erase name f.entries).subset hentry)

/-- The names stay distinct where a filter is set. -/
lemma nodup_names_insert (h : f.names.Nodup) : (f.insert name filter).names.Nodup :=
  Ordered.nodup_keys_insert h

/-- The names stay distinct where a filter is taken out. -/
lemma nodup_names_erase (h : f.names.Nodup) (name : String) : (f.erase name).names.Nodup :=
  ((Ordered.sublist_erase name f.entries).map Prod.fst).nodup h

end SimpleFilters

end RecordFilter
