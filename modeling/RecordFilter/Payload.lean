import RecordFilter.Json.Basic
import RecordFilter.Ordered

/-!
# Filter payloads

A payload is what a list is filtered by on the server: JSON values under distinct keys, in an
order that every operation determines.  Setting a key that is there keeps its place, a new key
goes to the end, and taking a key out moves the last entry into its place.
-/

namespace RecordFilter

namespace Ordered

variable {α : Type _}

theorem mem_keys_insert {key k : String} {value : α} {entries : List (String × α)} :
    k ∈ keys (insert key value entries) ↔ k = key ∨ k ∈ keys entries := by
  induction entries with
  | nil => simp [insert_nil, keys]
  | cons entry rest ih =>
    simp only [keys] at ih
    by_cases h : entry.1 = key
    · simp [insert_cons, keys, h]
    · simp only [insert_cons, keys, h, if_false, List.map_cons, List.mem_cons, ih]
      grind

theorem nodup_keys_insert {key : String} {value : α} {entries : List (String × α)}
    (h : (keys entries).Nodup) : (keys (insert key value entries)).Nodup := by
  induction entries with
  | nil => simp [insert_nil, keys]
  | cons entry rest ih =>
    simp only [keys, List.map_cons, List.nodup_cons] at h
    by_cases hk : entry.1 = key
    · simp only [insert_cons, hk, if_true, keys, List.map_cons, List.nodup_cons]
      exact ⟨hk ▸ h.1, h.2⟩
    · simp only [insert_cons, hk, if_false, keys, List.map_cons, List.nodup_cons]
      refine ⟨fun hmem => ?_, ih h.2⟩
      rcases mem_keys_insert.1 hmem with heq | hrest
      · exact hk heq
      · exact h.1 hrest

theorem nodup_keys_insertAll {entries more : List (String × α)} (h : (keys entries).Nodup) :
    (keys (insertAll entries more)).Nodup := by
  induction more generalizing entries with
  | nil => exact h
  | cons entry more ih => exact ih (nodup_keys_insert h)

theorem nodup_keys_ofList (entries : List (String × α)) : (keys (ofList entries)).Nodup :=
  nodup_keys_insertAll List.nodup_nil

theorem perm_lastFirst (entries : List (String × α)) : (lastFirst entries).Perm entries := by
  unfold lastFirst
  split
  · next h => simp [List.getLast?_eq_none_iff.1 h]
  · next last h =>
    have hlast : entries = entries.dropLast ++ [last] := by
      obtain ⟨front, rfl⟩ := List.getLast?_eq_some_iff.1 h
      simp
    exact (List.perm_append_singleton last entries.dropLast).symm.trans (hlast ▸ List.Perm.refl _)

theorem sublist_erase (key : String) (entries : List (String × α)) :
    (erase key entries).Sublist entries := by
  induction entries with
  | nil => exact List.Sublist.refl _
  | cons entry rest ih =>
    by_cases h : entry.1 = key
    · simp [erase_cons, h]
    · simp [erase_cons, h, ih]

theorem perm_swapErase (key : String) (entries : List (String × α)) :
    (swapErase key entries).Perm (erase key entries) := by
  induction entries with
  | nil => exact List.Perm.refl _
  | cons entry rest ih =>
    by_cases h : entry.1 = key
    · simpa [swapErase, erase_cons, h] using perm_lastFirst rest
    · simpa [swapErase, erase_cons, h] using ih

theorem nodup_keys_swapErase {key : String} {entries : List (String × α)}
    (h : (keys entries).Nodup) : (keys (swapErase key entries)).Nodup :=
  ((perm_swapErase key entries).map Prod.fst).nodup_iff.2
    (((sublist_erase key entries).map Prod.fst).nodup h)

end Ordered

/-- JSON values under distinct keys, in order. -/
structure Payload where
  entries : List (String × Json)
  nodup_keys : (Ordered.keys entries).Nodup
  deriving DecidableEq

namespace Payload

/-- The payload without entries. -/
def empty : Payload := ⟨[], List.nodup_nil⟩

instance : Inhabited Payload := ⟨empty⟩

/-- The payload of some entries; a repeated key keeps its first place and takes its last
value. -/
def ofList (entries : List (String × Json)) : Payload :=
  ⟨Ordered.ofList entries, Ordered.nodup_keys_ofList entries⟩

/-- The keys in their order. -/
def keys (p : Payload) : List String :=
  Ordered.keys p.entries

/-- The number of entries. -/
def size (p : Payload) : Nat :=
  p.entries.length

/-- Whether there are no entries. -/
def isEmpty (p : Payload) : Bool :=
  p.entries.isEmpty

/-- The value under a key. -/
def get? (p : Payload) (key : String) : Option Json :=
  Ordered.get? key p.entries

/-- Sets the value under a key. -/
def insert (p : Payload) (key : String) (value : Json) : Payload :=
  ⟨Ordered.insert key value p.entries, Ordered.nodup_keys_insert p.nodup_keys⟩

/-- Takes a key out; the last entry moves into its place. -/
def erase (p : Payload) (key : String) : Payload :=
  ⟨Ordered.swapErase key p.entries, Ordered.nodup_keys_swapErase p.nodup_keys⟩

/-- Sets the values of another payload one after the other. -/
def overlay (p more : Payload) : Payload :=
  ⟨Ordered.insertAll p.entries more.entries, Ordered.nodup_keys_insertAll p.nodup_keys⟩

/-- The entries that satisfy a condition on their key. -/
def filterKeys (p : Payload) (keep : String → Bool) : Payload :=
  ⟨p.entries.filter fun entry => keep entry.1,
    ((List.filter_sublist (l := p.entries)).map Prod.fst).nodup p.nodup_keys⟩

/-- The payload as a JSON object. -/
def toJson (p : Payload) : Json :=
  .object p.entries

end Payload

end RecordFilter
