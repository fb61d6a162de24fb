import RecordFilter.Proofs.Editor.Run
import RecordFilter.Proofs.Editor.Tags
import RecordFilter.Proofs.Wire.Reading

/-!
# The order of the keys when one is dropped

A payload lists its keys in an order, and the key that stands last takes the place of a key that is
dropped (`Payload.keys_erase`).  The others keep their order just if there is at most one key behind
the one that is dropped (`Payload.keys_erase_eq_filter_iff`): with two or more of them the last one
overtakes the rest.

The advanced key is dropped from the reserved keys when a payload is read, and the tags key is
dropped when no tags are selected.  So the order of the other keys depends on what stands behind
these two (`dropped_key_order`).
-/

namespace RecordFilter

/-- To put the last item of a list in front changes a list without repetitions just if it has two
items or more. -/
lemma getLast?_toList_append_dropLast_eq_self_iff {α : Type _} {items : List α}
    (h : items.Nodup) : items.getLast?.toList ++ items.dropLast = items ↔ items.length ≤ 1 := by
  rcases List.eq_nil_or_concat' items with rfl | ⟨init, last, rfl⟩
  · simp
  · rw [List.getLast?_concat, List.dropLast_concat, Option.toList_some, List.singleton_append,
      List.length_append, List.length_singleton]
    cases init with
    | nil => simp
    | cons first rest =>
      have hne : last ≠ first := by
        rintro rfl
        simp at h
      simp [hne]

namespace Ordered

/-- The keys behind a key. -/
def behind (key : String) (keys : List String) : List String :=
  (keys.dropWhile (· ≠ key)).tail

/-- The keys after the last one has taken the place of a key. -/
def lastInPlaceOf (key : String) (keys : List String) : List String :=
  keys.takeWhile (· ≠ key) ++ ((behind key keys).getLast?.toList ++ (behind key keys).dropLast)

variable {α : Type _} {key k : String} {keys : List String}

/-- Behind the first key there is the rest. -/
@[simp] lemma behind_cons_self : behind key (key :: keys) = keys := by
  simp [behind]

/-- A key in front of another has nothing to do with what is behind that one. -/
lemma behind_cons_of_ne (h : k ≠ key) : behind key (k :: keys) = behind key keys := by
  simp [behind, h]

/-- The last key takes the place of the first. -/
lemma lastInPlaceOf_cons_self :
    lastInPlaceOf key (key :: keys) = keys.getLast?.toList ++ keys.dropLast := by
  simp [lastInPlaceOf]

/-- A key in front of one that is dropped stays in front. -/
lemma lastInPlaceOf_cons_of_ne (h : k ≠ key) :
    lastInPlaceOf key (k :: keys) = k :: lastInPlaceOf key keys := by
  simp [lastInPlaceOf, behind_cons_of_ne h, h]

/-- The last pair takes the place of the one that is taken out. -/
theorem keys_swapErase (key : String) (entries : List (String × α)) :
    Ordered.keys (swapErase key entries) = lastInPlaceOf key (Ordered.keys entries) := by
  induction entries with
  | nil => rfl
  | cons entry rest ih =>
    have hcons : Ordered.keys (entry :: rest) = entry.1 :: Ordered.keys rest := rfl
    rw [swapErase, hcons]
    split_ifs with hentry
    · rw [hentry, lastInPlaceOf_cons_self]
      rcases List.eq_nil_or_concat' rest with rfl | ⟨init, last, rfl⟩
      · rfl
      · simp [lastFirst, Ordered.keys]
    · rw [lastInPlaceOf_cons_of_ne hentry, ← ih]
      rfl

/-- The other keys keep their order just if at most one of them stands behind the key. -/
theorem lastInPlaceOf_eq_filter_iff (h : keys.Nodup) :
    lastInPlaceOf key keys = keys.filter (· ≠ key) ↔ (behind key keys).length ≤ 1 := by
  induction keys with
  | nil => exact iff_of_true rfl (Nat.zero_le 1)
  | cons k rest ih =>
    rw [List.nodup_cons] at h
    by_cases hk : k = key
    · subst hk
      have hkeep : rest.filter (· ≠ k) = rest := by
        rw [List.filter_eq_self]
        intro other hother
        simpa using ne_of_mem_of_not_mem hother h.1
      rw [lastInPlaceOf_cons_self, behind_cons_self, List.filter_cons_of_neg (by simp), hkeep]
      exact getLast?_toList_append_dropLast_eq_self_iff h.2
    · rw [lastInPlaceOf_cons_of_ne hk, behind_cons_of_ne hk,
        List.filter_cons_of_pos (by simpa using hk), List.cons_inj_right]
      exact ih h.2

end Ordered

namespace Payload

variable {p : Payload} {key : String}

/-- The last key takes the place of a key that is dropped. -/
lemma keys_erase (p : Payload) (key : String) :
    (p.erase key).keys = Ordered.lastInPlaceOf key p.keys :=
  Ordered.keys_swapErase key p.entries

/-- The other keys keep their order just if at most one of them stands behind the key that is
dropped. -/
lemma keys_erase_eq_filter_iff (p : Payload) (key : String) :
    (p.erase key).keys = p.keys.filter (· ≠ key) ↔ (Ordered.behind key p.keys).length ≤ 1 := by
  rw [keys_erase]
  exact Ordered.lastInPlaceOf_eq_filter_iff p.nodup_keys

/-- Keys that are kept keep their order. -/
lemma keys_filterKeys (p : Payload) (keep : String → Bool) :
    (p.filterKeys keep).keys = p.keys.filter keep :=
  (List.filter_map (f := Prod.fst) (l := p.entries) (p := keep)).symm

/-- To drop a key that is not there changes nothing. -/
lemma erase_of_get?_eq_none (h : p.get? key = none) : p.erase key = p :=
  eq_iff_entries_eq.2 (Ordered.swapErase_of_get?_eq_none h)

end Payload

namespace Context

/-- The reserved keys that are read from a payload are its reserved keys after the advanced key has
been dropped. -/
lemma reserved_of_hydrate {ctx : Context} {payload : Payload} {read : Hydrated}
    (h : ctx.hydrate payload = .ok read) :
    read.reserved = (payload.filterKeys ctx.isReserved).erase ctx.settings.advancedKey := by
  obtain ⟨split, hsplit, ⟨hnone, rfl⟩ | ⟨raw, tree, -, -, rfl⟩⟩ := hydrate_eq_ok_iff.1 h
  · rw [← (split_eq_ok_iff.1 hsplit).2]
    exact (Payload.erase_of_get?_eq_none hnone).symm
  · rw [← (split_eq_ok_iff.1 hsplit).2]

end Context

namespace Editor

/-- Blank texts select no tags. -/
lemma selectedTags_eq_nil {texts : List String}
    (h : ∀ text ∈ texts, Text.isBlankText text = true) : selectedTags texts = [] := by
  rw [List.eq_nil_iff_forall_not_mem]
  intro tag htag
  obtain ⟨text, hmem, hblank, -⟩ := ((selects_selectedTags texts).mem_iff tag).1 htag
  simp [h text hmem] at hblank

/-- Where no tag is selected, the tags key is dropped. -/
lemma payloadWithTags_nil (e : Editor) (payload : Payload) :
    e.payloadWithTags [] payload = payload.erase e.context.settings.tagsKey :=
  if_pos rfl

/-- **When keys keep their order.**  The reserved keys that are read from a payload are listed in
the order of the payload just if at most one of them stands behind the advanced key there.  Where
no tag is selected, the keys of what is applied and the reserved keys keep their order just if at
most one of them stands behind the tags key.  In every case the key that stands last takes the
place of the key that is dropped, and the others stay. -/
theorem dropped_key_order (ctx : Context) (payload : Payload) (e : Editor) (texts : List String) :
    (∀ read, ctx.hydrate payload = .ok read →
      read.reserved.keys =
          Ordered.lastInPlaceOf ctx.settings.advancedKey (payload.keys.filter ctx.isReserved) ∧
        (read.reserved.keys =
            (payload.keys.filter ctx.isReserved).filter (· ≠ ctx.settings.advancedKey) ↔
          (Ordered.behind ctx.settings.advancedKey
            (payload.keys.filter ctx.isReserved)).length ≤ 1)) ∧
      ((∀ text ∈ texts, Text.isBlankText text = true) →
        (e.setTags texts).list.received =
            e.list.received ++ [(e.setTags texts).state.applied] ∧
          (e.setTags texts).state.applied.keys =
            Ordered.lastInPlaceOf e.context.settings.tagsKey e.state.applied.keys ∧
          ((e.setTags texts).state.applied.keys =
              e.state.applied.keys.filter (· ≠ e.context.settings.tagsKey) ↔
            (Ordered.behind e.context.settings.tagsKey e.state.applied.keys).length ≤ 1) ∧
          (e.setTags texts).state.reserved.keys =
            Ordered.lastInPlaceOf e.context.settings.tagsKey e.state.reserved.keys ∧
          ((e.setTags texts).state.reserved.keys =
              e.state.reserved.keys.filter (· ≠ e.context.settings.tagsKey) ↔
            (Ordered.behind e.context.settings.tagsKey e.state.reserved.keys).length ≤ 1)) := by
  refine ⟨fun read h => ?_, fun h => ?_⟩
  · rw [Context.reserved_of_hydrate h, ← Payload.keys_filterKeys]
    exact ⟨Payload.keys_erase _ _, Payload.keys_erase_eq_filter_iff _ _⟩
  · have hnone : selectedTags texts = [] := selectedTags_eq_nil h
    rw [setTags, hnone, payloadWithTags_nil, payloadWithTags_nil]
    exact ⟨rfl, Payload.keys_erase _ _, Payload.keys_erase_eq_filter_iff _ _,
      Payload.keys_erase _ _, Payload.keys_erase_eq_filter_iff _ _⟩

/-- A payload of a condition list and some more reserved keys. -/
def listPayload (more : List String) : Payload :=
  .ofList (("_conditions", .array [.array [.string "status", .string "=", .string "Open"]]) ::
    more.map fun key => (key, .null))

/-- The editor of a list that is filtered by one tag and has some more reserved keys. -/
def taggedEditor (more : List String) : Editor :=
  opened ⟨.ofList (("_tags", Json.ofStrings ["late"]) :: more.map fun key => (key, .null)), none,
    none, []⟩ ⟨.empty, .standard⟩

/-- `dropped_key_order` where one key stands behind the one that is dropped, and keeps its place
among the others. -/
theorem dropped_key_order_one_behind :
    (∃ read, Context.hydrate ⟨.empty, .standard⟩ (listPayload ["_seen"]) = .ok read ∧
      read.reserved.keys = ["_seen"]) ∧
      (∀ text ∈ [" "], Text.isBlankText text = true) ∧
      ((taggedEditor ["_seen"]).setTags [" "]).list.received =
        [((taggedEditor ["_seen"]).setTags [" "]).state.applied] ∧
      ((taggedEditor ["_seen"]).setTags [" "]).state.applied.keys = ["_seen"] := by
  have hblank : ∀ text ∈ [" "], Text.isBlankText text = true := by decide
  have hread : ∃ read,
      Context.hydrate ⟨.empty, .standard⟩ (listPayload ["_seen"]) = .ok read := ⟨_, rfl⟩
  obtain ⟨read, hread⟩ := hread
  obtain ⟨hhydrate, htags⟩ := dropped_key_order ⟨.empty, .standard⟩ (listPayload ["_seen"])
    (taggedEditor ["_seen"]) [" "]
  obtain ⟨hreceived, -, hkeys, -⟩ := htags hblank
  exact ⟨⟨read, hread, (hhydrate read hread).2.2 (by decide)⟩, hblank, hreceived,
    hkeys.2 (by decide)⟩

/-- With two keys behind the one that is dropped, the last of them overtakes the other: the reserved
keys that are read are not in the order of the payload, and neither are the keys that are applied
and the reserved keys after the tags have been taken out. -/
theorem dropped_key_disorder :
    (∃ read, Context.hydrate ⟨.empty, .standard⟩ (listPayload ["_seen", "_user"]) = .ok read ∧
      (listPayload ["_seen", "_user"]).keys = ["_conditions", "_seen", "_user"] ∧
      read.reserved.keys = ["_user", "_seen"]) ∧
      (taggedEditor ["_seen", "_user"]).state.applied.keys = ["_tags", "_seen", "_user"] ∧
      (taggedEditor ["_seen", "_user"]).state.reserved.keys = ["_tags", "_seen", "_user"] ∧
      ((taggedEditor ["_seen", "_user"]).setTags []).state.applied.keys = ["_user", "_seen"] ∧
      ((taggedEditor ["_seen", "_user"]).setTags []).state.reserved.keys = ["_user", "_seen"] := by
  refine ⟨⟨_, rfl, ?_, ?_⟩, ?_, ?_, ?_, ?_⟩
  all_goals decide

end Editor

end RecordFilter
