import Mathlib.Data.List.Perm.Basic

/-!
# The order in which keys come first

Items may stand in the order in which their keys come first in a list of keys.  No two of them have
one key then, they can stand in no other order (`InOrder.eq_of_mem_iff`), and they keep it when the
list of keys grows at its end (`InOrder.append`), where a new key takes its item to the end
(`InOrder.concat`).
-/

namespace RecordFilter

variable {α : Type _} {keys : List String} {key : α → String} {items others : List α} {item : α}

/-- Items stand in the order in which their keys come first in a list. -/
def InOrder (keys : List String) (key : α → String) (items : List α) : Prop :=
  items.Pairwise fun earlier later => keys.idxOf (key earlier) < keys.idxOf (key later)

namespace InOrder

/-- No two items have one key. -/
lemma nodup_map (h : InOrder keys key items) : (items.map key).Nodup :=
  List.pairwise_map.2 (h.imp fun hlt heq => by simp [heq] at hlt)

/-- No item stands twice. -/
lemma nodup (h : InOrder keys key items) : items.Nodup :=
  h.imp fun hlt heq => by simp [heq] at hlt

/-- The same items in the order of the same keys are the same list. -/
lemma eq_of_mem_iff (h : InOrder keys key items) (hothers : InOrder keys key others)
    (hmem : ∀ item, item ∈ items ↔ item ∈ others) : items = others :=
  ((List.perm_ext_iff_of_nodup h.nodup hothers.nodup).2 hmem).eq_of_pairwise
    (fun _ _ _ _ hlt hgt => absurd hlt (Nat.lt_asymm hgt)) h hothers

/-- More keys at the end leave the order of the items whose keys are there. -/
lemma append (h : InOrder keys key items) (hkeys : ∀ item ∈ items, key item ∈ keys)
    (more : List String) : InOrder (keys ++ more) key items := by
  refine List.Pairwise.imp_of_mem (fun hearlier hlater hlt => ?_) h
  rwa [List.idxOf_append_of_mem (hkeys _ hearlier), List.idxOf_append_of_mem (hkeys _ hlater)]

/-- An item with a new key comes after the others. -/
lemma concat (h : InOrder keys key items) (hkeys : ∀ item ∈ items, key item ∈ keys)
    (hnew : key item ∉ keys) : InOrder (keys ++ [key item]) key (items ++ [item]) := by
  refine List.pairwise_append.2
    ⟨h.append hkeys _, List.pairwise_singleton _ _, fun earlier hmem last hlast => ?_⟩
  obtain rfl := List.mem_singleton.1 hlast
  calc (keys ++ [key last]).idxOf (key earlier)
      = keys.idxOf (key earlier) := List.idxOf_append_of_mem (hkeys earlier hmem)
    _ < keys.length := List.idxOf_lt_length_of_mem (hkeys earlier hmem)
    _ ≤ (keys ++ [key last]).idxOf (key last) := by
      rw [List.idxOf_append_of_notMem hnew]
      exact Nat.le_add_right _ _

end InOrder

end RecordFilter
