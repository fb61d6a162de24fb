import RecordFilter.Proofs.Wire.Entry
import RecordFilter.Proofs.Wire.Reading
import RecordFilter.Proofs.Wire.RoundTrip

/-!
# Payloads with reserved keys

The editor sends simple filters or a condition list together with reserved keys.  The two do not
get into each other's way: a name of a field is never a reserved key, and the advanced key is none
of those that are carried along.  So the filters are read back in normal form and the reserved
keys as they were (`hydrate_overlay_encodeFilters`, `hydrate_overlay_advancedKey`).
-/

namespace RecordFilter

namespace Context

variable {ctx : Context}

/-- Reserved keys that may be carried along: they are reserved, and the advanced key is not among
them. -/
def Carried (ctx : Context) (reserved : Payload) : Prop :=
  ∀ key ∈ reserved.keys, ctx.isReserved key = true ∧ key ≠ ctx.settings.advancedKey

/-- Nothing stands under the advanced key among reserved keys that are carried along. -/
lemma Carried.get?_advancedKey {reserved : Payload} (h : ctx.Carried reserved) :
    reserved.get? ctx.settings.advancedKey = none :=
  Ordered.get?_eq_none_of_not_mem fun hmem => (h _ hmem).2 rfl

/-! ### Splitting -/

/-- A payload of reserved keys has no filters. -/
lemma split_of_isReserved {payload : Payload}
    (hreserved : ∀ key ∈ payload.keys, ctx.isReserved key = true) :
    ctx.split payload = .ok ⟨.empty, payload⟩ :=
  split_of_entries_eq_append (List.nil_append _).symm (by simp) hreserved .nil

/-- Simple filters and reserved keys are told apart again. -/
lemma split_overlay_encodeFilters {f : SimpleFilters} {reserved : Payload} (hf : ctx.Fitting f)
    (hreserved : ctx.Carried reserved) :
    ctx.split ((ctx.encodeFilters f).overlay reserved) = .ok ⟨ctx.normalFilters f, reserved⟩ := by
  have hnames : Ordered.keys (ctx.encodeFilters f).entries = f.names := by
    rw [entries_encodeFilters hf.names_nodup, Ordered.keys, List.map_map]
    rfl
  have hdistinct : (Ordered.keys ((ctx.encodeFilters f).entries ++ reserved.entries)).Nodup := by
    rw [Ordered.keys_append, hnames, List.nodup_append]
    refine ⟨hf.names_nodup, reserved.nodup_keys, fun name hname key hkey heq => ?_⟩
    -- the name of a field is no reserved key
    obtain ⟨entry, hentry, rfl⟩ := List.mem_map.1 hname
    have hfalse := hf.not_reserved entry hentry
    rw [heq, (hreserved key hkey).1] at hfalse
    exact absurd hfalse (by decide)
  have hentries : ((ctx.encodeFilters f).overlay reserved).entries =
      (ctx.encodeFilters f).entries ++ reserved.entries := Ordered.insertAll_of_nodup hdistinct
  rw [entries_encodeFilters hf.names_nodup] at hentries
  refine split_of_entries_eq_append hentries ?_ (fun key hkey => (hreserved key hkey).1)
    (denotesEntry_encodeEntry hf.shape_eq)
  exact List.forall_mem_map.2 hf.not_reserved

/-! ### Reading -/

/-- **Simple filters come back beside reserved keys**, in normal form, and the reserved keys as they
were. -/
theorem hydrate_overlay_encodeFilters {f : SimpleFilters} {reserved : Payload}
    (hf : ctx.Fitting f) (hreserved : ctx.Carried reserved) :
    ctx.hydrate ((ctx.encodeFilters f).overlay reserved) =
      .ok ⟨.simple, (ctx.normalFilters f).toTree ctx.catalog, ctx.normalFilters f, reserved⟩ :=
  hydrate_eq_ok_iff.2 ⟨_, split_overlay_encodeFilters hf hreserved,
    .inl ⟨hreserved.get?_advancedKey, rfl⟩⟩

/-- Simple filters come back in normal form where no reserved keys are sent with them. -/
lemma hydrate_encodeFilters {f : SimpleFilters} (hkeys : (Ordered.keys f.entries).Nodup)
    (hshape : ∀ entry ∈ f.entries, entry.2.value.shape = entry.2.operator.shape)
    (hreserved : ∀ entry ∈ f.entries, ctx.isReserved entry.1 = false) :
    ctx.hydrate (ctx.encodeFilters f) =
      .ok ⟨.simple, (ctx.normalFilters f).toTree ctx.catalog, ctx.normalFilters f, .empty⟩ := by
  have hcarried : ctx.Carried .empty := fun _ hmem => absurd hmem List.not_mem_nil
  exact hydrate_overlay_encodeFilters ⟨hkeys, hreserved, hshape⟩ hcarried

/-- **A condition list comes back beside reserved keys**, as the tree that it is read as, and the
reserved keys with it, though not always in the same order. -/
theorem hydrate_overlay_advancedKey {raw : Json} {tree : Group} {reserved : Payload}
    (htree : ctx.decodeTree raw = .ok tree) (hreserved : ctx.Carried reserved) :
    ∃ back, ctx.hydrate ((Payload.empty.insert ctx.settings.advancedKey raw).overlay reserved) =
        .ok ⟨.advanced, tree, .empty, back⟩ ∧ back.entries.Perm reserved.entries := by
  have hdistinct :
      (Ordered.keys ([(ctx.settings.advancedKey, raw)] ++ reserved.entries)).Nodup := by
    rw [List.singleton_append, Ordered.keys, List.map_cons, List.nodup_cons]
    exact ⟨fun hmem => (hreserved _ hmem).2 rfl, reserved.nodup_keys⟩
  have hentries :
      ((Payload.empty.insert ctx.settings.advancedKey raw).overlay reserved).entries =
        (ctx.settings.advancedKey, raw) :: reserved.entries :=
    Ordered.insertAll_of_nodup hdistinct
  have hall : ∀ key ∈
      ((Payload.empty.insert ctx.settings.advancedKey raw).overlay reserved).keys,
        ctx.isReserved key = true := by
    rw [Payload.keys, hentries, Ordered.keys, List.map_cons, List.forall_mem_cons]
    exact ⟨isReserved_advancedKey, fun key hkey => (hreserved key hkey).1⟩
  have hget : ((Payload.empty.insert ctx.settings.advancedKey raw).overlay reserved).get?
      ctx.settings.advancedKey = some raw := by
    rw [Payload.get?_overlay, hreserved.get?_advancedKey, Option.none_or, Payload.get?_insert,
      if_pos rfl]
  have hback := hydrate_eq_ok_iff.2
    ⟨_, split_of_isReserved hall, .inr ⟨raw, tree, hget, htree, rfl⟩⟩
  refine ⟨_, hback, ?_⟩
  have herase := Ordered.perm_swapErase ctx.settings.advancedKey
    ((Payload.empty.insert ctx.settings.advancedKey raw).overlay reserved).entries
  rw [hentries, Ordered.erase_cons, if_pos rfl] at herase
  rwa [← hentries] at herase

/-! ### Normal forms -/

/-- The normal form of the tree of simple filters is the tree of their normal forms. -/
lemma normalTree_toTree (f : SimpleFilters) :
    ctx.settings.normalTree (f.toTree ctx.catalog) =
      (ctx.normalFilters f).toTree ctx.catalog := by
  rw [Settings.normalTree, SimpleFilters.toTree, Group.all, Settings.normalNodes_eq_map, ite_self,
    SimpleFilters.toTree, normalFilters, Group.all, List.map_map, List.map_map]
  refine congrArg (Group.mk .and) (List.map_congr_left fun entry _ => ?_)
  rfl

end Context

namespace Settings

variable (s : Settings)

/-- The conditions of the normal form of a node are the normal forms of its conditions. -/
lemma leaves_normalNode (node : Node) :
    (s.normalNode node).leaves = node.leaves.map s.normalCondition := by
  induction node using Node.induction with
  | condition c => rw [normalNode, Node.leaves_condition, Node.leaves_condition, List.map_singleton]
  | group conjunction children ih =>
    rw [normalNode_group, Node.leaves_group, Node.leaves_group, List.flatMap_map, List.map_flatMap]
    exact List.flatMap_congr fun child hchild => ih child hchild

/-- The normal form of a tree has as many conditions. -/
lemma leafCount_normalTree (tree : Group) : (s.normalTree tree).leafCount = tree.leafCount := by
  rw [Group.leafCount_eq_length_leaves, Group.leafCount_eq_length_leaves, Group.leaves,
    group_normalTree, leaves_normalNode, List.length_map, Group.leaves]

end Settings

end RecordFilter
