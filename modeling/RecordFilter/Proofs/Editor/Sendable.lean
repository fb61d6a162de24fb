import RecordFilter.Proofs.Editor.Leaves
import RecordFilter.Proofs.Editor.Run
import RecordFilter.Proofs.Wire.Lossless
import RecordFilter.Proofs.Wire.Reserved

/-!
# What can be sent and read back

Three things decide whether what an editor sends can be read back: the fields of its trees are
those of the catalog; its simple filters are on distinct fields, none of which is a reserved key;
and the reserved keys that it carries along are reserved, and the advanced key is not one of them.
They are kept by every change of the editor, if the catalog lists no field under one of the two
keys with a meaning of their own (`invariant_sendable`).
-/

namespace RecordFilter

/-! ### Fields of the catalog -/

namespace Catalog

variable {catalog : Catalog}

/-- The fields of a tree are those of a catalog. -/
def ResolvedAll (catalog : Catalog) (tree : Group) : Prop :=
  ∀ c ∈ tree.leaves, catalog.Resolved c

/-- A blank condition has no field. -/
lemma resolved_blank (catalog : Catalog) : catalog.Resolved .blank :=
  fun _ h => by simp [Condition.blank] at h

/-- A field that is listed is the one that the catalog has for its name. -/
lemma resolve_name_of_get? {name : String} {field : Field} (h : catalog.get? name = some field) :
    catalog.resolve field.name = field := by
  rw [resolve, name_of_get? h, h, Option.getD_some]

/-- The empty tree has no field. -/
lemma resolvedAll_empty (catalog : Catalog) : catalog.ResolvedAll .empty :=
  fun _ h => absurd h List.not_mem_nil

end Catalog

/-- The fields of conditions that are whole are those of the catalog. -/
lemma Context.resolvedAll_of_whole {ctx : Context} {tree : Group}
    (h : ∀ c ∈ tree.leaves, ctx.Whole c) : ctx.catalog.ResolvedAll tree :=
  fun c hc => (h c hc).resolved

/-- The fields of a tree that has been read are those of the catalog. -/
lemma Context.resolvedAll_of_decodeTree {ctx : Context} {raw : Json} {tree : Group}
    (h : ctx.decodeTree raw = .ok tree) : ctx.catalog.ResolvedAll tree :=
  resolvedAll_of_whole (whole_of_decodeTree h)

/-- The edits of the advanced view keep conditions on the fields of the catalog. -/
lemma Editor.keptByEdits_resolved (ctx : Context) : KeptByEdits ctx ctx.catalog.Resolved where
  blank := ctx.catalog.resolved_blank
  setField := by
    intro name field hfield chosen heq
    obtain rfl := Option.some.inj heq
    exact Catalog.resolve_name_of_get? hfield
  setOperator := fun h _ _ => h
  setValue := fun _ h => h

/-! ### Reserved keys -/

namespace Context

variable {ctx : Context}

/-- The two keys with a meaning of their own are told apart, and no field is listed under either. -/
structure KeysApart (ctx : Context) : Prop where
  tagsKey_ne : ctx.settings.tagsKey ≠ ctx.settings.advancedKey
  advancedKey_not_listed : ctx.catalog.contains ctx.settings.advancedKey = false
  tagsKey_not_listed : ctx.catalog.contains ctx.settings.tagsKey = false

/-- A field that is listed is filtered under no reserved key. -/
lemma KeysApart.isReserved_of_get? (h : ctx.KeysApart) {name : String} {field : Field}
    (hfield : ctx.catalog.get? name = some field) : ctx.isReserved name = false := by
  have hlisted : ctx.catalog.contains name = true := by
    rw [Catalog.contains, hfield]
    rfl
  have hadvanced : name ≠ ctx.settings.advancedKey := by
    rintro rfl
    simp [h.advancedKey_not_listed] at hlisted
  have htags : name ≠ ctx.settings.tagsKey := by
    rintro rfl
    simp [h.tagsKey_not_listed] at hlisted
  simp [isReserved, Settings.isReserved, hadvanced, htags, hlisted]

/-- The reserved keys that are read from a payload may be carried along. -/
lemma carried_of_hydrate {payload : Payload} {hydrated : Hydrated}
    (h : ctx.hydrate payload = .ok hydrated) : ctx.Carried hydrated.reserved := by
  intro key hkey
  obtain ⟨raw, hraw⟩ := Option.ne_none_iff_exists'.1 (Payload.mem_keys_iff.1 hkey)
  exact ((get?_reserved_of_hydrate h key raw).1 hraw).2

end Context

namespace Editor

variable {e : Editor}

/-- The reserved keys of a payload that cannot be read may be carried along. -/
lemma carried_reservedOf (e : Editor) (payload : Payload) :
    e.context.Carried (e.reservedOf payload) := by
  intro key hkey
  obtain ⟨entry, hentry, rfl⟩ := List.mem_map.1 hkey
  simpa [and_comm] using (List.mem_filter.1 hentry).2

/-- The reserved keys with other tags may be carried along. -/
lemma carried_payloadWithTags (hkeys : e.context.KeysApart) {reserved : Payload}
    (h : e.context.Carried reserved) (tags : List String) :
    e.context.Carried (e.payloadWithTags tags reserved) := by
  intro key hkey
  rw [Payload.mem_keys_iff, get?_payloadWithTags] at hkey
  -- the tags key may be carried along since it is not the advanced key
  by_cases htags : key = e.context.settings.tagsKey
  · exact htags ▸ ⟨Context.isReserved_tagsKey, hkeys.tagsKey_ne⟩
  · rw [if_neg htags] at hkey
    exact h key (Payload.mem_keys_iff.2 hkey)

end Editor

/-! ### What a run keeps -/

/-- What is shown can be sent and read back: the fields of both trees are those of the catalog, the
simple filters fit, and the reserved keys may be carried along. -/
structure FilterState.Sendable (ctx : Context) (s : FilterState) : Prop where
  tree : ctx.catalog.ResolvedAll s.tree
  appliedTree : ctx.catalog.ResolvedAll s.appliedTree
  fitting : ctx.Fitting s.simple
  carried : ctx.Carried s.reserved

namespace Editor

/-- Simple filters that are applied fit. -/
lemma Refilters.fitting {e : Editor} {simple : SimpleFilters} (h : e.Refilters simple)
    (hkeys : e.context.KeysApart) (hfitting : e.context.Fitting e.state.simple) :
    e.context.Fitting simple := by
  cases h with
  | same => exact hfitting
  | insert hfield hcomplete =>
    obtain ⟨_, _, -, hop, -, hshape, -⟩ := Condition.problem?_eq_none_iff.1 hcomplete
    obtain rfl := Option.some.inj hop
    exact hfitting.insert (hkeys.isReserved_of_get? hfield) hshape
  | erase name => exact hfitting.erase name

/-- Whatever changes, what is shown can be sent and read back. -/
theorem invariant_sendable : Invariant fun ctx s => ctx.KeysApart → s.Sendable ctx where
  hydrate := by
    intro e hkeys
    rcases e.hydrate_cases with ⟨hydrated, hread, hstate⟩ | hstate
    · obtain ⟨hwhole, -, hfitting⟩ := Context.whole_of_hydrate hread
      have hcarried := Context.carried_of_hydrate hread
      rcases hstate with hstate | ⟨tree, -, htree, hstate⟩
      · rw [hstate]
        have hresolved := Context.resolvedAll_of_whole hwhole
        exact ⟨hresolved, hresolved, hfitting, hcarried⟩
      · rw [hstate]
        obtain ⟨raw, hraw⟩ := exists_decodeTree_of_rememberedTree? htree
        have hresolved := Context.resolvedAll_of_decodeTree hraw
        exact ⟨hresolved, hresolved, hfitting, hcarried⟩
    · rw [hstate]
      exact ⟨Catalog.resolvedAll_empty _, Catalog.resolvedAll_empty _, Context.fitting_empty,
        e.carried_reservedOf _⟩
  edit := by
    intro e action tree he _ hedit hkeys
    obtain ⟨htree, happlied, hfitting, hcarried⟩ := he hkeys
    exact ⟨hedit.forall_leaves (keptByEdits_resolved _) htree, happlied, hfitting, hcarried⟩
  applySimple := by
    intro e simple he _ hsimple hkeys
    obtain ⟨-, -, hfitting, hcarried⟩ := he hkeys
    have hfits := hsimple.fitting hkeys hfitting
    have hresolved := Context.resolvedAll_of_whole hfits.whole
    exact ⟨hresolved, hresolved, hfits, hcarried⟩
  applyTree := by
    intro e he _ _ hkeys
    obtain ⟨htree, -, hfitting, hcarried⟩ := he hkeys
    exact ⟨htree, htree, hfitting, hcarried⟩
  setTags := by
    intro e tags he hkeys
    obtain ⟨htree, happlied, hfitting, hcarried⟩ := he hkeys
    exact ⟨htree, happlied, hfitting, carried_payloadWithTags hkeys hcarried _⟩
  discard := by
    intro e he _ hkeys
    obtain ⟨-, happlied, hfitting, hcarried⟩ := he hkeys
    exact ⟨happlied, happlied, hfitting, hcarried⟩
  clear := by
    intro e he hkeys
    exact ⟨Catalog.resolvedAll_empty _, Catalog.resolvedAll_empty _, Context.fitting_empty,
      (he hkeys).carried⟩
  enterAdvanced := by
    intro e he _ hkeys
    have hresolved : e.context.catalog.ResolvedAll (e.rememberedTree?.getD .empty) := by
      rcases e.rememberedTree?_getD_cases with hempty | ⟨raw, hraw⟩
      · rw [hempty]
        exact Catalog.resolvedAll_empty _
      · exact Context.resolvedAll_of_decodeTree hraw
    exact ⟨hresolved, hresolved, Context.fitting_empty, (he hkeys).carried⟩

end Editor

end RecordFilter
