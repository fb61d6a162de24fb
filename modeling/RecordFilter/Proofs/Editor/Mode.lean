import RecordFilter.Proofs.Editor.Run
import RecordFilter.Proofs.Wire.Reading

/-!
# What a mode shows

In simple mode the filters are kept three times: as simple filters, as the tree that is edited and
as the tree that was applied.  The three agree after every run (`mode_run`), also where the
catalog has changed under fields that had been chosen, since they are compared by the names of the
fields.  In advanced mode there are no simple filters.
-/

namespace RecordFilter

/-- A condition with a field and an operator, read as the name of its field and a filter. -/
def Node.filter? : Node → Option (String × SimpleFilter)
  | .condition ⟨some field, some op, value⟩ => some (field.name, ⟨op, value⟩)
  | _ => none

/-- A tree lists simple filters: it has one level joined by "and", and its children, read as the
name of a field and a filter, are the filters in their order. -/
structure Group.Lists (g : Group) (f : SimpleFilters) : Prop where
  conjunction_eq : g.conjunction = .and
  isFlat : g.isFlat = true
  filters_eq : g.children.map Node.filter? = f.entries.map some

/-- The tree of simple filters lists them, whatever fields a catalog has for their names. -/
lemma SimpleFilters.lists_toTree (f : SimpleFilters) (catalog : Catalog) :
    (f.toTree catalog).Lists f where
  conjunction_eq := rfl
  isFlat := by simp [toTree, Group.all, Group.isFlat, Node.isCondition]
  filters_eq := by
    rw [toTree, Group.all, List.map_map]
    refine List.map_congr_left fun entry _ => ?_
    rw [Function.comp_apply, condition, Condition.complete, Node.filter?, Catalog.name_resolve]

namespace FilterState

/-- What is shown fits the mode: the simple filters are on distinct fields; in simple mode both
trees list them, and in advanced mode there are none. -/
structure FitsMode (s : FilterState) : Prop where
  names_nodup : s.simple.names.Nodup
  simple : s.mode = .simple → s.tree = s.appliedTree ∧ s.tree.Lists s.simple
  advanced : s.mode = .advanced → s.simple = .empty

/-- Where the advanced view is shown there are no simple filters. -/
lemma fitsMode_of_advanced {s : FilterState} (hmode : s.mode = .advanced)
    (hsimple : s.simple = .empty) : s.FitsMode where
  names_nodup := hsimple ▸ List.nodup_nil
  simple := fun h => by simp [hmode] at h
  advanced := fun _ => hsimple

/-- In simple mode the tree of the simple filters may be shown. -/
lemma fitsMode_of_toTree {s : FilterState} (catalog : Catalog) (hmode : s.mode = .simple)
    (hnames : s.simple.names.Nodup) (htree : s.tree = s.simple.toTree catalog)
    (happlied : s.appliedTree = s.simple.toTree catalog) : s.FitsMode where
  names_nodup := hnames
  simple := fun _ => ⟨htree.trans happlied.symm, htree ▸ s.simple.lists_toTree catalog⟩
  advanced := fun h => by simp [hmode] at h

end FilterState

namespace Context

/-- What is read of a payload fits the mode that it is read in. -/
lemma fitsMode_of_hydrate {ctx : Context} {payload : Payload} {hydrated : Hydrated}
    (h : ctx.hydrate payload = .ok hydrated) (applied : Payload) :
    (Editor.stateOf hydrated applied).FitsMode := by
  have hfitting := (whole_of_hydrate h).2.2
  obtain ⟨split, -, ⟨-, rfl⟩ | ⟨raw, tree, -, -, rfl⟩⟩ := hydrate_eq_ok_iff.1 h
  · exact FilterState.fitsMode_of_toTree ctx.catalog rfl hfitting.names_nodup rfl rfl
  · exact FilterState.fitsMode_of_advanced rfl rfl

end Context

namespace Editor

/-- Simple filters that are applied are on distinct fields. -/
lemma Refilters.names_nodup {e : Editor} {simple : SimpleFilters} (h : e.Refilters simple)
    (hnames : e.state.simple.names.Nodup) : simple.names.Nodup := by
  cases h with
  | same => exact hnames
  | insert _ _ => exact SimpleFilters.nodup_names_insert hnames
  | erase name => exact SimpleFilters.nodup_names_erase hnames name

/-- Whatever changes, what is shown fits the mode. -/
theorem invariant_fitsMode : Invariant fun _ s => s.FitsMode where
  hydrate := by
    intro e
    rcases e.hydrate_cases with ⟨hydrated, hread, hstate | ⟨tree, hempty, -, hstate⟩⟩ | hstate
    · rw [hstate]
      exact Context.fitsMode_of_hydrate hread _
    · rw [hstate]
      have hsimple : hydrated.simple = .empty :=
        congrArg SimpleFilters.mk (List.isEmpty_iff.1 hempty)
      exact FilterState.fitsMode_of_advanced rfl hsimple
    · rw [hstate]
      exact FilterState.fitsMode_of_toTree .empty rfl List.nodup_nil rfl rfl
  edit := fun he hmode _ => FilterState.fitsMode_of_advanced hmode (he.advanced hmode)
  applySimple := fun he hmode hsimple =>
    FilterState.fitsMode_of_toTree _ hmode (hsimple.names_nodup he.names_nodup) rfl rfl
  applyTree := fun he hmode _ => FilterState.fitsMode_of_advanced hmode (he.advanced hmode)
  setTags := fun _ he => ⟨he.names_nodup, he.simple, he.advanced⟩
  discard := fun he hmode => FilterState.fitsMode_of_advanced hmode (he.advanced hmode)
  clear := fun _ =>
    FilterState.fitsMode_of_toTree .empty rfl List.nodup_nil rfl rfl
  enterAdvanced := fun _ _ => FilterState.fitsMode_of_advanced rfl rfl

/-- **The mode and what is shown.**  After every run the simple filters are on distinct fields.
In simple mode the tree that is edited is the one that was applied, it has one level joined by
"and", and its children, read as the name of a field, an operator and a value, are the simple
filters in their order.  In advanced mode there are no simple filters. -/
theorem mode_run (list : RecordList) (ctx : Context) (events : List Event) :
    let s := ((opened list ctx).run events).state
    s.simple.names.Nodup ∧
      (s.mode = .simple →
        s.tree = s.appliedTree ∧ s.tree.isFlat = true ∧ s.tree.conjunction = .and ∧
          s.tree.children.map Node.filter? = s.simple.entries.map some) ∧
      (s.mode = .advanced → s.simple = .empty) := by
  have hfits := invariant_fitsMode.run list ctx events fun _ _ _ _ h => h
  refine ⟨hfits.names_nodup, fun hmode => ?_, hfits.advanced⟩
  obtain ⟨hsame, hlists⟩ := hfits.simple hmode
  exact ⟨hsame, hlists.isFlat, hlists.conjunction_eq, hlists.filters_eq⟩

end Editor

end RecordFilter
