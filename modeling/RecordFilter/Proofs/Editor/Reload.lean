import RecordFilter.Proofs.Editor.Mode
import RecordFilter.Proofs.Editor.Sendable

/-!
# What is applied can be read back

After the editor has applied filters, its payload is read back as what it shows: in the same mode,
with the same reserved keys, and with the tree that was applied and the simple filters in normal
form (`reload_run`).  So the number of conditions that the editor tells is that of the tree that
was applied.
-/

namespace RecordFilter

namespace Editor

variable {e after : Editor} {action : Action}

/-- The payload that is applied is read back as what is shown: in the same mode, with the same
reserved keys, and with the tree that was applied and the simple filters in normal form. -/
structure Reloads (e : Editor) (back : Hydrated) : Prop where
  hydrate_eq : e.context.hydrate e.state.applied = .ok back
  mode_eq : back.mode = e.state.mode
  reserved_perm : back.reserved.entries.Perm e.state.reserved.entries
  tree_eq : back.tree = e.context.settings.normalTree e.state.appliedTree
  simple_eq : back.simple = e.context.normalFilters e.state.simple

/-- The number of conditions that is told is that of the tree that was applied. -/
lemma Reloads.badgeCount_eq {back : Hydrated} (h : e.Reloads back) :
    e.badgeCount = e.state.appliedTree.leafCount := by
  simp only [badgeCount, h.hydrate_eq]
  rw [h.tree_eq, Settings.leafCount_normalTree]

/-! ### Applying -/

/-- Simple filters that fit are read back after they have been applied. -/
lemma reloads_applySimple (hmode : e.state.mode = .simple)
    (hfitting : e.context.Fitting e.state.simple) (hcarried : e.context.Carried e.state.reserved) :
    ∃ back, e.applySimple.Reloads back :=
  ⟨_, {
    hydrate_eq := Context.hydrate_overlay_encodeFilters hfitting hcarried
    mode_eq := hmode.symm
    reserved_perm := List.Perm.refl _
    tree_eq := (Context.normalTree_toTree e.state.simple).symm
    simple_eq := rfl }⟩

/-- A tree without a defect is read back after it has been applied, unless a field in it is called
like a conjunction. -/
lemma reloads_applyTree (hmode : e.state.mode = .advanced) (hsimple : e.state.simple = .empty)
    (hdefect : e.tree.defect? = none) (hresolved : e.context.catalog.ResolvedAll e.tree)
    (hnames : ∀ c ∈ e.tree.leaves, Conjunction.ofWord? c.fieldName = none)
    (hcarried : e.context.Carried e.state.reserved) :
    ∃ back, (e.applyTree e.treePayload).Reloads back := by
  have hread := Context.decodeTree_encodeTree hdefect hresolved hnames
  obtain ⟨reserved, hback, hperm⟩ := Context.hydrate_overlay_advancedKey hread hcarried
  refine ⟨_, {
    hydrate_eq := hback
    mode_eq := hmode.symm
    reserved_perm := hperm
    tree_eq := rfl
    simple_eq := ?_ }⟩
  change SimpleFilters.empty = e.context.normalFilters e.state.simple
  rw [hsimple]
  rfl

/-- After everything has been cleared, nothing but the reserved keys is read back. -/
lemma reloads_clear (hcarried : e.context.Carried e.state.reserved) :
    ∃ back, e.clear.Reloads back :=
  ⟨_, {
    hydrate_eq := Context.hydrate_overlay_encodeFilters Context.fitting_empty hcarried
    mode_eq := rfl
    reserved_perm := List.Perm.refl _
    tree_eq := rfl
    simple_eq := rfl }⟩

/-- An action that gives the list a payload leaves one that is read back, unless it only selects
tags. -/
theorem Answers.exists_reloads (h : e.Answers action after) (hkeys : e.context.KeysApart)
    (hsendable : e.state.Sendable e.context) (hfits : e.state.FitsMode)
    (htags : ∀ tags, action ≠ .setTags tags)
    (hgiven : after.list.received ≠ e.list.received)
    (hnames : action = .applyFilters → e.state.mode = .advanced →
      ∀ c ∈ e.tree.leaves, Conjunction.ofWord? c.fieldName = none) :
    ∃ back, after.Reloads back := by
  obtain ⟨hresolved, -, hfitting, hcarried⟩ := hsendable
  cases h with
  | edit hmode hedit => exact absurd rfl hgiven
  | setSimpleFilter hmode hfield hoffer hcomplete =>
    have hset := (Refilters.insert hfield hcomplete).fitting hkeys hfitting
    exact reloads_applySimple (e := e.withSimple _) hmode hset hcarried
  | removeSimpleFilter hmode hthere =>
    exact reloads_applySimple (e := e.withSimple _) hmode (hfitting.erase _) hcarried
  | removeNoFilter hmode hthere => exact absurd rfl hgiven
  | setTags tags => exact absurd rfl (htags tags)
  | switchMode mode =>
    rcases e.switchMode_cases mode with ⟨-, heq⟩ | ⟨-, -, heq⟩ | ⟨-, -, heq⟩
    · rw [heq] at hgiven
      exact absurd rfl hgiven
    · rw [heq] at hgiven
      exact absurd rfl hgiven
    · rw [heq]
      exact reloads_clear hcarried
  | applySimple hmode => exact reloads_applySimple hmode hfitting hcarried
  | applyTree hmode hdefect =>
    have hsimple := hfits.advanced hmode
    exact reloads_applyTree hmode hsimple hdefect hresolved (hnames rfl hmode) hcarried
  | discard =>
    unfold Editor.discard at hgiven
    cases hmode : e.state.mode with
    | simple => simp [hmode] at hgiven
    | advanced => simp [hmode, withTree, withState] at hgiven
  | clear => exact reloads_clear hcarried
  | filtersApplied payload => exact absurd rfl hgiven
  | error message => exact absurd rfl hgiven

/-- **What is applied can be read back.**  Let the two keys with a meaning of their own be
different, let the catalog list no field under either, and let it stay as it is.  After every
action of a run that gives the list a payload, other than selecting tags, the payload that is
applied is read back in the mode that is shown, with just the reserved keys that are carried
along, with the tree that was applied in normal form and with the simple filters in normal form;
and the number of conditions that is told is that of the tree that was applied.  Where the tree of
the advanced view is applied, no field in it may be called like a conjunction. -/
theorem reload_run (list : RecordList) (ctx : Context) (events : List Event) (action : Action)
    (hkeys : ctx.settings.tagsKey ≠ ctx.settings.advancedKey)
    (hadvanced : ctx.catalog.contains ctx.settings.advancedKey = false)
    (htagsKey : ctx.catalog.contains ctx.settings.tagsKey = false)
    (hcatalog : ∀ catalog, Event.setCatalog catalog ∉ events)
    (htags : ∀ tags, action ≠ .setTags tags)
    (hgiven : (((opened list ctx).run events).step (.action action)).list.received ≠
      ((opened list ctx).run events).list.received)
    (hnames : action = .applyFilters → ((opened list ctx).run events).state.mode = .advanced →
      ∀ c ∈ ((opened list ctx).run events).tree.leaves, Conjunction.ofWord? c.fieldName = none) :
    let e := ((opened list ctx).run events).step (.action action)
    (∃ back, ctx.hydrate e.state.applied = .ok back ∧ back.mode = e.state.mode ∧
        back.reserved.entries.Perm e.state.reserved.entries ∧
        back.tree = ctx.settings.normalTree e.state.appliedTree ∧
        back.simple = ctx.normalFilters e.state.simple) ∧
      e.badgeCount = e.state.appliedTree.leafCount := by
  have hcontext : ((opened list ctx).run events).context = ctx := context_run hcatalog
  have happart : ((opened list ctx).run events).context.KeysApart :=
    hcontext.symm ▸ ⟨hkeys, hadvanced, htagsKey⟩
  have hsendable := invariant_sendable.run list ctx events
    (fun catalog hmem => absurd hmem (hcatalog catalog)) happart
  have hfits := invariant_fitsMode.run list ctx events fun _ _ _ _ h => h
  rcases ((opened list ctx).run events).update_eq_or_answers action with
    ⟨hsame, -⟩ | ⟨hanswers, -⟩
  · rw [step, hsame] at hgiven
    exact absurd rfl hgiven
  · obtain ⟨back, hback⟩ := hanswers.exists_reloads happart hsendable hfits htags hgiven hnames
    refine ⟨⟨back, ?_, hback.mode_eq, hback.reserved_perm, ?_, ?_⟩, hback.badgeCount_eq⟩
    · rw [← hback.hydrate_eq, hanswers.context_eq, hcontext]
      rfl
    · rw [hback.tree_eq, hanswers.context_eq, hcontext]
      rfl
    · rw [hback.simple_eq, hanswers.context_eq, hcontext]
      rfl

/-- A catalog with one field. -/
def subjectContext : Context :=
  ⟨⟨[.named "subject" .text]⟩, .standard⟩

/-- A run that selects a tag and edits a tree of one pattern. -/
def patternEvents : List Event :=
  [.action (.setTags ["urgent"]), .action (.switchMode .advanced), .action (.addCondition []),
    .action (.setField [0] "subject"), .action (.setOperator [0] .like),
    .action (.setValue [0] (.text "%a%"))]

/-- The editor in which the tree of one pattern can be applied. -/
def patternEditor : Editor :=
  (opened ⟨.empty, none, none, []⟩ subjectContext).run patternEvents

/-- `reload_run` where the tree of a pattern is applied that is not in normal form. -/
theorem reload_run_patternEvents :
    subjectContext.settings.tagsKey ≠ subjectContext.settings.advancedKey ∧
      subjectContext.catalog.contains subjectContext.settings.advancedKey = false ∧
      subjectContext.catalog.contains subjectContext.settings.tagsKey = false ∧
      (∀ catalog, Event.setCatalog catalog ∉ patternEvents) ∧
      (∀ tags, Action.applyFilters ≠ .setTags tags) ∧
      (patternEditor.step (.action .applyFilters)).list.received ≠ patternEditor.list.received ∧
      (∀ c ∈ patternEditor.tree.leaves, Conjunction.ofWord? c.fieldName = none) ∧
      let e := patternEditor.step (.action .applyFilters)
      (∃ back, subjectContext.hydrate e.state.applied = .ok back ∧ back.mode = e.state.mode ∧
          back.reserved.entries.Perm e.state.reserved.entries ∧
          back.tree = subjectContext.settings.normalTree e.state.appliedTree ∧
          back.simple = subjectContext.normalFilters e.state.simple) ∧
        e.badgeCount = e.state.appliedTree.leafCount := by
  have hkeys : subjectContext.settings.tagsKey ≠ subjectContext.settings.advancedKey := by decide
  have hadvanced : subjectContext.catalog.contains subjectContext.settings.advancedKey = false := by
    decide
  have htagsKey : subjectContext.catalog.contains subjectContext.settings.tagsKey = false := by
    decide
  have hcatalog : ∀ catalog, Event.setCatalog catalog ∉ patternEvents := by simp [patternEvents]
  have htags : ∀ tags, Action.applyFilters ≠ .setTags tags := by simp
  have hgiven : (patternEditor.step (.action .applyFilters)).list.received ≠
      patternEditor.list.received := by decide
  have hnames : ∀ c ∈ patternEditor.tree.leaves, Conjunction.ofWord? c.fieldName = none := by decide
  exact ⟨hkeys, hadvanced, htagsKey, hcatalog, htags, hgiven, hnames,
    reload_run ⟨.empty, none, none, []⟩ subjectContext patternEvents .applyFilters hkeys hadvanced
      htagsKey hcatalog htags hgiven fun _ _ => hnames⟩

end Editor

end RecordFilter
