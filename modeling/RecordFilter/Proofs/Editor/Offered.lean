import Mathlib.Data.List.Induction
import Mathlib.Data.List.Infix
import RecordFilter.Proofs.Editor.InPlace
import RecordFilter.Proofs.Editor.Run
import RecordFilter.Proofs.Wire.Lossless

/-!
# The operators that are chosen are offered

A condition that is read from a list may have an operator that its field does not offer.  Where
nothing is read, every operator comes from the editor: it is the one that a field starts with, or it
has been chosen for a field that offers it.  So as long as the catalog stays as it is, a condition
with a field has an operator that the field offers (`Context.Offers`), in the tree that is edited as
in the one that was applied, and so has every simple filter (`offered_run`).
-/

namespace RecordFilter

namespace Context

variable {ctx : Context}

/-- What is offered for a condition: its field, if it has one, is listed, and it has an operator
that the field offers. -/
def Offers (ctx : Context) (c : Condition) : Prop :=
  ∀ field, c.field = some field → ctx.catalog.get? field.name = some field ∧
    ∃ op, c.operator = some op ∧ ctx.settings.offers field op = true

/-- A blank condition has no field. -/
lemma offers_blank (ctx : Context) : ctx.Offers .blank :=
  fun _ h => by simp [Condition.blank] at h

/-- A condition is offered if its field is listed and offers its operator. -/
lemma offers_complete {name : String} {field : Field} {op : Operator} (value : Value)
    (hfield : ctx.catalog.get? name = some field)
    (hoffer : ctx.settings.offers field op = true) : ctx.Offers (.complete field op value) := by
  intro chosen heq
  obtain rfl := Option.some.inj heq
  obtain rfl := Catalog.name_of_get? hfield
  exact ⟨hfield, op, rfl, hoffer⟩

/-- The edits of the advanced view keep conditions offered. -/
lemma keptByEdits_offers (ctx : Context) : Editor.KeptByEdits ctx ctx.Offers where
  blank := ctx.offers_blank
  setField := fun hfield => offers_complete _ hfield (ctx.settings.offers_defaultsFor _)
  setOperator := by
    intro c field op h hfield hoffer chosen hchosen
    obtain rfl := Option.some.inj (hfield.symm.trans hchosen)
    obtain ⟨hlisted, -⟩ := h field hfield
    rw [hlisted, Option.getD_some] at hoffer
    exact ⟨hlisted, op, rfl, hoffer⟩
  setValue := fun _ h => h

end Context

/-! ### What is shown -/

/-- What is shown is offered: the conditions of both trees and those of the simple filters. -/
structure FilterState.Offered (ctx : Context) (s : FilterState) : Prop where
  tree : ∀ c ∈ s.tree.leaves, ctx.Offers c
  appliedTree : ∀ c ∈ s.appliedTree.leaves, ctx.Offers c
  simple : ∀ c ∈ s.simple.conditions ctx.catalog, ctx.Offers c

namespace Editor

variable {e after : Editor} {action : Action} {ctx : Context} {list : RecordList}
  {events : List Event}

/-- Where nothing is shown, nothing has to be offered. -/
lemma offered_of_empty {s : FilterState} (htree : s.tree = .empty)
    (happlied : s.appliedTree = .empty) (hsimple : s.simple = .empty) : s.Offered ctx where
  tree := fun _ h => absurd (htree ▸ h) List.not_mem_nil
  appliedTree := fun _ h => absurd (happlied ▸ h) List.not_mem_nil
  simple := fun _ h => absurd (hsimple ▸ h) List.not_mem_nil

/-- A list that remembers nothing has no tree to show. -/
lemma rememberedTree?_eq_none (h : e.list.remembered = none) : e.rememberedTree? = none := by
  rw [rememberedTree?, h]

/-- An editor is opened empty on a list that is not filtered and remembers nothing. -/
lemma state_opened (hfilters : list.filters = .empty) (hremembered : list.remembered = none) :
    (opened list ctx).state = emptyState .empty .empty := by
  have hread : ctx.hydrate list.filters = .ok ⟨.simple, .empty, .empty, .empty⟩ := by
    rw [hfilters]
    rfl
  rw [opened, hydrate_of_ok hread, orRemembered, rememberedTree?_eq_none hremembered, hfilters]
  rfl

/-! ### What a run keeps -/

/-- Simple filters that are offered may be applied. -/
lemma offered_applySimple {simple : SimpleFilters}
    (h : ∀ c ∈ simple.conditions e.context.catalog, e.context.Offers c) :
    (e.withSimple simple).applySimple.state.Offered e.context := by
  have htree : ∀ c ∈ (simple.toTree e.context.catalog).leaves, e.context.Offers c := by
    rwa [SimpleFilters.leaves_toTree]
  exact ⟨htree, htree, h⟩

/-- A filter may be set on a field that offers its operator. -/
lemma offers_conditions_insert {f : SimpleFilters}
    (h : ∀ c ∈ f.conditions ctx.catalog, ctx.Offers c) {name : String} {field : Field}
    {filter : SimpleFilter} (hfield : ctx.catalog.get? name = some field)
    (hoffer : ctx.settings.offers field filter.operator = true) :
    ∀ c ∈ (f.insert name filter).conditions ctx.catalog, ctx.Offers c := by
  rw [SimpleFilters.conditions, List.forall_mem_map] at h ⊢
  refine SimpleFilters.forall_entries_insert h ?_
  rw [SimpleFilters.condition, Catalog.resolve, hfield, Option.getD_some]
  exact Context.offers_complete _ hfield hoffer

/-- A filter may be taken out. -/
lemma offers_conditions_erase {f : SimpleFilters}
    (h : ∀ c ∈ f.conditions ctx.catalog, ctx.Offers c) (name : String) :
    ∀ c ∈ (f.erase name).conditions ctx.catalog, ctx.Offers c := by
  rw [SimpleFilters.conditions, List.forall_mem_map] at h ⊢
  exact SimpleFilters.forall_entries_erase h name

/-- An action keeps what is shown offered, if the list remembers nothing. -/
theorem Answers.offered (h : e.Answers action after) (hremembered : e.list.remembered = none)
    (he : e.state.Offered e.context) : after.state.Offered e.context := by
  cases h with
  | edit hmode hedit =>
    exact ⟨hedit.forall_leaves e.context.keptByEdits_offers he.tree, he.appliedTree, he.simple⟩
  | setSimpleFilter hmode hfield hoffer hcomplete =>
    exact offered_applySimple (offers_conditions_insert he.simple hfield hoffer)
  | removeSimpleFilter hmode hthere =>
    exact offered_applySimple (offers_conditions_erase he.simple _)
  | removeNoFilter hmode hthere => exact he
  | setTags tags => exact ⟨he.tree, he.appliedTree, he.simple⟩
  | switchMode mode =>
    rcases e.switchMode_cases mode with ⟨-, heq⟩ | ⟨-, -, heq⟩ | ⟨-, -, heq⟩
    · rwa [heq]
    · -- without a remembered tree the advanced view is entered empty
      rw [heq, enterAdvanced, rememberedTree?_eq_none hremembered]
      exact offered_of_empty rfl rfl rfl
    · rw [heq]
      exact offered_of_empty rfl rfl rfl
  | applySimple hmode => exact offered_applySimple (e := e) he.simple
  | applyTree hmode hdefect => exact ⟨he.tree, he.tree, he.simple⟩
  | discard =>
    unfold Editor.discard
    cases e.state.mode with
    | simple => exact he
    | advanced => exact ⟨he.appliedTree, he.appliedTree, he.simple⟩
  | clear => exact offered_of_empty rfl rfl rfl
  | filtersApplied payload => exact he
  | error message => exact he

/-- An event keeps what is shown offered, if the list remembers nothing, and neither the catalog is
changed nor the list read. -/
theorem offered_step {event : Event} (hcatalog : ∀ catalog, event ≠ .setCatalog catalog)
    (hhydrate : event ≠ .hydrate) (hremembered : e.list.remembered = none)
    (he : e.state.Offered e.context) : (e.step event).state.Offered e.context := by
  cases event with
  | action action =>
    rcases e.update_eq_or_answers action with ⟨hsame, -⟩ | ⟨hanswers, -⟩
    · rwa [step, hsame]
    · exact hanswers.offered hremembered he
  | setCatalog catalog => exact absurd rfl (hcatalog catalog)
  | hydrate => exact absurd rfl hhydrate
  | listen => exact he
  | hangUp => exact he
  | deliver => exact he
  | listRemembers remembered => exact he
  | listChanges list => exact he

/-- One more event happens after the others. -/
lemma run_concat (e : Editor) (events : List Event) (event : Event) :
    e.run (events ++ [event]) = (e.run events).step event := by
  rw [run, List.foldl_append, List.foldl_cons, List.foldl_nil, run]

/-- What is shown stays offered in a run from an empty list that never remembers anything. -/
theorem offered_run (hfilters : list.filters = .empty)
    (hcatalog : ∀ catalog, Event.setCatalog catalog ∉ events) (hhydrate : Event.hydrate ∉ events)
    (hremembers : ∀ earlier, earlier <+: events →
      ((opened list ctx).run earlier).list.remembered = none) :
    ((opened list ctx).run events).state.Offered ctx := by
  -- from the end, so that what is asked of all earlier moments is asked of the shorter run too
  induction events using List.reverseRecOn with
  | nil =>
    have hstart : list.remembered = none := by
      rw [← hremembers [] List.prefix_rfl, run, List.foldl_nil, opened, list_hydrate]
    rw [run, List.foldl_nil, state_opened hfilters hstart]
    exact offered_of_empty rfl rfl rfl
  | append_singleton earlier event ih =>
    simp only [List.mem_append, List.mem_singleton, not_or] at hcatalog hhydrate
    have hbefore := ih (fun catalog => (hcatalog catalog).1) hhydrate.1 fun first hfirst =>
      hremembers first (hfirst.trans (List.prefix_append _ _))
    have hcontext : ((opened list ctx).run earlier).context = ctx :=
      context_run fun catalog => (hcatalog catalog).1
    rw [run_concat]
    have hafter := offered_step (fun catalog heq => (hcatalog catalog).2 heq.symm)
      (Ne.symm hhydrate.2) (hremembers earlier (List.prefix_append _ _)) (hcontext.symm ▸ hbefore)
    rwa [hcontext] at hafter

/-! ### What the views offer -/

/-- A condition with a field that is offered has an operator that is offered at its path. -/
lemma exists_operatorsAt?_of_offers {path : Path} {c : Condition} (h : e.context.Offers c)
    (hc : e.tree.conditionAt? path = some c) (hfield : c.field ≠ none) :
    ∃ op offered, c.operator = some op ∧ e.operatorsAt? path = some offered ∧ op ∈ offered := by
  obtain ⟨field, hfield⟩ := Option.ne_none_iff_exists'.1 hfield
  obtain ⟨hlisted, op, hop, hoffer⟩ := h field hfield
  refine ⟨op, e.context.settings.operatorsFor field, hop, ?_, Settings.offers_iff.1 hoffer⟩
  rw [operatorsAt?, fieldAt?, hc, Option.bind_some, hfield]
  dsimp only
  rw [hlisted, Option.getD_some, Option.map_some]

/-- A simple filter that is offered has an operator that is offered for its field. -/
lemma mem_operatorsFor_of_offers {entry : String × SimpleFilter}
    (h : e.context.Offers (SimpleFilters.condition e.context.catalog entry)) :
    entry.2.operator ∈ e.operatorsFor entry.1 := by
  obtain ⟨-, op, hop, hoffer⟩ := h (e.context.catalog.resolve entry.1) rfl
  obtain rfl := Option.some.inj hop
  exact Settings.offers_iff.1 hoffer

/-- **The operators that are chosen are offered.**  Let an editor be opened on a list that is not
filtered and that remembers nothing, then or later, and let neither the catalog be changed nor the
list be read again.  After every run a condition of the tree that is edited has an operator as soon
as it has a field, and the operator is one of those that are offered at its path; a simple filter
has one of the operators that are offered for its field.  Right after a field or an operator has
been chosen, the value has the shape that the operator takes. -/
theorem operators_run (list : RecordList) (ctx : Context) (events : List Event)
    (hfilters : list.filters = .empty)
    (hremembers : ∀ earlier, earlier <+: events →
      ((opened list ctx).run earlier).list.remembered = none)
    (hcatalog : ∀ catalog, Event.setCatalog catalog ∉ events)
    (hhydrate : Event.hydrate ∉ events) :
    let e := (opened list ctx).run events
    (∀ path c, e.tree.conditionAt? path = some c → c.field ≠ none →
      ∃ op offered, c.operator = some op ∧ e.operatorsAt? path = some offered ∧ op ∈ offered) ∧
      (∀ path name after, (Request.setField path name).run e = .ok () after →
        ∃ c op, after.tree.conditionAt? path = some c ∧ c.operator = some op ∧
          c.value.shape = op.shape) ∧
      (∀ path op after, (Request.setOperator path op).run e = .ok () after →
        ∃ c, after.tree.conditionAt? path = some c ∧ c.operator = some op ∧
          c.value.shape = op.shape) ∧
      ∀ entry ∈ e.state.simple.entries, entry.2.operator ∈ e.operatorsFor entry.1 := by
  have hoffered : ((opened list ctx).run events).state.Offered
      ((opened list ctx).run events).context := by
    rw [context_run hcatalog]
    exact offered_run hfilters hcatalog hhydrate hremembers
  refine ⟨fun path c hc hfield => ?_, fun path name after h => ?_, fun path op after h => ?_,
    fun entry hentry => ?_⟩
  · exact exists_operatorsAt?_of_offers (hoffered.tree c (Group.mem_leaves_of_conditionAt? hc)) hc
      hfield
  · obtain ⟨field, -, hrecasts⟩ := Request.recasts_of_run_setField h
    exact ⟨_, _, hrecasts.there, rfl, Settings.shape_defaultsFor _ field⟩
  · obtain ⟨old, -, -, -, -, hrecasts⟩ := Request.recasts_of_run_setOperator h
    exact ⟨_, hrecasts.there, rfl, shape_withOperator op old⟩
  · exact mem_operatorsFor_of_offers (hoffered.simple _ (List.mem_map_of_mem hentry))

/-- A list that is not filtered and remembers nothing. -/
def unfilteredList : RecordList :=
  ⟨.empty, none, none, []⟩

/-- A catalog whose assignees have the kind of dates. -/
def assigneeDateContext : Context :=
  ⟨⟨[.named "_assign" .date, .named "due" .date]⟩, .standard⟩

/-- A run in which a simple filter is set and applied, and then a tree is edited in which the
assignees are filtered. -/
def assigneeDateEvents : List Event :=
  [.action (.setSimpleFilter "due" .lessThan (.text "2024-06-01")),
    .action (.switchMode .advanced), .action (.addCondition []),
    .action (.setField [0] "due"), .action (.setOperator [0] .is),
    .action (.addCondition []), .action (.setField [1] "_assign")]

/-- `operators_run` where the assignees have the kind of dates and yet start with a pattern, which
is among the few operators that are offered for them. -/
theorem operators_run_assigneeDateEvents :
    let e := (opened unfilteredList assigneeDateContext).run assigneeDateEvents
    unfilteredList.filters = .empty ∧
      (∀ earlier, earlier <+: assigneeDateEvents →
        ((opened unfilteredList assigneeDateContext).run earlier).list.remembered = none) ∧
      (∀ catalog, Event.setCatalog catalog ∉ assigneeDateEvents) ∧
      Event.hydrate ∉ assigneeDateEvents ∧
      e.tree.conditionAt? [1] = some (.complete (.named "_assign" .date) .like (.text "")) ∧
      ∃ offered, e.operatorsAt? [1] = some offered ∧ Operator.like ∈ offered := by
  have hremembers : ∀ earlier, earlier <+: assigneeDateEvents →
      ((opened unfilteredList assigneeDateContext).run earlier).list.remembered = none := by
    have hinits : ∀ earlier ∈ assigneeDateEvents.inits,
        ((opened unfilteredList assigneeDateContext).run earlier).list.remembered = none := by
      decide
    exact fun earlier h => hinits earlier ((List.mem_inits _ _).2 h)
  have hcatalog : ∀ catalog, Event.setCatalog catalog ∉ assigneeDateEvents := by
    simp [assigneeDateEvents]
  have hhydrate : Event.hydrate ∉ assigneeDateEvents := by decide
  have hthere : ((opened unfilteredList assigneeDateContext).run
      assigneeDateEvents).tree.conditionAt? [1] =
        some (.complete (.named "_assign" .date) .like (.text "")) := by decide
  obtain ⟨op, offered, hop, hoffered, hmem⟩ :=
    (operators_run unfilteredList assigneeDateContext assigneeDateEvents rfl hremembers hcatalog
      hhydrate).1 [1] _ hthere (Option.some_ne_none _)
  obtain rfl := Option.some.inj hop
  exact ⟨rfl, hremembers, hcatalog, hhydrate, hthere, offered, hoffered, hmem⟩

end Editor

end RecordFilter
