import RecordFilter.Proofs.Editor.Answers
import RecordFilter.Proofs.Ordered

/-!
# Runs of the editor

Beside the actions of the views, an editor may be given a catalog, be told to read its list again,
and get and lose a listener; the list may remember another condition list; and it may be changed
by someone else.  A run is a list of such events, one after the other, from the moment the editor
is opened.

What is shown changes in eight ways only.  `Invariant` says of a property of the context and the
state that it is kept by each of them, and then it holds after every run (`Invariant.run`).
-/

namespace RecordFilter

/-- Something that happens to an editor. -/
inductive Event where
  /-- A view asks for something. -/
  | action (action : Action)
  | setCatalog (catalog : Catalog)
  /-- The list is read again. -/
  | hydrate
  /-- A new listener comes. -/
  | listen
  /-- The listener goes. -/
  | hangUp
  /-- The notifications that wait are delivered. -/
  | deliver
  /-- The list comes to remember another condition list, or none. -/
  | listRemembers (remembered : Option Json)
  /-- The list is changed by someone else. -/
  | listChanges (list : RecordList)
  deriving DecidableEq

namespace Editor

/-- The editor after an event. -/
def step (e : Editor) : Event → Editor
  | .action action => (e.update action).1
  | .setCatalog catalog => e.setCatalog catalog
  | .hydrate => e.hydrate
  | .listen => e.listen
  | .hangUp => e.hangUp
  | .deliver => e.deliver.2
  | .listRemembers remembered => { e with list := { e.list with remembered := remembered } }
  | .listChanges list => { e with list := list }

/-- The editor after some events, one after the other. -/
def run (e : Editor) (events : List Event) : Editor :=
  events.foldl step e

variable {e after : Editor} {action : Action} {events : List Event}

/-! ### What an event changes -/

/-- An action is refused for a reason and leaves the editor, or it is answered. -/
lemma update_eq_or_answers (e : Editor) (action : Action) :
    ((e.update action).1 = e ∧ ∃ reason, (e.update action).2 = some reason) ∨
      (e.Answers action (e.update action).1 ∧ (e.update action).2 = none) := by
  unfold update
  cases hrun : (Request.ofAction action).run e with
  | ok answer after => exact .inr ⟨Request.run_ofAction_eq_ok_iff.1 hrun, rfl⟩
  | error error after =>
    exact .inl ⟨Request.atomic_ofAction action e error after hrun, _, rfl⟩

/-- A payload that can be read is shown. -/
lemma hydrate_of_ok {hydrated : Hydrated} (h : e.context.hydrate e.list.filters = .ok hydrated) :
    e.hydrate = e.withState (stateOf (e.orRemembered hydrated) e.list.filters) := by
  simp only [hydrate, h]

/-- Of a payload that cannot be read the reserved keys are kept. -/
lemma hydrate_of_error {error : WireError} (h : e.context.hydrate e.list.filters = .error error) :
    e.hydrate = e.withState (emptyState (e.reservedOf e.list.filters) e.list.filters) := by
  simp only [hydrate, h]

/-- Reading the list changes the state alone. -/
lemma exists_hydrate_eq_withState (e : Editor) : ∃ state, e.hydrate = e.withState state := by
  cases hread : e.context.hydrate e.list.filters with
  | ok hydrated => exact ⟨_, hydrate_of_ok hread⟩
  | error error => exact ⟨_, hydrate_of_error hread⟩

/-- Reading the list leaves the context. -/
lemma context_hydrate (e : Editor) : e.hydrate.context = e.context := by
  obtain ⟨state, hstate⟩ := e.exists_hydrate_eq_withState
  rw [hstate]
  rfl

/-- Reading the list leaves it. -/
lemma list_hydrate (e : Editor) : e.hydrate.list = e.list := by
  obtain ⟨state, hstate⟩ := e.exists_hydrate_eq_withState
  rw [hstate]
  rfl

/-- What a list is filtered by is what is applied after it has been read. -/
lemma applied_hydrate (e : Editor) : e.hydrate.state.applied = e.list.filters := by
  cases hread : e.context.hydrate e.list.filters with
  | ok hydrated => rw [hydrate_of_ok hread]; rfl
  | error error => rw [hydrate_of_error hread]; rfl

/-- What is shown of a list: its payload, with the tree that the list remembers where the payload
filters by no field, or nothing beside the reserved keys of a payload that cannot be read. -/
lemma hydrate_cases (e : Editor) :
    (∃ hydrated, e.context.hydrate e.list.filters = .ok hydrated ∧
        (e.hydrate.state = stateOf hydrated e.list.filters ∨
          ∃ tree, hydrated.simple.isEmpty = true ∧ e.rememberedTree? = some tree ∧
            e.hydrate.state =
              stateOf { hydrated with mode := .advanced, tree := tree } e.list.filters)) ∨
      e.hydrate.state = emptyState (e.reservedOf e.list.filters) e.list.filters := by
  cases hread : e.context.hydrate e.list.filters with
  | error error =>
    rw [hydrate_of_error hread]
    exact .inr rfl
  | ok hydrated =>
    rw [hydrate_of_ok hread, orRemembered]
    refine .inl ⟨hydrated, rfl, ?_⟩
    split_ifs with hempty
    · split
      · next tree htree => exact .inr ⟨tree, hempty.2, htree, rfl⟩
      · exact .inl rfl
    · exact .inl rfl

/-- The tree that a list remembers has been read. -/
lemma exists_decodeTree_of_rememberedTree? {tree : Group} (h : e.rememberedTree? = some tree) :
    ∃ raw, e.context.decodeTree raw = .ok tree := by
  unfold rememberedTree? at h
  split at h
  · simp at h
  · next raw _ =>
    split at h
    · next read hread =>
      split_ifs at h
      obtain rfl := Option.some.inj h
      exact ⟨raw, hread⟩
    · simp at h

/-- The tree to enter the advanced view with is empty, or it has been read. -/
lemma rememberedTree?_getD_cases (e : Editor) :
    e.rememberedTree?.getD .empty = .empty ∨
      ∃ raw, e.context.decodeTree raw = .ok (e.rememberedTree?.getD .empty) := by
  cases hremembered : e.rememberedTree? with
  | none => exact .inl rfl
  | some tree => exact .inr (exists_decodeTree_of_rememberedTree? hremembered)

/-- In a payload with other tags they stand under the tags key, if there are any, and every other
key keeps its value. -/
lemma get?_payloadWithTags (e : Editor) (tags : List String) (payload : Payload) (key : String) :
    (e.payloadWithTags tags payload).get? key =
      if key = e.context.settings.tagsKey then
        if tags = [] then none else some (Json.ofStrings tags)
      else payload.get? key := by
  rw [payloadWithTags]
  by_cases hkey : e.context.settings.tagsKey = key
  · rw [if_pos hkey.symm]
    split_ifs
    · rw [Payload.get?_erase, if_pos hkey]
    · rw [Payload.get?_insert, if_pos hkey]
  · rw [if_neg (Ne.symm hkey)]
    split_ifs
    · rw [Payload.get?_erase, if_neg hkey]
    · rw [Payload.get?_insert, if_neg hkey]

/-- Switching the mode does nothing, or it enters the advanced view, or it clears. -/
lemma switchMode_cases (e : Editor) (mode : Mode) :
    (e.state.mode = mode ∧ e.switchMode mode = e) ∨
      (e.state.mode = .simple ∧ mode = .advanced ∧ e.switchMode mode = e.enterAdvanced) ∨
        (e.state.mode = .advanced ∧ mode = .simple ∧ e.switchMode mode = e.clear) := by
  unfold switchMode
  split_ifs with hmode
  · exact .inl ⟨hmode, rfl⟩
  · cases mode with
    | advanced =>
      cases hbefore : e.state.mode with
      | simple => exact .inr (.inl ⟨rfl, rfl, rfl⟩)
      | advanced => exact absurd hbefore hmode
    | simple =>
      cases hbefore : e.state.mode with
      | simple => exact absurd hbefore hmode
      | advanced => exact .inr (.inr ⟨rfl, rfl, rfl⟩)

/-- An action leaves the context. -/
lemma Answers.context_eq (h : e.Answers action after) : after.context = e.context := by
  cases h with
  | switchMode mode =>
    rcases e.switchMode_cases mode with ⟨-, heq⟩ | ⟨-, -, heq⟩ | ⟨-, -, heq⟩
    · rw [heq]
    · rw [heq]
      rfl
    · rw [heq]
      rfl
  | discard =>
    unfold Editor.discard
    cases e.state.mode <;> rfl
  | _ => rfl

/-- Only a new catalog changes the context. -/
lemma context_step {event : Event} (h : ∀ catalog, event ≠ .setCatalog catalog) :
    (e.step event).context = e.context := by
  cases event with
  | action action =>
    rcases e.update_eq_or_answers action with ⟨hsame, -⟩ | ⟨hanswers, -⟩
    · rw [step, hsame]
    · exact hanswers.context_eq
  | setCatalog catalog => exact absurd rfl (h catalog)
  | hydrate => exact e.context_hydrate
  | listen => rfl
  | hangUp => rfl
  | deliver => rfl
  | listRemembers remembered => rfl
  | listChanges list => rfl

/-- The settings stay as they are. -/
lemma settings_step (e : Editor) (event : Event) :
    (e.step event).context.settings = e.context.settings := by
  by_cases hcatalog : ∃ catalog, event = .setCatalog catalog
  · obtain ⟨catalog, rfl⟩ := hcatalog
    rfl
  · rw [context_step fun catalog heq => hcatalog ⟨catalog, heq⟩]

/-- A run without a new catalog keeps the context that the editor was opened in. -/
lemma context_run {list : RecordList} {ctx : Context}
    (h : ∀ catalog, Event.setCatalog catalog ∉ events) :
    ((opened list ctx).run events).context = ctx := by
  refine List.foldlRecOn (motive := fun e => e.context = ctx) events step ?_ ?_
  · rw [opened, context_hydrate]
  intro before hbefore event hmem
  rw [context_step, hbefore]
  rintro catalog rfl
  exact h catalog hmem

/-! ### Invariants -/

/-- The simple filters that can be applied in simple mode: those that are set, those without one of
them, and those with a complete filter on a listed field. -/
inductive Refilters (e : Editor) : SimpleFilters → Prop
  | same : Refilters e e.state.simple
  | insert {name : String} {op : Operator} {value : Value} {field : Field}
      (hfield : e.context.catalog.get? name = some field)
      (hcomplete : (Condition.complete field op value).problem? = none) :
    Refilters e (e.state.simple.insert name ⟨op, value⟩)
  | erase (name : String) : Refilters e (e.state.simple.erase name)

/-- A property of the context and the state that every change of an editor keeps. -/
structure Invariant (P : Context → FilterState → Prop) : Prop where
  /-- It holds of what is read from a list. -/
  hydrate : ∀ e : Editor, P e.context e.hydrate.state
  /-- It is kept by the edits of the advanced view. -/
  edit : ∀ {e : Editor} {action : Action} {tree : Group}, P e.context e.state →
    e.state.mode = .advanced → e.Edits action tree → P e.context (e.withTree tree).state
  /-- It is kept where simple filters are applied. -/
  applySimple : ∀ {e : Editor} {simple : SimpleFilters}, P e.context e.state →
    e.state.mode = .simple → e.Refilters simple →
      P e.context (e.withSimple simple).applySimple.state
  /-- It is kept where a tree is applied. -/
  applyTree : ∀ {e : Editor}, P e.context e.state → e.state.mode = .advanced →
    e.tree.defect? = none → P e.context (e.applyTree e.treePayload).state
  /-- It is kept where tags are selected. -/
  setTags : ∀ {e : Editor} (tags : List String), P e.context e.state →
    P e.context (e.setTags tags).state
  /-- It is kept where edits are discarded. -/
  discard : ∀ {e : Editor}, P e.context e.state → e.state.mode = .advanced →
    P e.context (e.withTree e.state.appliedTree).state
  /-- It is kept where everything is cleared. -/
  clear : ∀ {e : Editor}, P e.context e.state → P e.context e.clear.state
  /-- It is kept where the advanced view is entered. -/
  enterAdvanced : ∀ {e : Editor}, P e.context e.state → e.state.mode = .simple →
    P e.context e.enterAdvanced.state

variable {P : Context → FilterState → Prop}

/-- An invariant is kept by the actions that are answered. -/
theorem Invariant.answers (h : Invariant P) (he : P e.context e.state)
    (hanswers : e.Answers action after) : P e.context after.state := by
  cases hanswers with
  | edit hmode hedit => exact h.edit he hmode hedit
  | setSimpleFilter hmode hfield _ hcomplete =>
    exact h.applySimple he hmode (.insert hfield hcomplete)
  | removeSimpleFilter hmode _ => exact h.applySimple he hmode (.erase _)
  | removeNoFilter _ _ => exact he
  | setTags tags => exact h.setTags tags he
  | switchMode mode =>
    rcases e.switchMode_cases mode with ⟨-, heq⟩ | ⟨hmode, -, heq⟩ | ⟨-, -, heq⟩
    · rwa [heq]
    · rw [heq]
      exact h.enterAdvanced he hmode
    · rw [heq]
      exact h.clear he
  | applySimple hmode => exact h.applySimple he hmode .same
  | applyTree hmode hdefect => exact h.applyTree he hmode hdefect
  | discard =>
    unfold Editor.discard
    cases hmode : e.state.mode with
    | simple => exact he
    | advanced => exact h.discard he hmode
  | clear => exact h.clear he
  | filtersApplied payload => exact he
  | error message => exact he

/-- An invariant is kept by every event, if it is kept by new catalogs. -/
theorem Invariant.step (h : Invariant P) {event : Event}
    (hcatalog : ∀ catalog, event = .setCatalog catalog →
      P { e.context with catalog := catalog } e.state) (he : P e.context e.state) :
    P (e.step event).context (e.step event).state := by
  cases event with
  | action action =>
    rcases e.update_eq_or_answers action with ⟨hsame, -⟩ | ⟨hanswers, -⟩
    · rwa [Editor.step, hsame]
    · rw [Editor.step, hanswers.context_eq]
      exact h.answers he hanswers
  | setCatalog catalog => exact hcatalog catalog rfl
  | hydrate =>
    rw [Editor.step, context_hydrate]
    exact h.hydrate e
  | listen => exact he
  | hangUp => exact he
  | deliver => exact he
  | listRemembers remembered => exact he
  | listChanges list => exact he

/-- **Invariants hold after every run**, if they are kept by the catalogs that are set in it. -/
theorem Invariant.run (h : Invariant P) (list : RecordList) (ctx : Context) (events : List Event)
    (hcatalog : ∀ catalog, Event.setCatalog catalog ∈ events → ∀ ctx s, P ctx s →
      P { ctx with catalog := catalog } s) :
    P ((opened list ctx).run events).context ((opened list ctx).run events).state := by
  refine List.foldlRecOn events Editor.step (motive := fun e => P e.context e.state) ?_ ?_
  · rw [opened, context_hydrate]
    exact h.hydrate _
  · intro before hbefore event hmem
    refine h.step ?_ hbefore
    rintro catalog rfl
    exact hcatalog catalog hmem _ _ hbefore

end Editor

end RecordFilter
