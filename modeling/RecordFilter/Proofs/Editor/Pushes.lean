import RecordFilter.Proofs.Editor.Mode
import RecordFilter.Proofs.Wire.Entry

/-!
# What the list is given

The list, the editor and the listener see the same payloads.  `documented` says, event by event,
what payload the list is to be given, as a map from keys to values; a payload is what it says
under each key.  In every state that the editor reaches over a list that nobody else changes, what
is applied is what the list is filtered by, every event gives the list just the documented
payload, and a listener is told of the payloads that the list has been given since it came, in
order (`pushes_run`).
-/

namespace RecordFilter

namespace Editor

/-- What the reserved keys say, and under every other key what is said beside them. -/
def underReserved (e : Editor) (said : String → Option Json) : String → Option Json :=
  fun key => (e.state.reserved.get? key).or (said key)

/-- What simple filters say: each stands under the name of its field. -/
def saidBySimple (e : Editor) (simple : SimpleFilters) : String → Option Json :=
  fun key => (simple.get? key).map (e.context.encodeEntry key)

/-- What the tree that is edited says: it stands under the advanced key alone. -/
def saidByTree (e : Editor) : String → Option Json :=
  fun key =>
    if key = e.context.settings.advancedKey then some (e.context.encodeTree e.tree) else none

/-- What is applied, with other tags. -/
def saidWithTags (e : Editor) (tags : List String) : String → Option Json :=
  fun key =>
    if key = e.context.settings.tagsKey then
      if selectedTags tags = [] then none else some (Json.ofStrings (selectedTags tags))
    else e.state.applied.get? key

/-- Whether a simple filter is one that may be set: the catalog lists the field, the field offers
the operator, and the condition has no problem. -/
def acceptsFilter (e : Editor) (name : String) (op : Operator) (value : Value) : Bool :=
  (e.context.catalog.get? name).any fun field =>
    e.context.settings.offers field op && (Condition.complete field op value).problem?.isNone

/-- The payload that an event is to give the list, as a map, if it is to give one. -/
def documented (e : Editor) : Event → Option (String → Option Json)
  | .action .applyFilters =>
    match e.state.mode with
    | .simple => some (e.underReserved (e.saidBySimple e.state.simple))
    | .advanced => if e.tree.defect? = none then some (e.underReserved e.saidByTree) else none
  | .action (.setSimpleFilter name op value) =>
    if e.state.mode = .simple ∧ e.acceptsFilter name op value = true then
      some (e.underReserved (e.saidBySimple (e.state.simple.insert name ⟨op, value⟩)))
    else none
  | .action (.removeSimpleFilter name) =>
    if e.state.mode = .simple ∧ e.state.simple.contains name = true then
      some (e.underReserved (e.saidBySimple (e.state.simple.erase name)))
    else none
  | .action (.setTags tags) => some (e.saidWithTags tags)
  | .action (.switchMode .simple) =>
    if e.state.mode = .advanced then some e.state.reserved.get? else none
  | .action .clearFilters => some e.state.reserved.get?
  | _ => none

/-- The notifications that are delivered in a run. -/
def delivered (e : Editor) : List Event → List Action
  | [] => []
  | event :: rest =>
    (if event = .deliver then e.deliver.1 else []) ++ (e.step event).delivered rest

variable {e after : Editor} {action : Action}

/-! ### What an action gives the list -/

/-- An action that is answered gives the list a payload, or it changes nothing but what is shown. -/
lemma Answers.push_or_withState (h : e.Answers action after) :
    (∃ state payload, after = (e.withState state).push payload) ∨
      ∃ state, after = e.withState state ∧ state.applied = e.state.applied := by
  cases h with
  | edit hmode hedit => exact .inr ⟨_, rfl, rfl⟩
  | setSimpleFilter hmode hfield hoffer hcomplete => exact .inl ⟨_, _, rfl⟩
  | removeSimpleFilter hmode hthere => exact .inl ⟨_, _, rfl⟩
  | removeNoFilter hmode hthere => exact .inr ⟨e.state, rfl, rfl⟩
  | setTags tags => exact .inl ⟨_, _, rfl⟩
  | switchMode mode =>
    rcases e.switchMode_cases mode with ⟨-, heq⟩ | ⟨-, -, heq⟩ | ⟨-, -, heq⟩
    · exact .inr ⟨e.state, heq, rfl⟩
    · exact .inr ⟨_, heq, rfl⟩
    · exact .inl ⟨_, _, heq⟩
  | applySimple hmode => exact .inl ⟨_, _, rfl⟩
  | applyTree hmode hdefect => exact .inl ⟨_, _, rfl⟩
  | discard =>
    unfold Editor.discard
    cases e.state.mode with
    | simple => exact .inr ⟨e.state, rfl, rfl⟩
    | advanced => exact .inr ⟨_, rfl, rfl⟩
  | clear => exact .inl ⟨_, _, rfl⟩
  | filtersApplied payload => exact .inr ⟨e.state, rfl, rfl⟩
  | error message => exact .inr ⟨e.state, rfl, rfl⟩

/-- An action gives the list a payload, or it changes nothing but what is shown. -/
lemma update_push_or_withState (e : Editor) (action : Action) :
    (∃ state payload, (e.update action).1 = (e.withState state).push payload) ∨
      ∃ state, (e.update action).1 = e.withState state ∧ state.applied = e.state.applied := by
  rcases e.update_eq_or_answers action with ⟨hsame, -⟩ | ⟨hanswers, -⟩
  · exact .inr ⟨e.state, hsame, rfl⟩
  · exact hanswers.push_or_withState

/-! ### The list agrees with the editor -/

/-- What is applied is what the list is filtered by, as long as nobody else changes the list. -/
lemma applied_step (h : e.state.applied = e.list.filters) {event : Event}
    (hlist : ∀ list, event ≠ .listChanges list) :
    (e.step event).state.applied = (e.step event).list.filters := by
  cases event with
  | action action =>
    rw [step]
    rcases e.update_push_or_withState action with ⟨state, payload, heq⟩ | ⟨state, heq, happlied⟩
    · rw [heq]
      rfl
    · rw [heq]
      exact happlied.trans h
  | setCatalog catalog => exact h
  | hydrate =>
    rw [step, applied_hydrate, list_hydrate]
  | listen => exact h
  | hangUp => exact h
  | deliver => exact h
  | listRemembers remembered => exact h
  | listChanges list => exact absurd rfl (hlist list)

/-- What is applied is what the list is filtered by when the editor is opened. -/
lemma applied_opened (list : RecordList) (ctx : Context) :
    (opened list ctx).state.applied = (opened list ctx).list.filters := by
  rw [opened, applied_hydrate, list_hydrate]

/-! ### The listener is told -/

/-- A listener who stays is told of every payload that the list is given, in one event. -/
lemma outbox_step {waiting : List Action} (h : e.outbox = some waiting) {event : Event}
    (hlist : ∀ list, event ≠ .listChanges list) (hlisten : event ≠ .listen)
    (hhangUp : event ≠ .hangUp) :
    ∃ pushed left, (e.step event).list.received = e.list.received ++ pushed ∧
      (e.step event).outbox = some left ∧
        (if event = .deliver then e.deliver.1 else []) ++ left =
          waiting ++ pushed.map .filtersApplied := by
  cases event with
  | action action =>
    rw [step, if_neg (by simp)]
    rcases e.update_push_or_withState action with ⟨state, payload, heq⟩ | ⟨state, heq, -⟩
    · refine ⟨[payload], waiting ++ [.filtersApplied payload], ?_, ?_, rfl⟩
      · rw [heq]
        rfl
      · rw [heq, push, withState, h, Option.map_some]
    · refine ⟨[], waiting, ?_, ?_, (List.append_nil waiting).symm⟩
      · rw [heq, List.append_nil]
        rfl
      · rw [heq]
        exact h
  | setCatalog catalog =>
    exact ⟨[], waiting, (List.append_nil _).symm, h, (List.append_nil waiting).symm⟩
  | hydrate =>
    obtain ⟨state, heq⟩ := e.exists_hydrate_eq_withState
    rw [step, heq]
    exact ⟨[], waiting, (List.append_nil _).symm, h, (List.append_nil waiting).symm⟩
  | listen => exact absurd rfl hlisten
  | hangUp => exact absurd rfl hhangUp
  | deliver =>
    refine ⟨[], [], (List.append_nil _).symm, ?_, ?_⟩
    · rw [step, deliver, h]
      rfl
    · rw [if_pos rfl, deliver, h]
      rfl
  | listRemembers remembered =>
    exact ⟨[], waiting, (List.append_nil _).symm, h, (List.append_nil waiting).symm⟩
  | listChanges list => exact absurd rfl (hlist list)

/-- A listener who stays is told of every payload that the list is given, in order, and what has not
been delivered waits. -/
theorem outbox_run {events : List Event} :
    ∀ {e : Editor} {waiting : List Action}, e.outbox = some waiting →
      (∀ list, Event.listChanges list ∉ events) → Event.listen ∉ events → Event.hangUp ∉ events →
        ∃ pushed left, (e.run events).list.received = e.list.received ++ pushed ∧
          (e.run events).outbox = some left ∧
            e.delivered events ++ left = waiting ++ pushed.map .filtersApplied := by
  -- what waits after one event is what waits before the rest of the run
  induction events with
  | nil =>
    intro e waiting h _ _ _
    exact ⟨[], waiting, (List.append_nil _).symm, h, (List.append_nil waiting).symm⟩
  | cons event rest ih =>
    intro e waiting h hlist hlisten hhangUp
    obtain ⟨first, between, hreceived, houtbox, htold⟩ := outbox_step h
      (fun list heq => hlist list (heq ▸ List.mem_cons_self))
      (fun heq => hlisten (heq ▸ List.mem_cons_self))
      (fun heq => hhangUp (heq ▸ List.mem_cons_self))
    obtain ⟨second, left, hreceivedRest, houtboxRest, htoldRest⟩ := ih houtbox
      (fun list hmem => hlist list (List.mem_cons_of_mem event hmem))
      (fun hmem => hlisten (List.mem_cons_of_mem event hmem))
      (fun hmem => hhangUp (List.mem_cons_of_mem event hmem))
    refine ⟨first ++ second, left, ?_, houtboxRest, ?_⟩
    · change ((e.step event).run rest).list.received = _
      rw [hreceivedRest, hreceived, List.append_assoc]
    · rw [delivered, List.append_assoc, htoldRest, ← List.append_assoc, htold, List.map_append,
        List.append_assoc]

/-! ### Only what is documented is given -/

/-- A payload of simple filters on distinct fields says what they say, beside the reserved keys. -/
lemma get?_simplePayload_withSimple (e : Editor) {simple : SimpleFilters}
    (hnames : simple.names.Nodup) :
    (e.withSimple simple).simplePayload.get? = e.underReserved (e.saidBySimple simple) := by
  funext key
  change (Payload.overlay (e.context.encodeFilters simple) e.state.reserved).get? key = _
  rw [Payload.get?_overlay, Context.get?_encodeFilters hnames]
  rfl

/-- A payload of a tree says what it says, beside the reserved keys. -/
lemma get?_withReserved_treePayload (e : Editor) :
    (e.withReserved e.treePayload).get? = e.underReserved e.saidByTree := by
  funext key
  rw [withReserved, Payload.get?_overlay, treePayload, Payload.get?_insert, underReserved,
    saidByTree]
  by_cases hkey : e.context.settings.advancedKey = key
  · rw [if_pos hkey, if_pos hkey.symm]
  · rw [if_neg hkey, if_neg (Ne.symm hkey), Payload.get?_empty]

/-- A payload of nothing says what the reserved keys say. -/
lemma get?_withReserved_empty (e : Editor) :
    (e.withReserved .empty).get? = e.state.reserved.get? := by
  funext key
  rw [withReserved, Payload.get?_overlay, Payload.get?_empty, Option.or_none]

/-- A payload with other tags says the same under every other key. -/
lemma get?_payloadWithTags_applied (e : Editor) (tags : List String) :
    (e.payloadWithTags (selectedTags tags) e.state.applied).get? = e.saidWithTags tags := by
  funext key
  rw [get?_payloadWithTags]
  rfl

/-- An action that is answered is not refused. -/
lemma update_of_answers (h : e.Answers action after) : e.update action = (after, none) := by
  rw [update, Request.run_ofAction_eq_ok_iff.2 h]

/-- An action that is answered is a step to the editor after it. -/
lemma step_of_answers (h : e.Answers action after) : e.step (.action action) = after := by
  rw [step, update_of_answers h]

/-- A simple filter may be set if the catalog lists the field, the field offers the operator and
the condition has no problem. -/
lemma acceptsFilter_iff {name : String} {op : Operator} {value : Value} :
    e.acceptsFilter name op value = true ↔
      ∃ field, e.context.catalog.get? name = some field ∧
        e.context.settings.offers field op = true ∧
          (Condition.complete field op value).problem? = none := by
  rw [acceptsFilter, Option.any_eq_true]
  simp only [Bool.and_eq_true, Option.isNone_iff_eq_none]

/-- A simple filter that may be set is shown after it has been set. -/
lemma simple_step_setSimpleFilter {name : String} {op : Operator} {value : Value}
    (hmode : e.state.mode = .simple) (haccepts : e.acceptsFilter name op value = true) :
    (e.step (.action (.setSimpleFilter name op value))).state.simple =
      e.state.simple.insert name ⟨op, value⟩ := by
  obtain ⟨field, hfield, hoffer, hcomplete⟩ := acceptsFilter_iff.1 haccepts
  rw [step_of_answers (.setSimpleFilter hmode hfield hoffer hcomplete)]
  rfl

/-- A simple filter that has been taken out is not shown any more. -/
lemma simple_step_removeSimpleFilter {name : String} (hmode : e.state.mode = .simple)
    (hthere : e.state.simple.contains name = true) :
    (e.step (.action (.removeSimpleFilter name))).state.simple = e.state.simple.erase name := by
  rw [step_of_answers (.removeSimpleFilter hmode hthere)]
  rfl

/-- An action that is refused is not to give the list anything. -/
lemma documented_of_refused {reason : Action} (h : (e.update action).2 = some reason) :
    e.documented (.action action) = none := by
  have hrefused : ∀ after, ¬e.Answers action after := by
    intro after hanswers
    simp [update_of_answers hanswers] at h
  cases action with
  | setSimpleFilter name op value =>
    rw [documented, if_neg]
    rintro ⟨hmode, haccepts⟩
    obtain ⟨field, hfield, hoffer, hcomplete⟩ := acceptsFilter_iff.1 haccepts
    exact hrefused _ (.setSimpleFilter hmode hfield hoffer hcomplete)
  | removeSimpleFilter name =>
    rw [documented, if_neg]
    rintro ⟨hmode, hthere⟩
    exact hrefused _ (.removeSimpleFilter hmode hthere)
  | setTags tags => exact absurd (.setTags tags) (hrefused _)
  | switchMode mode => exact absurd (.switchMode mode) (hrefused _)
  | clearFilters => exact absurd .clear (hrefused _)
  | applyFilters =>
    rw [documented]
    cases hmode : e.state.mode with
    | simple => exact absurd (.applySimple hmode) (hrefused _)
    | advanced =>
      refine if_neg fun hdefect => ?_
      exact hrefused _ (.applyTree hmode hdefect)
  | _ => rfl

/-- An edit of the advanced view is not to give the list anything. -/
lemma Edits.documented_eq_none {tree : Group} (h : e.Edits action tree) :
    e.documented (.action action) = none := by
  cases h <;> rfl

/-- An action that is answered gives the list what is documented, if the simple filters are on
distinct fields. -/
lemma Answers.documented (h : e.Answers action after) (hnames : e.state.simple.names.Nodup) :
    ∃ pushed, after.list.received = e.list.received ++ pushed ∧
      pushed.map Payload.get? = (e.documented (.action action)).toList := by
  -- where nothing is documented, it is enough that the list stays as it is
  have hnone : (e.documented (.action action)) = none → after.list = e.list →
      ∃ pushed, after.list.received = e.list.received ++ pushed ∧
        pushed.map Payload.get? = (e.documented (.action action)).toList := by
    intro hdocumented hlist
    exact ⟨[], by rw [hlist, List.append_nil], by rw [hdocumented]; rfl⟩
  cases h with
  | edit hmode hedit => exact hnone hedit.documented_eq_none rfl
  | setSimpleFilter hmode hfield hoffer hcomplete =>
    refine ⟨[_], rfl, ?_⟩
    have haccepts := acceptsFilter_iff.2 ⟨_, hfield, hoffer, hcomplete⟩
    rw [Editor.documented, if_pos ⟨hmode, haccepts⟩,
      ← e.get?_simplePayload_withSimple (SimpleFilters.nodup_names_insert hnames)]
    rfl
  | @removeSimpleFilter name hmode hthere =>
    refine ⟨[_], rfl, ?_⟩
    rw [Editor.documented, if_pos ⟨hmode, hthere⟩,
      ← e.get?_simplePayload_withSimple (SimpleFilters.nodup_names_erase hnames name)]
    rfl
  | @removeNoFilter name hmode hthere =>
    refine hnone ?_ rfl
    rw [Editor.documented, if_neg]
    simp [hthere]
  | setTags tags => exact ⟨[_], rfl, by rw [List.map_singleton, get?_payloadWithTags_applied]; rfl⟩
  | switchMode mode =>
    rcases e.switchMode_cases mode with ⟨hmode, heq⟩ | ⟨hmode, rfl, heq⟩ | ⟨hmode, rfl, heq⟩
    · refine hnone ?_ (congrArg Editor.list heq)
      cases mode with
      | simple => rw [Editor.documented, if_neg (by simp [hmode])]
      | advanced => rfl
    · refine hnone rfl ?_
      rw [heq]
      rfl
    · refine ⟨[e.withReserved .empty], by rw [heq]; rfl, ?_⟩
      rw [Editor.documented, if_pos hmode, List.map_singleton, get?_withReserved_empty]
      rfl
  | applySimple hmode =>
    refine ⟨[_], rfl, ?_⟩
    simp only [Editor.documented, hmode]
    rw [← e.get?_simplePayload_withSimple hnames]
    rfl
  | applyTree hmode hdefect =>
    refine ⟨[e.withReserved e.treePayload], rfl, ?_⟩
    simp only [Editor.documented, hmode]
    rw [if_pos hdefect, List.map_singleton, get?_withReserved_treePayload]
    rfl
  | discard =>
    refine hnone rfl ?_
    unfold Editor.discard
    cases e.state.mode <;> rfl
  | clear =>
    refine ⟨[e.withReserved .empty], rfl, ?_⟩
    rw [List.map_singleton, get?_withReserved_empty]
    rfl
  | filtersApplied payload => exact hnone rfl rfl
  | error message => exact hnone rfl rfl

/-- An event gives the list what is documented, and nothing else. -/
lemma documented_step (he : e.state.FitsMode) {event : Event}
    (hlist : ∀ list, event ≠ .listChanges list) :
    ∃ pushed, (e.step event).list.received = e.list.received ++ pushed ∧
      pushed.map Payload.get? = (e.documented event).toList := by
  cases event with
  | action action =>
    rcases e.update_eq_or_answers action with ⟨hsame, reason, hreason⟩ | ⟨hanswers, -⟩
    · refine ⟨[], ?_, ?_⟩
      · rw [step, hsame, List.append_nil]
      · rw [documented_of_refused hreason]
        rfl
    · exact hanswers.documented he.names_nodup
  | hydrate =>
    obtain ⟨state, heq⟩ := e.exists_hydrate_eq_withState
    refine ⟨[], ?_, rfl⟩
    rw [step, heq, List.append_nil]
    rfl
  | setCatalog catalog => exact ⟨[], (List.append_nil _).symm, rfl⟩
  | listen => exact ⟨[], (List.append_nil _).symm, rfl⟩
  | hangUp => exact ⟨[], (List.append_nil _).symm, rfl⟩
  | deliver => exact ⟨[], (List.append_nil _).symm, rfl⟩
  | listRemembers remembered => exact ⟨[], (List.append_nil _).symm, rfl⟩
  | listChanges list => exact absurd rfl (hlist list)

/-- **The list, the editor and the listener agree.**  After every run over a list that nobody else
changes, what is applied is what the list is filtered by.  A listener who comes then and stays is
told of the payloads that the list is given from then on, in order: what has been delivered and
what still waits are these payloads.  The next event gives the list the documented payload, or
nothing where none is documented; and the simple filters that are documented for an edit of them are
those that are shown after it. -/
theorem pushes_run (list : RecordList) (ctx : Context) (events : List Event)
    (hlist : ∀ other, Event.listChanges other ∉ events) :
    let e := (opened list ctx).run events
    e.state.applied = e.list.filters ∧
      (∀ later, (∀ other, Event.listChanges other ∉ later) → Event.listen ∉ later →
        Event.hangUp ∉ later →
          ∃ pushed waiting, (e.listen.run later).list.received = e.list.received ++ pushed ∧
            (e.listen.run later).outbox = some waiting ∧
              e.listen.delivered later ++ waiting = pushed.map .filtersApplied) ∧
      (∀ event, (∀ other, event ≠ .listChanges other) →
        ∃ pushed, (e.step event).list.received = e.list.received ++ pushed ∧
          pushed.map Payload.get? = (e.documented event).toList) ∧
      (∀ name op value, e.state.mode = .simple → e.acceptsFilter name op value = true →
        (e.step (.action (.setSimpleFilter name op value))).state.simple =
          e.state.simple.insert name ⟨op, value⟩) ∧
      ∀ name, e.state.mode = .simple → e.state.simple.contains name = true →
        (e.step (.action (.removeSimpleFilter name))).state.simple = e.state.simple.erase name := by
  refine ⟨?_, fun later hother hlisten hhangUp => ?_, fun event hevent => ?_,
    fun _ _ _ => simple_step_setSimpleFilter, fun _ => simple_step_removeSimpleFilter⟩
  · refine List.foldlRecOn events step (motive := fun e => e.state.applied = e.list.filters)
      (applied_opened list ctx) ?_
    intro before hbefore event hmem
    refine applied_step hbefore ?_
    rintro other rfl
    exact hlist other hmem
  · have hnew : ((opened list ctx).run events).listen.outbox = some [] := rfl
    exact outbox_run hnew hother hlisten hhangUp
  · exact documented_step (invariant_fitsMode.run list ctx events fun _ _ _ _ h => h) hevent

/-- A run in which tags are selected. -/
def tagEvents : List Event :=
  [.setCatalog ⟨[.named "status" .text]⟩, .action (.setTags [" urgent ", "urgent"])]

/-- A run in which a simple filter is set and then a tree is built up in the advanced view. -/
def statusEvents : List Event :=
  [.action (.setSimpleFilter "status" .equals (.text "Open")), .deliver,
    .action (.switchMode .advanced), .action (.addCondition []), .action (.setField [0] "status"),
    .action (.setValueInput [0] "Closed")]

/-- The editor after tags have been selected. -/
def urgentEditor : Editor :=
  (opened ⟨.empty, none, none, []⟩ ⟨.empty, .standard⟩).run tagEvents

/-- The editor with a tree that has been built up after that. -/
def draftingEditor : Editor :=
  (opened ⟨.empty, none, none, []⟩ ⟨.empty, .standard⟩).run (tagEvents ++ statusEvents)

/-- `pushes_run` where tags have been selected: a simple filter is set, then a tree is applied, or
everything is cleared. -/
theorem pushes_run_tagEvents :
    (∀ other, Event.listChanges other ∉ tagEvents) ∧
      (∀ other, Event.listChanges other ∉ statusEvents) ∧
      Event.listen ∉ statusEvents ∧ Event.hangUp ∉ statusEvents ∧
      urgentEditor.state.applied = urgentEditor.list.filters ∧
      (∃ pushed waiting,
        (urgentEditor.listen.run statusEvents).list.received =
          urgentEditor.list.received ++ pushed ∧
        (urgentEditor.listen.run statusEvents).outbox = some waiting ∧
          urgentEditor.listen.delivered statusEvents ++ waiting = pushed.map .filtersApplied ∧
            pushed.map Payload.keys = [["status", "_tags"]]) ∧
      (∃ pushed,
        (urgentEditor.step (.action (.setSimpleFilter "status" .equals (.text "Open")))
          ).list.received = urgentEditor.list.received ++ pushed ∧
        pushed.map Payload.get? = [urgentEditor.underReserved (urgentEditor.saidBySimple
          (urgentEditor.state.simple.insert "status" ⟨.equals, .text "Open"⟩))]) ∧
      (∃ pushed,
        (draftingEditor.step (.action .applyFilters)).list.received =
          draftingEditor.list.received ++ pushed ∧
        pushed.map Payload.get? = [draftingEditor.underReserved draftingEditor.saidByTree]) ∧
      ∃ pushed,
        (urgentEditor.step (.action .clearFilters)).list.received =
          urgentEditor.list.received ++ pushed ∧
        pushed.map Payload.get? = [urgentEditor.state.reserved.get?] := by
  have hlist : ∀ other, Event.listChanges other ∉ tagEvents := by simp [tagEvents]
  have hlater : ∀ other, Event.listChanges other ∉ statusEvents := by simp [statusEvents]
  have hlisten : Event.listen ∉ statusEvents := by simp [statusEvents]
  have hhangUp : Event.hangUp ∉ statusEvents := by simp [statusEvents]
  obtain ⟨happlied, htold, hpushed, -⟩ :=
    pushes_run ⟨.empty, none, none, []⟩ ⟨.empty, .standard⟩ tagEvents hlist
  obtain ⟨-, -, hdrafted, -⟩ := pushes_run ⟨.empty, none, none, []⟩ ⟨.empty, .standard⟩
    (tagEvents ++ statusEvents) (by simp [tagEvents, statusEvents])
  rw [← urgentEditor] at happlied htold hpushed
  rw [← draftingEditor] at hdrafted
  obtain ⟨pushed, waiting, hreceived, houtbox, hdelivered⟩ :=
    htold statusEvents hlater hlisten hhangUp
  have hkeys : ((urgentEditor.listen.run statusEvents).list.received.drop
      urgentEditor.list.received.length).map Payload.keys = [["status", "_tags"]] := by decide
  rw [hreceived, List.drop_left] at hkeys
  have haccepts : urgentEditor.state.mode = .simple ∧
      urgentEditor.acceptsFilter "status" .equals (.text "Open") = true := by decide
  have hset := hpushed (.action (.setSimpleFilter "status" .equals (.text "Open"))) (by simp)
  rw [documented, if_pos haccepts] at hset
  have hmode : draftingEditor.state.mode = .advanced := by decide
  have hdefect : draftingEditor.tree.defect? = none := by decide
  have happly := hdrafted (.action .applyFilters) (by simp)
  simp only [documented, hmode, if_pos hdefect] at happly
  exact ⟨hlist, hlater, hlisten, hhangUp, happlied,
    ⟨pushed, waiting, hreceived, houtbox, hdelivered, hkeys⟩, hset, happly,
    hpushed (.action .clearFilters) (by simp)⟩

end Editor

end RecordFilter
