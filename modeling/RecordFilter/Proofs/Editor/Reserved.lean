import RecordFilter.Proofs.Editor.Pushes
import RecordFilter.Proofs.Wire.Lossless

/-!
# Reserved keys are never lost

An editor carries the reserved keys of its list along.  They are read from the payload of the list,
also where the rest of it cannot be read (`get?_reserved_hydrate`), and every payload that is
applied has them, since they are set last (`invariant_reserved`).  Between two readings of the list
only the tags key changes (`get?_reserved_step`).  So a reserved key with another name is in every
payload that the list is given, with the value that it had at first (`reserved_run`).
-/

namespace RecordFilter

namespace Payload

/-- Every entry of a payload is an entry of another. -/
def Within (p q : Payload) : Prop :=
  ∀ key raw, p.get? key = some raw → q.get? key = some raw

/-- What is set is within the result. -/
lemma within_overlay (p more : Payload) : more.Within (p.overlay more) := by
  intro key raw h
  rw [get?_overlay, h, Option.some_or]

end Payload

namespace Editor

variable {e after : Editor} {action : Action} {event : Event} {events : List Event} {key : String}

/-! ### What is read -/

/-- The reserved keys that are shown of a list are those of its payload other than the advanced key,
with their values, whether the payload can be read or not. -/
lemma get?_reserved_hydrate (e : Editor) (key : String) (raw : Json) :
    e.hydrate.state.reserved.get? key = some raw ↔
      e.list.filters.get? key = some raw ∧ e.context.isReserved key = true ∧
        key ≠ e.context.settings.advancedKey := by
  rcases e.hydrate_cases with ⟨hydrated, hread, hstate | ⟨tree, -, -, hstate⟩⟩ | hstate
  · rw [hstate]
    exact Context.get?_reserved_of_hydrate hread key raw
  · rw [hstate]
    exact Context.get?_reserved_of_hydrate hread key raw
  · rw [hstate]
    change (e.reservedOf e.list.filters).get? key = some raw ↔ _
    rw [reservedOf, Payload.get?_filterKeys]
    simp only [Bool.and_eq_true, decide_eq_true_eq]
    split_ifs with hkey
    · exact ⟨fun hraw => ⟨hraw, hkey.2, hkey.1⟩, And.left⟩
    · exact iff_of_false (by simp) fun hraw => hkey ⟨hraw.2.2, hraw.2.1⟩

/-! ### What is applied -/

/-- Other tags are set in two payloads alike. -/
lemma within_payloadWithTags (e : Editor) (tags : List String) {reserved applied : Payload}
    (h : reserved.Within applied) :
    (e.payloadWithTags tags reserved).Within (e.payloadWithTags tags applied) := by
  intro key raw hraw
  rw [get?_payloadWithTags] at hraw ⊢
  split_ifs at hraw ⊢
  · exact hraw
  · exact h key raw hraw

/-- Whatever changes, the reserved keys are within what is applied. -/
theorem invariant_reserved : Invariant fun _ s => s.reserved.Within s.applied where
  hydrate := by
    intro e key raw hraw
    rw [applied_hydrate]
    exact ((e.get?_reserved_hydrate key raw).1 hraw).1
  edit := fun he _ _ => he
  applySimple := fun _ _ _ => Payload.within_overlay _ _
  applyTree := fun _ _ _ => Payload.within_overlay _ _
  setTags := fun tags he => within_payloadWithTags _ (selectedTags tags) he
  discard := fun he _ => he
  clear := fun _ => Payload.within_overlay _ _
  enterAdvanced := fun he _ => he

/-! ### What changes -/

/-- An action leaves every reserved key but the tags key. -/
lemma Answers.get?_reserved (h : e.Answers action after)
    (hkey : key ≠ e.context.settings.tagsKey) :
    after.state.reserved.get? key = e.state.reserved.get? key := by
  cases h with
  | setTags tags =>
    change (e.payloadWithTags (selectedTags tags) e.state.reserved).get? key = _
    rw [get?_payloadWithTags, if_neg hkey]
  | switchMode mode =>
    rcases e.switchMode_cases mode with ⟨-, heq⟩ | ⟨-, -, heq⟩ | ⟨-, -, heq⟩
    · rw [heq]
    · rw [heq]
      rfl
    · rw [heq]
      rfl
  | discard =>
    unfold Editor.discard
    cases e.state.mode <;> rfl
  | _ => rfl

/-- Until the list is read again, every reserved key but the tags key stays as it is. -/
lemma get?_reserved_step (hevent : event ≠ .hydrate) (hkey : key ≠ e.context.settings.tagsKey) :
    (e.step event).state.reserved.get? key = e.state.reserved.get? key := by
  cases event with
  | action action =>
    rcases e.update_eq_or_answers action with ⟨hsame, -⟩ | ⟨hanswers, -⟩
    · rw [step, hsame]
    · exact hanswers.get?_reserved hkey
  | hydrate => exact absurd rfl hevent
  | setCatalog catalog => rfl
  | listen => rfl
  | hangUp => rfl
  | deliver => rfl
  | listRemembers remembered => rfl
  | listChanges list => rfl

/-- The settings stay as they are in a run. -/
lemma settings_run (e : Editor) (events : List Event) :
    (e.run events).context.settings = e.context.settings := by
  refine List.foldlRecOn events step
    (motive := fun after => after.context.settings = e.context.settings) rfl ?_
  intro before hbefore event _
  rw [settings_step, hbefore]

/-- In a run in which the list is not read again, every reserved key but the tags key stays as it
is. -/
lemma get?_reserved_run (hread : Event.hydrate ∉ events)
    (hkey : key ≠ e.context.settings.tagsKey) :
    (e.run events).state.reserved.get? key = e.state.reserved.get? key := by
  induction events generalizing e with
  | nil => rfl
  | cons event rest ih =>
    rw [List.mem_cons, not_or] at hread
    change ((e.step event).run rest).state.reserved.get? key = _
    rw [ih hread.2 (e.settings_step event ▸ hkey), get?_reserved_step (Ne.symm hread.1) hkey]

/-- The payloads that the list is given in one event are what is applied after it. -/
lemma exists_pushed_step (hlist : ∀ list, event ≠ .listChanges list) :
    ∃ pushed, (e.step event).list.received = e.list.received ++ pushed ∧
      ∀ payload ∈ pushed, payload = (e.step event).state.applied := by
  cases event with
  | action action =>
    rw [step]
    rcases e.update_push_or_withState action with ⟨state, payload, heq⟩ | ⟨state, heq, -⟩
    · rw [heq]
      exact ⟨[payload], rfl, by simp [push]⟩
    · rw [heq]
      exact ⟨[], (List.append_nil _).symm, by simp⟩
  | hydrate => exact ⟨[], by rw [step, list_hydrate, List.append_nil], by simp⟩
  | setCatalog catalog => exact ⟨[], (List.append_nil _).symm, by simp⟩
  | listen => exact ⟨[], (List.append_nil _).symm, by simp⟩
  | hangUp => exact ⟨[], (List.append_nil _).symm, by simp⟩
  | deliver => exact ⟨[], (List.append_nil _).symm, by simp⟩
  | listRemembers remembered => exact ⟨[], (List.append_nil _).symm, by simp⟩
  | listChanges list => exact absurd rfl (hlist list)

/-- **Reserved keys are never lost.**  When an editor is opened, the reserved keys of the payload of
its list other than the advanced key are read, whether the rest can be read or not.  Let the list
not be read again.  After every run each reserved key is applied with its value.  A key that was
read at first, other than the tags key, still has the value that it had in that payload, and the
next event gives the list only payloads in which it has this value. -/
theorem reserved_run (list : RecordList) (ctx : Context) (events : List Event)
    (hread : Event.hydrate ∉ events) :
    let start := opened list ctx
    let e := start.run events
    (∀ key raw, start.state.reserved.get? key = some raw ↔
      list.filters.get? key = some raw ∧ ctx.isReserved key = true ∧
        key ≠ ctx.settings.advancedKey) ∧
      (∀ key raw, e.state.reserved.get? key = some raw → e.state.applied.get? key = some raw) ∧
      ∀ key raw, key ≠ ctx.settings.tagsKey → start.state.reserved.get? key = some raw →
        e.state.reserved.get? key = some raw ∧
          ∀ event, event ≠ .hydrate → (∀ other, event ≠ .listChanges other) →
            ∃ pushed, (e.step event).list.received = e.list.received ++ pushed ∧
              ∀ payload ∈ pushed, payload.get? key = some raw := by
  have hwithin : ((opened list ctx).run events).state.reserved.Within
      ((opened list ctx).run events).state.applied :=
    invariant_reserved.run list ctx events fun _ _ _ _ h => h
  refine ⟨fun key raw => get?_reserved_hydrate _ key raw, hwithin, ?_⟩
  intro key raw hkey hraw
  have hstart : key ≠ (opened list ctx).context.settings.tagsKey := by
    rwa [opened, context_hydrate]
  have hkept : ((opened list ctx).run events).state.reserved.get? key = some raw :=
    (get?_reserved_run hread hstart).trans hraw
  refine ⟨hkept, fun event hevent hlist => ?_⟩
  obtain ⟨pushed, hreceived, hpushed⟩ := exists_pushed_step hlist
  refine ⟨pushed, hreceived, fun payload hmem => ?_⟩
  -- a payload that is given is what is applied then, and the key has not changed before
  have hafter : (((opened list ctx).run events).step event).state.reserved.get? key = some raw := by
    rw [get?_reserved_step hevent (by rwa [settings_run]), hkept]
  rw [hpushed payload hmem]
  exact invariant_reserved.step (fun _ _ => hwithin) hwithin key raw hafter

/-- A list that is filtered by a key that nobody knows and by a value that cannot be read. -/
def unreadableList : RecordList :=
  ⟨.ofList [("status", .array []), ("_seen", .string "yes")], none, none, []⟩

/-- A run that selects tags, takes them back and goes to the advanced view. -/
def detourEvents : List Event :=
  [.action (.setTags ["urgent"]), .setCatalog ⟨[.named "_seen" .text]⟩, .action (.setTags []),
    .action (.switchMode .advanced)]

/-- `reserved_run` at a payload that cannot be read, where the editor returns to simple mode. -/
theorem reserved_run_unreadableList :
    Event.hydrate ∉ detourEvents ∧
      (opened unreadableList ⟨.empty, .standard⟩).state.reserved.get? "_seen" =
        some (.string "yes") ∧
      let e := (opened unreadableList ⟨.empty, .standard⟩).run detourEvents
      e.state.reserved.get? "_seen" = some (.string "yes") ∧
        ∃ pushed, (e.step (.action (.switchMode .simple))).list.received =
            e.list.received ++ pushed ∧
          ∀ payload ∈ pushed, payload.get? "_seen" = some (.string "yes") := by
  have hread : Event.hydrate ∉ detourEvents := by decide
  have hstart : (opened unreadableList ⟨.empty, .standard⟩).state.reserved.get? "_seen" =
      some (.string "yes") := by decide
  obtain ⟨-, -, hkept⟩ := reserved_run unreadableList ⟨.empty, .standard⟩ detourEvents hread
  obtain ⟨hreserved, hgiven⟩ := hkept "_seen" (.string "yes") (by decide) hstart
  exact ⟨hread, hstart, hreserved, hgiven _ (by simp) (by simp)⟩

end Editor

end RecordFilter
