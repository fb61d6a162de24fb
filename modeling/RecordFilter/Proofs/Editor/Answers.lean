import RecordFilter.Proofs.Editor.Atomic
import RecordFilter.Proofs.Tree.Answered

/-!
# Requests that are answered

What it takes for the editor to answer an action, and the editor after it.  `Edits` lists the
edits of the advanced view, which need advanced mode and change the tree alone, and `Answers`
lists them with everything else.  An action is answered just as they say
(`run_ofAction_eq_ok_iff`), so that what an action keeps can be shown one entry of the list after
the other, without looking into a request.
-/

namespace RecordFilter

namespace Editor

/-- The payload of the tree that is edited. -/
def treePayload (e : Editor) : Payload :=
  Payload.empty.insert e.context.settings.advancedKey (e.context.encodeTree e.tree)

/-- The edits of the advanced view, each with the tree that it makes. -/
inductive Edits (e : Editor) : Action → Group → Prop
  /-- A blank condition is appended to a group beside which nothing has a defect. -/
  | addCondition {group : Path} {target : Group} (htarget : e.tree.groupAt? group = some target)
      (hdefect : e.tree.defectForInsert? group = none) :
    Edits e (.addCondition group)
      (e.tree.modifyGroup (fun g => g.insertChild target.size (.condition .blank)) group)
  /-- A group of one blank condition is appended to a group beside which nothing has a defect. -/
  | addGroup {group : Path} {conjunction : Conjunction} {target : Group}
      (htarget : e.tree.groupAt? group = some target)
      (hdefect : e.tree.defectForInsert? group = none) :
    Edits e (.addGroup group conjunction)
      (e.tree.modifyGroup
        (fun g => g.insertChild target.size (.group ⟨conjunction, [.condition .blank]⟩)) group)
  /-- A node is removed. -/
  | removeItem {path selected : Path} {tree : Group}
      (hrun : (TreeEdit.removeItem path).run e.tree = .ok selected tree) :
    Edits e (.removeItem path) tree
  /-- A group that is there is joined by another conjunction. -/
  | setConjunction {group : Path} {conjunction : Conjunction} {target : Group}
      (htarget : e.tree.groupAt? group = some target) :
    Edits e (.setConjunction group conjunction)
      (e.tree.modifyGroup (fun g => g.withConjunction conjunction) group)
  /-- A condition becomes one on a field that the catalog lists, with the defaults of the field. -/
  | setField {path : Path} {name : String} {field : Field} {old : Condition}
      (hfield : e.context.catalog.get? name = some field)
      (hold : e.tree.conditionAt? path = some old) :
    Edits e (.setField path name)
      (e.tree.setNode path (.condition (.complete field (e.context.settings.defaultsFor field).1
        (e.context.settings.defaultsFor field).2)))
  /-- A condition that has a field gets an operator that the field offers. -/
  | setOperator {path : Path} {op : Operator} {field : Field} {old : Condition}
      (hold : e.tree.conditionAt? path = some old) (hfield : e.fieldAt? path = some field)
      (hoffer : e.context.settings.offers field op = true) :
    Edits e (.setOperator path op) (e.tree.setNode path (.condition (withOperator op old)))
  /-- A condition gets a value. -/
  | setValue {path : Path} {value : Value} {old : Condition}
      (hold : e.tree.conditionAt? path = some old) :
    Edits e (.setValue path value)
      (e.tree.setNode path (.condition { old with value := value }))
  /-- A condition that has an operator gets the value that a text means under it. -/
  | setValueInput {path : Path} {input : String} {op : Operator} {old : Condition}
      (hold : e.tree.conditionAt? path = some old) (hop : old.operator = some op) :
    Edits e (.setValueInput path input)
      (e.tree.setNode path (.condition { old with value := Value.ofInput op input }))

/-- The actions that are answered, each with the editor after it. -/
inductive Answers (e : Editor) : Action → Editor → Prop
  /-- An edit in advanced mode changes the tree alone. -/
  | edit {action : Action} {tree : Group} (hmode : e.state.mode = .advanced)
      (hedit : e.Edits action tree) : Answers e action (e.withTree tree)
  /-- A complete filter of a field that the catalog lists is set and applied in simple mode. -/
  | setSimpleFilter {name : String} {op : Operator} {value : Value} {field : Field}
      (hmode : e.state.mode = .simple) (hfield : e.context.catalog.get? name = some field)
      (hoffer : e.context.settings.offers field op = true)
      (hcomplete : (Condition.complete field op value).problem? = none) :
    Answers e (.setSimpleFilter name op value)
      (e.withSimple (e.state.simple.insert name ⟨op, value⟩)).applySimple
  /-- A filter that is there is taken out in simple mode, and what is left is applied. -/
  | removeSimpleFilter {name : String} (hmode : e.state.mode = .simple)
      (hthere : e.state.simple.contains name = true) :
    Answers e (.removeSimpleFilter name) (e.withSimple (e.state.simple.erase name)).applySimple
  /-- Where there is no filter to take out nothing happens. -/
  | removeNoFilter {name : String} (hmode : e.state.mode = .simple)
      (hthere : e.state.simple.contains name = false) : Answers e (.removeSimpleFilter name) e
  /-- Tags are always selected. -/
  | setTags (tags : List String) : Answers e (.setTags tags) (e.setTags tags)
  /-- The mode is always switched. -/
  | switchMode (mode : Mode) : Answers e (.switchMode mode) (e.switchMode mode)
  /-- In simple mode the simple filters are applied. -/
  | applySimple (hmode : e.state.mode = .simple) : Answers e .applyFilters e.applySimple
  /-- In advanced mode a tree without a defect is applied. -/
  | applyTree (hmode : e.state.mode = .advanced) (hdefect : e.tree.defect? = none) :
    Answers e .applyFilters (e.applyTree e.treePayload)
  /-- Edits are always discarded. -/
  | discard : Answers e .discardFilters e.discard
  /-- Filters are always cleared. -/
  | clear : Answers e .clearFilters e.clear
  /-- A notification is no request. -/
  | filtersApplied (payload : Payload) : Answers e (.filtersApplied payload) e
  /-- An error is no request. -/
  | error (message : String) : Answers e (.error message) e

end Editor

namespace Request

variable {e after : Editor}

/-! ### What only reads -/

/-- A mode is asked for in vain unless it is the mode. -/
lemma run_requireMode_eq_ok_iff {expected : Mode} {u : Unit} :
    (requireMode expected).run e = .ok u after ↔ e.state.mode = expected ∧ e = after := by
  simp only [requireMode, EStateM.run_bind, EStateM.run_get]
  split_ifs with hmode
  · simp [hmode]
  · simp [run_throw_eq_error, hmode]

/-- A field is found if the catalog lists it. -/
lemma run_listedField_eq_ok_iff {name : String} {field : Field} :
    (listedField name).run e = .ok field after ↔
      e.context.catalog.get? name = some field ∧ e = after := by
  simp only [listedField, EStateM.run_bind, EStateM.run_get]
  cases hfield : e.context.catalog.get? name with
  | none => simp [run_throw_eq_error]
  | some found => simp

/-- An operator is accepted if the field offers it. -/
lemma run_requireOffer_eq_ok_iff {field : Field} {op : Operator} {u : Unit} :
    (requireOffer field op).run e = .ok u after ↔
      e.context.settings.offers field op = true ∧ e = after := by
  simp only [requireOffer, EStateM.run_bind, EStateM.run_get]
  split_ifs with hoffer
  · simp [hoffer]
  · simp [run_throw_eq_error, hoffer]

/-- A condition is accepted if it has no problem. -/
lemma run_requireComplete_eq_ok_iff {c : Condition} {u : Unit} :
    (requireComplete c).run e = .ok u after ↔ c.problem? = none ∧ e = after := by
  rw [requireComplete, Condition.defect?]
  cases hproblem : c.problem? with
  | none => simp
  | some problem => simp [run_throw_eq_error]

/-- A condition is found if there is one. -/
lemma run_conditionAt_eq_ok_iff {path : Path} {c : Condition} :
    (conditionAt path).run e = .ok c after ↔ e.tree.conditionAt? path = some c ∧ e = after := by
  simp only [conditionAt, EStateM.run_bind, EStateM.run_get]
  cases hc : e.tree.conditionAt? path with
  | none => simp [run_throw_eq_error]
  | some found => simp

/-- The field of a condition is found if there is one. -/
lemma run_fieldAt_eq_ok_iff {path : Path} {field : Field} :
    (fieldAt path).run e = .ok field after ↔ e.fieldAt? path = some field ∧ e = after := by
  simp only [fieldAt, EStateM.run_bind, EStateM.run_get]
  cases hfield : e.fieldAt? path with
  | none => simp [run_throw_eq_error]
  | some found => simp

/-- The payload of the tree is found if the tree has no defect. -/
lemma run_compiledTree_eq_ok_iff {payload : Payload} :
    compiledTree.run e = .ok payload after ↔
      e.tree.defect? = none ∧ e.treePayload = payload ∧ e = after := by
  simp only [compiledTree, EStateM.run_bind, EStateM.run_get, Context.compileAdvanced,
    Editor.treePayload]
  cases hdefect : e.tree.defect? with
  | none => simp
  | some defect => simp [run_throw_eq_error]

/-! ### Changes -/

/-- Applying answers with what is applied after the change. -/
lemma run_applying_eq_ok_iff {change : Editor → Editor} {payload : Payload} :
    (applying change).run e = .ok payload after ↔
      (change e).state.applied = payload ∧ change e = after := by
  change EStateM.Result.ok (change e).state.applied (change e) = _ ↔ _
  rw [EStateM.Result.ok.injEq]

/-- An edit of the tree is answered as it is on the tree alone. -/
lemma run_onTree_eq_ok_iff {α : Type} {edit : TreeEdit α} {answer : α} :
    (onTree edit).run e = .ok answer after ↔
      ∃ tree, edit.run e.tree = .ok answer tree ∧ e.withTree tree = after := by
  change onTree edit e = _ ↔ _
  rw [onTree]
  cases hedit : edit.run e.tree with
  | ok result tree => simp [and_assoc]
  | error reason tree => simp

/-! ### Edits of the advanced view -/

/-- When a condition is added. -/
lemma run_addCondition_eq_ok_iff {group : Path} :
    (∃ answer, (addCondition group).run e = .ok answer after) ↔
      e.Answers (.addCondition group) after := by
  simp only [addCondition, run_bind_eq_ok_iff, run_requireMode_eq_ok_iff, run_onTree_eq_ok_iff,
    TreeEdit.run_appendNode_eq_ok_iff]
  constructor
  · rintro ⟨_, _, _, ⟨hmode, rfl⟩, _, ⟨target, htarget, hdefect, -, rfl⟩, rfl⟩
    exact .edit hmode (.addCondition htarget hdefect)
  · intro h
    cases h with
    | edit hmode hedit =>
      cases hedit with
      | addCondition htarget hdefect =>
        exact ⟨_, (), e, ⟨hmode, rfl⟩, _, ⟨_, htarget, hdefect, rfl, rfl⟩, rfl⟩

/-- When a group is added: the condition in it can always be inserted after it. -/
lemma run_addGroup_eq_ok_iff {group : Path} {conjunction : Conjunction} :
    (∃ answer, (addGroup group conjunction).run e = .ok answer after) ↔
      e.Answers (.addGroup group conjunction) after := by
  simp only [addGroup, run_bind_eq_ok_iff, run_requireMode_eq_ok_iff]
  -- once the empty group is in, the condition goes into it, and the two come to one change
  have hfilled : ∀ {between : Editor} {added : Path} {target : Group},
      e.tree.groupAt? group = some target → e.tree.defectForInsert? group = none →
        (onTree (TreeEdit.appendNode group (.group ⟨conjunction, []⟩))).run e =
          .ok added between →
          ∃ answer, (onTree (TreeEdit.insertCondition added 0 .blank)).run between =
            .ok answer (e.withTree (e.tree.modifyGroup (fun g =>
              g.insertChild target.size (.group ⟨conjunction, [.condition .blank]⟩)) group)) := by
    intro between added target htarget hdefect hadded
    obtain ⟨answer, final, hfinal⟩ := isAnswered_insertCondition_of_appendNode hadded .blank
    obtain ⟨tree, htree, rfl⟩ := run_onTree_eq_ok_iff.1 hadded
    obtain ⟨_, htarget', -, rfl, rfl⟩ := TreeEdit.run_appendNode_eq_ok_iff.1 htree
    obtain rfl := Option.some.inj (htarget.symm.trans htarget')
    obtain ⟨tree, hinsert, rfl⟩ := run_onTree_eq_ok_iff.1 hfinal
    obtain ⟨inner, -, -, -, rfl⟩ := TreeEdit.run_insertNode_eq_ok_iff.1 hinsert
    refine ⟨answer, hfinal.trans ?_⟩
    rw [Nat.zero_min, ← Group.modifyGroup_insertChild_concat htarget]
    rfl
  constructor
  · rintro ⟨answer, _, _, ⟨hmode, rfl⟩, added, between, hadded, hinsert⟩
    obtain ⟨tree, htree, -⟩ := run_onTree_eq_ok_iff.1 hadded
    obtain ⟨target, htarget, hdefect, -⟩ := TreeEdit.run_appendNode_eq_ok_iff.1 htree
    obtain ⟨answer', hfinal⟩ := hfilled htarget hdefect hadded
    obtain ⟨-, rfl⟩ := EStateM.Result.ok.inj (hfinal.symm.trans hinsert)
    exact .edit hmode (.addGroup htarget hdefect)
  · intro h
    cases h with
    | edit hmode hedit =>
      cases hedit with
      | addGroup htarget hdefect =>
        have hadded : (onTree (TreeEdit.appendNode group (.group ⟨conjunction, []⟩))).run e = _ :=
          run_onTree_eq_ok_iff.2
            ⟨_, TreeEdit.run_appendNode_eq_ok_iff.2 ⟨_, htarget, hdefect, rfl, rfl⟩, rfl⟩
        obtain ⟨answer, hfinal⟩ := hfilled htarget hdefect hadded
        exact ⟨answer, (), e, ⟨hmode, rfl⟩, _, _, hadded, hfinal⟩

/-- When a node is removed. -/
lemma run_removeItem_eq_ok_iff {path : Path} :
    (∃ answer, (removeItem path).run e = .ok answer after) ↔
      e.Answers (.removeItem path) after := by
  simp only [removeItem, run_bind_eq_ok_iff, run_requireMode_eq_ok_iff, run_onTree_eq_ok_iff]
  constructor
  · rintro ⟨answer, _, _, ⟨hmode, rfl⟩, tree, hrun, rfl⟩
    exact .edit hmode (.removeItem hrun)
  · intro h
    cases h with
    | edit hmode hedit =>
      cases hedit with
      | removeItem hrun =>
        exact ⟨_, (), e, ⟨hmode, rfl⟩, _, hrun, rfl⟩

/-- When a conjunction is set. -/
lemma run_setConjunction_eq_ok_iff {group : Path} {conjunction : Conjunction} :
    (setConjunction group conjunction).run e = .ok () after ↔
      e.Answers (.setConjunction group conjunction) after := by
  simp only [setConjunction, run_bind_eq_ok_iff, run_requireMode_eq_ok_iff, run_onTree_eq_ok_iff,
    TreeEdit.run_setConjunction_eq_ok_iff]
  constructor
  · rintro ⟨_, _, ⟨hmode, rfl⟩, _, ⟨target, htarget, rfl⟩, rfl⟩
    exact .edit hmode (.setConjunction htarget)
  · intro h
    cases h with
    | edit hmode hedit =>
      cases hedit with
      | setConjunction htarget =>
        exact ⟨(), e, ⟨hmode, rfl⟩, _, ⟨_, htarget, rfl⟩, rfl⟩

/-- When a field is chosen. -/
lemma run_setField_eq_ok_iff {path : Path} {name : String} :
    (setField path name).run e = .ok () after ↔ e.Answers (.setField path name) after := by
  simp only [setField, run_bind_eq_ok_iff, run_requireMode_eq_ok_iff, run_listedField_eq_ok_iff,
    run_get_eq_ok_iff, run_onTree_eq_ok_iff, TreeEdit.run_replaceCondition_eq_ok_iff]
  constructor
  · rintro ⟨_, _, ⟨hmode, rfl⟩, field, _, ⟨hfield, rfl⟩, _, _, ⟨rfl, rfl⟩, _, ⟨old, hold, rfl⟩, rfl⟩
    exact .edit hmode (.setField hfield hold)
  · intro h
    cases h with
    | edit hmode hedit =>
      cases hedit with
      | setField hfield hold =>
        exact ⟨(), e, ⟨hmode, rfl⟩, _, e, ⟨hfield, rfl⟩, e, e, ⟨rfl, rfl⟩, _, ⟨_, hold, rfl⟩, rfl⟩

/-- When an operator is chosen. -/
lemma run_setOperator_eq_ok_iff {path : Path} {op : Operator} :
    (setOperator path op).run e = .ok () after ↔ e.Answers (.setOperator path op) after := by
  simp only [setOperator, run_bind_eq_ok_iff, run_requireMode_eq_ok_iff, run_conditionAt_eq_ok_iff,
    run_fieldAt_eq_ok_iff, run_requireOffer_eq_ok_iff, run_onTree_eq_ok_iff,
    TreeEdit.run_changeCondition_eq_ok_iff]
  constructor
  · rintro ⟨_, _, ⟨hmode, rfl⟩, _, _, ⟨-, rfl⟩, field, _, ⟨hfield, rfl⟩, _, _, ⟨hoffer, rfl⟩, _,
      ⟨old, hold, rfl⟩, rfl⟩
    exact .edit hmode (.setOperator hold hfield hoffer)
  · intro h
    cases h with
    | edit hmode hedit =>
      cases hedit with
      | setOperator hold hfield hoffer =>
        exact ⟨(), e, ⟨hmode, rfl⟩, _, e, ⟨hold, rfl⟩, _, e, ⟨hfield, rfl⟩, (), e, ⟨hoffer, rfl⟩, _,
          ⟨_, hold, rfl⟩, rfl⟩

/-- A value is set if there is a condition in advanced mode. -/
lemma run_setValue_eq_ok_iff_exists {path : Path} {value : Value} :
    (setValue path value).run e = .ok () after ↔
      e.state.mode = .advanced ∧ ∃ old, e.tree.conditionAt? path = some old ∧
        e.withTree (e.tree.setNode path (.condition { old with value := value })) = after := by
  simp only [setValue, run_bind_eq_ok_iff, run_requireMode_eq_ok_iff, run_onTree_eq_ok_iff,
    TreeEdit.run_changeCondition_eq_ok_iff]
  constructor
  · rintro ⟨_, _, ⟨hmode, rfl⟩, _, ⟨old, hold, rfl⟩, rfl⟩
    exact ⟨hmode, old, hold, rfl⟩
  · rintro ⟨hmode, old, hold, rfl⟩
    exact ⟨(), e, ⟨hmode, rfl⟩, _, ⟨old, hold, rfl⟩, rfl⟩

/-- When a value is set. -/
lemma run_setValue_eq_ok_iff {path : Path} {value : Value} :
    (setValue path value).run e = .ok () after ↔ e.Answers (.setValue path value) after := by
  rw [run_setValue_eq_ok_iff_exists]
  constructor
  · rintro ⟨hmode, old, hold, rfl⟩
    exact .edit hmode (.setValue hold)
  · intro h
    cases h with
    | edit hmode hedit =>
      cases hedit with
      | setValue hold =>
        exact ⟨hmode, _, hold, rfl⟩

/-- When a value is set to what a text means. -/
lemma run_setValueInput_eq_ok_iff {path : Path} {input : String} :
    (setValueInput path input).run e = .ok () after ↔
      e.Answers (.setValueInput path input) after := by
  simp only [setValueInput, run_bind_eq_ok_iff, run_conditionAt_eq_ok_iff]
  constructor
  · rintro ⟨c, _, ⟨hc, rfl⟩, hrun⟩
    cases hop : c.operator with
    | none => simp [hop, run_throw_eq_error] at hrun
    | some op =>
      simp only [hop, run_setValue_eq_ok_iff_exists] at hrun
      obtain ⟨hmode, old, hold, rfl⟩ := hrun
      obtain rfl := Option.some.inj (hc.symm.trans hold)
      exact .edit hmode (.setValueInput hold hop)
  · intro h
    cases h with
    | edit hmode hedit =>
      cases hedit with
      | @setValueInput _ _ op old hold hop =>
        refine ⟨old, e, ⟨hold, rfl⟩, ?_⟩
        simp only [hop, run_setValue_eq_ok_iff_exists]
        exact ⟨hmode, old, hold, by rw [hop]⟩

/-! ### Simple filters and applying -/

/-- When a simple filter is set. -/
lemma run_setSimpleFilter_eq_ok_iff {name : String} {op : Operator} {value : Value} :
    (∃ answer, (setSimpleFilter name op value).run e = .ok answer after) ↔
      e.Answers (.setSimpleFilter name op value) after := by
  simp only [setSimpleFilter, run_bind_eq_ok_iff, run_requireMode_eq_ok_iff,
    run_listedField_eq_ok_iff, run_requireOffer_eq_ok_iff, run_requireComplete_eq_ok_iff,
    run_modify_eq_ok_iff, run_applying_eq_ok_iff]
  constructor
  · rintro ⟨answer, _, _, ⟨hmode, rfl⟩, field, _, ⟨hfield, rfl⟩, _, _, ⟨hoffer, rfl⟩, _, _,
      ⟨hcomplete, rfl⟩, _, _, rfl, -, rfl⟩
    exact .setSimpleFilter hmode hfield hoffer hcomplete
  · intro h
    cases h with
    | edit hmode hedit => cases hedit
    | setSimpleFilter hmode hfield hoffer hcomplete =>
      exact ⟨_, (), e, ⟨hmode, rfl⟩, _, e, ⟨hfield, rfl⟩, (), e, ⟨hoffer, rfl⟩, (), e,
        ⟨hcomplete, rfl⟩, (), _, rfl, rfl, rfl⟩

/-- When a simple filter is taken out. -/
lemma run_removeSimpleFilter_eq_ok_iff {name : String} :
    (∃ answer, (removeSimpleFilter name).run e = .ok answer after) ↔
      e.Answers (.removeSimpleFilter name) after := by
  simp only [removeSimpleFilter, run_bind_eq_ok_iff, run_requireMode_eq_ok_iff, run_get_eq_ok_iff]
  constructor
  · rintro ⟨answer, _, _, ⟨hmode, rfl⟩, _, _, ⟨rfl, rfl⟩, hrun⟩
    split_ifs at hrun with hthere
    · simp only [run_bind_eq_ok_iff, run_modify_eq_ok_iff, run_applying_eq_ok_iff] at hrun
      obtain ⟨_, _, rfl, -, rfl⟩ := hrun
      exact .removeSimpleFilter hmode hthere
    · obtain ⟨-, rfl⟩ := run_pure_eq_ok_iff.1 hrun
      exact .removeNoFilter hmode (Bool.eq_false_iff.2 hthere)
  · intro h
    cases h with
    | edit hmode hedit => cases hedit
    | removeSimpleFilter hmode hthere =>
      refine ⟨(e.withSimple (e.state.simple.erase name)).applySimple.state.applied, (), e,
        ⟨hmode, rfl⟩, e, e, ⟨rfl, rfl⟩, ?_⟩
      rw [if_pos hthere]
      exact run_bind_eq_ok_iff.2
        ⟨(), _, run_modify_eq_ok_iff.2 rfl, run_applying_eq_ok_iff.2 ⟨rfl, rfl⟩⟩
    | removeNoFilter hmode hthere =>
      refine ⟨e.state.applied, (), e, ⟨hmode, rfl⟩, e, e, ⟨rfl, rfl⟩, ?_⟩
      rw [if_neg (Bool.eq_false_iff.1 hthere)]
      exact run_pure_eq_ok_iff.2 ⟨rfl, rfl⟩

/-- When what is shown is applied. -/
lemma run_apply_eq_ok_iff :
    (∃ answer, apply.run e = .ok answer after) ↔ e.Answers .applyFilters after := by
  simp only [apply, run_bind_eq_ok_iff, run_get_eq_ok_iff]
  constructor
  · rintro ⟨answer, _, _, ⟨rfl, rfl⟩, hrun⟩
    cases hmode : e.state.mode with
    | simple =>
      simp only [hmode, run_applying_eq_ok_iff] at hrun
      obtain ⟨-, rfl⟩ := hrun
      exact .applySimple hmode
    | advanced =>
      simp only [hmode, run_bind_eq_ok_iff, run_compiledTree_eq_ok_iff,
        run_applying_eq_ok_iff] at hrun
      obtain ⟨_, _, ⟨hdefect, rfl, rfl⟩, -, rfl⟩ := hrun
      exact .applyTree hmode hdefect
  · intro h
    cases h with
    | edit hmode hedit => cases hedit
    | applySimple hmode =>
      refine ⟨e.applySimple.state.applied, e, e, ⟨rfl, rfl⟩, ?_⟩
      simp only [hmode]
      exact run_applying_eq_ok_iff.2 ⟨rfl, rfl⟩
    | applyTree hmode hdefect =>
      refine ⟨(e.applyTree e.treePayload).state.applied, e, e, ⟨rfl, rfl⟩, ?_⟩
      simp only [hmode]
      exact run_bind_eq_ok_iff.2 ⟨e.treePayload, e,
        run_compiledTree_eq_ok_iff.2 ⟨hdefect, rfl, rfl⟩, run_applying_eq_ok_iff.2 ⟨rfl, rfl⟩⟩

/-! ### What is never refused -/

/-- When tags are selected. -/
lemma run_setTags_eq_ok_iff {tags : List String} :
    (∃ answer, (setTags tags).run e = .ok answer after) ↔ e.Answers (.setTags tags) after := by
  simp only [setTags, run_applying_eq_ok_iff, exists_eq_left']
  constructor
  · rintro rfl
    exact .setTags tags
  · rintro (⟨-, hedit⟩ | _)
    · cases hedit
    · rfl

/-- When the edits of the tree are discarded. -/
lemma run_discardEdits_eq_ok_iff :
    discardEdits.run e = .ok () after ↔ e.Answers .discardFilters after := by
  refine run_modify_eq_ok_iff.trans ⟨?_, ?_⟩
  · rintro rfl
    exact .discard
  · rintro (⟨-, hedit⟩ | _)
    · cases hedit
    · rfl

/-- When every filter is taken out. -/
lemma run_clear_eq_ok_iff :
    (∃ answer, clear.run e = .ok answer after) ↔ e.Answers .clearFilters after := by
  simp only [clear, run_applying_eq_ok_iff, exists_eq_left']
  constructor
  · rintro rfl
    exact .clear
  · rintro (⟨-, hedit⟩ | _)
    · cases hedit
    · rfl

/-- When the mode is switched. -/
lemma run_switchMode_eq_ok_iff {mode : Mode} :
    (switchMode mode).run e = .ok () after ↔ e.Answers (.switchMode mode) after := by
  refine run_modify_eq_ok_iff.trans ⟨?_, ?_⟩
  · rintro rfl
    exact .switchMode mode
  · rintro (⟨-, hedit⟩ | _)
    · cases hedit
    · rfl

/-! ### All actions -/

/-- **What it takes for an action to be answered.**  An action is answered just as the list of
answers says. -/
theorem run_ofAction_eq_ok_iff {action : Action} :
    (ofAction action).run e = .ok () after ↔ e.Answers action after := by
  cases action with
  | addCondition group => exact run_discard_eq_ok_iff.trans run_addCondition_eq_ok_iff
  | addGroup group conjunction => exact run_discard_eq_ok_iff.trans run_addGroup_eq_ok_iff
  | removeItem path => exact run_discard_eq_ok_iff.trans run_removeItem_eq_ok_iff
  | setConjunction group conjunction => exact run_setConjunction_eq_ok_iff
  | setField path name => exact run_setField_eq_ok_iff
  | setOperator path op => exact run_setOperator_eq_ok_iff
  | setValue path value => exact run_setValue_eq_ok_iff
  | setValueInput path input => exact run_setValueInput_eq_ok_iff
  | setSimpleFilter name op value => exact run_discard_eq_ok_iff.trans run_setSimpleFilter_eq_ok_iff
  | removeSimpleFilter name => exact run_discard_eq_ok_iff.trans run_removeSimpleFilter_eq_ok_iff
  | applyFilters => exact run_discard_eq_ok_iff.trans run_apply_eq_ok_iff
  | setTags tags => exact run_discard_eq_ok_iff.trans run_setTags_eq_ok_iff
  | switchMode mode => exact run_switchMode_eq_ok_iff
  | discardFilters => exact run_discardEdits_eq_ok_iff
  | clearFilters => exact run_discard_eq_ok_iff.trans run_clear_eq_ok_iff
  | filtersApplied payload =>
    refine run_pure_eq_ok_iff.trans ⟨?_, ?_⟩
    · rintro ⟨-, rfl⟩
      exact .filtersApplied payload
    · rintro (⟨-, hedit⟩ | _)
      · cases hedit
      · exact ⟨rfl, rfl⟩
  | error message =>
    refine run_pure_eq_ok_iff.trans ⟨?_, ?_⟩
    · rintro ⟨-, rfl⟩
      exact .error message
    · rintro (⟨-, hedit⟩ | _)
      · cases hedit
      · exact ⟨rfl, rfl⟩

end Request

end RecordFilter
