import RecordFilter.Editor
import RecordFilter.Proofs.Tree.Edit

/-!
# Requests that are refused

A request that the editor refuses leaves the editor as it was: what it shows and what it applied,
the list and what the list was given, and what waits for the listener.  This holds of every editor,
so in particular of every one that requests can lead to.

What a request asks for first only reads the editor; after that comes one change, and a change that
is followed by another can no longer be refused.
-/

namespace RecordFilter

namespace Request

/-! ### What only reads -/

/-- Asking for a mode only reads. -/
lemma readOnly_requireMode (expected : Mode) : ReadOnly (requireMode expected) := by
  refine readOnly_get.bind fun e => ?_
  split
  · exact readOnly_pure ()
  · exact readOnly_throw _

/-- Looking a field up only reads. -/
lemma readOnly_listedField (name : String) : ReadOnly (listedField name) := by
  refine readOnly_get.bind fun e => ?_
  split
  · exact readOnly_pure _
  · exact readOnly_throw _

/-- Asking for an offer only reads. -/
lemma readOnly_requireOffer (field : Field) (op : Operator) :
    ReadOnly (requireOffer field op) := by
  refine readOnly_get.bind fun e => ?_
  split
  · exact readOnly_pure ()
  · exact readOnly_throw _

/-- Checking a condition only reads. -/
lemma readOnly_requireComplete (c : Condition) : ReadOnly (requireComplete c) := by
  unfold requireComplete
  split
  · exact readOnly_throw _
  · exact readOnly_pure ()

/-- Looking a condition up only reads. -/
lemma readOnly_conditionAt (path : Path) : ReadOnly (conditionAt path) := by
  refine readOnly_get.bind fun e => ?_
  split
  · exact readOnly_pure _
  · exact readOnly_throw _

/-- Looking up the field of a condition only reads. -/
lemma readOnly_fieldAt (path : Path) : ReadOnly (fieldAt path) := by
  refine readOnly_get.bind fun e => ?_
  split
  · exact readOnly_pure _
  · exact readOnly_throw _

/-- Writing the payload of the tree only reads. -/
lemma readOnly_compiledTree : ReadOnly compiledTree := by
  refine readOnly_get.bind fun e => ?_
  split
  · exact readOnly_throw _
  · exact readOnly_pure _

/-! ### Single changes -/

/-- Applying is always answered. -/
lemma isAnswered_applying (change : Editor → Editor) (e : Editor) :
    IsAnswered (applying change) e :=
  ⟨_, _, rfl⟩

/-- Applying is never refused. -/
lemma atomic_applying (change : Editor → Editor) : Atomic (applying change) :=
  (atomic_modify change).bind_isAnswered fun _ _ after _ => ⟨_, after, rfl⟩

/-- An edit that leaves the tree where it is refused leaves the editor. -/
lemma atomic_onTree {α : Type} {edit : TreeEdit α} (h : Atomic edit) : Atomic (onTree edit) := by
  intro e error after hrun
  change onTree edit e = _ at hrun
  rw [onTree] at hrun
  cases hedit : edit.run e.tree with
  | ok answer tree => simp [hedit] at hrun
  | error reason tree =>
    simp only [hedit, EStateM.Result.error.injEq] at hrun
    rw [← hrun.2, h e.tree reason tree hedit]
    rfl

/-- An edit of the tree is answered if it is answered on the tree alone. -/
lemma isAnswered_onTree {α : Type} {edit : TreeEdit α} {e : Editor}
    (h : IsAnswered edit e.tree) : IsAnswered (onTree edit) e := by
  obtain ⟨answer, tree, hedit⟩ := h
  refine ⟨answer, e.withTree tree, ?_⟩
  change onTree edit e = _
  rw [onTree, hedit]

/-- An edit of the tree that is answered was answered on the tree alone. -/
lemma run_tree_of_run_onTree {α : Type} {edit : TreeEdit α} {e after : Editor} {answer : α}
    (h : (onTree edit).run e = .ok answer after) : edit.run e.tree = .ok answer after.tree := by
  change onTree edit e = _ at h
  rw [onTree] at h
  cases hedit : edit.run e.tree with
  | ok result tree =>
    simp only [hedit, EStateM.Result.ok.injEq] at h
    rw [← h.1, ← h.2]
    rfl
  | error reason tree => simp [hedit] at h

/-- A group that has been added without children can be filled. -/
lemma isAnswered_insertCondition_of_appendNode {group added : Path} {conjunction : Conjunction}
    {e after : Editor}
    (h : (onTree (TreeEdit.appendNode group (.group ⟨conjunction, []⟩))).run e = .ok added after)
    (c : Condition) : IsAnswered (onTree (TreeEdit.insertCondition added 0 c)) after := by
  have hinsert := run_tree_of_run_onTree h
  rw [TreeEdit.appendNode, EStateM.run_bind, EStateM.run_get] at hinsert
  exact isAnswered_onTree (TreeEdit.isAnswered_insertCondition_of_insertGroup hinsert c)

/-! ### Requests -/

/-- Setting a simple filter is atomic: after the checks nothing is refused. -/
lemma atomic_setSimpleFilter (name : String) (op : Operator) (value : Value) :
    Atomic (setSimpleFilter name op value) := by
  refine (readOnly_requireMode .simple).bind_atomic fun _ => ?_
  refine (readOnly_listedField name).bind_atomic fun field => ?_
  refine (readOnly_requireOffer field op).bind_atomic fun _ => ?_
  refine (readOnly_requireComplete _).bind_atomic fun _ => ?_
  exact (atomic_modify _).bind_isAnswered fun _ _ after _ => isAnswered_applying _ after

/-- Taking a simple filter out is atomic. -/
lemma atomic_removeSimpleFilter (name : String) : Atomic (removeSimpleFilter name) := by
  refine (readOnly_requireMode .simple).bind_atomic fun _ => ?_
  refine readOnly_get.bind_atomic fun e => ?_
  split
  · exact (atomic_modify _).bind_isAnswered fun _ _ after _ => isAnswered_applying _ after
  · exact (readOnly_pure _).atomic

/-- Adding a condition is atomic. -/
lemma atomic_addCondition (group : Path) : Atomic (addCondition group) :=
  (readOnly_requireMode .advanced).bind_atomic fun _ =>
    atomic_onTree (TreeEdit.atomic_appendNode group _)

/-- Adding a group is atomic, since the group that has been inserted can be filled. -/
lemma atomic_addGroup (group : Path) (conjunction : Conjunction) :
    Atomic (addGroup group conjunction) := by
  refine (readOnly_requireMode .advanced).bind_atomic fun _ => ?_
  exact (atomic_onTree (TreeEdit.atomic_appendNode group _)).bind_isAnswered
    fun _ _ _ h => isAnswered_insertCondition_of_appendNode h .blank

/-- Removing a node is atomic. -/
lemma atomic_removeItem (path : Path) : Atomic (removeItem path) :=
  (readOnly_requireMode .advanced).bind_atomic fun _ =>
    atomic_onTree (TreeEdit.atomic_removeItem path)

/-- Setting a conjunction is atomic. -/
lemma atomic_setConjunction (group : Path) (conjunction : Conjunction) :
    Atomic (setConjunction group conjunction) :=
  (readOnly_requireMode .advanced).bind_atomic fun _ =>
    atomic_onTree (TreeEdit.atomic_setConjunction group conjunction)

/-- Choosing a field is atomic. -/
lemma atomic_setField (path : Path) (name : String) : Atomic (setField path name) := by
  refine (readOnly_requireMode .advanced).bind_atomic fun _ => ?_
  refine (readOnly_listedField name).bind_atomic fun field => ?_
  refine readOnly_get.bind_atomic fun e => ?_
  exact atomic_onTree (TreeEdit.atomic_replaceCondition path _)

/-- Choosing an operator is atomic. -/
lemma atomic_setOperator (path : Path) (op : Operator) : Atomic (setOperator path op) := by
  refine (readOnly_requireMode .advanced).bind_atomic fun _ => ?_
  refine (readOnly_conditionAt path).bind_atomic fun _ => ?_
  refine (readOnly_fieldAt path).bind_atomic fun field => ?_
  refine (readOnly_requireOffer field op).bind_atomic fun _ => ?_
  exact atomic_onTree (TreeEdit.atomic_changeCondition path _)

/-- Setting a value is atomic. -/
lemma atomic_setValue (path : Path) (value : Value) : Atomic (setValue path value) :=
  (readOnly_requireMode .advanced).bind_atomic fun _ =>
    atomic_onTree (TreeEdit.atomic_changeCondition path _)

/-- Setting a value to what a text means is atomic. -/
lemma atomic_setValueInput (path : Path) (input : String) :
    Atomic (setValueInput path input) := by
  refine (readOnly_conditionAt path).bind_atomic fun c => ?_
  split
  · exact (readOnly_throw _).atomic
  · exact atomic_setValue path _

/-- Applying what is shown is atomic. -/
lemma atomic_apply : Atomic apply := by
  refine readOnly_get.bind_atomic fun e => ?_
  split
  · exact atomic_applying _
  · exact readOnly_compiledTree.bind_atomic fun _ => atomic_applying _

/-- What an action asks for is atomic. -/
theorem atomic_ofAction (action : Action) : Atomic (ofAction action) := by
  cases action with
  | addCondition group => exact (atomic_addCondition group).discard
  | addGroup group conjunction => exact (atomic_addGroup group conjunction).discard
  | removeItem path => exact (atomic_removeItem path).discard
  | setConjunction group conjunction => exact atomic_setConjunction group conjunction
  | setField path name => exact atomic_setField path name
  | setOperator path op => exact atomic_setOperator path op
  | setValue path value => exact atomic_setValue path value
  | setValueInput path input => exact atomic_setValueInput path input
  | setSimpleFilter name op value => exact (atomic_setSimpleFilter name op value).discard
  | removeSimpleFilter name => exact (atomic_removeSimpleFilter name).discard
  | setTags tags => exact (atomic_applying _).discard
  | switchMode mode => exact atomic_modify _
  | applyFilters => exact atomic_apply.discard
  | discardFilters => exact atomic_modify _
  | clearFilters => exact (atomic_applying _).discard
  | filtersApplied payload => exact (readOnly_pure ()).atomic
  | error message => exact (readOnly_pure ()).atomic

end Request

namespace Editor

/-- **Refused actions leave no trace.**  An action that is answered by an error leaves the editor
as it was, and so does a request that is refused; and a group that has been inserted without
children can always be filled. -/
theorem update_atomic (e : Editor) (action : Action) :
    (∀ reason, (e.update action).2 = some reason → (e.update action).1 = e) ∧
      (∀ error after, (Request.ofAction action).run e = .error error after →
        after = e ∧ e.update action = (e, some (.error error.message))) ∧
      ∀ group conjunction added between,
        (Request.onTree (TreeEdit.appendNode group (.group ⟨conjunction, []⟩))).run e =
          .ok added between →
        ∃ path after, (Request.onTree (TreeEdit.insertCondition added 0 .blank)).run between =
          .ok path after := by
  have hatomic := Request.atomic_ofAction action
  refine ⟨fun reason h => ?_, fun error after h => ?_, fun group conjunction added between h => ?_⟩
  · unfold update at h ⊢
    cases hrun : (Request.ofAction action).run e with
    | ok answer after => simp [hrun] at h
    | error error after => exact hatomic e error after hrun
  · obtain rfl := hatomic e error after h
    refine ⟨rfl, ?_⟩
    unfold update
    rw [h]
  · exact Request.isAnswered_insertCondition_of_appendNode h .blank

/-- An editor whose tree has a condition without a field. -/
def unfinished : Editor where
  list := ⟨.empty, none, none, []⟩
  context := ⟨.empty, .standard⟩
  state := ⟨.advanced, ⟨.and, [.condition .blank]⟩, .empty, .empty, .empty, .empty⟩
  outbox := some []

/-- `update_atomic` at a group that cannot be added yet. -/
theorem update_unfinished_addGroup :
    (unfinished.update (.addGroup [] .or)).2 =
        some (.error "condition at [0] has no field") ∧
      (unfinished.update (.addGroup [] .or)).1 = unfinished := by
  have hrefused : (unfinished.update (.addGroup [] .or)).2 =
      some (.error "condition at [0] has no field") := by decide
  exact ⟨hrefused, (update_atomic unfinished (.addGroup [] .or)).1 _ hrefused⟩

end Editor

end RecordFilter
