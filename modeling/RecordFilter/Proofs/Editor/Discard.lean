import RecordFilter.Proofs.Editor.Run
import RecordFilter.Proofs.Wire.Lossless

/-!
# Edits that are not applied

The edits of the advanced view change the tree that is edited and nothing else
(`step_eq_withTree_of_isEdit`), however many there are and whether they are answered or refused
(`run_eq_withTree_of_isEdit`).  So they can all be undone at once: discarding them brings back the
tree that was applied last, and with it the editor as it was (`discard_run_edits`).
-/

namespace RecordFilter

/-- Whether an action asks for an edit of the advanced view. -/
def Action.isEdit : Action → Bool
  | .addCondition _ | .addGroup _ _ | .removeItem _ | .setConjunction _ _ | .setField _ _
  | .setOperator _ _ | .setValue _ _ | .setValueInput _ _ => true
  | _ => false

namespace Editor

variable {e after : Editor} {action : Action} {actions : List Action}

/-- The tree of an editor may be put in its place. -/
lemma withTree_self (e : Editor) : e.withTree e.tree = e := rfl

/-- Of two trees that are put in place one after the other, the second stays. -/
lemma withTree_withTree (e : Editor) (first second : Group) :
    (e.withTree first).withTree second = e.withTree second := rfl

/-- An edit that is answered leaves everything but the tree. -/
lemma Answers.eq_withTree_of_isEdit (h : e.Answers action after) (hedit : action.isEdit = true) :
    after = e.withTree after.tree := by
  cases h with
  | edit _ _ => rfl
  | _ => simp [Action.isEdit] at hedit

/-- An edit leaves everything but the tree, whether it is answered or refused. -/
lemma step_eq_withTree_of_isEdit (e : Editor) (hedit : action.isEdit = true) :
    e.step (.action action) = e.withTree (e.step (.action action)).tree := by
  rw [step]
  rcases e.update_eq_or_answers action with ⟨hsame, -⟩ | ⟨hanswers, -⟩
  · rw [hsame, withTree_self]
  · exact hanswers.eq_withTree_of_isEdit hedit

/-- Edits leave everything but the tree, however many there are. -/
theorem run_eq_withTree_of_isEdit (hedits : ∀ action ∈ actions, action.isEdit = true) :
    ∃ tree, e.run (actions.map .action) = e.withTree tree := by
  refine List.foldlRecOn (actions.map Event.action) step
    (motive := fun edited => ∃ tree, edited = e.withTree tree) ⟨e.tree, rfl⟩ ?_
  rintro _ ⟨tree, rfl⟩ event hevent
  obtain ⟨action, haction, rfl⟩ := List.mem_map.1 hevent
  rw [step_eq_withTree_of_isEdit _ (hedits action haction), withTree_withTree]
  exact ⟨_, rfl⟩

/-- Discarding in advanced mode brings back the tree that was applied last, whatever tree has been
edited. -/
lemma discard_withTree (hmode : e.state.mode = .advanced) (tree : Group) :
    (e.withTree tree).discard = e.withTree e.state.appliedTree := by
  have hafter : (e.withTree tree).state.mode = .advanced := hmode
  simp only [discard, hafter]
  rfl

/-- **Edits stay apart from what is applied, and they can be discarded.**  In advanced mode, after
any run of edits, answered or refused, the list has been given nothing, the listener has been told
nothing, and everything but the tree that is edited is as it was.  Discarding is then answered and
leaves the editor with the tree that was applied last; so where that was the tree that was edited,
the editor is just what it was before the edits. -/
theorem discard_run_edits (e : Editor) (hmode : e.state.mode = .advanced) (actions : List Action)
    (hedits : ∀ action ∈ actions, action.isEdit = true) :
    let edited := e.run (actions.map .action)
    (edited.list = e.list ∧ edited.outbox = e.outbox ∧ edited.context = e.context ∧
      edited.state.mode = e.state.mode ∧ edited.state.appliedTree = e.state.appliedTree ∧
      edited.state.simple = e.state.simple ∧ edited.state.reserved = e.state.reserved ∧
      edited.state.applied = e.state.applied) ∧
      edited.update .discardFilters = (e.withTree e.state.appliedTree, none) ∧
      (e.tree = e.state.appliedTree → edited.update .discardFilters = (e, none)) := by
  obtain ⟨tree, htree⟩ := run_eq_withTree_of_isEdit (e := e) hedits
  have hdiscard : (e.withTree tree).update .discardFilters =
      (e.withTree e.state.appliedTree, none) :=
    congrArg (Prod.mk · none) (discard_withTree hmode tree)
  intro edited
  rw [show edited = e.withTree tree from htree]
  refine ⟨⟨rfl, rfl, rfl, rfl, rfl, rfl, rfl, rfl⟩, hdiscard, fun hsame => ?_⟩
  rw [hdiscard, ← hsame, withTree_self]

/-- The editor of a list that is filtered by a condition and a choice. -/
def choiceEditor : Editor :=
  opened ⟨Context.mixedPayload, none, none, []⟩ ⟨.empty, .standard⟩

/-- Edits of the tree of `choiceEditor`; no field can be chosen since none is listed. -/
def choiceEdits : List Action :=
  [.removeItem [1, 0], .addGroup [] .or, .setField [2, 0] "status", .setConjunction [1] .and,
    .setValueInput [0] "Closed"]

/-- `discard_run_edits` after edits of which one is refused. -/
theorem discard_run_choiceEdits :
    choiceEditor.state.mode = .advanced ∧ (∀ action ∈ choiceEdits, action.isEdit = true) ∧
      choiceEditor.tree = choiceEditor.state.appliedTree ∧
      let edited := choiceEditor.run (choiceEdits.map .action)
      edited.tree ≠ choiceEditor.tree ∧ edited.list = choiceEditor.list ∧
        edited.update .discardFilters = (choiceEditor, none) := by
  have hmode : choiceEditor.state.mode = .advanced := by decide
  have hedits : ∀ action ∈ choiceEdits, action.isEdit = true := by decide
  have hsame : choiceEditor.tree = choiceEditor.state.appliedTree := by decide
  obtain ⟨⟨hlist, -⟩, -, hback⟩ := discard_run_edits choiceEditor hmode choiceEdits hedits
  exact ⟨hmode, hedits, hsame, by decide, hlist, hback hsame⟩

end Editor

end RecordFilter
