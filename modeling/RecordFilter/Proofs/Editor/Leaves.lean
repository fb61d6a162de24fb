import RecordFilter.Proofs.Editor.Answers
import RecordFilter.Proofs.Tree.Frame
import RecordFilter.Proofs.Tree.Removal

/-!
# The conditions of an edited tree

The edits of the advanced view make conditions in four ways: a blank one comes in, and one that is
there gets a field with its defaults, an operator, or a value.  Every other condition stays as it
is or goes.  So what all conditions of the tree have before an edit they have after it, if it is
kept in these four ways (`Edits.forall_leaves`).
-/

namespace RecordFilter

namespace Editor

/-- A property of conditions that is kept in each of the four ways in which edits make them. -/
structure KeptByEdits (ctx : Context) (P : Condition → Prop) : Prop where
  blank : P .blank
  setField : ∀ {name : String} {field : Field}, ctx.catalog.get? name = some field →
    P (.complete field (ctx.settings.defaultsFor field).1 (ctx.settings.defaultsFor field).2)
  setOperator : ∀ {c : Condition} {field : Field} {op : Operator}, P c → c.field = some field →
    ctx.settings.offers ((ctx.catalog.get? field.name).getD field) op = true → P (withOperator op c)
  setValue : ∀ {c : Condition} (value : Value), P c → P { c with value := value }

/-- A condition for which a field is found has one, and the field that is found is the one that the
catalog lists under its name, if there is one. -/
lemma exists_conditionAt?_of_fieldAt? {e : Editor} {path : Path} {field : Field}
    (h : e.fieldAt? path = some field) :
    ∃ c, e.tree.conditionAt? path = some c ∧ ∃ chosen, c.field = some chosen ∧
      (e.context.catalog.get? chosen.name).getD chosen = field := by
  unfold fieldAt? at h
  split at h
  · simp at h
  · next chosen hchosen =>
    obtain ⟨c, hc, hfield⟩ := Option.bind_eq_some_iff.1 hchosen
    exact ⟨c, hc, chosen, hfield, Option.some.inj h⟩

/-- **What all conditions have is kept by the edits of the advanced view.** -/
theorem Edits.forall_leaves {e : Editor} {action : Action} {tree : Group} {P : Condition → Prop}
    (hedit : e.Edits action tree) (hkept : KeptByEdits e.context P) (h : ∀ c ∈ e.tree.leaves, P c) :
    ∀ c ∈ tree.leaves, P c := by
  cases hedit with
  | addCondition htarget hdefect =>
    refine Group.forall_leaves_modifyGroup h htarget fun htarget =>
      Group.forall_leaves_insertChild htarget ?_
    rw [Node.leaves_condition, List.forall_mem_singleton]
    exact hkept.blank
  | addGroup htarget hdefect =>
    refine Group.forall_leaves_modifyGroup h htarget fun htarget =>
      Group.forall_leaves_insertChild htarget ?_
    rw [Node.leaves_group, List.flatMap_singleton, Node.leaves_condition,
      List.forall_mem_singleton]
    exact hkept.blank
  | removeItem hrun =>
    obtain ⟨upper, i, lower, between, -, hbetween, hi, -, rfl⟩ := TreeEdit.exists_removal hrun
    exact Group.forall_leaves_modifyGroup h hbetween fun hbefore c hc =>
      hbefore c ((Group.leaves_eraseChild_sublist hi).subset hc)
  | setConjunction htarget =>
    refine Group.forall_leaves_modifyGroup h htarget fun hbefore => ?_
    rwa [Group.leaves_withConjunction]
  | setField hfield hold => exact Group.forall_leaves_setNode h hold fun _ => hkept.setField hfield
  | setOperator hold hfield hoffer =>
    refine Group.forall_leaves_setNode h hold fun hbefore => ?_
    obtain ⟨c, hc, chosen, hchosen, rfl⟩ := exists_conditionAt?_of_fieldAt? hfield
    obtain rfl := Option.some.inj (hold.symm.trans hc)
    exact hkept.setOperator hbefore hchosen hoffer
  | setValue hold => exact Group.forall_leaves_setNode h hold (hkept.setValue _)
  | setValueInput hold hop => exact Group.forall_leaves_setNode h hold (hkept.setValue _)

end Editor

end RecordFilter
