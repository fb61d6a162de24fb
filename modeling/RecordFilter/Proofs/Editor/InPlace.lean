import RecordFilter.Proofs.Editor.Leaves
import RecordFilter.Proofs.Offer
import RecordFilter.Proofs.Tree.InPlace

/-!
# Editing a condition in place

Four requests of the advanced view change the condition at a path: to choose its field or its
operator, to set its value, or to set what a text means as its value.  Each of them leaves the
editor as it is but for that condition (`Editor.Recasts`), as the two edits of a tree do that change
an item in place (`edits_in_place`).
-/

namespace RecordFilter

namespace Editor

/-- An editor after the condition at a path has become another: the trees agree off the path, and
all else is as it was. -/
structure Recasts (e : Editor) (path : Path) (new : Condition) (after : Editor) : Prop where
  there : after.tree.conditionAt? path = some new
  agreesOff : e.tree.AgreesOff path after.tree
  eq_withTree : after = e.withTree after.tree

/-- A condition becomes another if this is put at its path. -/
lemma recasts_setNode {e : Editor} {path : Path} {old : Condition}
    (hold : e.tree.conditionAt? path = some old) (new : Condition) :
    e.Recasts path new (e.withTree (e.tree.setNode path (.condition new))) where
  there := Group.conditionAt?_setNode hold new
  agreesOff := Group.agreesOff_setNode hold new
  eq_withTree := rfl

/-- A condition that has got an operator has a value of the shape that the operator takes. -/
lemma shape_withOperator (op : Operator) (c : Condition) :
    (withOperator op c).value.shape = op.shape := by
  rw [withOperator]
  dsimp only
  split_ifs with hshape
  · exact hshape
  · exact Value.shape_emptyFor op

/-- A condition that has got an operator keeps a value that fits the operator. -/
lemma value_withOperator {op : Operator} {c : Condition} (h : c.value.shape = op.shape) :
    (withOperator op c).value = c.value :=
  if_pos h

end Editor

namespace Request

variable {e after : Editor} {path : Path}

/-- A field is chosen in advanced mode if it is listed and there is a condition. -/
lemma isAnswered_setField_iff {name : String} :
    IsAnswered (setField path name) e ↔ e.state.mode = .advanced ∧
      e.context.catalog.get? name ≠ none ∧ e.tree.conditionAt? path ≠ none := by
  rw [Option.ne_none_iff_exists', Option.ne_none_iff_exists']
  constructor
  · rintro ⟨_, after, h⟩
    cases run_setField_eq_ok_iff.1 h with
    | edit hmode hedit =>
      cases hedit with
      | setField hfield hold => exact ⟨hmode, ⟨_, hfield⟩, _, hold⟩
  · rintro ⟨hmode, ⟨field, hfield⟩, old, hold⟩
    exact ⟨(), _, run_setField_eq_ok_iff.2 (.edit hmode (.setField hfield hold))⟩

/-- A condition whose field has been chosen is on that field and has its defaults. -/
lemma recasts_of_run_setField {name : String} (h : (setField path name).run e = .ok () after) :
    ∃ field, e.context.catalog.get? name = some field ∧
      e.Recasts path (.complete field (e.context.settings.defaultsFor field).1
        (e.context.settings.defaultsFor field).2) after := by
  cases run_setField_eq_ok_iff.1 h with
  | edit hmode hedit =>
    cases hedit with
    | setField hfield hold => exact ⟨_, hfield, Editor.recasts_setNode hold _⟩

/-- An operator is chosen in advanced mode if the field of the condition offers it. -/
lemma isAnswered_setOperator_iff {op : Operator} :
    IsAnswered (setOperator path op) e ↔ e.state.mode = .advanced ∧
      ∃ field, e.fieldAt? path = some field ∧ e.context.settings.offers field op = true := by
  constructor
  · rintro ⟨_, after, h⟩
    cases run_setOperator_eq_ok_iff.1 h with
    | edit hmode hedit =>
      cases hedit with
      | setOperator hold hfield hoffer => exact ⟨hmode, _, hfield, hoffer⟩
  · rintro ⟨hmode, field, hfield, hoffer⟩
    obtain ⟨old, hold, -⟩ := Editor.exists_conditionAt?_of_fieldAt? hfield
    exact ⟨(), _, run_setOperator_eq_ok_iff.2 (.edit hmode (.setOperator hold hfield hoffer))⟩

/-- A condition whose operator has been chosen has that operator. -/
lemma recasts_of_run_setOperator {op : Operator} (h : (setOperator path op).run e = .ok () after) :
    ∃ old field, e.tree.conditionAt? path = some old ∧ e.fieldAt? path = some field ∧
      e.context.settings.offers field op = true ∧
        e.Recasts path (Editor.withOperator op old) after := by
  cases run_setOperator_eq_ok_iff.1 h with
  | edit hmode hedit =>
    cases hedit with
    | setOperator hold hfield hoffer =>
      exact ⟨_, _, hold, hfield, hoffer, Editor.recasts_setNode hold _⟩

/-- A value is set in advanced mode if there is a condition. -/
lemma isAnswered_setValue_iff {value : Value} :
    IsAnswered (setValue path value) e ↔
      e.state.mode = .advanced ∧ e.tree.conditionAt? path ≠ none := by
  rw [Option.ne_none_iff_exists']
  constructor
  · rintro ⟨_, after, h⟩
    obtain ⟨hmode, old, hold, -⟩ := run_setValue_eq_ok_iff_exists.1 h
    exact ⟨hmode, old, hold⟩
  · rintro ⟨hmode, old, hold⟩
    exact ⟨(), _, run_setValue_eq_ok_iff_exists.2 ⟨hmode, old, hold, rfl⟩⟩

/-- A condition whose value has been set has that value. -/
lemma recasts_of_run_setValue {value : Value} (h : (setValue path value).run e = .ok () after) :
    ∃ old, e.tree.conditionAt? path = some old ∧
      e.Recasts path { old with value := value } after := by
  obtain ⟨-, old, hold, rfl⟩ := run_setValue_eq_ok_iff_exists.1 h
  exact ⟨old, hold, Editor.recasts_setNode hold _⟩

/-- What a text means is set as a value in advanced mode if there is a condition with an
operator. -/
lemma isAnswered_setValueInput_iff {input : String} :
    IsAnswered (setValueInput path input) e ↔ e.state.mode = .advanced ∧
      ∃ old, e.tree.conditionAt? path = some old ∧ old.operator ≠ none := by
  constructor
  · rintro ⟨_, after, h⟩
    cases run_setValueInput_eq_ok_iff.1 h with
    | edit hmode hedit =>
      cases hedit with
      | setValueInput hold hop => exact ⟨hmode, _, hold, hop ▸ Option.some_ne_none _⟩
  · rintro ⟨hmode, old, hold, hop⟩
    obtain ⟨op, hop⟩ := Option.ne_none_iff_exists'.1 hop
    exact ⟨(), _, run_setValueInput_eq_ok_iff.2 (.edit hmode (.setValueInput hold hop))⟩

/-- A condition whose value has been set to what a text means has that value. -/
lemma recasts_of_run_setValueInput {input : String}
    (h : (setValueInput path input).run e = .ok () after) :
    ∃ old op, e.tree.conditionAt? path = some old ∧ old.operator = some op ∧
      e.Recasts path { old with value := Value.ofInput op input } after := by
  cases run_setValueInput_eq_ok_iff.1 h with
  | edit hmode hedit =>
    cases hedit with
    | setValueInput hold hop => exact ⟨_, _, hold, hop, Editor.recasts_setNode hold _⟩

end Request

namespace Editor

/-- **A change in place is local.**  In a tree a condition is replaced just if there is one at the
path, and a conjunction is set just if there is a group; then the new condition is there, or the
group with the new conjunction, and the trees agree off the path.

In the editor the field, the operator or the value of a condition is set in advanced mode alone, and
just if there is a condition at the path, with a field that is listed, or a field that offers the
operator, or an operator under which the text means a value.  Then the new condition is there, the
trees agree off the path, and all else in the editor is as it was.  A condition that is given an
operator keeps its field; its value has the shape that the operator takes afterwards, and it is the
old one if that had this shape. -/
theorem edits_in_place (tree : Group) (e : Editor) (path : Path) :
    (∀ c, (IsAnswered (TreeEdit.replaceCondition path c) tree ↔ tree.conditionAt? path ≠ none) ∧
      ∀ after, (TreeEdit.replaceCondition path c).run tree = .ok () after →
        after.conditionAt? path = some c ∧ tree.AgreesOff path after) ∧
      (∀ conjunction,
        (IsAnswered (TreeEdit.setConjunction path conjunction) tree ↔
          tree.groupAt? path ≠ none) ∧
        ∀ after, (TreeEdit.setConjunction path conjunction).run tree = .ok () after →
          (∃ group, tree.groupAt? path = some group ∧
            after.groupAt? path = some (group.withConjunction conjunction)) ∧
          tree.AgreesOff path after) ∧
      (∀ name,
        (IsAnswered (Request.setField path name) e ↔ e.state.mode = .advanced ∧
          e.context.catalog.get? name ≠ none ∧ e.tree.conditionAt? path ≠ none) ∧
        ∀ after, (Request.setField path name).run e = .ok () after →
          ∃ field, e.context.catalog.get? name = some field ∧
            e.Recasts path (.complete field (e.context.settings.defaultsFor field).1
              (e.context.settings.defaultsFor field).2) after) ∧
      (∀ op,
        (IsAnswered (Request.setOperator path op) e ↔ e.state.mode = .advanced ∧
          ∃ field, e.fieldAt? path = some field ∧ e.context.settings.offers field op = true) ∧
        ∀ after, (Request.setOperator path op).run e = .ok () after →
          ∃ old new, e.tree.conditionAt? path = some old ∧ e.Recasts path new after ∧
            new.field = old.field ∧ new.operator = some op ∧ new.value.shape = op.shape ∧
              (old.value.shape = op.shape → new.value = old.value)) ∧
      (∀ value,
        (IsAnswered (Request.setValue path value) e ↔
          e.state.mode = .advanced ∧ e.tree.conditionAt? path ≠ none) ∧
        ∀ after, (Request.setValue path value).run e = .ok () after →
          ∃ old, e.tree.conditionAt? path = some old ∧
            e.Recasts path { old with value := value } after) ∧
      ∀ input,
        (IsAnswered (Request.setValueInput path input) e ↔ e.state.mode = .advanced ∧
          ∃ old, e.tree.conditionAt? path = some old ∧ old.operator ≠ none) ∧
        ∀ after, (Request.setValueInput path input).run e = .ok () after →
          ∃ old op, e.tree.conditionAt? path = some old ∧ old.operator = some op ∧
            e.Recasts path { old with value := Value.ofInput op input } after := by
  refine ⟨fun c => ⟨TreeEdit.isAnswered_replaceCondition_iff, fun after h => ?_⟩,
    fun conjunction => ⟨TreeEdit.isAnswered_setConjunction_iff, fun after h => ?_⟩,
    fun name => ⟨Request.isAnswered_setField_iff, fun after => Request.recasts_of_run_setField⟩,
    fun op => ⟨Request.isAnswered_setOperator_iff, fun after h => ?_⟩,
    fun value => ⟨Request.isAnswered_setValue_iff, fun after => Request.recasts_of_run_setValue⟩,
    fun input => ⟨Request.isAnswered_setValueInput_iff,
      fun after => Request.recasts_of_run_setValueInput⟩⟩
  · obtain ⟨old, hold, rfl⟩ := TreeEdit.run_replaceCondition_eq_ok_iff.1 h
    exact ⟨Group.conditionAt?_setNode hold c, Group.agreesOff_setNode hold c⟩
  · obtain ⟨target, htarget, rfl⟩ := TreeEdit.run_setConjunction_eq_ok_iff.1 h
    exact ⟨⟨target, htarget, Group.groupAt?_modifyGroup htarget⟩,
      Group.agreesOff_modifyGroup_withConjunction htarget conjunction⟩
  · obtain ⟨old, field, hold, -, -, hrecasts⟩ := Request.recasts_of_run_setOperator h
    exact ⟨old, withOperator op old, hold, hrecasts, rfl, rfl, shape_withOperator op old,
      value_withOperator⟩

end Editor

end RecordFilter
