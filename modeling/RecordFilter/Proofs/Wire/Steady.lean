import RecordFilter.Proofs.Condition
import RecordFilter.Proofs.Wire.Value
import RecordFilter.Wire.ConditionList

/-!
# Conditions that are sent again as they were

A condition that has come back from the wire is its normal form, which may be sent in another way
than the condition was.  It is sent in the same way just when the condition is steady
(`steady_iff`): a pattern between two wildcards has something else between them, and no further
wildcard, and the text of a boolean field reads as a boolean only if it is a label.

A pattern like `%a%b%` is not steady: it is sent as it is, it is read back without the wildcards
around it, and since there is one left in the middle, it is sent like that.
-/

namespace RecordFilter

/-! ### Texts -/

/-- A text reads as yes or no to a computer, whatever the case of its ASCII letters. -/
def Text.ReadsAsBoolean (text : String) : Prop :=
  Text.lowerAscii text ∈ ["1", "true", "0", "false"]

namespace Settings

variable (s : Settings)

/-- A text that is sent again as before after it has come back.  A pattern between two wildcards
must not be blank there, and have no further wildcard; a text of a boolean field reads as a boolean
only if it is a label. -/
def SteadyText (kind : FieldKind) (op : Operator) (text : String) : Prop :=
  if op.isLike then
    ∀ inner, text.toList = '%' :: inner ++ ['%'] →
      '%' ∉ inner ∧ Text.isBlankText (String.ofList inner) = false
  else
    kind = .boolean → Text.ReadsAsBoolean text → text = s.yesLabel ∨ text = s.noLabel

/-- A value that is sent again as before after it has come back. -/
def SteadyValue (field : Field) (op : Operator) : Value → Prop
  | .text text => s.SteadyText field.kind op text
  | _ => True

/-- A condition that is sent again as before after it has come back. -/
def Steady (c : Condition) : Prop :=
  ∀ field op, c.field = some field → c.operator = some op → s.SteadyValue field op c.value

/-- A text that reads as a boolean is replaced by a label. -/
lemma normalLabel_of_readsAsBoolean {text : String} (h : Text.ReadsAsBoolean text) :
    s.normalLabel text = s.yesLabel ∨ s.normalLabel text = s.noLabel := by
  simp only [Text.ReadsAsBoolean, List.mem_cons, List.not_mem_nil, or_false] at h
  rw [normalLabel, Text.boolean?]
  rcases h with h | h | h | h <;> simp [h, List.lookup_cons]

/-- Any other text is kept. -/
lemma normalLabel_of_not_readsAsBoolean {text : String} (h : ¬Text.ReadsAsBoolean text) :
    s.normalLabel text = text := by
  simp only [Text.ReadsAsBoolean, List.mem_cons, List.not_mem_nil, or_false, not_or] at h
  simp [normalLabel, Text.boolean?, List.lookup_cons, beq_eq_false_iff_ne.2, h]

/-- A label of a boolean field is not sent as a text. -/
lemma encodeText_label {kind : FieldKind} {op : Operator} {label text : String}
    (hlike : op.isLike = false) (hkind : kind = .boolean)
    (hlabel : label = s.yesLabel ∨ label = s.noLabel) :
    s.encodeText kind op label ≠ .string text := by
  unfold encodeText
  by_cases hyes : label = s.yesLabel
  · simp [hlike, hkind, hyes, Json.ofInt]
  · have hno : label = s.noLabel := hlabel.resolve_left hyes
    have hne : s.noLabel ≠ s.yesLabel := hno ▸ hyes
    simp [hlike, hkind, hno, hne, Json.ofInt]

/-- A pattern is steady just when its normal form is not blank and is sent as the pattern is. -/
lemma steadyText_iff_of_isLike {kind : FieldKind} {op : Operator} {text : String}
    (hlike : op.isLike = true) (hblank : Text.isBlankText text = false) :
    s.SteadyText kind op text ↔
      Text.isBlankText (s.normalText kind op text) = false ∧
        s.encodeText kind op (s.normalText kind op text) = s.encodeText kind op text := by
  simp only [SteadyText, normalText, encodeText, hlike, if_true, Json.string.injEq]
  by_cases haround : Wildcard.isAround text = true
  · obtain ⟨inner, hinner⟩ := Wildcard.isAround_iff.1 haround
    have htail : text.toList.tail.dropLast = inner := by rw [hinner]; simp
    have hwrap := Wildcard.wrap_ofList_eq_iff hinner
    rw [if_pos haround, htail, Wildcard.wrap_of_mem (Wildcard.mem_of_isAround haround), hwrap]
    constructor
    · exact fun h => (h inner hinner).symm
    · rintro ⟨hfilled, hmem⟩ other hother
      obtain rfl : inner = other := by simpa using hinner.symm.trans hother
      exact ⟨hmem, hfilled⟩
  · rw [if_neg haround]
    refine iff_of_true (fun inner hinner => ?_) ⟨hblank, rfl⟩
    exact absurd (Wildcard.isAround_iff.2 ⟨inner, hinner⟩) haround

/-- A text under another operator is steady just when its normal form is not blank and is sent as
the text is.  Only a text of a boolean field that is no label and reads as a boolean is not. -/
lemma steadyText_iff_of_not_isLike {kind : FieldKind} {op : Operator} {text : String}
    (hlike : op.isLike = false) (hblank : Text.isBlankText text = false) :
    s.SteadyText kind op text ↔
      Text.isBlankText (s.normalText kind op text) = false ∧
        s.encodeText kind op (s.normalText kind op text) = s.encodeText kind op text := by
  simp only [SteadyText, normalText, hlike, Bool.false_eq_true, if_false]
  by_cases hplain : kind = .boolean ∧ text ≠ s.yesLabel ∧ text ≠ s.noLabel
  · obtain ⟨hkind, hyes, hno⟩ := hplain
    have hsent : s.encodeText kind op text = .string text := by
      simp [encodeText, hlike, hyes, hno]
    rw [if_pos ⟨hkind, hyes, hno⟩, hsent]
    by_cases hreads : Text.ReadsAsBoolean text
    · refine iff_of_false (fun h => ?_) fun h => ?_
      · rcases h hkind hreads with h | h
        · exact hyes h
        · exact hno h
      · exact s.encodeText_label hlike hkind (s.normalLabel_of_readsAsBoolean hreads) h.2
    · rw [s.normalLabel_of_not_readsAsBoolean hreads]
      exact iff_of_true (fun _ h => absurd h hreads) ⟨hblank, hsent⟩
  · rw [if_neg hplain]
    refine iff_of_true (fun hkind _ => ?_) ⟨hblank, rfl⟩
    by_contra hlabel
    rw [not_or] at hlabel
    exact hplain ⟨hkind, hlabel⟩

/-- A text is steady just when its normal form is not blank and is sent as the text is. -/
lemma steadyText_iff {kind : FieldKind} {op : Operator} {text : String}
    (hblank : Text.isBlankText text = false) :
    s.SteadyText kind op text ↔
      Text.isBlankText (s.normalText kind op text) = false ∧
        s.encodeText kind op (s.normalText kind op text) = s.encodeText kind op text := by
  cases hlike : op.isLike with
  | true => exact s.steadyText_iff_of_isLike hlike hblank
  | false => exact s.steadyText_iff_of_not_isLike hlike hblank

/-! ### Values and conditions -/

/-- A text has no problem if it is not blank. -/
lemma problem?_text_eq_none_iff {text : String} :
    (Value.text text).problem? = none ↔ Text.isBlankText text = false := by
  rw [Value.problem?]
  split_ifs with hblank
  · simp [hblank]
  · simpa using hblank

/-- A value is steady just when its normal form has no problem and is sent as the value is. -/
lemma steadyValue_iff {field : Field} {op : Operator} {value : Value}
    (hproblem : value.problem? = none) :
    s.SteadyValue field op value ↔
      (s.normalValue field op value).problem? = none ∧
        s.encodeValue field op (s.normalValue field op value) = s.encodeValue field op value := by
  cases value with
  | text text =>
    rw [problem?_text_eq_none_iff] at hproblem
    simp only [SteadyValue, normalValue, encodeValue, problem?_text_eq_none_iff]
    exact s.steadyText_iff hproblem
  | _ => exact iff_of_true trivial ⟨hproblem, rfl⟩

/-- The normal form of a value has its shape. -/
lemma shape_normalValue (field : Field) (op : Operator) (value : Value) :
    (s.normalValue field op value).shape = value.shape := by
  cases value <;> rfl

/-- The normal form of a condition has no problem just when that of its value has none. -/
lemma problem?_normalCondition_eq_none_iff {c : Condition} (hproblem : c.problem? = none)
    {field : Field} {op : Operator} (hfield : c.field = some field) (hop : c.operator = some op) :
    (s.normalCondition c).problem? = none ↔ (s.normalValue field op c.value).problem? = none := by
  obtain ⟨_, _, hfield', hop', hname, hshape, -⟩ := Condition.problem?_eq_none_iff.1 hproblem
  obtain rfl := Option.some.inj (hfield.symm.trans hfield')
  obtain rfl := Option.some.inj (hop.symm.trans hop')
  simp [Condition.problem?_eq_none_iff, normalCondition, Condition.complete, hfield, hop, hname,
    shape_normalValue, hshape]

end Settings

namespace Context

variable {ctx : Context}

/-- A condition is steady just when its normal form has no problem and is sent as the condition
is. -/
lemma steady_iff {c : Condition} (hproblem : c.problem? = none) :
    ctx.settings.Steady c ↔
      (ctx.settings.normalCondition c).problem? = none ∧
        ctx.encodeCondition (ctx.settings.normalCondition c) = ctx.encodeCondition c := by
  obtain ⟨field, op, hfield, hop, -, -, hvalue⟩ := Condition.problem?_eq_none_iff.1 hproblem
  have hsteady : ctx.settings.Steady c ↔ ctx.settings.SteadyValue field op c.value := by
    simp [Settings.Steady, hfield, hop]
  have hencode : ctx.encodeCondition (ctx.settings.normalCondition c) = ctx.encodeCondition c ↔
      ctx.settings.encodeValue field op (ctx.settings.normalValue field op c.value) =
        ctx.settings.encodeValue field op c.value := by
    simp [encodeCondition, Settings.normalCondition, Condition.complete, hfield, hop]
  rw [hsteady, ctx.settings.steadyValue_iff hvalue, hencode,
    ctx.settings.problem?_normalCondition_eq_none_iff hproblem hfield hop]

end Context

end RecordFilter
