import RecordFilter.Proofs.Wire.Normal

/-!
# What is lost on the wire

A value that is sent and read back is lost in two cases only: a pattern loses the wildcards around
it (`LosesWildcards`), and a text of a boolean field that reads as yes or no, but is no label, comes
back as a label (`BecomesLabel`).  These are just the values that are not in normal form
(`isNormalValue_iff`).  Under an operator other than a pattern operator a value that has been read
is never lost again (`value_loss_exact`).

Nothing is asked of the labels: they may be alike, or be words that read as yes or no.
-/

namespace RecordFilter

/-- A text has a wildcard at both ends if it has two bytes at least, the first and the last of which
are wildcards. -/
lemma Wildcard.isAround_iff_utf8ByteSize {text : String} :
    isAround text = true ↔ 2 ≤ text.utf8ByteSize ∧ text.toList.head? = some '%' ∧
      text.toList.getLast? = some '%' := by
  rw [isAround_iff]
  constructor
  · rintro ⟨inner, hinner⟩
    have htext : text = "%" ++ String.ofList inner ++ "%" := by
      apply String.toList_injective
      simp [hinner]
    have hbytes : "%".utf8ByteSize = 1 := by decide
    refine ⟨?_, by simp [hinner], by rw [hinner, List.getLast?_concat]⟩
    rw [htext, String.utf8ByteSize_append, String.utf8ByteSize_append, hbytes]
    omega
  · rintro ⟨hbytes, hhead, hlast⟩
    obtain ⟨rest, hrest⟩ := List.head?_eq_some_iff.1 hhead
    rcases List.eq_nil_or_concat' rest with rfl | ⟨inner, last, rfl⟩
    · have htext : text = "%" := String.toList_injective hrest
      rw [htext] at hbytes
      exact absurd hbytes (by decide)
    · rw [hrest, ← List.cons_append, List.getLast?_concat, Option.some.injEq] at hlast
      exact ⟨inner, by rw [hrest, hlast, List.cons_append]⟩

/-- A pattern that comes back without the wildcards around it: it has two bytes at least and a
wildcard at both ends. -/
def LosesWildcards (op : Operator) (value : Value) : Prop :=
  op.isLike = true ∧ ∃ text, value = .text text ∧ 2 ≤ text.utf8ByteSize ∧
    text.toList.head? = some '%' ∧ text.toList.getLast? = some '%'

/-- A text loses its wildcards if it is a pattern with a wildcard at both ends. -/
lemma losesWildcards_text_iff {op : Operator} {text : String} :
    LosesWildcards op (.text text) ↔ op.isLike = true ∧ Wildcard.isAround text = true := by
  rw [LosesWildcards, Wildcard.isAround_iff_utf8ByteSize]
  simp only [Value.text.injEq, exists_eq_left']

namespace Settings

variable (s : Settings)

/-- A text of a boolean field that comes back as a label: it is no label, and it reads as yes or no
whatever the case of its ASCII letters. -/
def BecomesLabel (field : Field) (op : Operator) (value : Value) : Prop :=
  op.shape = .scalar ∧ op.isLike = false ∧ field.kind = .boolean ∧
    ∃ text, value = .text text ∧ text ≠ s.yesLabel ∧ text ≠ s.noLabel ∧
      Text.lowerAscii text ∈ ["1", "true", "0", "false"]

/-- A text becomes a label if it belongs to a boolean field, is no label and reads as a boolean. -/
lemma becomesLabel_text_iff {field : Field} {op : Operator} {text : String}
    (hshape : op.shape = .scalar) (hlike : op.isLike = false) :
    s.BecomesLabel field op (.text text) ↔ field.kind = .boolean ∧
      ¬(text = s.yesLabel ∨ text = s.noLabel) ∧ Text.ReadsAsBoolean text := by
  simp only [BecomesLabel, Value.text.injEq, exists_eq_left', Text.ReadsAsBoolean, hshape, hlike,
    not_or, and_assoc, true_and]

/-- A text is in normal form if it does not lose its wildcards and does not become a label. -/
lemma isNormalText_iff {field : Field} {op : Operator} {text : String}
    (hshape : op.shape = .scalar) :
    s.IsNormalText field.kind op text ↔
      ¬LosesWildcards op (.text text) ∧ ¬s.BecomesLabel field op (.text text) := by
  rw [IsNormalText, losesWildcards_text_iff]
  cases hlike : op.isLike with
  | true =>
    have hlabel : ¬s.BecomesLabel field op (.text text) := fun h => by simp [h.2.1] at hlike
    rw [if_pos rfl, and_iff_left hlabel, and_iff_right rfl, Bool.not_eq_true]
  | false =>
    have hwildcards : ¬(false = true ∧ Wildcard.isAround text = true) := fun h => by simp at h
    rw [if_neg Bool.false_ne_true, and_iff_right hwildcards,
      s.becomesLabel_text_iff hshape hlike]
    constructor
    · rintro h ⟨hkind, hlabel, hreads⟩
      exact hlabel (h hkind hreads)
    · intro h hkind hreads
      by_contra hlabel
      exact h ⟨hkind, hlabel, hreads⟩

/-- A value that fits its operator is in normal form if it does not lose its wildcards and does not
become a label. -/
lemma isNormalValue_iff {field : Field} {op : Operator} {value : Value}
    (hshape : value.shape = op.shape) :
    s.IsNormalValue field op value ↔
      ¬LosesWildcards op value ∧ ¬s.BecomesLabel field op value := by
  cases value with
  | text text => exact s.isNormalText_iff hshape.symm
  | _ => simp [IsNormalValue, LosesWildcards, BecomesLabel]

/-- **What is lost on the wire.**  Every value that fits its operator is read back, and it comes
back as it was unless it is a pattern that loses its wildcards or a text that becomes a label.  What
has been read under an operator other than a pattern operator, from whatever JSON value, is always
read back as it was. -/
theorem value_loss_exact (field : Field) (op : Operator) :
    (∀ value : Value, value.shape = op.shape →
      ∃ back, s.decodeValue field op (s.encodeValue field op value) = .ok back ∧
        (back = value ↔ ¬LosesWildcards op value ∧ ¬s.BecomesLabel field op value)) ∧
      (op.isLike = false → ∀ raw value, s.decodeValue field op raw = .ok value →
        s.decodeValue field op (s.encodeValue field op value) = .ok value) := by
  refine ⟨fun value hshape => ?_, fun hlike raw value hread => ?_⟩
  · have hback := s.decodeValue_encodeValue field op value hshape
    refine ⟨_, hback, ?_⟩
    rw [s.normalValue_eq_self_iff, s.isNormalValue_iff hshape]
  · have hshape : value.shape = op.shape := shape_of_decodeValue hread
    have hnormal : s.IsNormalValue field op value :=
      s.isNormalValue_of_decodeValue hread fun hpattern => by simp [hlike] at hpattern
    rw [s.decodeValue_encodeValue field op value hshape, s.normalValue_eq_self_iff.2 hnormal]

/-- What has been read under a pattern operator may be lost again. -/
example : standard.decodeValue (.named "title" .text) .like (.string "%%late%%") =
      .ok (.text "%late%") ∧
    standard.decodeValue (.named "title" .text) .like
        (standard.encodeValue (.named "title" .text) .like (.text "%late%")) =
      .ok (.text "late") := by
  decide

/-- Settings with labels that read as the contrary of what they say. -/
def crossedSettings : Settings :=
  { standard with yesLabel := "false", noLabel := "1" }

/-- A boolean field. -/
def enabledField : Field :=
  ⟨"enabled", "Enabled", .boolean, []⟩

/-- `value_loss_exact` at labels that read as booleans: a label comes back as it was, a text that
reads as its label is lost, and what has been read is not. -/
theorem value_loss_exact_crossedSettings :
    (Value.text "false").shape = Operator.equals.shape ∧
      crossedSettings.decodeValue enabledField .equals
        (crossedSettings.encodeValue enabledField .equals (.text "false")) =
          .ok (.text "false") ∧
      crossedSettings.BecomesLabel enabledField .equals (.text "False") ∧
      crossedSettings.decodeValue enabledField .equals
        (crossedSettings.encodeValue enabledField .equals (.text "False")) ≠
          .ok (.text "False") ∧
      Operator.equals.isLike = false ∧
      crossedSettings.decodeValue enabledField .equals (.bool false) = .ok (.text "1") ∧
      crossedSettings.decodeValue enabledField .equals
        (crossedSettings.encodeValue enabledField .equals (.text "1")) = .ok (.text "1") := by
  have hlabel : crossedSettings.BecomesLabel enabledField .equals (.text "False") :=
    ⟨rfl, rfl, rfl, "False", rfl, by decide, by decide, by decide⟩
  have hkept : ¬crossedSettings.BecomesLabel enabledField .equals (.text "false") := by
    rintro ⟨-, -, -, text, htext, hyes, -⟩
    obtain rfl := Value.text.inj htext
    exact hyes rfl
  have hread : crossedSettings.decodeValue enabledField .equals (.bool false) =
      .ok (.text "1") := by decide
  obtain ⟨hloss, hfixed⟩ := value_loss_exact crossedSettings enabledField .equals
  obtain ⟨back, hback, hsame⟩ := hloss (.text "false") rfl
  obtain ⟨lost, hlost, hother⟩ := hloss (.text "False") rfl
  have hnot : lost ≠ .text "False" := fun h => (hother.1 h).2 hlabel
  rw [hsame.2 ⟨fun h => by simp [LosesWildcards, Operator.isLike] at h, hkept⟩] at hback
  refine ⟨rfl, hback, hlabel, ?_, rfl, hread, hfixed rfl _ _ hread⟩
  rw [hlost]
  exact fun h => hnot (Except.ok.inj h)

end Settings

end RecordFilter
