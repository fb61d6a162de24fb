import RecordFilter.Proofs.Wire.Reserved
import RecordFilter.Proofs.Wire.Steady

/-!
# Filters that are in normal form

A text is its own normal form just when the round trip has nothing to change in it: a pattern does
not have a wildcard at both ends, and a text of a boolean field that reads as yes or no is a label
(`normalText_eq_self_iff`).  What is read from the wire under an operator other than a pattern
operator is always in normal form (`isNormalValue_of_decodeValue`).

The main statement is `simple_round_trip`: simple filters come back in normal form, so that those
that are in normal form come back as they are.
-/

namespace RecordFilter

namespace Settings

variable (s : Settings)

/-! ### Texts -/

/-- A text in which the round trip changes nothing: a pattern without a wildcard at both ends, or a
text that is a label if it reads as a boolean and belongs to a boolean field. -/
def IsNormalText (kind : FieldKind) (op : Operator) (text : String) : Prop :=
  if op.isLike then Wildcard.isAround text = false
  else kind = .boolean → Text.ReadsAsBoolean text → text = s.yesLabel ∨ text = s.noLabel

/-- A pattern is its own normal form just when it does not have a wildcard at both ends: with two
of them it gets shorter. -/
lemma normalText_eq_self_iff_of_isLike {kind : FieldKind} {op : Operator} {text : String}
    (hlike : op.isLike = true) :
    s.normalText kind op text = text ↔ s.IsNormalText kind op text := by
  rw [normalText, IsNormalText, if_pos hlike, if_pos hlike]
  cases haround : Wildcard.isAround text with
  | false => simp
  | true =>
    obtain ⟨inner, hinner⟩ := Wildcard.isAround_iff.1 haround
    have htail : text.toList.tail.dropLast = inner := by rw [hinner]; simp
    refine iff_of_false (fun heq => ?_) (by decide)
    rw [if_pos rfl, htail] at heq
    have hlength := congrArg List.length hinner
    rw [← heq, String.toList_ofList] at hlength
    simp only [List.length_append, List.length_cons, List.length_nil] at hlength
    omega

/-- A text under another operator is its own normal form just when it is a label or does not read as
a boolean, where the field is boolean. -/
lemma normalText_eq_self_iff_of_not_isLike {kind : FieldKind} {op : Operator} {text : String}
    (hlike : op.isLike = false) :
    s.normalText kind op text = text ↔ s.IsNormalText kind op text := by
  simp only [normalText, IsNormalText, hlike, Bool.false_eq_true, if_false]
  by_cases hplain : kind = .boolean ∧ text ≠ s.yesLabel ∧ text ≠ s.noLabel
  · rw [if_pos hplain]
    obtain ⟨hkind, hyes, hno⟩ := hplain
    by_cases hreads : Text.ReadsAsBoolean text
    · have hlabel := s.normalLabel_of_readsAsBoolean hreads
      refine iff_of_false (fun heq => ?_) fun h => ?_
      · rw [heq] at hlabel
        exact hlabel.elim hyes hno
      · exact (h hkind hreads).elim hyes hno
    · exact iff_of_true (s.normalLabel_of_not_readsAsBoolean hreads) fun _ h => absurd h hreads
  · rw [if_neg hplain]
    refine iff_of_true rfl fun hkind _ => ?_
    by_contra hlabel
    rw [not_or] at hlabel
    exact hplain ⟨hkind, hlabel⟩

/-- A text is its own normal form just when the round trip has nothing to change in it. -/
theorem normalText_eq_self_iff {kind : FieldKind} {op : Operator} {text : String} :
    s.normalText kind op text = text ↔ s.IsNormalText kind op text := by
  cases hlike : op.isLike with
  | true => exact s.normalText_eq_self_iff_of_isLike hlike
  | false => exact s.normalText_eq_self_iff_of_not_isLike hlike

/-- What a text from the server means under an operator other than a pattern operator is in normal
form: for a boolean field it is a label, or it does not read as a boolean. -/
lemma isNormalText_decodeText (kind : FieldKind) {op : Operator} (hlike : op.isLike = false)
    (text : String) : s.IsNormalText kind op (s.decodeText kind op text) := by
  simp only [IsNormalText, decodeText, hlike, Bool.false_eq_true, if_false]
  intro hkind hread
  rw [if_pos hkind, booleanLabel_eq_normalLabel] at hread ⊢
  by_cases htext : Text.ReadsAsBoolean text
  · exact s.normalLabel_of_readsAsBoolean htext
  · rw [s.normalLabel_of_not_readsAsBoolean htext] at hread
    exact absurd hread htext

/-! ### Values and conditions -/

/-- A value in which the round trip changes nothing. -/
def IsNormalValue (field : Field) (op : Operator) : Value → Prop
  | .text text => s.IsNormalText field.kind op text
  | _ => True

/-- A condition in which the round trip changes nothing. -/
def IsNormal (c : Condition) : Prop :=
  ∀ field op, c.field = some field → c.operator = some op → s.IsNormalValue field op c.value

/-- A value is its own normal form just when the round trip has nothing to change in it. -/
lemma normalValue_eq_self_iff {field : Field} {op : Operator} {value : Value} :
    s.normalValue field op value = value ↔ s.IsNormalValue field op value := by
  cases value with
  | text text => rw [normalValue, IsNormalValue, Value.text.injEq, s.normalText_eq_self_iff]
  | _ => exact iff_of_true rfl trivial

/-- A condition is its own normal form just when the round trip has nothing to change in it. -/
lemma normalCondition_eq_self_iff {c : Condition} :
    s.normalCondition c = c ↔ s.IsNormal c := by
  obtain ⟨field, operator, value⟩ := c
  cases field with
  | none => simp [normalCondition, IsNormal]
  | some field =>
    cases operator with
    | none => simp [normalCondition, IsNormal]
    | some op =>
      simp [normalCondition, IsNormal, Condition.complete, s.normalValue_eq_self_iff]

/-- A value that is read is in normal form, unless it is a pattern with a wildcard at both ends. -/
lemma isNormalValue_of_decodeValue {field : Field} {op : Operator} {raw : Json} {value : Value}
    (h : s.decodeValue field op raw = .ok value)
    (hpattern : op.isLike = true → ∀ text, value = .text text → Wildcard.isAround text = false) :
    s.IsNormalValue field op value := by
  cases value with
  | text text =>
    rw [IsNormalValue]
    cases hlike : op.isLike with
    | true =>
      rw [IsNormalText, if_pos hlike]
      exact hpattern hlike text rfl
    | false =>
      have hshape : op.shape = .scalar := (shape_of_decodeValue h).symm
      simp only [decodeValue, hshape] at h
      split at h
      · next sent _ =>
        obtain rfl := Value.text.inj (Except.ok.inj h)
        exact s.isNormalText_decodeText field.kind hlike sent
      · simp at h
  | _ => trivial

end Settings

/-! ### Simple filters -/

namespace Context

variable {ctx : Context}

/-- The normal form of a filter is the filter just when its condition is in normal form. -/
lemma normalFilter_eq_self_iff {entry : String × SimpleFilter} :
    ctx.normalFilter entry.1 entry.2 = entry.2 ↔
      ctx.settings.IsNormal (SimpleFilters.condition ctx.catalog entry) := by
  obtain ⟨name, ⟨op, value⟩⟩ := entry
  simp [normalFilter, Settings.IsNormal, SimpleFilters.condition, Condition.complete,
    ctx.settings.normalValue_eq_self_iff]

/-- Simple filters are their own normal form just when the condition of each is. -/
lemma normalFilters_eq_self_iff {f : SimpleFilters} :
    ctx.normalFilters f = f ↔
      ∀ entry ∈ f.entries, ctx.settings.IsNormal (SimpleFilters.condition ctx.catalog entry) := by
  obtain ⟨entries⟩ := f
  have hself : entries.map (fun entry => (entry.1, ctx.normalFilter entry.1 entry.2)) = entries ↔
      ∀ entry ∈ entries, (entry.1, ctx.normalFilter entry.1 entry.2) = entry := by
    conv_lhs => rhs; rw [← List.map_id entries]
    exact List.map_inj_left
  rw [normalFilters, SimpleFilters.mk.injEq, hself]
  refine forall₂_congr fun entry _ => ?_
  rw [← normalFilter_eq_self_iff, Prod.ext_iff]
  exact and_iff_right rfl

/-- **The round trip of the simple view.**  Complete filters of distinct fields, none of which is a
reserved key, are sent under the names of their fields in the same order, and they are read back in
normal form, without any reserved key.  They are read back as they were just when each of them is in
normal form. -/
theorem simple_round_trip {f : SimpleFilters} (hnames : f.names.Nodup)
    (hreserved : ∀ name ∈ f.names, ctx.isReserved name = false)
    (hcomplete : ∀ entry ∈ f.entries,
      (SimpleFilters.condition ctx.catalog entry).defect? = none) :
    ∃ payload, ctx.compile .simple (f.toTree ctx.catalog) = .ok payload ∧
      payload.keys = f.names ∧
      ctx.hydrate payload =
        .ok ⟨.simple, (ctx.normalFilters f).toTree ctx.catalog, ctx.normalFilters f, .empty⟩ ∧
      (ctx.hydrate payload = .ok ⟨.simple, f.toTree ctx.catalog, f, .empty⟩ ↔
        ∀ entry ∈ f.entries,
          ctx.settings.IsNormal (SimpleFilters.condition ctx.catalog entry)) := by
  have hproblem : ∀ entry ∈ f.entries,
      (SimpleFilters.condition ctx.catalog entry).problem? = none :=
    fun entry hentry => Condition.defect?_eq_none_iff.1 (hcomplete entry hentry)
  have hcompile : ctx.compile .simple (f.toTree ctx.catalog) = .ok (ctx.encodeFilters f) := by
    rw [compile, SimpleFilters.ofTree_toTree_eq_ok_iff.2 ⟨hproblem, hnames, rfl⟩]
    rfl
  have hkeys : (ctx.encodeFilters f).keys = f.names := by
    rw [Payload.keys, entries_encodeFilters hnames, Ordered.keys, List.map_map]
    rfl
  have hshape : ∀ entry ∈ f.entries, entry.2.value.shape = entry.2.operator.shape := by
    intro entry hentry
    obtain ⟨_, op, -, hop, -, hshape, -⟩ :=
      Condition.problem?_eq_none_iff.1 (hproblem entry hentry)
    obtain rfl := Option.some.inj hop
    exact hshape
  have hback : ctx.hydrate (ctx.encodeFilters f) =
      .ok ⟨.simple, (ctx.normalFilters f).toTree ctx.catalog, ctx.normalFilters f, .empty⟩ :=
    hydrate_encodeFilters hnames hshape (List.forall_mem_map.1 hreserved)
  refine ⟨_, hcompile, hkeys, hback, ?_⟩
  rw [hback, ← normalFilters_eq_self_iff]
  constructor
  · intro h
    exact congrArg Hydrated.simple (Except.ok.inj h)
  · intro h
    rw [h]

/-- Filters of which the round trip changes the pattern and the text of the boolean field, but not
the list. -/
def enabledFilters : SimpleFilters :=
  ⟨[("subject", ⟨.notLike, .text "%a%b%"⟩), ("enabled", ⟨.equals, .text "TRUE"⟩),
    ("status", ⟨.isIn, .list ["1", ""]⟩)]⟩

/-- `simple_round_trip` at filters that are not in normal form. -/
theorem simple_round_trip_enabledFilters :
    enabledFilters.names.Nodup ∧
      (∀ name ∈ enabledFilters.names, enabledContext.isReserved name = false) ∧
      (∀ entry ∈ enabledFilters.entries,
        (SimpleFilters.condition enabledContext.catalog entry).defect? = none) ∧
      enabledContext.normalFilters enabledFilters =
        ⟨[("subject", ⟨.notLike, .text "a%b"⟩), ("enabled", ⟨.equals, .text "Yes"⟩),
          ("status", ⟨.isIn, .list ["1", ""]⟩)]⟩ ∧
      ∃ payload,
        enabledContext.compile .simple (enabledFilters.toTree enabledContext.catalog) =
          .ok payload ∧
        payload.keys = enabledFilters.names ∧
        enabledContext.hydrate payload =
          .ok ⟨.simple,
            (enabledContext.normalFilters enabledFilters).toTree enabledContext.catalog,
            enabledContext.normalFilters enabledFilters, .empty⟩ ∧
        (enabledContext.hydrate payload =
            .ok ⟨.simple, enabledFilters.toTree enabledContext.catalog, enabledFilters, .empty⟩ ↔
          ∀ entry ∈ enabledFilters.entries, enabledContext.settings.IsNormal
            (SimpleFilters.condition enabledContext.catalog entry)) := by
  have hnames : enabledFilters.names.Nodup := by decide
  have hreserved : ∀ name ∈ enabledFilters.names, enabledContext.isReserved name = false := by
    decide
  have hcomplete : ∀ entry ∈ enabledFilters.entries,
      (SimpleFilters.condition enabledContext.catalog entry).defect? = none := by decide
  exact ⟨hnames, hreserved, hcomplete, by decide,
    simple_round_trip hnames hreserved hcomplete⟩

end Context

end RecordFilter
