import RecordFilter.Proofs.Wire.Basic
import RecordFilter.Wire.Normal

/-!
# Values that come back from the wire

A value that is sent and read again under the same operator is its normal form
(`decodeValue_encodeValue`).  Every shape has its own way there and back: a word of a vocabulary
is read as itself, a list and a range are read item by item, and a text goes through the wildcards
of a pattern or the labels of a boolean field.
-/

namespace RecordFilter

/-! ### Words -/

/-- A conjunction is read from its token. -/
lemma Conjunction.ofWord?_token (conjunction : Conjunction) :
    ofWord? (Vocabulary.token conjunction) = some conjunction := by
  cases conjunction <;> decide

/-- An operator is read from its token. -/
lemma Operator.ofWireToken?_wireToken (op : Operator) : ofWireToken? op.wireToken = some op := by
  cases op <;> decide

/-- The token of an operator is no conjunction. -/
lemma Operator.ofWord?_wireToken (op : Operator) : Conjunction.ofWord? op.wireToken = none := by
  cases op <;> decide

/-- A span of time is read from its token. -/
lemma Timespan.ofTokenLoosely?_token (span : Timespan) :
    Vocabulary.ofTokenLoosely? (Vocabulary.token span) = some span := by
  cases span <;> decide

/-- A presence is read from its token. -/
lemma Presence.ofTokenLoosely?_token (presence : Presence) :
    Vocabulary.ofTokenLoosely? (Vocabulary.token presence) = some presence := by
  cases presence <;> decide

/-! ### Patterns -/

namespace Wildcard

/-- A text has a wildcard at both ends if it is another text between two wildcards. -/
lemma isAround_iff {s : String} :
    isAround s = true ↔ ∃ inner, s.toList = '%' :: inner ++ ['%'] := by
  unfold isAround
  constructor
  · intro h
    simp only [Bool.and_eq_true, decide_eq_true_eq, beq_iff_eq] at h
    obtain ⟨⟨hlength, hhead⟩, hlast⟩ := h
    obtain ⟨rest, hrest⟩ := List.head?_eq_some_iff.1 hhead
    obtain ⟨front, hfront⟩ := List.getLast?_eq_some_iff.1 hlast
    cases front with
    | nil => simp [hfront] at hlength
    | cons c inner =>
      obtain ⟨rfl, -⟩ : '%' = c ∧ _ := by simpa using hrest.symm.trans hfront
      exact ⟨inner, hfront⟩
  · rintro ⟨inner, hinner⟩
    have hlast : ('%' :: (inner ++ ['%'])).getLast? = some '%' := by
      rw [← List.cons_append, List.getLast?_append]
      rfl
    simp [hinner, hlast]

/-- A text between two wildcards is stripped of them. -/
lemma strip_of_toList {s : String} {inner : List Char} (h : s.toList = '%' :: inner ++ ['%']) :
    strip s = String.ofList inner := by
  simp [strip, h]

/-- A text without a wildcard at both ends is left alone. -/
lemma strip_of_not_isAround {s : String} (h : isAround s = false) : strip s = s := by
  unfold strip
  split
  · next rest hrest =>
    split_ifs with hlast
    · obtain ⟨front, rfl⟩ := List.getLast?_eq_some_iff.1 hlast
      have haround : isAround s = true := isAround_iff.2 ⟨front, hrest⟩
      exact absurd (haround.symm.trans h) (by decide)
    · rfl
  · rfl

/-- A text with a wildcard is a pattern of its own. -/
lemma wrap_of_mem {s : String} (h : '%' ∈ s.toList) : wrap s = s := by
  rw [wrap, if_pos (List.contains_iff_mem.2 h)]

/-- A text without a wildcard is put between two of them. -/
lemma toList_wrap_of_not_mem {s : String} (h : '%' ∉ s.toList) :
    (wrap s).toList = '%' :: s.toList ++ ['%'] := by
  rw [wrap, if_neg (by simpa using h)]
  simp

/-- A pattern between two wildcards is put between them again if there is no other. -/
lemma wrap_ofList_eq_iff {text : String} {inner : List Char}
    (h : text.toList = '%' :: inner ++ ['%']) :
    wrap (String.ofList inner) = text ↔ '%' ∉ inner := by
  constructor
  · intro hwrap hmem
    rw [wrap_of_mem (by simpa using hmem)] at hwrap
    have hlength := congrArg List.length h
    rw [← hwrap, String.toList_ofList] at hlength
    simp only [List.length_append, List.length_cons, List.length_nil] at hlength
    omega
  · intro hmem
    refine String.toList_injective ?_
    rw [toList_wrap_of_not_mem (by simpa using hmem), h, String.toList_ofList]

/-- A text that has a wildcard at both ends has a wildcard. -/
lemma mem_of_isAround {s : String} (h : isAround s = true) : '%' ∈ s.toList := by
  obtain ⟨inner, hinner⟩ := isAround_iff.1 h
  simp [hinner]

/-- What comes back of a pattern is the text, but for one pair of wildcards around it. -/
lemma strip_wrap (s : String) :
    strip (wrap s) =
      if isAround s then String.ofList s.toList.tail.dropLast else s := by
  split_ifs with haround
  · obtain ⟨inner, hinner⟩ := isAround_iff.1 haround
    rw [wrap_of_mem (mem_of_isAround haround), strip_of_toList hinner, hinner]
    simp
  · by_cases hmem : '%' ∈ s.toList
    · rw [wrap_of_mem hmem, strip_of_not_isAround (Bool.eq_false_iff.2 haround)]
    · rw [strip_of_toList (toList_wrap_of_not_mem hmem), String.ofList_toList]

end Wildcard

/-! ### Texts -/

/-- The texts of some strings are these strings. -/
lemma Json.scalarTexts?_map_string (texts : List String) :
    scalarTexts? (texts.map .string) = some texts := by
  induction texts with
  | nil => rfl
  | cons text rest ih => simp [scalarTexts?, scalarText?, ih]

namespace Settings

variable (s : Settings)

/-- What a text from the server is read as under a boolean field is the label of what it says. -/
lemma booleanLabel_eq_normalLabel (text : String) : s.booleanLabel text = s.normalLabel text := by
  rw [booleanLabel, normalLabel, Text.boolean?]
  generalize Text.lowerAscii text = lower
  by_cases hyes : lower = "1" ∨ lower = "true"
  · rcases hyes with rfl | rfl <;> rfl
  · by_cases hno : lower = "0" ∨ lower = "false"
    · rcases hno with rfl | rfl <;> rfl
    · rw [not_or] at hyes hno
      simp [hyes.1, hyes.2, hno.1, hno.2, List.lookup_cons, beq_eq_false_iff_ne.2]

/-- A text that is sent is read as a text, and that is its normal form. -/
lemma decodeText_encodeText (kind : FieldKind) (op : Operator) (text : String) :
    ∃ sent, (s.encodeText kind op text).scalarText? = some sent ∧
      s.decodeText kind op sent = s.normalText kind op text := by
  unfold encodeText decodeText normalText
  by_cases hlike : op.isLike = true
  · refine ⟨Wildcard.wrap text, ?_, ?_⟩
    · rw [if_pos hlike]
      rfl
    · rw [if_pos hlike, if_pos hlike, Wildcard.strip_wrap]
  · simp only [hlike, Bool.false_eq_true, if_false]
    by_cases hkind : kind = .boolean
    · by_cases hyes : text = s.yesLabel
      · refine ⟨"1", ?_, ?_⟩
        · rw [if_pos ⟨hkind, hyes⟩]
          decide
        · have hone : Text.lowerAscii "1" = "1" := by decide
          simp [hkind, hyes, booleanLabel, hone]
      · by_cases hno : text = s.noLabel
        · refine ⟨"0", ?_, ?_⟩
          · rw [if_neg (fun h => hyes h.2), if_pos ⟨hkind, hno⟩]
            decide
          · have hzero : Text.lowerAscii "0" = "0" := by decide
            simp [hkind, hno, booleanLabel, hzero]
        · refine ⟨text, ?_, ?_⟩
          · rw [if_neg (fun h => hyes h.2), if_neg (fun h => hno h.2)]
            rfl
          · rw [if_pos hkind, if_pos ⟨hkind, hyes, hno⟩, booleanLabel_eq_normalLabel]
    · refine ⟨text, ?_, ?_⟩
      · simp [hkind, Json.scalarText?]
      · simp [hkind]

/-- **Values come back in normal form.**  A value of the shape that its operator takes is sent as a
JSON value that is read as its normal form. -/
theorem decodeValue_encodeValue (field : Field) (op : Operator) (value : Value)
    (hshape : value.shape = op.shape) :
    s.decodeValue field op (s.encodeValue field op value) = .ok (s.normalValue field op value) := by
  unfold decodeValue
  rw [← hshape]
  cases value with
  | text text =>
    obtain ⟨sent, hsent, hread⟩ := s.decodeText_encodeText field.kind op text
    simp only [Value.shape, encodeValue, hsent, hread, normalValue]
  | range first last => rfl
  | list items =>
    simp only [Value.shape, encodeValue, Json.ofStrings, Value.listOfJson,
      Json.scalarTexts?_map_string, normalValue]
  | timespan span =>
    simp only [Value.shape, encodeValue, Value.timespanOfJson, Json.string?, Option.bind_some,
      Timespan.ofTokenLoosely?_token, normalValue]
  | presence presence =>
    simp only [Value.shape, encodeValue, Value.presenceOfJson, Json.string?, Option.bind_some,
      Presence.ofTokenLoosely?_token, normalValue]

end Settings

end RecordFilter
