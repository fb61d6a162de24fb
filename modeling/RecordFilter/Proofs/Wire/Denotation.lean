import Mathlib.Data.List.Forall2
import RecordFilter.Proofs.ConditionList.Meaning
import RecordFilter.Proofs.Wire.Basic

/-!
# What a JSON value says as a condition list

`Context.Denotes` and `Context.DenotesList` relate a JSON value to the condition list that is
written in it, item by item and without reading a tree: a string is a conjunction, an array that
can be a condition is one, and any other array is a nested list.  A text says what the JSON value
says whose text it is.

A value that is accepted says something, and only one thing: the tree that is read has the
conditions of the list in order, and it means what the list means from left to right.
-/

namespace RecordFilter

namespace Context

/-- A JSON value says an item of a condition list. -/
inductive Denotes (ctx : Context) : Json → ListItem → Prop
  /-- A string says the conjunction that it is a word for. -/
  | word {s : String} {conjunction : Conjunction} (h : Conjunction.ofWord? s = some conjunction) :
    Denotes ctx (.string s) (.word conjunction)
  /-- An array with a name and a token in front says a condition. -/
  | condition {items : List Json} {name token : String} {value : Json} {c : Condition}
      (hparts : Json.conditionParts? items = some (name, token, value))
      (hc : ctx.decodeCondition name token value = .ok c) :
    Denotes ctx (.array items) (.condition c)
  /-- Any other array says the list of what its items say. -/
  | list {items : List Json} {contents : List ListItem}
      (hparts : Json.conditionParts? items = none)
      (hitems : List.Forall₂ (Denotes ctx) items contents) :
    Denotes ctx (.array items) (.list contents)

/-- A JSON value says a condition list. -/
inductive DenotesList (ctx : Context) : Json → ConditionList → Prop
  /-- Null says the empty list. -/
  | null : DenotesList ctx .null []
  /-- A condition says the list of it alone. -/
  | condition {items : List Json} {name token : String} {value : Json} {c : Condition}
      (hparts : Json.conditionParts? items = some (name, token, value))
      (hc : ctx.decodeCondition name token value = .ok c) :
    DenotesList ctx (.array items) [.condition c]
  /-- Any other array says the list of what its items say. -/
  | list {items : List Json} {contents : ConditionList}
      (hparts : Json.conditionParts? items = none)
      (hitems : List.Forall₂ ctx.Denotes items contents) :
    DenotesList ctx (.array items) contents
  /-- The text of a JSON value says what the value says. -/
  | text {text : String} {raw : Json} {contents : ConditionList}
      (hparse : Json.parse? text = some raw) (hraw : DenotesList ctx raw contents) :
    DenotesList ctx (.string text) contents

variable {ctx : Context}

/-! ### Reading items -/

/-- Some items are read as what they say if each of them is. -/
lemma decodeItems_eq_ok_iff_of_forall {items : List Json}
    (hitems : ∀ raw ∈ items, ∀ item, ctx.decodeItem raw = .ok item ↔ ctx.Denotes raw item)
    (contents : List ListItem) :
    ctx.decodeItems items = .ok contents ↔ List.Forall₂ ctx.Denotes items contents := by
  induction items generalizing contents with
  | nil =>
    rw [decodeItems, List.forall₂_nil_left_iff, Except.ok.injEq, eq_comm]
  | cons raw rest ih =>
    have hraw := hitems raw List.mem_cons_self
    have hrest := ih fun other hother => hitems other (List.mem_cons_of_mem raw hother)
    rw [decodeItems_cons_eq_ok_iff, List.forall₂_cons_left_iff]
    simp only [hraw, hrest]

/-- An item is read as what it says. -/
lemma decodeItem_eq_ok_iff (raw : Json) :
    ∀ item, ctx.decodeItem raw = .ok item ↔ ctx.Denotes raw item := by
  induction raw using Json.induction_items with
  | array items ih =>
    intro item
    have hitems := decodeItems_eq_ok_iff_of_forall ih
    rw [decodeItem]
    constructor
    · intro h
      split at h
      · next name token value hparts =>
        obtain ⟨c, hc, rfl⟩ := exceptMap_eq_ok_iff.1 h
        exact .condition hparts hc
      · next hparts =>
        obtain ⟨contents, hcontents, rfl⟩ := exceptMap_eq_ok_iff.1 h
        exact .list hparts ((hitems contents).1 hcontents)
    · intro h
      cases h with
      | condition hparts hc => simp only [hparts, hc, Except.map]
      | list hparts h => simp only [hparts, (hitems _).2 h, Except.map]
  | other raw hraw =>
    intro item
    cases raw with
    | string word =>
      rw [decodeItem]
      constructor
      · intro h
        split at h
        · next conjunction hword =>
          obtain rfl := Except.ok.inj h
          exact .word hword
        · simp at h
      · rintro ⟨hword⟩
        rw [hword]
    | array items => simp [Json.items?] at hraw
    | _ =>
      constructor
      · intro h
        simp [decodeItem] at h
      · intro h
        cases h

/-! ### Reading lists -/

/-- A list that is read from a JSON value other than a text is what the value says. -/
lemma denotesList_of_decodeList {raw : Json} {contents : ConditionList}
    (h : ctx.decodeList raw = .ok contents) : ctx.DenotesList raw contents := by
  cases raw with
  | null =>
    obtain rfl := Except.ok.inj h
    exact .null
  | array items =>
    rw [decodeList] at h
    split at h
    · next name token value hparts =>
      obtain ⟨c, hc, rfl⟩ := exceptMap_eq_ok_iff.1 h
      exact .condition hparts hc
    · next hparts =>
      exact .list hparts <|
        (decodeItems_eq_ok_iff_of_forall (fun raw _ => decodeItem_eq_ok_iff raw) contents).1 h
  | _ => simp [decodeList] at h

/-- What is no text is read as a list at once. -/
lemma decodeTree_of_string?_eq_none {raw : Json} (hraw : raw.string? = none) :
    ctx.decodeTree raw = (ctx.decodeList raw).map ConditionList.toGroup := by
  cases raw with
  | string text => simp [Json.string?] at hraw
  | _ => rfl

/-- What a text says is what the JSON value says whose text it is. -/
lemma decodeTree_of_decodeTreeText {text : String} {tree : Group}
    (h : ctx.decodeTreeText text = .ok tree) :
    ∃ raw, Json.parse? text = some raw ∧ ctx.decodeTree raw = .ok tree := by
  rw [decodeTreeText] at h
  split at h
  · simp at h
  · next inner hparse =>
    split_ifs at h
    exact ⟨.string inner, hparse, h⟩
  · next raw hstring hparse =>
    refine ⟨raw, hparse, ?_⟩
    rwa [decodeTree_of_string?_eq_none]
    cases raw with
    | string inner => exact absurd rfl (hstring inner)
    | _ => rfl

/-- What is read from a text says something. -/
lemma exists_denotesList_of_decodeTreeText {text : String} {tree : Group}
    (h : ctx.decodeTreeText text = .ok tree) :
    ∃ contents, ctx.DenotesList (.string text) contents := by
  fun_induction decodeTreeText ctx text with
  | case1 text hparse => simp at h
  | case2 text inner hparse hlt ih =>
    obtain ⟨contents, hcontents⟩ := ih h
    exact ⟨contents, .text hparse hcontents⟩
  | case3 text inner hparse hlt => simp at h
  | case4 text raw hstring hparse =>
    obtain ⟨contents, hcontents, -⟩ := exceptMap_eq_ok_iff.1 h
    exact ⟨contents, .text hparse (denotesList_of_decodeList hcontents)⟩

/-- What is accepted says something. -/
lemma exists_denotesList {raw : Json} {tree : Group} (h : ctx.decodeTree raw = .ok tree) :
    ∃ contents, ctx.DenotesList raw contents := by
  cases htext : raw.string? with
  | some text =>
    obtain rfl := Json.string?_eq_some_iff.1 htext
    exact exists_denotesList_of_decodeTreeText h
  | none =>
    rw [decodeTree_of_string?_eq_none htext] at h
    obtain ⟨contents, hcontents, -⟩ := exceptMap_eq_ok_iff.1 h
    exact ⟨contents, denotesList_of_decodeList hcontents⟩

/-- What is accepted is read as the tree of the list that it says. -/
lemma eq_toGroup_of_denotesList {raw : Json} {contents : ConditionList}
    (hraw : ctx.DenotesList raw contents) :
    ∀ {tree : Group}, ctx.decodeTree raw = .ok tree → tree = contents.toGroup := by
  induction hraw with
  | null =>
    intro tree h
    exact (Except.ok.inj h).symm
  | condition hparts hc =>
    intro tree h
    simp only [decodeTree, decodeList, hparts, hc, Except.map, Except.ok.injEq] at h
    exact h.symm
  | list hparts hitems =>
    intro tree h
    have hdecode := (decodeItems_eq_ok_iff_of_forall (fun raw _ => decodeItem_eq_ok_iff raw) _).2
      hitems
    simp only [decodeTree, decodeList, hparts, hdecode, Except.map, Except.ok.injEq] at h
    exact h.symm
  | text hparse hraw ih =>
    intro tree h
    obtain ⟨raw, hparse', hdecode⟩ := decodeTree_of_decodeTreeText h
    obtain rfl := Option.some.inj (hparse.symm.trans hparse')
    exact ih hdecode

/-- **Reading keeps the meaning.**  A JSON value that is accepted says a condition list, and for
any list that it says, the tree has the conditions of the list in order and holds just when the
list holds from left to right. -/
theorem decodeTree_means {raw : Json} {tree : Group} (h : ctx.decodeTree raw = .ok tree) :
    (∃ contents, ctx.DenotesList raw contents) ∧
      ∀ contents, ctx.DenotesList raw contents →
        tree.leaves = ConditionList.leaves contents ∧
          ∀ truth, tree.holds truth = ConditionList.holds truth contents := by
  refine ⟨exists_denotesList h, fun contents hcontents => ?_⟩
  obtain rfl := eq_toGroup_of_denotesList hcontents h
  exact ⟨ConditionList.leaves_toGroup contents, fun truth =>
    ConditionList.holds_toGroup truth contents⟩

/-- A list with a leading word, a nested list without operands and mixed conjunctions, written as
a JSON value: `or a and b or [and] c`. -/
def mixedList : Json :=
  .array [.string "or", .array [.string "a", .string "=", .string "1"], .string "and",
    .array [.string "b", .string "=", .string "2"], .string " Or ", .array [.string "and"],
    .array [.string "c", .string "=", .string "3"]]

/-- The tree of `mixedList`. -/
def mixedTree : Group :=
  let c (name value : String) : Node :=
    .condition (.complete (.named name .text) .equals (.text value))
  ⟨.or, [.group ⟨.and, [c "a" "1", c "b" "2"]⟩, c "c" "3"]⟩

/-- `decodeTree_means` at a list that mixes conjunctions. -/
theorem decodeTree_means_mixedList :
    decodeTree ⟨.empty, .standard⟩ mixedList = .ok mixedTree ∧
      (∃ contents, DenotesList ⟨.empty, .standard⟩ mixedList contents) ∧
        ∀ contents, DenotesList ⟨.empty, .standard⟩ mixedList contents →
          mixedTree.leaves = ConditionList.leaves contents ∧
            ∀ truth, mixedTree.holds truth = ConditionList.holds truth contents := by
  have hread : decodeTree ⟨.empty, .standard⟩ mixedList = .ok mixedTree := by decide
  exact ⟨hread, decodeTree_means hread⟩

end Context

end RecordFilter
