import RecordFilter.Proofs.Text.Blank
import RecordFilter.Wire.Value

/-!
# Comma separated lists

A comma separated list is cut at its commas, and of every piece there is left what trimming leaves.
Cutting turns a comma between two texts into the end of one list and the start of the next
(`splitList_append`), and a text without commas is one item or none (`splitList_of_not_mem`).  These
two say all about the items of a list, and so the items that a list can have (`IsItem`) are read
back from the text in which they stand side by side (`splitList_join`).
-/

namespace RecordFilter.Text

variable {s : String}

/-! ### Cutting at a separator -/

/-- There is no separator in a piece. -/
lemma not_mem_of_mem_splitChars {sep : Char} {cs piece : List Char}
    (h : piece ∈ splitChars sep cs) : sep ∉ piece := by
  induction cs generalizing piece with
  | nil =>
    obtain rfl := List.mem_singleton.1 h
    exact List.not_mem_nil
  | cons c rest ih =>
    rw [splitChars] at h
    split_ifs at h with hc
    · rcases List.mem_cons.1 h with rfl | hmem
      · exact List.not_mem_nil
      · exact ih hmem
    · -- the character goes in front of the first piece of the rest
      cases hrest : splitChars sep rest with
      | nil =>
        simp only [hrest, List.mem_singleton] at h
        simpa [h] using Ne.symm hc
      | cons first others =>
        rw [hrest] at ih
        simp only [hrest, List.mem_cons] at h
        rcases h with rfl | hmem
        · exact List.not_mem_cons_of_ne_of_not_mem (Ne.symm hc) (ih List.mem_cons_self)
        · exact ih (List.mem_cons_of_mem first hmem)

/-- A list before a comma and a list behind it are one list after the other. -/
theorem splitList_append (a b : String) :
    splitList (a ++ "," ++ b) = splitList a ++ splitList b := by
  have hchars : (a ++ "," ++ b).toList = a.toList ++ ',' :: b.toList := by
    simp [String.toList_append]
  have hsplit : split ',' (a ++ "," ++ b) = split ',' a ++ split ',' b := by
    simp only [split, hchars, splitChars_eq_splitOn, List.splitOn_append_cons_self,
      List.map_append]
  rw [splitList, hsplit, List.map_append, List.filter_append, splitList, splitList]

/-- A text without commas is one item, or none if it is blank. -/
lemma splitList_of_not_mem (h : ',' ∉ s.toList) :
    splitList s = if trim s = "" then [] else [trim s] := by
  rw [splitList, split, splitChars_eq_splitOn, List.splitOn_eq_singleton h, List.map_singleton,
    List.map_singleton, String.ofList_toList, List.filter_singleton]
  by_cases hs : trim s = ""
  · simp [hs]
  · simp [hs]

/-! ### Items -/

/-- A text can be an item: it is not empty, has no comma and has no blank at either end. -/
structure IsItem (s : String) : Prop where
  ne_empty : s ≠ ""
  comma_not_mem : ',' ∉ s.toList
  isTrimmed : IsTrimmed s.toList

/-- What trimming leaves has no other characters. -/
lemma mem_of_mem_trimChars {c : Char} {cs : List Char} (h : c ∈ trimChars cs) : c ∈ cs := by
  have hkept := trimEnd_prefix (cs.dropWhile isBlank)
  exact (List.dropWhile_sublist isBlank).mem (hkept.mem h)

/-- Every item of a list can be an item. -/
lemma isItem_of_mem_splitList {item : String} (h : item ∈ splitList s) : IsItem item := by
  rw [splitList, List.mem_filter] at h
  obtain ⟨hmem, hne⟩ := h
  obtain ⟨piece, hpiece, rfl⟩ := List.mem_map.1 hmem
  obtain ⟨cs, hcs, rfl⟩ := List.mem_map.1 hpiece
  refine ⟨of_decide_eq_true hne, ?_, ?_⟩
  · rw [toList_trim, String.toList_ofList]
    exact fun hcomma => not_mem_of_mem_splitChars hcs (mem_of_mem_trimChars hcomma)
  · rw [toList_trim]
    exact isTrimmed_trimChars _

/-- A comma is not blank. -/
lemma comma_not_mem_of_isBlankText (h : isBlankText s = true) : ',' ∉ s.toList := by
  intro hcomma
  have hblank : isBlank ',' = true := List.all_eq_true.1 h ',' hcomma
  exact absurd hblank (by decide)

/-- What is blank in front of an item is dropped. -/
lemma trim_append_of_isBlankText {front item : String} (hfront : isBlankText front = true)
    (hitem : IsTrimmed item.toList) : trim (front ++ item) = item := by
  have hdrop : (front.toList ++ item.toList).dropWhile isBlank = item.toList := by
    rw [List.dropWhile_append_of_pos (List.all_eq_true.1 hfront),
      dropWhile_isBlank_eq_self hitem.head]
  have htrim := trimChars_of_isTrimmed hitem
  rw [trimChars, dropWhile_isBlank_eq_self hitem.head] at htrim
  rw [trim, String.toList_append, trimChars, hdrop, htrim, String.ofList_toList]

/-- An item behind what is blank is a list of one. -/
lemma splitList_append_item {front item : String} (hfront : isBlankText front = true)
    (hitem : IsItem item) : splitList (front ++ item) = [item] := by
  have hcomma : ',' ∉ (front ++ item).toList := by
    rw [String.toList_append, List.mem_append, not_or]
    exact ⟨comma_not_mem_of_isBlankText hfront, hitem.comma_not_mem⟩
  rw [splitList_of_not_mem hcomma, trim_append_of_isBlankText hfront hitem.isTrimmed,
    if_neg hitem.ne_empty]

/-- Items are read back from the text in which they stand side by side, with a comma and any blanks
between them, also behind what is blank. -/
theorem splitList_append_join {gap : String} (hgap : isBlankText gap = true) {items : List String}
    (hitems : ∀ item ∈ items, IsItem item) :
    ∀ {front : String}, isBlankText front = true →
      splitList (front ++ join ("," ++ gap) items) = items := by
  induction items with
  | nil =>
    intro front hfront
    rw [join, String.append_empty,
      splitList_of_not_mem (comma_not_mem_of_isBlankText hfront),
      if_pos (trim_eq_empty_iff.2 hfront)]
  | cons item rest ih =>
    intro front hfront
    obtain ⟨hitem, hrest⟩ := List.forall_mem_cons.1 hitems
    cases rest with
    | nil => exact splitList_append_item hfront hitem
    | cons second rest =>
      have hassoc : front ++ join ("," ++ gap) (item :: second :: rest) =
          (front ++ item) ++ "," ++ (gap ++ join ("," ++ gap) (second :: rest)) := by
        rw [join]
        · simp only [String.append_assoc]
        · exact List.cons_ne_nil second rest
      rw [hassoc, splitList_append, splitList_append_item hfront hitem, ih hrest hgap,
        List.singleton_append]

/-- Items are read back from the text in which they stand side by side. -/
lemma splitList_join {gap : String} (hgap : isBlankText gap = true) {items : List String}
    (hitems : ∀ item ∈ items, IsItem item) : splitList (join ("," ++ gap) items) = items := by
  have hread : splitList ("" ++ join ("," ++ gap) items) = items :=
    splitList_append_join hgap hitems rfl
  rwa [String.empty_append] at hread

/-- Reading a comma separated list brings it into a normal form.  A list is read item by item, every
item is trimmed, not empty and free of commas, and such items are read back from the text in which
they stand side by side, with or without a space behind the commas.  So reading the items of a list
once more changes nothing, and what the user types is read as what the server sends. -/
theorem splitList_normal :
    (∀ a b, splitList (a ++ "," ++ b) = splitList a ++ splitList b) ∧
      (∀ s, ∀ item ∈ splitList s, IsItem item) ∧
      (∀ items, (∀ item ∈ items, IsItem item) →
        splitList (join "," items) = items ∧ splitList (join ", " items) = items) ∧
      (∀ s, splitList (join "," (splitList s)) = splitList s ∧
        splitList (join ", " (splitList s)) = splitList s) ∧
      (∀ (settings : Settings) (field : Field) (op : Operator) (s : String),
        op = .isIn ∨ op = .notIn →
          Value.ofInput op s = .list (splitList s) ∧
            settings.decodeValue field op (.string s) = .ok (.list (splitList s))) := by
  have hread : ∀ items, (∀ item ∈ items, IsItem item) →
      splitList (join "," items) = items ∧ splitList (join ", " items) = items :=
    fun items hitems => ⟨@splitList_join "" rfl items hitems,
      @splitList_join " " (by decide) items hitems⟩
  refine ⟨splitList_append, fun s item => isItem_of_mem_splitList, hread,
    fun s => hread _ fun item => isItem_of_mem_splitList, ?_⟩
  rintro settings field op s (rfl | rfl)
  · exact ⟨rfl, rfl⟩
  · exact ⟨rfl, rfl⟩

/-- `splitList_normal` at items with a blank inside and a blank item between them. -/
theorem splitList_normal_tags :
    IsItem "in progress" ∧ IsItem "done" ∧
      splitList (join ", " ["in progress", "done"]) = ["in progress", "done"] ∧
      splitList " in progress ,\t, done" = ["in progress", "done"] ∧
      Settings.standard.decodeValue (.named "status" .singleSelect) .isIn
        (.string " in progress ,\t, done") = .ok (.list ["in progress", "done"]) := by
  have hlist : splitList " in progress ,\t, done" = ["in progress", "done"] := by decide
  have hitems : ∀ item ∈ ["in progress", "done"], IsItem item := by
    rw [← hlist]
    exact splitList_normal.2.1 _
  have hwire := (splitList_normal.2.2.2.2 Settings.standard (.named "status" .singleSelect) .isIn
    " in progress ,\t, done" (.inl rfl)).2
  rw [hlist] at hwire
  exact ⟨hitems _ (by simp), hitems _ (by simp), (splitList_normal.2.2.1 _ hitems).2, hlist, hwire⟩

end RecordFilter.Text
