import Mathlib.Data.List.Induction
import Mathlib.Data.Set.Card
import RecordFilter.Proofs.Ordered

/-!
# The history of simple filters

Simple filters come about by changes, one after the other, and what they are can be read off these
changes alone.  `Stands` says that a change has set the filter of a field and that no later one has
taken the field out.  A field is filtered just if such a change stands; the last of them has set its
filter, and the first of them decides its place among the other fields (`Records`).

A change adds one entry to the history (`stands_concat_iff`), and for each kind of change it is
shown that the filters after it record the longer history; so they do after every run
(`Records.run`).
-/

namespace RecordFilter

namespace SimpleFilters

/-- A change of simple filters. -/
inductive Change where
  | insert (name : String) (filter : SimpleFilter)
  | erase (name : String)
  | clear
  deriving DecidableEq, Repr

/-- Makes a change, and gives the filter that the field of the change has had. -/
def change (f : SimpleFilters) : Change → Option SimpleFilter × SimpleFilters
  | .insert name filter => f.getThenInsert name filter
  | .erase name => f.getThenErase name
  | .clear => (none, empty)

/-- The filters after some changes, one after the other. -/
def run (f : SimpleFilters) (changes : List Change) : SimpleFilters :=
  changes.foldl (fun g next => (g.change next).2) f

/-- Whether a change takes a field out. -/
def Change.removes (name : String) : Change → Bool
  | .insert _ _ => false
  | .erase other => other = name
  | .clear => true

/-- The change at a place of a history has set the filter of a field, and no later change has taken
the field out. -/
structure Stands (history : List Change) (name : String) (i : Nat) (filter : SimpleFilter) :
    Prop where
  set : history[i]? = some (.insert name filter)
  kept : ∀ j later, i < j → history[j]? = some later → later.removes name = false

/-- Simple filters are what a history of changes tells: the fields are distinct; the filter of a
field is what the last change that stands has set; there is none if no change stands; and a field
comes before another if a change stands for it that comes before all that stand for the other. -/
structure Records (history : List Change) (f : SimpleFilters) : Prop where
  nodup : f.names.Nodup
  get?_eq_some_iff : ∀ name filter, f.get? name = some filter ↔
    ∃ i, Stands history name i filter ∧ ∀ j other, Stands history name j other → j ≤ i
  get?_eq_none_iff : ∀ name, f.get? name = none ↔ ∀ i filter, ¬Stands history name i filter
  ordered : f.names.Pairwise fun first second =>
    ∃ i filter, Stands history first i filter ∧ ∀ j other, Stands history second j other → i < j

/-! ### Histories -/

section Stands

variable {history : List Change} {last : Change} {name : String} {i : Nat} {filter : SimpleFilter}

/-- What stands has a place in the history. -/
lemma Stands.lt (h : Stands history name i filter) : i < history.length :=
  (List.getElem?_eq_some_iff.1 h.set).1

/-- After one change more, what stands is that change, or it has stood before and the change has not
taken the field out. -/
theorem stands_concat_iff :
    Stands (history ++ [last]) name i filter ↔
      (i = history.length ∧ last = .insert name filter) ∨
        (Stands history name i filter ∧ last.removes name = false) := by
  constructor
  · rintro ⟨hset, hkept⟩
    rcases Nat.lt_trichotomy i history.length with hlt | rfl | hgt
    · rw [List.getElem?_append_left hlt] at hset
      refine .inr ⟨⟨hset, fun j later hij hlater => ?_⟩, ?_⟩
      · exact hkept j later hij (List.getElem?_append_left
          (List.getElem?_eq_some_iff.1 hlater).1 ▸ hlater)
      · exact hkept history.length last hlt List.getElem?_concat_length
    · rw [List.getElem?_concat_length] at hset
      exact .inl ⟨rfl, Option.some.inj hset⟩
    · rw [List.getElem?_eq_none (by simpa using hgt)] at hset
      simp at hset
  · rintro (⟨rfl, rfl⟩ | ⟨h, hlast⟩)
    · refine ⟨List.getElem?_concat_length, fun j later hij hlater => ?_⟩
      rw [List.getElem?_eq_none (by simpa using hij)] at hlater
      simp at hlater
    · refine ⟨(List.getElem?_append_left h.lt).trans h.set, fun j later hij hlater => ?_⟩
      rcases Nat.lt_or_ge j history.length with hlt | hge
      · rw [List.getElem?_append_left hlt] at hlater
        exact h.kept j later hij hlater
      · -- the place behind the history is that of the last change
        have hj : j < (history ++ [last]).length := (List.getElem?_eq_some_iff.1 hlater).1
        rw [List.length_append, List.length_singleton] at hj
        obtain rfl : j = history.length := by omega
        rw [List.getElem?_concat_length] at hlater
        exact Option.some.inj hlater ▸ hlast

/-- After an insertion, what stands is the insertion or has stood before. -/
lemma stands_concat_insert_iff {other : String} {set : SimpleFilter} :
    Stands (history ++ [.insert other set]) name i filter ↔
      (i = history.length ∧ other = name ∧ set = filter) ∨ Stands history name i filter := by
  rw [stands_concat_iff, Change.insert.injEq]
  simp [Change.removes]

/-- After a removal, what stands for the other fields has stood before. -/
lemma stands_concat_erase_iff {other : String} :
    Stands (history ++ [.erase other]) name i filter ↔
      Stands history name i filter ∧ other ≠ name := by
  rw [stands_concat_iff]
  simp [Change.removes]

/-- Nothing stands after everything has been taken out. -/
lemma not_stands_concat_clear : ¬Stands (history ++ [.clear]) name i filter := by
  rw [stands_concat_iff]
  simp [Change.removes]

end Stands

/-! ### Changes -/

variable {f : SimpleFilters} {history : List Change}

/-- A field is filtered if a change stands for it. -/
lemma Records.mem_names_iff_exists (h : Records history f) {name : String} :
    name ∈ f.names ↔ ∃ i filter, Stands history name i filter := by
  rw [mem_names_iff, Ne, h.get?_eq_none_iff]
  simp only [not_forall, not_not]

/-- There are as many filters as there are fields for which a change stands. -/
lemma Records.ncard_eq (h : Records history f) :
    {name | ∃ i filter, Stands history name i filter}.ncard = f.size := by
  have hset : {name | ∃ i filter, Stands history name i filter} =
      (f.names.toFinset : Set String) := by
    ext name
    rw [Set.mem_ofPred_eq, List.coe_toFinset, Set.mem_ofPred_eq, h.mem_names_iff_exists]
  rw [hset, Set.ncard_coe_finset, List.toFinset_card_of_nodup h.nodup, names, Ordered.keys,
    List.length_map, size]

/-- No filters record no history. -/
lemma records_empty : Records [] empty where
  nodup := List.nodup_nil
  get?_eq_some_iff := by
    intro name filter
    refine iff_of_false (by simp [get?, empty, Ordered.get?]) ?_
    rintro ⟨i, h, -⟩
    exact absurd h.lt (Nat.not_lt_zero i)
  get?_eq_none_iff := fun name => iff_of_true rfl fun i filter h => absurd h.lt (Nat.not_lt_zero i)
  ordered := List.Pairwise.nil

/-- The filters after an insertion record it. -/
lemma Records.insert (h : Records history f) (name : String) (filter : SimpleFilter) :
    Records (history ++ [.insert name filter]) (f.insert name filter) where
  nodup := nodup_names_insert h.nodup
  get?_eq_some_iff := by
    intro other set
    rw [get?_insert]
    simp only [stands_concat_insert_iff]
    by_cases hname : name = other
    · subst hname
      rw [if_pos rfl, Option.some.injEq]
      constructor
      · rintro rfl
        refine ⟨history.length, .inl ⟨rfl, rfl, rfl⟩, ?_⟩
        rintro j other (⟨rfl, -⟩ | hstands)
        · exact Nat.le_refl _
        · exact Nat.le_of_lt hstands.lt
      · rintro ⟨i, ⟨-, -, heq⟩ | hstands, hlast⟩
        · exact heq
        · -- the insertion comes after all that has stood before
          have hle : history.length ≤ i := hlast _ _ (.inl ⟨rfl, rfl, rfl⟩)
          exact absurd hstands.lt (Nat.not_lt.2 hle)
    · simp only [hname, if_false, false_and, and_false, false_or]
      exact h.get?_eq_some_iff other set
  get?_eq_none_iff := by
    intro other
    rw [get?_insert]
    simp only [stands_concat_insert_iff]
    by_cases hname : name = other
    · rw [if_pos hname]
      exact iff_of_false (Option.some_ne_none _) fun hnone => hnone _ _ (.inl ⟨rfl, hname, rfl⟩)
    · simp only [hname, if_false, false_and, and_false, false_or]
      exact h.get?_eq_none_iff other
  ordered := by
    simp only [stands_concat_insert_iff]
    -- what stands for a field that has been there comes before the insertion
    have hbefore : ∀ {first second : String},
        (∃ i filter, Stands history first i filter ∧
          ∀ j other, Stands history second j other → i < j) →
        ∃ i set, ((i = history.length ∧ name = first ∧ filter = set) ∨ Stands history first i set) ∧
          ∀ j other, (j = history.length ∧ name = second ∧ filter = other) ∨
            Stands history second j other → i < j := by
      rintro first second ⟨i, set, hstands, hfirst⟩
      refine ⟨i, set, .inr hstands, ?_⟩
      rintro j other (⟨rfl, -⟩ | hother)
      · exact hstands.lt
      · exact hfirst j other hother
    rw [names_insert]
    split_ifs with hthere
    · exact h.ordered.imp hbefore
    · refine List.pairwise_append.2 ⟨h.ordered.imp hbefore, List.pairwise_singleton _ _, ?_⟩
      rintro first hfirst second hsecond
      obtain rfl := List.mem_singleton.1 hsecond
      have hnew : second ∉ f.names := mt Ordered.contains_iff_mem_keys.2 hthere
      obtain ⟨i, set, hstands⟩ := h.mem_names_iff_exists.1 hfirst
      exact hbefore ⟨i, set, hstands, fun j other hother =>
        absurd (h.mem_names_iff_exists.2 ⟨j, other, hother⟩) hnew⟩

/-- The filters after a removal record it. -/
lemma Records.erase (h : Records history f) (name : String) :
    Records (history ++ [.erase name]) (f.erase name) where
  nodup := nodup_names_erase h.nodup name
  get?_eq_some_iff := by
    intro other set
    rw [get?_erase h.nodup]
    simp only [stands_concat_erase_iff]
    by_cases hname : name = other
    · simp [hname]
    · simp only [hname, if_false, ne_eq, not_false_eq_true, and_true]
      exact h.get?_eq_some_iff other set
  get?_eq_none_iff := by
    intro other
    rw [get?_erase h.nodup]
    simp only [stands_concat_erase_iff]
    by_cases hname : name = other
    · simp [hname]
    · simp only [hname, if_false, ne_eq, not_false_eq_true, and_true]
      exact h.get?_eq_none_iff other
  ordered := by
    rw [names_erase]
    refine (h.ordered.sublist List.erase_sublist).imp_of_mem ?_
    rintro first second hfirst - ⟨i, set, hstands, hbefore⟩
    have hne : name ≠ first := by
      rintro rfl
      exact h.nodup.not_mem_erase hfirst
    exact ⟨i, set, stands_concat_erase_iff.2 ⟨hstands, hne⟩,
      fun j other hother => hbefore j other (stands_concat_erase_iff.1 hother).1⟩

/-- The filters after everything has been taken out record it. -/
lemma records_clear (history : List Change) : Records (history ++ [.clear]) empty where
  nodup := List.nodup_nil
  get?_eq_some_iff := by
    intro name filter
    refine iff_of_false (by simp [get?, empty, Ordered.get?]) ?_
    rintro ⟨i, h, -⟩
    exact not_stands_concat_clear h
  get?_eq_none_iff := fun name => iff_of_true rfl fun i filter => not_stands_concat_clear
  ordered := List.Pairwise.nil

/-- An insertion sets the filter of its field and gives the one that it has had. -/
lemma change_insert (f : SimpleFilters) (name : String) (filter : SimpleFilter) :
    f.change (.insert name filter) = (f.get? name, f.insert name filter) :=
  Prod.ext (Ordered.fst_getThenInsert name filter f.entries) rfl

/-- A removal takes its field out and gives the filter that it has had. -/
lemma change_erase (f : SimpleFilters) (name : String) :
    f.change (.erase name) = (f.get? name, f.erase name) :=
  Prod.ext (Ordered.fst_getThenErase name f.entries) rfl

/-- The filters after a change record it. -/
theorem Records.change (h : Records history f) (next : Change) :
    Records (history ++ [next]) (f.change next).2 := by
  cases next with
  | insert name filter =>
    rw [change_insert]
    exact h.insert name filter
  | erase name =>
    rw [change_erase]
    exact h.erase name
  | clear => exact records_clear history

/-! ### Runs -/

/-- The filters after some changes record them. -/
theorem Records.run (h : Records history f) (changes : List Change) :
    Records (history ++ changes) (f.run changes) := by
  induction changes generalizing history f with
  | nil =>
    rw [List.append_nil]
    exact h
  | cons next rest ih =>
    rw [List.append_cons]
    exact ih (h.change next)

/-- The change that sets a pair. -/
def insertion (entry : String × SimpleFilter) : Change :=
  .insert entry.1 entry.2

/-- To set pairs one after the other is a run. -/
lemma insertAll_eq_run (more : List (String × SimpleFilter)) :
    ∀ f : SimpleFilters, ⟨Ordered.insertAll f.entries more⟩ = f.run (more.map insertion) := by
  induction more with
  | nil => exact fun f => rfl
  | cons entry rest ih =>
    intro f
    have hchange : (f.change (insertion entry)).2 = f.insert entry.1 entry.2 := by
      rw [insertion, change_insert]
    rw [List.map_cons, run, List.foldl_cons, hchange]
    exact ih (f.insert entry.1 entry.2)

/-- The filters of some pairs record that these have been set. -/
lemma records_ofList (entries : List (String × SimpleFilter)) :
    Records (entries.map insertion) (ofList entries) := by
  have hrun := records_empty.run (entries.map insertion)
  rwa [← insertAll_eq_run, List.nil_append] at hrun

/-- **The history of simple filters.**  Let filters be made of pairs and then be changed.  The pairs
and the changes are their history.  The fields are distinct; the filter of a field is what the last
insertion has set that no later removal has undone, and there is none if there is no such insertion;
the fields are in the order of the first such insertions; and there are as many filters as fields
with such an insertion.  A further insertion or removal gives the filter that the field has had.  An
insertion leaves the fields in their order, with a field that is new at the end, and a removal takes
the field out of that order. -/
theorem run_records (entries : List (String × SimpleFilter)) (changes : List Change) :
    let history := entries.map insertion ++ changes
    let f := (ofList entries).run changes
    Records history f ∧
      {name | ∃ i filter, Stands history name i filter}.ncard = f.size ∧
      (∀ name filter, (f.getThenInsert name filter).1 = f.get? name ∧
        (f.getThenInsert name filter).2.names =
          if f.contains name then f.names else f.names ++ [name]) ∧
      ∀ name, (f.getThenErase name).1 = f.get? name ∧
        (f.getThenErase name).2.names = f.names.erase name := by
  intro history f
  have hrecords : Records history f := (records_ofList entries).run changes
  refine ⟨hrecords, hrecords.ncard_eq, fun name filter => ?_, fun name => ?_⟩
  · have hchange : f.getThenInsert name filter = _ := f.change_insert name filter
    rw [hchange]
    exact ⟨rfl, f.names_insert name filter⟩
  · have hchange : f.getThenErase name = _ := f.change_erase name
    rw [hchange]
    exact ⟨rfl, f.names_erase name⟩

end SimpleFilters

end RecordFilter
