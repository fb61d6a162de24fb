import Mathlib.Data.List.DropRight
import RecordFilter.Text.Blank

/-!
# Trimmed texts

A text is trimmed if there is no blank character at either of its ends.  Trimming makes a text
trimmed (`isTrimmed_trimChars`) and leaves the texts that are (`trimChars_of_isTrimmed`), so
trimming twice is trimming once; nothing is left of a text just if it is blank
(`trim_eq_empty_iff`).  Cutting a text into pieces is what the library calls splitting, and of the
trimmed pieces those are left that were not blank (`filter_map_trim`).
-/

namespace RecordFilter.Text

/-- There is no blank character at either end. -/
structure IsTrimmed (cs : List Char) : Prop where
  head : ∀ c ∈ cs.head?, isBlank c = false
  last : ∀ c ∈ cs.getLast?, isBlank c = false

variable {cs : List Char} {s : String}

/-- Where the front is not blank, dropping what is blank in front drops nothing. -/
lemma dropWhile_isBlank_eq_self (h : ∀ c ∈ cs.head?, isBlank c = false) :
    cs.dropWhile isBlank = cs := by
  cases cs with
  | nil => rfl
  | cons c rest => exact List.dropWhile_cons_of_neg (by simp [h c rfl])

/-- The front is not blank after what is blank in front has been dropped. -/
lemma isBlank_of_mem_head?_dropWhile {c : Char} (h : c ∈ (cs.dropWhile isBlank).head?) :
    isBlank c = false := by
  have hfront := List.head?_dropWhile_not isBlank cs
  rw [Option.mem_def.1 h] at hfront
  exact hfront

/-- What is left after dropping at the end stands in front. -/
lemma trimEnd_prefix (cs : List Char) : (trimEnd cs).IsPrefix cs :=
  List.rdropWhile_prefix isBlank cs

/-- Trimming makes a text trimmed. -/
lemma isTrimmed_trimChars (cs : List Char) : IsTrimmed (trimChars cs) where
  head := by
    intro c hc
    obtain ⟨dropped, hsplit⟩ := trimEnd_prefix (cs.dropWhile isBlank)
    have hfront : c ∈ (cs.dropWhile isBlank).head? := by
      rw [← hsplit, List.head?_append, ← trimChars, Option.mem_def.1 hc, Option.some_or]
      rfl
    exact isBlank_of_mem_head?_dropWhile hfront
  last := by
    intro c hc
    rw [trimChars, trimEnd, List.getLast?_reverse] at hc
    exact isBlank_of_mem_head?_dropWhile hc

/-- Trimming leaves the texts that are trimmed. -/
lemma trimChars_of_isTrimmed (h : IsTrimmed cs) : trimChars cs = cs := by
  have hreverse : ∀ c ∈ cs.reverse.head?, isBlank c = false := by
    rw [List.head?_reverse]
    exact h.last
  rw [trimChars, dropWhile_isBlank_eq_self h.head, trimEnd, dropWhile_isBlank_eq_self hreverse,
    List.reverse_reverse]

/-- Nothing is left of a list of characters if all of them are blank. -/
lemma trimChars_eq_nil_iff : trimChars cs = [] ↔ ∀ c ∈ cs, isBlank c = true := by
  rw [trimChars, trimEnd, List.reverse_eq_nil_iff, List.dropWhile_eq_nil_iff]
  simp only [List.mem_reverse]
  refine ⟨fun h => ?_, fun h c hc => h c ((List.dropWhile_sublist isBlank).mem hc)⟩
  -- otherwise what is left after dropping in front has a front, and it is not blank
  cases hrest : cs.dropWhile isBlank with
  | nil => exact List.dropWhile_eq_nil_iff.1 hrest
  | cons c rest =>
    have hblank : isBlank c = true := h c (by simp [hrest])
    have hfront : isBlank c = false := isBlank_of_mem_head?_dropWhile (by rw [hrest]; rfl)
    simp [hfront] at hblank

/-- The characters of a trimmed text. -/
lemma toList_trim (s : String) : (trim s).toList = trimChars s.toList :=
  String.toList_ofList

/-- Trimming twice is trimming once. -/
@[simp]
lemma trim_trim (s : String) : trim (trim s) = trim s := by
  rw [trim, toList_trim, trimChars_of_isTrimmed (isTrimmed_trimChars s.toList), trim]

/-- Nothing is left of a text just if it is blank. -/
lemma trim_eq_empty_iff : trim s = "" ↔ isBlankText s = true := by
  rw [← String.toList_inj, toList_trim, String.toList_empty, trimChars_eq_nil_iff, isBlankText,
    List.all_eq_true]

/-- Something is left of a text just if it is not blank. -/
lemma trim_ne_empty_iff : trim s ≠ "" ↔ isBlankText s = false := by
  rw [Ne, trim_eq_empty_iff, Bool.not_eq_true]

/-- Of trimmed texts those are left that were not blank. -/
lemma filter_map_trim (texts : List String) :
    (texts.map trim).filter (· ≠ "") = (texts.filter fun text => !isBlankText text).map trim := by
  rw [List.filter_map]
  refine congrArg (List.map trim) (List.filter_congr fun text _ => ?_)
  rw [Function.comp_apply, Bool.eq_iff_iff, decide_eq_true_eq, trim_ne_empty_iff,
    Bool.not_eq_true']

/-- Cutting is what the library calls splitting. -/
lemma splitChars_eq_splitOn (sep : Char) (cs : List Char) : splitChars sep cs = cs.splitOn sep := by
  induction cs with
  | nil => rfl
  | cons c rest ih =>
    rw [splitChars, ih, List.splitOn_cons_eq_if_modifyHead]
    by_cases hc : c = sep
    · simp [hc]
    · obtain ⟨piece, pieces, hpieces⟩ := List.exists_cons_of_ne_nil (List.splitOn_ne_nil sep rest)
      simp [hc, hpieces]

end RecordFilter.Text
