import Mathlib.Data.List.Lex
import RecordFilter.Proofs.Condition.Checks
import RecordFilter.Proofs.Tree.Walk
import RecordFilter.Tree.Defect

/-!
# The first defect of a tree

The search for a defect asks each item for its own defect, in the order of the walk
(`defectAt?_eq_findSome?`).  The walk is in pre-order, and so the defect that is reported is the
first in pre-order: the item at its path fails, and all that stands before it passes
(`first_defect`).
-/

namespace RecordFilter

/-- In a list that is ordered by keys, what is found first is found at an item before which nothing
is found. -/
lemma findSome?_eq_some_iff_of_pairwise {α β κ : Type*} [Preorder κ] {key : α → κ}
    {f : α → Option β} {items : List α} (h : items.Pairwise fun a b => key a < key b) {b : β} :
    items.findSome? f = some b ↔
      ∃ item ∈ items, f item = some b ∧ ∀ other ∈ items, key other < key item → f other = none := by
  rw [List.findSome?_eq_some_iff]
  constructor
  · rintro ⟨front, item, back, rfl, hitem, hfront⟩
    refine ⟨item, by simp, hitem, fun other hother hlt => ?_⟩
    obtain ⟨-, hback, -⟩ := List.pairwise_append.1 h
    rcases List.mem_append.1 hother with hmem | hmem
    · exact hfront other hmem
    · -- the item itself and those behind it do not have smaller keys
      rcases List.mem_cons.1 hmem with rfl | hmem
      · exact absurd hlt (lt_irrefl _)
      · exact absurd hlt (lt_asymm ((List.pairwise_cons.1 hback).1 other hmem))
  · rintro ⟨item, hmem, hitem, hbefore⟩
    obtain ⟨front, back, rfl⟩ := List.append_of_mem hmem
    obtain ⟨-, -, hcross⟩ := List.pairwise_append.1 h
    refine ⟨front, item, back, rfl, hitem, fun other hother => ?_⟩
    exact hbefore other (List.mem_append_left _ hother)
      (hcross other hother item List.mem_cons_self)

namespace Node

/-- The defect of the node at a path by itself, whatever is below it. -/
def ownDefect? (exempt : Option Path) (path : Path) : Node → Option Defect
  | .condition c => c.problem?.map fun problem => ⟨path, problem⟩
  | .group g => if g.children.isEmpty && exempt != some path then some ⟨path, .emptyGroup⟩ else none

/-- The search through some children follows the walk if the search through each of them does. -/
lemma defectAmong?_eq_findSome?_of_forall {exempt : Option Path} {path : Path} {nodes : List Node}
    (h : ∀ node ∈ nodes, ∀ place, node.defectAt? exempt place =
      (node.walk place).findSome? fun visit => visit.2.ownDefect? exempt visit.1) :
    ∀ index, defectAmong? exempt path index nodes =
      (walkAll path index nodes).findSome? fun visit => visit.2.ownDefect? exempt visit.1 := by
  induction nodes with
  | nil => exact fun index => rfl
  | cons node rest ih =>
    intro index
    have hnode := h node List.mem_cons_self (path ++ [index])
    have hrest := ih (fun other hother => h other (List.mem_cons_of_mem node hother)) (index + 1)
    rw [defectAmong?, walkAll, List.findSome?_append, ← hnode, ← hrest]
    cases node.defectAt? exempt (path ++ [index]) with
    | none => exact (Option.none_or).symm
    | some defect => exact (Option.some_or).symm

/-- The search for a defect asks each item that the walk meets for its own defect. -/
theorem defectAt?_eq_findSome? {exempt : Option Path} (node : Node) :
    ∀ path, node.defectAt? exempt path =
      (node.walk path).findSome? fun visit => visit.2.ownDefect? exempt visit.1 := by
  induction node using Node.induction with
  | condition c =>
    intro path
    rw [defectAt?, walk, List.findSome?_singleton, ownDefect?]
  | group conjunction children ih =>
    intro path
    rw [defectAt?, walk, List.findSome?_cons, ownDefect?]
    split_ifs with hempty
    · rfl
    · exact defectAmong?_eq_findSome?_of_forall ih 0

/-- The own defect of a node is at its path. -/
lemma path_eq_of_ownDefect? {exempt : Option Path} {path : Path} {node : Node} {defect : Defect}
    (h : node.ownDefect? exempt path = some defect) : defect.path = path := by
  cases node with
  | condition c =>
    rw [ownDefect?, Option.map_eq_some_iff] at h
    obtain ⟨problem, -, rfl⟩ := h
    rfl
  | group g =>
    rw [ownDefect?, Option.ite_none_right_eq_some] at h
    exact (congrArg Defect.path (Option.some.inj h.2)).symm

end Node

namespace Group

/-- The first defect of a tree, where the group at a path may be empty if one is given. -/
def defectExcusing? (g : Group) : (target : Option Path) → Option Defect
  | none => g.defect?
  | some path => g.defectForInsert? path

/-- What stands at a path passes: a group other than the one that may be empty has a child, and a
condition has all that is asked for. -/
structure PassesAt (g : Group) (target : Option Path) (path : Path) : Prop where
  group : ∀ inner, g.groupAt? path = some inner → target ≠ some path → inner.children ≠ []
  condition : ∀ c, g.conditionAt? path = some c → c.Passes

/-- What stands at a path fails with a problem: a group other than the one that may be empty has no
child, or the problem is the first of a condition. -/
inductive FailsAt (g : Group) (target : Option Path) (path : Path) : Problem → Prop
  | group {inner : Group} (hgroup : g.groupAt? path = some inner) (htarget : target ≠ some path)
      (h : inner.children = []) : FailsAt g target path .emptyGroup
  | condition {c : Condition} {problem : Problem} (hcondition : g.conditionAt? path = some c)
      (h : c.Fails problem) : FailsAt g target path problem

/-- What stands at a path passes if it has no defect of its own. -/
lemma passesAt_iff {g : Group} {target : Option Path} {path : Path} :
    g.PassesAt target path ↔
      ∀ item, (path, item) ∈ g.walk → item.ownDefect? target path = none := by
  constructor
  · rintro ⟨hgroup, hcondition⟩ item hitem
    cases item with
    | condition c =>
      have hpasses := hcondition c (condition_mem_walk_iff.1 hitem)
      rw [Node.ownDefect?, Condition.problem?_eq_none_iff_passes.2 hpasses, Option.map_none]
    | group inner =>
      have hne := hgroup inner (group_mem_walk_iff.1 hitem)
      rw [Node.ownDefect?, if_neg]
      simpa [imp_not_comm] using hne
  · intro h
    refine ⟨fun inner hinner htarget hempty => ?_, fun c hc => ?_⟩
    · have hnone := h _ (group_mem_walk_iff.2 hinner)
      simp [Node.ownDefect?, hempty, htarget] at hnone
    · have hnone := h _ (condition_mem_walk_iff.2 hc)
      rw [Node.ownDefect?, Option.map_eq_none_iff] at hnone
      exact Condition.problem?_eq_none_iff_passes.1 hnone

/-- What stands at a path fails with the problem of its own defect. -/
lemma failsAt_iff {g : Group} {target : Option Path} {path : Path} {problem : Problem} :
    g.FailsAt target path problem ↔
      ∃ item, (path, item) ∈ g.walk ∧ item.ownDefect? target path = some ⟨path, problem⟩ := by
  constructor
  · rintro (⟨hgroup, htarget, hempty⟩ | ⟨hcondition, hfails⟩)
    · refine ⟨_, group_mem_walk_iff.2 hgroup, ?_⟩
      simp [Node.ownDefect?, hempty, htarget]
    · refine ⟨_, condition_mem_walk_iff.2 hcondition, ?_⟩
      rw [Node.ownDefect?, Condition.problem?_eq_some_iff_fails.2 hfails, Option.map_some]
  · rintro ⟨item, hitem, hown⟩
    cases item with
    | condition c =>
      rw [Node.ownDefect?, Option.map_eq_some_iff] at hown
      obtain ⟨found, hfound, heq⟩ := hown
      obtain rfl := (Defect.mk.inj heq).2
      exact .condition (condition_mem_walk_iff.1 hitem)
        (Condition.problem?_eq_some_iff_fails.1 hfound)
    | group inner =>
      rw [Node.ownDefect?, Option.ite_none_right_eq_some] at hown
      obtain ⟨hempty, heq⟩ := hown
      obtain rfl := (Defect.mk.inj (Option.some.inj heq)).2
      rw [Bool.and_eq_true, List.isEmpty_iff, bne_iff_ne] at hempty
      exact .group (group_mem_walk_iff.1 hitem) hempty.2 hempty.1

/-- The search through a tree asks each item of the walk for its own defect. -/
lemma defectExcusing?_eq_findSome? (g : Group) (target : Option Path) :
    g.defectExcusing? target =
      g.walk.findSome? fun visit => visit.2.ownDefect? target visit.1 := by
  cases target with
  | none => exact Node.defectAt?_eq_findSome? (.group g) []
  | some path => exact Node.defectAt?_eq_findSome? (.group g) []

/-- **The first defect.**  No defect is found in a tree, whichever group may be empty, just when all
that stands in it passes.  A defect is found just when what stands at its path fails with its
problem, and all that stands before it in pre-order, which is the order of paths, passes. -/
theorem first_defect (g : Group) (target : Option Path) :
    (g.defectExcusing? target = none ↔ ∀ path, g.PassesAt target path) ∧
      ∀ path problem, g.defectExcusing? target = some ⟨path, problem⟩ ↔
        g.FailsAt target path problem ∧ ∀ earlier, earlier < path → g.PassesAt target earlier := by
  have hsorted : g.walk.Pairwise fun a b => a.1 < b.1 := Node.pairwise_walk (.group g) []
  refine ⟨?_, fun path problem => ?_⟩
  · rw [defectExcusing?_eq_findSome?, List.findSome?_eq_none_iff]
    simp only [passesAt_iff, Prod.forall]
  · rw [defectExcusing?_eq_findSome?, findSome?_eq_some_iff_of_pairwise hsorted, failsAt_iff]
    simp only [passesAt_iff]
    constructor
    · rintro ⟨⟨place, item⟩, hitem, hown, hbefore⟩
      obtain rfl : path = place := Node.path_eq_of_ownDefect? hown
      exact ⟨⟨item, hitem, hown⟩, fun earlier hlt other hother => hbefore _ hother hlt⟩
    · rintro ⟨⟨item, hitem, hown⟩, hbefore⟩
      refine ⟨(path, item), hitem, hown, ?_⟩
      rintro ⟨earlier, other⟩ hother hlt
      exact hbefore earlier hlt other hother

end Group

end RecordFilter
