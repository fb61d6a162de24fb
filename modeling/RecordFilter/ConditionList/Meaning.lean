import RecordFilter.ConditionList

/-!
# The meaning of a condition list

A condition list says by itself whether it holds, given which conditions hold: its operands are
joined one after the other, from left to right, without precedence.  `ConditionList.holds` scans
the items and keeps one truth value; no tree is built.

A nested list in which there is no condition at any depth is no operand, and the conjunction
before it waits for the operand that follows.
-/

namespace RecordFilter

/-- The truth of two operands under a conjunction. -/
def Conjunction.combine : Conjunction → Bool → Bool → Bool
  | .and, a, b => a && b
  | .or, a, b => a || b

namespace ConditionList

mutual

/-- The conditions of an item, from left to right. -/
def leavesOfItem : ListItem → List Condition
  | .word _ => []
  | .condition c => [c]
  | .list items => leaves items

/-- The conditions of a list at any depth, from left to right. -/
def leaves : List ListItem → List Condition
  | [] => []
  | item :: rest => leavesOfItem item ++ leaves rest

end

/-- A scan of a list: the truth of the operands so far, if there was one, and the conjunction
that waits for its next operand. -/
structure Scan where
  value : Option Bool
  pending : Option Conjunction
  deriving DecidableEq, Repr

namespace Scan

/-- Nothing has been scanned. -/
def start : Scan := ⟨none, none⟩

/-- An operand has been scanned: it is combined by the conjunction that waits, else by "and". -/
def operand (s : Scan) (b : Bool) : Scan :=
  match s.value with
  | none => ⟨some b, none⟩
  | some a => ⟨some ((s.pending.getD .and).combine a b), none⟩

/-- The truth of what has been scanned; it holds if there was no operand. -/
def result (s : Scan) : Bool := s.value.getD true

end Scan

mutual

/-- Scans one item.  A nested list is an operand if it has a condition. -/
def scanItem (truth : Condition → Bool) (s : Scan) : ListItem → Scan
  | .word conjunction => { s with pending := some conjunction }
  | .condition c => s.operand (truth c)
  | .list items =>
    if (leaves items).isEmpty then s else s.operand (scanItems truth .start items).result

/-- Scans items one after the other. -/
def scanItems (truth : Condition → Bool) (s : Scan) : List ListItem → Scan
  | [] => s
  | item :: rest => scanItems truth (scanItem truth s item) rest

end

/-- Whether a list holds, given which conditions hold. -/
def holds (truth : Condition → Bool) (items : ConditionList) : Bool :=
  (scanItems truth .start items).result

end ConditionList

end RecordFilter
