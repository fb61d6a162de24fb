import RecordFilter.Wire.Entry

/-!
# Normal forms

A filter that has been to the server and back is its normal form.  Three things are made alike
on the way: a group of one child is joined by "and", a pattern loses one pair of wildcards around
it, and a text that says yes or no to a computer becomes the label of a boolean field.

The normal form is defined on trees and simple filters alone, without JSON.
-/

namespace RecordFilter

/-- Whether a text has a wildcard at both ends; one wildcard alone is not at both. -/
def Wildcard.isAround (s : String) : Bool :=
  2 ≤ s.toList.length && s.toList.head? == some '%' && s.toList.getLast? == some '%'

/-- What a text says to a computer, whatever the case of its ASCII letters: `1` and `true` say yes,
`0` and `false` say no. -/
def Text.boolean? (text : String) : Option Bool :=
  [("1", true), ("true", true), ("0", false), ("false", false)].lookup (Text.lowerAscii text)

namespace Settings

/-- The normal form of a text of a boolean field that is no label. -/
def normalLabel (s : Settings) (text : String) : String :=
  match Text.boolean? text with
  | some true => s.yesLabel
  | some false => s.noLabel
  | none => text

/-- The normal form of a text under an operator. -/
def normalText (s : Settings) (kind : FieldKind) (op : Operator) (text : String) : String :=
  if op.isLike then
    if Wildcard.isAround text then String.ofList text.toList.tail.dropLast else text
  else if kind = .boolean ∧ text ≠ s.yesLabel ∧ text ≠ s.noLabel then s.normalLabel text
  else text

/-- The normal form of the value of a condition on a field. -/
def normalValue (s : Settings) (field : Field) (op : Operator) : Value → Value
  | .text text => .text (s.normalText field.kind op text)
  | value => value

/-- The normal form of a condition; one without field or operator is its own. -/
def normalCondition (s : Settings) (c : Condition) : Condition :=
  match c.field, c.operator with
  | some field, some op => .complete field op (s.normalValue field op c.value)
  | _, _ => c

mutual

/-- The normal form of a node. -/
def normalNode (s : Settings) : Node → Node
  | .condition c => .condition (s.normalCondition c)
  | .group ⟨conjunction, children⟩ =>
    .group ⟨if children.length = 1 then .and else conjunction, s.normalNodes children⟩

/-- The normal forms of some nodes. -/
def normalNodes (s : Settings) : List Node → List Node
  | [] => []
  | node :: rest => s.normalNode node :: s.normalNodes rest

end

/-- The normal form of a tree. -/
def normalTree (s : Settings) (tree : Group) : Group :=
  ⟨if tree.size = 1 then .and else tree.conjunction, s.normalNodes tree.children⟩

end Settings

namespace Context

/-- The normal form of the filter of a field. -/
def normalFilter (ctx : Context) (name : String) (filter : SimpleFilter) : SimpleFilter :=
  ⟨filter.operator,
    ctx.settings.normalValue (ctx.catalog.resolve name) filter.operator filter.value⟩

/-- The normal forms of simple filters, in the same order. -/
def normalFilters (ctx : Context) (filters : SimpleFilters) : SimpleFilters :=
  ⟨filters.entries.map fun entry => (entry.1, ctx.normalFilter entry.1 entry.2)⟩

end Context

end RecordFilter
