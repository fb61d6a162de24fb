import RecordFilter.Json5.Token
import RecordFilter.Json.Printer
import RecordFilter.Ordered

/-!
# Reading JSON5 text

A JSON5 text is read into a document whose scalars are texts: a number or a truth value counts
as the text that it is displayed by.  The tokens are read by a machine that keeps the open
containers on a stack.  Unlike in JSON, a comma may stand before a closing bracket.
-/

namespace RecordFilter.Json5

/-- A value whose scalars are texts. -/
inductive Document where
  | null
  | scalar (text : String)
  | list (items : List Document)
  | table (members : List (String × Document))
  deriving Repr

namespace Numeral

/-- A decimal in places, without an exponent and without a fraction of zero. -/
def plainChars (d : Decimal) : List Char :=
  if 0 ≤ d.power then d.digitChars ++ List.replicate d.power.toNat '0' else d.inPlaces

/-- The text by which a number is displayed.  An integer must fit in 64 bits, one in hexadecimal
digits in 32, and no number may lie beyond the greatest number in double precision. -/
def display? : Numeral → Option String
  | .integer n => if -Int.pow 2 63 ≤ n ∧ n < Int.pow 2 63 then some (toString n) else none
  | .hexadecimal n => if n < Nat.pow 2 32 then some (toString n) else none
  | .decimal negative digits power =>
    (Binary64.ofDecimal? digits power).map fun x =>
      String.ofList ((if negative then ['-'] else []) ++ plainChars x.shortest)
  | .signed negative word =>
    if word = "NaN" then if negative then some "NaN" else none
    else if word = "Infinity" then if negative then some "-inf" else none
    else none

end Numeral

/-- The document of a word where a value is expected. -/
def ofWord? (word : String) : Option Document :=
  if word = "null" then some .null
  else if word = "true" ∨ word = "false" then some (.scalar word)
  else if word = "NaN" then some (.scalar "NaN")
  else if word = "Infinity" then some (.scalar "inf")
  else none

/-- A container that is open while one of its values is read: what it holds so far, the last
first, and for a table the key of the value that is read. -/
inductive Frame where
  | list (items : List Document)
  | table (members : List (String × Document)) (key : String)

/-- What may come next, inside the containers on the stack. -/
inductive Expectation where
  /-- A value. -/
  | value (stack : List Frame)
  /-- An item of a list, or its end. -/
  | item (items : List Document) (stack : List Frame)
  /-- A comma or the end of a list. -/
  | itemEnd (items : List Document) (stack : List Frame)
  /-- A key of a table, or its end. -/
  | key (members : List (String × Document)) (stack : List Frame)
  /-- The colon after a key. -/
  | colon (members : List (String × Document)) (key : String) (stack : List Frame)
  /-- A comma or the end of a table. -/
  | memberEnd (members : List (String × Document)) (stack : List Frame)
  /-- Nothing: the document is complete. -/
  | nothing (document : Document)

/-- A value is complete: it is put into the innermost open container. -/
def deliver (value : Document) : List Frame → Expectation
  | [] => .nothing value
  | .list items :: stack => .itemEnd (value :: items) stack
  | .table members key :: stack => .memberEnd ((key, value) :: members) stack

/-- The table of some members, the last first; of a repeated key the last value counts. -/
def tableOf (members : List (String × Document)) : Document :=
  .table (Ordered.ofList members.reverse)

/-- Takes the first token of a value. -/
def beginValue? (stack : List Frame) : Token → Option Expectation
  | .word name plain =>
    if plain then (ofWord? name).map fun value => deliver value stack else none
  | .string s => some (deliver (.scalar s) stack)
  | .number n => n.display?.map fun text => deliver (.scalar text) stack
  | .openArray => some (.item [] stack)
  | .openObject => some (.key [] stack)
  | _ => none

/-- Takes one token. -/
def step? : Expectation → Token → Option Expectation
  | .value stack, token => beginValue? stack token
  | .item items stack, .closeArray => some (deliver (.list items.reverse) stack)
  | .item items stack, token => beginValue? (.list items :: stack) token
  | .itemEnd items stack, .comma => some (.item items stack)
  | .itemEnd items stack, .closeArray => some (deliver (.list items.reverse) stack)
  | .key members stack, .closeObject => some (deliver (tableOf members) stack)
  | .key members stack, .word key _ => some (.colon members key stack)
  | .key members stack, .string key => some (.colon members key stack)
  | .colon members key stack, .colon => some (.value (.table members key :: stack))
  | .memberEnd members stack, .comma => some (.key members stack)
  | .memberEnd members stack, .closeObject => some (deliver (tableOf members) stack)
  | _, _ => none

/-- Takes tokens one after the other. -/
def run? (state : Expectation) : List Token → Option Expectation
  | [] => some state
  | token :: rest =>
    match step? state token with
    | none => none
    | some next => run? next rest

/-- The document of a text. -/
def parse? (text : String) : Option Document :=
  match (Token.ofChars? text.toList).bind (run? (.value [])) with
  | some (.nothing document) => some document
  | _ => none

end RecordFilter.Json5
