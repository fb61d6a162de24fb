import RecordFilter.Json.Draft
import RecordFilter.Json.Settled
import RecordFilter.Json.Token

/-!
# Reading JSON text

The tokens of a text are read by a machine that keeps the containers it has opened on a stack
and, in its state, what may come next.  It reads the draft of a value.  A scalar without a value
is void, and so is an array or an object that is nested more than `maxDepth` deep.

`Json.parse?` reads a text that must stand for a value, and resolves repeated keys.
-/

namespace RecordFilter.Json

/-- How deeply arrays and objects may be nested in a text. -/
def maxDepth : Nat := 127

/-- A container that is open while one of its values is read: what it holds so far, the last
first, and for an object the key of the value that is read. -/
inductive Frame where
  | array (items : List Draft)
  | object (members : List (Option String × Draft)) (key : Option String)

/-- What may come next, inside the containers on the stack. -/
inductive Expectation where
  /-- A value. -/
  | value (stack : List Frame)
  /-- The first item of an array, or its end. -/
  | firstItem (stack : List Frame)
  /-- A comma or the end of an array. -/
  | itemEnd (items : List Draft) (stack : List Frame)
  /-- The first key of an object, or its end. -/
  | firstKey (stack : List Frame)
  /-- A key of an object. -/
  | key (members : List (Option String × Draft)) (stack : List Frame)
  /-- The colon after a key. -/
  | colon (members : List (Option String × Draft)) (key : Option String) (stack : List Frame)
  /-- A comma or the end of an object. -/
  | memberEnd (members : List (Option String × Draft)) (stack : List Frame)
  /-- Nothing: the value is complete. -/
  | nothing (draft : Draft)

/-- A value is complete: it is put into the innermost open container. -/
def deliver (draft : Draft) : List Frame → Expectation
  | [] => .nothing draft
  | .array items :: stack => .itemEnd (draft :: items) stack
  | .object members key :: stack => .memberEnd ((key, draft) :: members) stack

/-- A container is complete.  It is void if `maxDepth` or more are open around it. -/
def close (draft : Draft) (stack : List Frame) : Expectation :=
  deliver (if (stack.drop (maxDepth - 1)).isEmpty then draft else .void) stack

/-- Takes the first token of a value. -/
def beginValue? (stack : List Frame) : Token → Option Expectation
  | .null => some (deliver .null stack)
  | .bool b => some (deliver (.bool b) stack)
  | .number n => some (deliver (n.elim .void .number) stack)
  | .string s => some (deliver (s.elim .void .string) stack)
  | .openArray => some (.firstItem stack)
  | .openObject => some (.firstKey stack)
  | _ => none

/-- Takes one token. -/
def step? : Expectation → Token → Option Expectation
  | .value stack, token => beginValue? stack token
  | .firstItem stack, .closeArray => some (close (.array []) stack)
  | .firstItem stack, token => beginValue? (.array [] :: stack) token
  | .itemEnd items stack, .comma => some (.value (.array items :: stack))
  | .itemEnd items stack, .closeArray => some (close (.array items.reverse) stack)
  | .firstKey stack, .closeObject => some (close (.object []) stack)
  | .firstKey stack, .string key => some (.colon [] key stack)
  | .key members stack, .string key => some (.colon members key stack)
  | .colon members key stack, .colon => some (.value (.object members key :: stack))
  | .memberEnd members stack, .comma => some (.key members stack)
  | .memberEnd members stack, .closeObject => some (close (.ofMembers members.reverse) stack)
  | _, _ => none

/-- Takes tokens one after the other. -/
def run? (state : Expectation) : List Token → Option Expectation
  | [] => some state
  | token :: rest =>
    match step? state token with
    | none => none
    | some next => run? next rest

/-- The draft that a sequence of tokens stands for. -/
def Draft.ofTokens? (tokens : List Token) : Option Draft :=
  match run? (.value []) tokens with
  | some (.nothing draft) => some draft
  | _ => none

/-- The draft of a text. -/
def Draft.ofText? (text : String) : Option Draft :=
  (Token.ofChars? text.toList).bind Draft.ofTokens?

/-- The value of a text; of a repeated key the last value counts. -/
def parse? (text : String) : Option Json :=
  ((Draft.ofText? text).bind Draft.value?).map settled

end RecordFilter.Json
