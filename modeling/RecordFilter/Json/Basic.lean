import RecordFilter.Number.Binary64

/-!
# JSON values

JSON values with the members of an object in the order in which they were written.  A number is
an integer of at most 64 bits or a number in double precision; the two are never equal, and they
are printed differently.

An object read from a text may repeat a key.  `Json.settled` resolves the repetitions: a key
keeps its first place and takes its last value.
-/

namespace RecordFilter

/-- A number of a JSON text. -/
inductive JsonNumber where
  | integer (value : Int)
  | real (value : Binary64)
  deriving DecidableEq, Repr

/-- A JSON value. -/
inductive Json where
  | null
  | bool (value : Bool)
  | number (value : JsonNumber)
  | string (value : String)
  | array (items : List Json)
  | object (members : List (String × Json))
  deriving Repr, Inhabited

namespace Json

mutual

/-- Decides whether two JSON values are equal. -/
def decEq : (a b : Json) → Decidable (a = b)
  | .null, .null => isTrue rfl
  | .bool a, .bool b =>
    if h : a = b then isTrue (by rw [h]) else isFalse (by intro e; injection e; contradiction)
  | .number a, .number b =>
    if h : a = b then isTrue (by rw [h]) else isFalse (by intro e; injection e; contradiction)
  | .string a, .string b =>
    if h : a = b then isTrue (by rw [h]) else isFalse (by intro e; injection e; contradiction)
  | .array a, .array b =>
    match decEqItems a b with
    | isTrue h => isTrue (by rw [h])
    | isFalse h => isFalse (by intro e; injection e; contradiction)
  | .object a, .object b =>
    match decEqMembers a b with
    | isTrue h => isTrue (by rw [h])
    | isFalse h => isFalse (by intro e; injection e; contradiction)
  | .null, .bool _ | .null, .number _ | .null, .string _ | .null, .array _ | .null, .object _
  | .bool _, .null | .bool _, .number _ | .bool _, .string _ | .bool _, .array _
  | .bool _, .object _
  | .number _, .null | .number _, .bool _ | .number _, .string _ | .number _, .array _
  | .number _, .object _
  | .string _, .null | .string _, .bool _ | .string _, .number _ | .string _, .array _
  | .string _, .object _
  | .array _, .null | .array _, .bool _ | .array _, .number _ | .array _, .string _
  | .array _, .object _
  | .object _, .null | .object _, .bool _ | .object _, .number _ | .object _, .string _
  | .object _, .array _ => isFalse (by intro e; injection e)

/-- Decides whether two lists of items are equal. -/
def decEqItems : (a b : List Json) → Decidable (a = b)
  | [], [] => isTrue rfl
  | [], _ :: _ => isFalse (by intro e; injection e)
  | _ :: _, [] => isFalse (by intro e; injection e)
  | x :: xs, y :: ys =>
    match decEq x y with
    | isFalse h => isFalse (by intro e; injection e; contradiction)
    | isTrue h =>
      match decEqItems xs ys with
      | isTrue h' => isTrue (by rw [h, h'])
      | isFalse h' => isFalse (by intro e; injection e; contradiction)

/-- Decides whether two lists of members are equal. -/
def decEqMembers : (a b : List (String × Json)) → Decidable (a = b)
  | [], [] => isTrue rfl
  | [], _ :: _ => isFalse (by intro e; injection e)
  | _ :: _, [] => isFalse (by intro e; injection e)
  | (k, x) :: xs, (l, y) :: ys =>
    if hk : k = l then
      match decEq x y with
      | isFalse h => isFalse (by intro e; injection e with e _; injection e; contradiction)
      | isTrue h =>
        match decEqMembers xs ys with
        | isTrue h' => isTrue (by rw [hk, h, h'])
        | isFalse h' => isFalse (by intro e; injection e; contradiction)
    else isFalse (by intro e; injection e with e _; injection e; contradiction)

end

instance : DecidableEq Json := decEq

/-- The integer as a JSON value. -/
def ofInt (n : Int) : Json := .number (.integer n)

/-- The natural number as a JSON value. -/
def ofNat (n : Nat) : Json := .number (.integer n)

/-- The list of texts as a JSON value. -/
def ofStrings (texts : List String) : Json := .array (texts.map .string)

/-- The text of a JSON string. -/
def string? : Json → Option String
  | .string s => some s
  | _ => none

/-- The items of a JSON array. -/
def items? : Json → Option (List Json)
  | .array items => some items
  | _ => none

/-- The value of the first member of an object with the given key. -/
def member? (key : String) : Json → Option Json
  | .object members => members.lookup key
  | _ => none

mutual

/-- How deeply arrays and objects are nested in a value; a scalar has depth zero. -/
def depth : Json → Nat
  | .null | .bool _ | .number _ | .string _ => 0
  | .array items => depthOfItems items + 1
  | .object members => depthOfMembers members + 1

/-- The greatest depth among some items. -/
def depthOfItems : List Json → Nat
  | [] => 0
  | item :: rest => max (depth item) (depthOfItems rest)

/-- The greatest depth among some members. -/
def depthOfMembers : List (String × Json) → Nat
  | [] => 0
  | (_, value) :: rest => max (depth value) (depthOfMembers rest)

end

end Json

end RecordFilter
