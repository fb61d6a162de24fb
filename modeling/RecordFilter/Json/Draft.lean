import RecordFilter.Json.Basic

/-!
# Drafts of JSON values

What a JSON text says once its grammar has been checked.  A draft is a JSON value in which a
part may be void: it keeps to the grammar but stands for no value.  Who reads a draft decides
whether a void part matters, since a member that is not asked for may be anything.

`Draft.value?` is the value of a draft without void parts, and `Json.draft` the draft of a value.
-/

namespace RecordFilter.Json

/-- A JSON value some parts of which may be void. -/
inductive Draft where
  | null
  | bool (value : Bool)
  | number (value : JsonNumber)
  | string (value : String)
  | array (items : List Draft)
  | object (members : List (String × Draft))
  /-- A part that stands for no value. -/
  | void
  deriving Repr, Inhabited

namespace Draft

mutual

/-- The value of a draft, if no part of it is void. -/
def value? : Draft → Option Json
  | .null => some .null
  | .bool b => some (.bool b)
  | .number n => some (.number n)
  | .string s => some (.string s)
  | .array items => (values? items).map .array
  | .object members => (memberValues? members).map .object
  | .void => none

/-- The values of some items. -/
def values? : List Draft → Option (List Json)
  | [] => some []
  | item :: rest =>
    match value? item, values? rest with
    | some value, some values => some (value :: values)
    | _, _ => none

/-- The values of some members. -/
def memberValues? : List (String × Draft) → Option (List (String × Json))
  | [] => some []
  | (key, member) :: rest =>
    match value? member, memberValues? rest with
    | some value, some values => some ((key, value) :: values)
    | _, _ => none

end

mutual

/-- How deeply arrays and objects are nested in a draft. -/
def depth : Draft → Nat
  | .null | .bool _ | .number _ | .string _ | .void => 0
  | .array items => depthOfItems items + 1
  | .object members => depthOfMembers members + 1

/-- The greatest depth among some items. -/
def depthOfItems : List Draft → Nat
  | [] => 0
  | item :: rest => max (depth item) (depthOfItems rest)

/-- The greatest depth among some members. -/
def depthOfMembers : List (String × Draft) → Nat
  | [] => 0
  | (_, member) :: rest => max (depth member) (depthOfMembers rest)

end

/-- The text of a string. -/
def string? : Draft → Option String
  | .string s => some s
  | _ => none

/-- Some members under their keys, if every key stands for a text. -/
def keyed? : List (Option String × Draft) → Option (List (String × Draft))
  | [] => some []
  | (none, _) :: _ => none
  | (some key, member) :: rest => (keyed? rest).map ((key, member) :: ·)

/-- The object of some members.  A key that stands for no text makes the object void. -/
def ofMembers (members : List (Option String × Draft)) : Draft :=
  ((keyed? members).map .object).getD .void

end Draft

mutual

/-- The draft of a value. -/
def draft : Json → Draft
  | .null => .null
  | .bool b => .bool b
  | .number n => .number n
  | .string s => .string s
  | .array items => .array (draftsOf items)
  | .object members => .object (memberDrafts members)

/-- The drafts of some items. -/
def draftsOf : List Json → List Draft
  | [] => []
  | item :: rest => draft item :: draftsOf rest

/-- The drafts of some members. -/
def memberDrafts : List (String × Json) → List (String × Draft)
  | [] => []
  | (key, value) :: rest => (key, draft value) :: memberDrafts rest

end

end RecordFilter.Json
