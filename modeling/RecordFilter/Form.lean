import RecordFilter.Json.Parser
import RecordFilter.Vocabulary

/-!
# Serialized forms

The types of this library are exchanged as JSON values.  `JsonForm` gives the form of a type:
how a value is written, and which drafts of JSON values are read back as one.  A form is read
from a JSON value by `JsonForm.decode?` and from a JSON text by `JsonForm.ofText?`.

Reading is more generous than writing.  A record may be written as an object, whose members may
stand in any order and among others, or as the array of its members.  A member that is not asked
for may be void.  An enumeration value may be written as its name, or as an object that has null
under the name.
-/

namespace RecordFilter

open Json (Draft)

/-- The JSON form of a type. -/
class JsonForm (α : Type) where
  /-- The form of a value. -/
  encode : α → Json
  /-- The value of a form. -/
  read? : Draft → Option α

namespace JsonForm

/-- The value whose form is a JSON value. -/
def decode? {α : Type} [JsonForm α] (json : Json) : Option α :=
  read? json.draft

/-- The value whose form a JSON text writes. -/
def ofText? {α : Type} [JsonForm α] (text : String) : Option α :=
  (Draft.ofText? text).bind read?

instance : JsonForm String where
  encode := .string
  read? := Draft.string?

/-- Natural numbers are read up to 64 bits. -/
instance : JsonForm Nat where
  encode := Json.ofNat
  read?
    | .number (.integer n) => if 0 ≤ n then some n.toNat else none
    | _ => none

/-- Reads values one after the other. -/
def readAll? {α β : Type} (read : β → Option α) : List β → Option (List α)
  | [] => some []
  | item :: rest =>
    match read item, readAll? read rest with
    | some value, some values => some (value :: values)
    | _, _ => none

instance {α : Type} [JsonForm α] : JsonForm (List α) where
  encode values := .array (values.map encode)
  read?
    | .array items => readAll? read? items
    | _ => none

instance {α β : Type} [JsonForm α] [JsonForm β] : JsonForm (α × β) where
  encode pair := .array [encode pair.1, encode pair.2]
  read?
    | .array [first, second] =>
      match read? first, read? second with
      | some first, some second => some (first, second)
      | _, _ => none
    | _ => none

/-- A missing value is written as null. -/
instance {α : Type} [JsonForm α] : JsonForm (Option α) where
  encode
    | none => .null
    | some value => encode value
  read?
    | .null => some none
    | draft => (read? draft).map some

/-! ### Records -/

/-- The value of the member with a name, if there is one; a repeated name is refused. -/
def member? (name : String) (members : List (String × Draft)) : Option (Option Draft) :=
  match members.filter fun member => member.1 = name with
  | [] => some none
  | [member] => some (some member.2)
  | _ => none

/-- The members of an object with some names, in the order of the names. -/
def membersNamed? (members : List (String × Draft)) : List String → Option (List (Option Draft))
  | [] => some []
  | name :: names =>
    match member? name members, membersNamed? members names with
    | some value, some values => some (value :: values)
    | _, _ => none

/-- The items of an array in the places of some names; there must not be more items than
names. -/
def itemsNamed? : List Draft → List String → Option (List (Option Draft))
  | [], names => some (names.map fun _ => none)
  | _ :: _, [] => none
  | item :: items, _ :: names => (itemsNamed? items names).map (some item :: ·)

/-- The members of an object with some names. -/
def namedMembers? (names : List String) : Draft → Option (List (Option Draft))
  | .object members => membersNamed? members names
  | _ => none

/-- The members of a record with some names: those of an object, or the items of an array. -/
def record? (names : List String) : Draft → Option (List (Option Draft))
  | .object members => membersNamed? members names
  | .array items => itemsNamed? items names
  | _ => none

/-- The value of a member that must be there. -/
def required? {α : Type} [JsonForm α] (member : Option Draft) : Option α :=
  member.bind read?

/-- The value of a member that may be missing. -/
def orElse? {α : Type} [JsonForm α] (default : α) : Option Draft → Option α
  | none => some default
  | some draft => read? draft

/-! ### Enumerations -/

/-- The name that stands for a value of an enumeration. -/
def name? : Draft → Option String
  | .string name => some name
  | .object [(name, .null)] => some name
  | _ => none

/-- The form of an enumeration whose values are written by their names. -/
abbrev ofNames {α : Type} (all : List α) (name : α → String) : JsonForm α where
  encode value := .string (name value)
  read? draft := (name? draft).bind fun s => all.find? fun value => name value = s

end JsonForm

end RecordFilter
