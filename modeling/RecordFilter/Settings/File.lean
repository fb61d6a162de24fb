import RecordFilter.Settings
import RecordFilter.Settings.KeyPath

/-!
# Settings files

A settings file is a JSON5 table.  Its members are laid over the standard settings: a table is
merged with the one that is there, and anything else takes the place of what is there.  The
case of a key does not count, and a key at the top of the file may be a path into what is there.

The settings stand in the table under the key `filters`.  A setting is a text; members that are
no settings are passed over.
-/

namespace RecordFilter.Settings

open Json5 (Document)

/-- The settings as the table of a file. -/
def toMembers (s : Settings) : List (String × Document) :=
  [("reserved_prefix", .scalar s.reservedStart),
   ("advanced_key", .scalar s.advancedKey),
   ("tags_key", .scalar s.tagsKey),
   ("assignee_field", .scalar s.assigneeField),
   ("yes_label", .scalar s.yesLabel),
   ("no_label", .scalar s.noLabel)]

/-- A setting: a text, or what is given instead of a missing one. -/
def setting? (default : String) : Option Document → Option String
  | none => some default
  | some (.scalar text) => some text
  | some _ => none

/-- The settings that some values stand for, in the order of the settings. -/
def ofValues? (value : Nat → String → Option Document) : Option Settings := do
  return {
    reservedStart := ← setting? standard.reservedStart (value 0 "reserved_prefix")
    advancedKey := ← setting? standard.advancedKey (value 1 "advanced_key")
    tagsKey := ← setting? standard.tagsKey (value 2 "tags_key")
    assigneeField := ← setting? standard.assigneeField (value 3 "assignee_field")
    yesLabel := ← setting? standard.yesLabel (value 4 "yes_label")
    noLabel := ← setting? standard.noLabel (value 5 "no_label") }

/-- The settings that a document stands for: a table of settings by their names, or a list of
the first settings in order. -/
def ofDocument? : Document → Option Settings
  | .table members => ofValues? fun _ name => Ordered.get? name members
  | .list items => ofValues? fun index _ => items[index]?
  | _ => none

/-- The settings after a file has been read. -/
def ofFile? (text : String) : Option Settings :=
  match Json5.parse? text with
  | some (.table members) =>
    match Ordered.get? "filters" (layFile [("filters", .table standard.toMembers)] members) with
    | some document => ofDocument? document
    | none => some standard
  | _ => none

/-- The settings of a file that may be missing.  A file that is asked for must be there. -/
def load? (explicit : Bool) (text : Option String) : Option Settings :=
  match text with
  | some text => ofFile? text
  | none => if explicit then none else some standard

end RecordFilter.Settings
