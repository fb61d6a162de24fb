import RecordFilter.Catalog

/-!
# Settings

The names and labels that the other modules share.  A key of a filter payload is reserved if it
carries something other than the filter of a field: the two keys with a meaning of their own,
and every key with the reserved start that is not the name of a field in the catalog.
-/

namespace RecordFilter

/-- Names and labels used in filter payloads. -/
structure Settings where
  /-- How reserved keys start; no key is reserved by an empty start. -/
  reservedStart : String
  /-- The reserved key of the condition list. -/
  advancedKey : String
  /-- The reserved key of the selected tags. -/
  tagsKey : String
  /-- The field that holds the assignees of a record. -/
  assigneeField : String
  /-- What a boolean field that is set is called. -/
  yesLabel : String
  /-- What a boolean field that is not set is called. -/
  noLabel : String
  deriving DecidableEq, Repr

namespace Settings

/-- The settings that hold where nothing else is said. -/
def standard : Settings where
  reservedStart := "_"
  advancedKey := "_conditions"
  tagsKey := "_tags"
  assigneeField := "_assign"
  yesLabel := "Yes"
  noLabel := "No"

instance : Inhabited Settings := ⟨standard⟩

/-- Whether a key of a payload is reserved.  The fields of the catalog win over the reserved
start, but not over the two keys with a meaning of their own. -/
def isReserved (s : Settings) (catalog : Catalog) (key : String) : Bool :=
  key = s.advancedKey || key = s.tagsKey ||
    (s.reservedStart ≠ "" && Text.startsWith key s.reservedStart && !catalog.contains key)

end Settings

end RecordFilter
