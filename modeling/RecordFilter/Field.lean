import RecordFilter.Vocabulary

/-!
# Fields

The fields of a record list by which it can be filtered.  A field has a kind, which decides what
operators and values it takes, and for some kinds a list of options: the choices of a select
field, the target of a link.

The server describes its fields in rows with a richer vocabulary of types; `FieldRow.field?`
keeps the fields that can be filtered.
-/

namespace RecordFilter

/-- The kind of a field, as far as filtering is concerned. -/
inductive FieldKind where
  | boolean
  | link
  | dynamicLink
  | numeric
  | singleSelect
  | text
  | longText
  | date
  | datetime
  | rating
  | duration
  deriving DecidableEq, Repr

namespace FieldKind

instance : Vocabulary FieldKind where
  all := [.boolean, .link, .dynamicLink, .numeric, .singleSelect, .text, .longText, .date,
    .datetime, .rating, .duration]
  token
    | .boolean => "boolean"
    | .link => "link"
    | .dynamicLink => "dynamic_link"
    | .numeric => "numeric"
    | .singleSelect => "single_select"
    | .text => "text"
    | .longText => "long_text"
    | .date => "date"
    | .datetime => "datetime"
    | .rating => "rating"
    | .duration => "duration"

/-- The kind of the fields that the server gives the named type; `none` if fields of that type
cannot be filtered. -/
def ofServerType? : String → Option FieldKind
  | "Check" => some .boolean
  | "Link" => some .link
  | "Dynamic Link" => some .dynamicLink
  | "Int" | "Float" | "Currency" | "Percent" => some .numeric
  | "Select" => some .singleSelect
  | "Data" | "Small Text" | "Text" => some .text
  | "Long Text" | "Text Editor" => some .longText
  | "Date" => some .date
  | "Datetime" => some .datetime
  | "Rating" => some .rating
  | "Duration" => some .duration
  | _ => none

/-- Whether the values of the fields are dates, with or without a time. -/
def isDate : FieldKind → Bool
  | .date | .datetime => true
  | _ => false

/-- What is said about a text that names no kind. -/
def unknownMessage (s : String) : String :=
  "Unknown field type: " ++ s

end FieldKind

/-- A field by which records can be filtered. -/
structure Field where
  name : String
  label : String
  kind : FieldKind
  /-- The choices of a select field, the target of a link. -/
  options : List String
  deriving DecidableEq, Repr

/-- The field with the given name and kind that is labelled by its name. -/
def Field.named (name : String) (kind : FieldKind) : Field :=
  ⟨name, name, kind, []⟩

/-- A row of the server's list of fields. -/
structure FieldRow where
  fieldname : String
  label : Option String
  fieldtype : String
  options : Option String
  deriving DecidableEq, Repr

namespace FieldRow

/-- The options of a field of the given kind: the choices of a select field stand on lines of
their own, a link has a single target, and blank options do not count. -/
def optionsFor (kind : FieldKind) (raw : String) : List String :=
  match kind with
  | .singleSelect => ((Text.split '\n' raw).map Text.trim).filter (· ≠ "")
  | .link | .dynamicLink => if Text.trim raw = "" then [] else [Text.trim raw]
  | _ => []

/-- The label of a row, or its name if the label is missing or empty. -/
def labelOrName (row : FieldRow) : String :=
  match row.label with
  | some label => if label = "" then row.fieldname else label
  | none => row.fieldname

/-- The field that a row describes; `none` if it cannot be filtered. -/
def field? (row : FieldRow) : Option Field :=
  (FieldKind.ofServerType? row.fieldtype).map fun kind =>
    { name := row.fieldname
      label := row.labelOrName
      kind := kind
      options := (row.options.map (optionsFor kind)).getD [] }

end FieldRow

end RecordFilter
