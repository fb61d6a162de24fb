import RecordFilter.Field

/-!
# Catalogs

The fields of a record list in display order.  A catalog that is built from a list of fields
keeps the first field of each name.  A name that the catalog does not know still resolves to a
field, a plain text field, since an applied filter may have been written against an older
catalog.
-/

namespace RecordFilter

/-- The filterable fields of a record list. -/
structure Catalog where
  fields : List Field
  deriving DecidableEq, Repr

namespace Catalog

/-- The catalog without fields. -/
def empty : Catalog := ⟨[]⟩

instance : Inhabited Catalog := ⟨empty⟩

/-- The first field with a name. -/
def get? (c : Catalog) (name : String) : Option Field :=
  c.fields.find? fun field => field.name = name

/-- Whether there is a field with a name. -/
def contains (c : Catalog) (name : String) : Bool :=
  (c.get? name).isSome

/-- The field with a name, or a text field of that name. -/
def resolve (c : Catalog) (name : String) : Field :=
  (c.get? name).getD (Field.named name .text)

/-- Appends a field unless there is one with its name. -/
def add (c : Catalog) (field : Field) : Catalog :=
  if c.contains field.name then c else ⟨c.fields ++ [field]⟩

/-- Appends fields one after the other. -/
def addAll (c : Catalog) (fields : List Field) : Catalog :=
  fields.foldl add c

/-- The catalog of some fields; of fields with one name the first is kept. -/
def ofFields (fields : List Field) : Catalog :=
  empty.addAll fields

/-- The catalog of the fields that some rows describe. -/
def ofRows (rows : List FieldRow) : Catalog :=
  ofFields (rows.filterMap FieldRow.field?)

/-- The fields that every record list of a document type has. -/
def standardFields (doctype : String) : List Field :=
  [⟨"name", "ID", .link, [doctype]⟩,
   ⟨"owner", "Created By", .link, ["User"]⟩,
   ⟨"modified_by", "Last Updated By", .link, ["User"]⟩,
   ⟨"creation", "Created On", .datetime, []⟩,
   ⟨"modified", "Last Updated On", .datetime, []⟩]

/-- The catalog with the standard fields appended that it does not list. -/
def withStandardFields (c : Catalog) (doctype : String) : Catalog :=
  c.addAll (standardFields doctype)

end Catalog

end RecordFilter
