import Mathlib.Data.List.Induction
import RecordFilter.Proofs.Condition
import RecordFilter.Proofs.InOrder
import RecordFilter.Proofs.Text.Blank

/-!
# The fields of a catalog

A row of the server describes a field if its type is one by which records can be filtered;
`FieldRow.Describes` says which field that is.

Of fields with one name a catalog keeps the first.  `Firsts` says which fields are kept of a list
and in which order, and there is one such list (`Firsts.unique`).  A field that is added keeps the
catalog the firsts of what it has been given (`Firsts.add`), and so do any number of fields, one
after the other (`Firsts.addAll`); in particular a catalog consists of the firsts of the fields
that its rows describe (`firsts_ofRows`).

The standard fields come last, so they take no name that is there already, and since adding them
makes their names present it is done once and for all (`completes_withStandardFields`).
-/

namespace RecordFilter

/-! ### The field of a row -/

namespace FieldKind

/-- The types of the server by which records can be filtered, with the kind of their fields. -/
def serverTypes : List (String × FieldKind) :=
  [("Check", .boolean), ("Link", .link), ("Dynamic Link", .dynamicLink), ("Int", .numeric),
    ("Float", .numeric), ("Currency", .numeric), ("Percent", .numeric), ("Select", .singleSelect),
    ("Data", .text), ("Small Text", .text), ("Text", .text), ("Long Text", .longText),
    ("Text Editor", .longText), ("Date", .date), ("Datetime", .datetime), ("Rating", .rating),
    ("Duration", .duration)]

/-- The types of the server that have a kind are those of the table. -/
lemma ofServerType?_eq_some_iff {type : String} {kind : FieldKind} :
    ofServerType? type = some kind ↔ (type, kind) ∈ serverTypes := by
  constructor
  · intro h
    unfold ofServerType? at h
    split at h <;> cases h <;> decide
  · have htable : ∀ entry ∈ serverTypes, ofServerType? entry.1 = some entry.2 := by decide
    exact htable (type, kind)

end FieldKind

namespace FieldRow

variable {row : FieldRow} {field : Field}

/-- The texts in which the options of a row are found: every line is an option of a select field,
the whole text is the target of a link, and a field of another kind has no options. -/
def optionTexts (row : FieldRow) (kind : FieldKind) : List String :=
  match row.options with
  | none => []
  | some text =>
    if kind = .singleSelect then (text.toList.splitOn '\n').map String.ofList
    else if kind = .link ∨ kind = .dynamicLink then [text]
    else []

/-- A row describes a field if fields of the type it names can be filtered by; the kind, the name,
the label and the options of the field come from the row. -/
structure Describes (row : FieldRow) (field : Field) : Prop where
  kind : (row.fieldtype, field.kind) ∈ FieldKind.serverTypes
  name : field.name = row.fieldname
  /-- A label that is not empty is the label of the field. -/
  label : ∀ label, row.label = some label → label ≠ "" → field.label = label
  /-- Without such a label the field is labelled by its name. -/
  label_of_missing : (∀ label, row.label = some label → label = "") → field.label = row.fieldname
  /-- Options are trimmed, and those that are blank do not count. -/
  options : field.options =
    ((row.optionTexts field.kind).filter fun text => !Text.isBlankText text).map Text.trim

/-- The options of a row are those of its text that are not blank, trimmed. -/
lemma getD_map_optionsFor (row : FieldRow) (kind : FieldKind) :
    (row.options.map (optionsFor kind)).getD [] =
      ((row.optionTexts kind).filter fun text => !Text.isBlankText text).map Text.trim := by
  rw [← Text.filter_map_trim, optionTexts]
  cases row.options with
  | none => rfl
  | some text =>
    cases kind with
    | singleSelect =>
      change ((Text.split '\n' text).map Text.trim).filter (· ≠ "") = _
      rw [Text.split, Text.splitChars_eq_splitOn]
      rfl
    | link | dynamicLink =>
      by_cases hblank : Text.trim text = "" <;> simp [optionsFor, hblank]
    | _ => rfl

/-- The label of a row is the one that it gives unless that is empty, and else its name. -/
lemma eq_labelOrName_iff {label : String} :
    label = row.labelOrName ↔
      (∀ given, row.label = some given → given ≠ "" → label = given) ∧
        ((∀ given, row.label = some given → given = "") → label = row.fieldname) := by
  rw [labelOrName]
  cases row.label with
  | none => simp
  | some given => by_cases hempty : given = "" <;> simp [hempty]

/-- A row is read as the field that it describes. -/
lemma field?_eq_some_iff : row.field? = some field ↔ row.Describes field := by
  rw [field?, Option.map_eq_some_iff]
  constructor
  · rintro ⟨kind, hkind, rfl⟩
    obtain ⟨hgiven, hmissing⟩ := (@eq_labelOrName_iff row row.labelOrName).1 rfl
    exact ⟨FieldKind.ofServerType?_eq_some_iff.1 hkind, rfl, hgiven, hmissing,
      row.getD_map_optionsFor kind⟩
  · intro h
    refine ⟨field.kind, FieldKind.ofServerType?_eq_some_iff.2 h.kind, ?_⟩
    rw [← h.name, ← eq_labelOrName_iff.2 ⟨h.label, h.label_of_missing⟩, getD_map_optionsFor,
      ← h.options]

/-- A label is empty only if there is no name to take its place. -/
lemma Describes.name_eq_empty (h : row.Describes field) (hlabel : field.label = "") :
    field.name = "" := by
  -- a label that is not empty would be the label of the field
  have hmissing : ∀ given, row.label = some given → given = "" := by
    intro given hgiven
    by_contra hne
    exact hne ((h.label given hgiven hne).symm.trans hlabel)
  rw [h.name, ← h.label_of_missing hmissing, hlabel]

/-- The options of a field are trimmed, and none of them is blank. -/
lemma Describes.trim_option (h : row.Describes field) {option : String}
    (hmem : option ∈ field.options) :
    Text.trim option = option ∧ Text.isBlankText option = false := by
  rw [h.options] at hmem
  obtain ⟨text, htext, rfl⟩ := List.mem_map.1 hmem
  have hblank : Text.isBlankText text = false := by
    simpa using (List.mem_filter.1 htext).2
  refine ⟨Text.trim_trim text, ?_⟩
  rwa [← Text.trim_ne_empty_iff, Text.trim_trim, Text.trim_ne_empty_iff]

end FieldRow

namespace Catalog

/-! ### The first field of each name -/

/-- The first field with a name in a list. -/
def firstNamed? (fields : List Field) (name : String) : Option Field :=
  fields.find? fun field => field.name = name

/-- Some fields are kept of a list: the first field of each name, in the order of the list. -/
structure Firsts (fields kept : List Field) : Prop where
  mem_iff : ∀ field, field ∈ kept ↔ firstNamed? fields field.name = some field
  ordered : InOrder (fields.map Field.name) Field.name kept

variable {fields kept others : List Field} {field : Field} {name doctype : String} {c : Catalog}

/-- The first field with a name has that name. -/
lemma name_of_firstNamed? (h : firstNamed? fields name = some field) : field.name = name :=
  name_of_get? (c := ⟨fields⟩) h

/-- There is no first field with a name just if no field has it. -/
lemma firstNamed?_eq_none_iff :
    firstNamed? fields name = none ↔ name ∉ fields.map Field.name := by
  simp only [firstNamed?, List.find?_eq_none, decide_eq_true_eq, List.mem_map, not_exists, not_and]

/-- A field at the end is the first of its name if no other field has it. -/
lemma firstNamed?_concat (fields : List Field) (field : Field) (name : String) :
    firstNamed? (fields ++ [field]) name =
      (firstNamed? fields name).or (if field.name = name then some field else none) := by
  rw [firstNamed?, List.find?_append, List.find?_singleton]
  simp only [decide_eq_true_eq]
  rfl

namespace Firsts

/-- The names of the fields that are kept are those of all fields. -/
lemma mem_names_iff (h : Firsts fields kept) :
    name ∈ kept.map Field.name ↔ name ∈ fields.map Field.name := by
  constructor
  · intro hmem
    obtain ⟨field, hkept, rfl⟩ := List.mem_map.1 hmem
    exact List.mem_map_of_mem (List.mem_of_find?_eq_some ((h.mem_iff field).1 hkept))
  · intro hmem
    obtain ⟨field, hfirst⟩ : ∃ field, firstNamed? fields name = some field :=
      Option.ne_none_iff_exists'.1 fun hnone => firstNamed?_eq_none_iff.1 hnone hmem
    obtain rfl := name_of_firstNamed? hfirst
    exact List.mem_map_of_mem ((h.mem_iff field).2 hfirst)

/-- There is one list of fields that are kept of a list. -/
lemma unique (h : Firsts fields kept) (hothers : Firsts fields others) : kept = others :=
  h.ordered.eq_of_mem_iff hothers.ordered fun field => by rw [h.mem_iff, hothers.mem_iff]

/-- Among the fields that are kept the first with a name is the first with it of all. -/
lemma firstNamed?_eq (h : Firsts fields kept) (name : String) :
    firstNamed? kept name = firstNamed? fields name := by
  cases hkept : firstNamed? kept name with
  | none =>
    rw [firstNamed?_eq_none_iff, h.mem_names_iff, ← firstNamed?_eq_none_iff] at hkept
    exact hkept.symm
  | some field =>
    have hmem : field ∈ kept := List.mem_of_find?_eq_some hkept
    rw [← (h.mem_iff field).1 hmem, name_of_firstNamed? hkept]

/-- Of no fields none is kept. -/
lemma nil : Firsts [] [] where
  mem_iff := by simp [firstNamed?]
  ordered := List.Pairwise.nil

/-- The names of the fields that are kept are names of all fields. -/
lemma name_mem (h : Firsts fields kept) : ∀ field ∈ kept, field.name ∈ fields.map Field.name :=
  fun _ hmem => h.mem_names_iff.1 (List.mem_map_of_mem hmem)

/-- A field whose name is there already is not kept. -/
lemma concat_of_known (h : Firsts fields kept) (hknown : field.name ∈ fields.map Field.name) :
    Firsts (fields ++ [field]) kept where
  mem_iff other := by
    rw [h.mem_iff, firstNamed?_concat]
    cases hfirst : firstNamed? fields other.name with
    | some first => rfl
    | none =>
      have hne : field.name ≠ other.name := fun heq =>
        firstNamed?_eq_none_iff.1 hfirst (heq ▸ hknown)
      rw [if_neg hne, Option.or_none]
  ordered := by
    rw [List.map_append]
    exact h.ordered.append h.name_mem _

/-- A field with a new name is kept behind the others. -/
lemma concat_of_new (h : Firsts fields kept) (hnew : field.name ∉ fields.map Field.name) :
    Firsts (fields ++ [field]) (kept ++ [field]) where
  mem_iff other := by
    rw [List.mem_append, List.mem_singleton, h.mem_iff, firstNamed?_concat]
    cases hfirst : firstNamed? fields other.name with
    | some first =>
      -- another field has the name already, so that it is not the name of the new one
      have hne : other ≠ field := by
        rintro rfl
        rw [firstNamed?_eq_none_iff.2 hnew] at hfirst
        exact Option.some_ne_none first hfirst.symm
      rw [or_iff_left hne, Option.some_or]
    | none =>
      rw [or_iff_right (Option.some_ne_none other).symm, Option.none_or]
      split_ifs with heq
      · rw [Option.some_inj, eq_comm]
      · exact ⟨fun hother => absurd (hother ▸ rfl) heq, fun hnone => nomatch hnone⟩
  ordered := by
    rw [List.map_append]
    exact h.ordered.concat h.name_mem hnew

end Firsts

/-! ### Adding fields -/

/-- A catalog knows the names of its fields. -/
lemma contains_iff : c.contains name = true ↔ name ∈ c.fields.map Field.name := by
  rw [contains, Option.isSome_iff_ne_none, Ne, get?, ← firstNamed?, firstNamed?_eq_none_iff,
    not_not]

/-- One more field is added after the others. -/
lemma addAll_concat (c : Catalog) (more : List Field) (field : Field) :
    c.addAll (more ++ [field]) = (c.addAll more).add field := by
  rw [addAll, List.foldl_append, List.foldl_cons, List.foldl_nil, addAll]

/-- A field that is added is kept if it is the first of its name. -/
lemma Firsts.add (h : Firsts fields c.fields) (field : Field) :
    Firsts (fields ++ [field]) (c.add field).fields := by
  rw [Catalog.add]
  split_ifs with hknown
  · exact h.concat_of_known (h.mem_names_iff.1 (contains_iff.1 hknown))
  · exact h.concat_of_new fun hmem => hknown (contains_iff.2 (h.mem_names_iff.2 hmem))

/-- **The fields of a catalog are the firsts of all fields that it has been given.** -/
theorem Firsts.addAll (h : Firsts fields c.fields) (more : List Field) :
    Firsts (fields ++ more) (c.addAll more).fields := by
  -- from the end, since a field meets the catalog of all fields before it
  induction more using List.reverseRecOn with
  | nil => rwa [List.append_nil]
  | append_singleton more field ih =>
    rw [← List.append_assoc, addAll_concat]
    exact ih.add field

/-- A field that is added makes its name known. -/
lemma contains_add :
    (c.add field).contains name = true ↔ c.contains name = true ∨ name = field.name := by
  rw [add]
  split_ifs with hknown
  · exact (or_iff_left_of_imp fun heq => heq ▸ hknown).symm
  · rw [contains_iff, contains_iff, List.map_append, List.mem_append, List.map_singleton,
      List.mem_singleton]

/-- Fields that are added make their names known. -/
lemma contains_addAll {more : List Field} :
    (c.addAll more).contains name = true ↔ c.contains name = true ∨ name ∈ more.map Field.name := by
  induction more using List.reverseRecOn with
  | nil => simp [addAll]
  | append_singleton more field ih =>
    rw [addAll_concat, contains_add, ih, or_assoc, List.map_append, List.mem_append,
      List.map_singleton, List.mem_singleton]

/-- The fields that are there stay in front of a field that is added. -/
lemma fields_prefix_add (c : Catalog) (field : Field) : c.fields <+: (c.add field).fields := by
  rw [add]
  split_ifs
  · exact List.prefix_rfl
  · exact List.prefix_append _ _

/-- The fields that are there stay in front of the fields that are added. -/
lemma fields_prefix_addAll (c : Catalog) (more : List Field) :
    c.fields <+: (c.addAll more).fields := by
  induction more using List.reverseRecOn with
  | nil => exact List.prefix_rfl
  | append_singleton more field ih =>
    rw [addAll_concat]
    exact ih.trans (fields_prefix_add _ field)

/-- The field that a catalog has for a name stays when fields are added. -/
lemma get?_addAll_of_contains (hknown : c.contains name = true) (more : List Field) :
    (c.addAll more).get? name = c.get? name := by
  obtain ⟨field, hfield⟩ := Option.isSome_iff_exists.1 hknown
  rw [hfield]
  exact (fields_prefix_addAll c more).find?_eq_some hfield

/-- A field whose name is there already adds nothing. -/
lemma addAll_of_contains (h : ∀ field ∈ fields, c.contains field.name = true) :
    c.addAll fields = c := by
  induction fields with
  | nil => rfl
  | cons field fields ih =>
    rw [addAll, List.foldl_cons, add, if_pos (h field List.mem_cons_self)]
    exact ih fun other hother => h other (List.mem_cons_of_mem _ hother)

/-! ### The fields that rows describe -/

/-- A catalog consists of the firsts of the fields that its rows describe. -/
lemma firsts_ofRows (rows : List FieldRow) :
    Firsts (rows.filterMap FieldRow.field?) (ofRows rows).fields :=
  Firsts.nil.addAll (c := empty) _

/-- Each field of a catalog is described by one of its rows. -/
lemma exists_describes {rows : List FieldRow} (h : field ∈ (ofRows rows).fields) :
    ∃ row ∈ rows, row.Describes field := by
  have hmem : field ∈ rows.filterMap FieldRow.field? :=
    List.mem_of_find?_eq_some (((firsts_ofRows rows).mem_iff field).1 h)
  obtain ⟨row, hrow, hfield⟩ := List.mem_filterMap.1 hmem
  exact ⟨row, hrow, FieldRow.field?_eq_some_iff.1 hfield⟩

/-- A catalog collects the fields that some rows describe: of each name the first, in the order of
the rows. -/
structure Collects (rows : List FieldRow) (c : Catalog) : Prop where
  firsts_iff : ∀ kept, Firsts (rows.filterMap FieldRow.field?) kept ↔ kept = c.fields
  nodup_names : (c.fields.map Field.name).Nodup
  get?_eq : ∀ name, c.get? name = firstNamed? (rows.filterMap FieldRow.field?) name
  name_resolve : ∀ name, (c.resolve name).name = name
  options : ∀ field ∈ c.fields, ∀ option ∈ field.options,
    Text.trim option = option ∧ Text.isBlankText option = false
  label : ∀ field ∈ c.fields, field.label = "" → field.name = ""

/-- A catalog collects the fields that its rows describe. -/
lemma collects_ofRows (rows : List FieldRow) : Collects rows (ofRows rows) where
  firsts_iff kept :=
    ⟨fun hkept => hkept.unique (firsts_ofRows rows), fun heq => heq ▸ firsts_ofRows rows⟩
  nodup_names := (firsts_ofRows rows).ordered.nodup_map
  get?_eq := (firsts_ofRows rows).firstNamed?_eq
  name_resolve := (ofRows rows).name_resolve
  options field hfield option hmem := by
    obtain ⟨row, -, hrow⟩ := exists_describes hfield
    exact hrow.trim_option hmem
  label field hfield hlabel := by
    obtain ⟨row, -, hrow⟩ := exists_describes hfield
    exact hrow.name_eq_empty hlabel

/-! ### The standard fields -/

/-- The names of the standard fields. -/
def standardNames : List String :=
  ["name", "owner", "modified_by", "creation", "modified"]

/-- The standard fields have the standard names, whatever the document type. -/
lemma map_name_standardFields (doctype : String) :
    (standardFields doctype).map Field.name = standardNames := rfl

/-- A catalog completes another: it has the standard names, keeps the fields that were there and
what each name stood for, and the standard fields of no document type add anything to it. -/
structure Completes (c completed : Catalog) : Prop where
  fields_prefix : c.fields <+: completed.fields
  get?_eq : ∀ name, c.contains name = true → completed.get? name = c.get? name
  contains : ∀ name ∈ standardNames, completed.contains name = true
  again : ∀ doctype, completed.withStandardFields doctype = completed

/-- A catalog with the standard fields has the standard names. -/
lemma contains_withStandardFields (c : Catalog) (doctype : String) (h : name ∈ standardNames) :
    (c.withStandardFields doctype).contains name = true := by
  rw [withStandardFields, contains_addAll, map_name_standardFields]
  exact .inr h

/-- The standard fields complete a catalog. -/
lemma completes_withStandardFields (c : Catalog) (doctype : String) :
    Completes c (c.withStandardFields doctype) where
  fields_prefix := fields_prefix_addAll c _
  get?_eq _ hknown := get?_addAll_of_contains hknown _
  contains _ hstandard := contains_withStandardFields c doctype hstandard
  again other := addAll_of_contains fun field hfield =>
    contains_withStandardFields c doctype <| by
      rw [← map_name_standardFields other]
      exact List.mem_map_of_mem hfield

/-- **Of each name the first field is kept.**  A row describes a field if fields of its type can be
filtered by; the catalog of some rows collects the fields that they describe, and the standard
fields of any document type complete it. -/
theorem keeps_firsts (rows : List FieldRow) :
    (∀ row : FieldRow, ∀ field, row.field? = some field ↔ row.Describes field) ∧
      Collects rows (ofRows rows) ∧
        ∀ doctype,
          Firsts (rows.filterMap FieldRow.field? ++ standardFields doctype)
            ((ofRows rows).withStandardFields doctype).fields ∧
          Completes (ofRows rows) ((ofRows rows).withStandardFields doctype) := by
  refine ⟨fun row field => FieldRow.field?_eq_some_iff, collects_ofRows rows, fun doctype => ?_⟩
  exact ⟨(firsts_ofRows rows).addAll _, completes_withStandardFields _ doctype⟩

/-- A second row with a name and a row with an unknown type count for nothing, the label of a field
without one is its name, and a standard field does not replace a field of the server. -/
example :
    (((ofRows
      [⟨"status", some "Status", "Select", some " Open\n\nClosed "⟩,
       ⟨"details", some "Details", "Section Break", none⟩,
       ⟨"owner", none, "Data", none⟩,
       ⟨"status", some "State", "Data", none⟩]).withStandardFields "Ticket").fields.take 3 =
      [⟨"status", "Status", .singleSelect, ["Open", "Closed"]⟩,
       ⟨"owner", "owner", .text, []⟩,
       ⟨"name", "ID", .link, ["Ticket"]⟩]) := by
  decide +kernel

end Catalog

end RecordFilter
