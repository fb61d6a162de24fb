import Mathlib.Tactic.Common
import RecordFilter.Form
import RecordFilter.Proofs.Json.Draft

/-!
# Lawful forms

A form is lawful if every value is read back from the JSON value that it is written as.  The law is
stated for drafts, so that the form of a list, a pair or a record is lawful as soon as the forms of
its parts are; `decode?_encode` is the law for JSON values.

A record is read by the names of its members.  An object that has these names, each once, gives its
members in their order (`record?_object`), and that is how every record is written.
-/

namespace RecordFilter

open Json (Draft)

namespace JsonForm

/-- Every value of a type is read back from its form. -/
class Lawful (α : Type) [JsonForm α] : Prop where
  /-- A value is read back from the draft of its form. -/
  read?_draft_encode : ∀ value : α, read? (encode value).draft = some value

attribute [simp] Lawful.read?_draft_encode

/-- **Forms are read back.**  A value is read back from the JSON value that is written for it. -/
theorem decode?_encode {α : Type} [JsonForm α] [Lawful α] (value : α) :
    decode? (encode value) = some value :=
  Lawful.read?_draft_encode value

/-! ### Texts, numbers, lists and pairs -/

instance : Lawful String where
  read?_draft_encode _ := rfl

instance : Lawful Nat where
  read?_draft_encode n := by
    change (if 0 ≤ (n : Int) then some (n : Int).toNat else none) = some n
    rw [if_pos (Int.natCast_nonneg n), Int.toNat_natCast]

/-- Values are read one after the other if each of them is. -/
lemma readAll?_map {α β : Type} {read : β → Option α} {write : α → β} {values : List α}
    (h : ∀ value ∈ values, read (write value) = some value) :
    readAll? read (values.map write) = some values := by
  induction values with
  | nil => rfl
  | cons value rest ih =>
    rw [List.forall_mem_cons] at h
    rw [List.map_cons, readAll?, h.1, ih h.2]

instance {α : Type} [JsonForm α] [Lawful α] : Lawful (List α) where
  read?_draft_encode values := by
    have hmap : (encode values).draft = .array (values.map fun value => (encode value).draft) := by
      rw [encode, instList, Json.draft_array, List.map_map]
      rfl
    rw [hmap]
    exact readAll?_map fun value _ => Lawful.read?_draft_encode value

instance {α β : Type} [JsonForm α] [JsonForm β] [Lawful α] [Lawful β] : Lawful (α × β) where
  read?_draft_encode pair := by
    rw [encode, read?, instProd]
    simp

/-- A text is read back from the string that it is written as. -/
@[simp] lemma read?_string (s : String) : read? (Draft.string s) = some s := rfl

/-- Some texts are read back from the array that they are written as. -/
@[simp] lemma read?_draft_ofStrings (texts : List String) :
    read? (Json.ofStrings texts).draft = some texts :=
  Lawful.read?_draft_encode texts

/-! ### Records -/

/-- A member whose name no other has is found. -/
lemma member?_of_mem {member : String × Draft} {members : List (String × Draft)}
    (hnodup : (members.map Prod.fst).Nodup) (hmem : member ∈ members) :
    member? member.1 members = some (some member.2) := by
  have hfilter : (members.filter fun other => other.1 = member.1) = [member] := by
    induction members with
    | nil => exact absurd hmem List.not_mem_nil
    | cons first rest ih =>
      rw [List.map_cons, List.nodup_cons] at hnodup
      rcases List.mem_cons.1 hmem with rfl | hrest
      · have hnone : (rest.filter fun other => other.1 = member.1) = [] := by
          refine List.filter_eq_nil_iff.2 fun other hother => ?_
          have hne : other.1 ≠ member.1 := fun heq => hnodup.1 (heq ▸ List.mem_map_of_mem hother)
          simpa using hne
        rw [List.filter_cons_of_pos (by simp), hnone]
      · have hne : first.1 ≠ member.1 := fun heq => hnodup.1 (heq ▸ List.mem_map_of_mem hrest)
        rw [List.filter_cons_of_neg (by simpa using hne), ih hnodup.2 hrest]
  rw [member?, hfilter]

/-- An object gives the members with some names, in the order of the names. -/
lemma membersNamed?_map_fst {members part : List (String × Draft)}
    (hnodup : (members.map Prod.fst).Nodup) (hsub : part ⊆ members) :
    membersNamed? members (part.map Prod.fst) = some (part.map fun member => some member.2) := by
  induction part with
  | nil => rfl
  | cons member rest ih =>
    rw [List.cons_subset] at hsub
    rw [List.map_cons, membersNamed?, member?_of_mem hnodup hsub.1, ih hsub.2, List.map_cons]

/-- An object that has some names, each once, gives its members in their order. -/
lemma namedMembers?_object {names : List String} {members : List (String × Draft)}
    (hnames : members.map Prod.fst = names) (hnodup : names.Nodup) :
    namedMembers? names (.object members) = some (members.map fun member => some member.2) := by
  subst hnames
  exact membersNamed?_map_fst hnodup (List.Subset.refl members)

/-- A record is read from an object by the names of the members. -/
lemma record?_object {names : List String} {members : List (String × Draft)}
    (hnames : members.map Prod.fst = names) (hnodup : names.Nodup) :
    record? names (.object members) = some (members.map fun member => some member.2) :=
  namedMembers?_object hnames hnodup

/-- A member that must be there is read if it is there. -/
@[simp] lemma required?_some {α : Type} [JsonForm α] (member : Draft) :
    required? (some member) = (read? member : Option α) :=
  rfl

/-- A member that may be missing is read if it is there. -/
@[simp] lemma orElse?_some {α : Type} [JsonForm α] (default : α) (member : Draft) :
    orElse? default (some member) = read? member :=
  rfl

/-! ### Values that may be missing -/

/-- A value that may be missing is read back if no value is written as null. -/
lemma read?_draft_encode_option {α : Type} [JsonForm α] [Lawful α]
    (hnull : ∀ value : α, encode value ≠ .null) (value : Option α) :
    read? (encode value).draft = some value := by
  cases value with
  | none => rfl
  | some value =>
    rw [encode, read?, instOption]
    dsimp only
    split
    · next hdraft => exact absurd (Json.eq_null_of_draft_eq_null hdraft) (hnull value)
    · rw [Lawful.read?_draft_encode, Option.map_some]

/-! ### Enumerations -/

/-- A value of an enumeration is read back from its name if the names tell the values apart. -/
lemma read?_draft_encode_ofNames {α : Type} {all : List α} {name : α → String}
    (h : ∀ value, (all.find? fun other => name other = name value) = some value) (value : α) :
    (ofNames all name).read? ((ofNames all name).encode value).draft = some value :=
  h value

end JsonForm

end RecordFilter
