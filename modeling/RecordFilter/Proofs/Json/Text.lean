import RecordFilter.Proofs.Json.Literal
import RecordFilter.Proofs.Json.Numeral
import RecordFilter.Proofs.Json.Parser

/-!
# Reading back the text of a value

A value is read back from its compact text (`Json.parse?_text`) if nothing in it is lost on the
way (`Json.IsLegible`): it is nested no deeper than a text may be, no object repeats a key, its
integers fit in 64 bits, and each of its numbers in double precision is the one that its own text
stands for.  The last does not go without saying: a numeral is read with an error in the last
place where its digits and its power of ten are not exact.

A text that stands for a string is longer than the string
(`Json.utf8ByteSize_lt_of_parse?`), whatever white space and escapes it is written with.
-/

namespace RecordFilter.Json

/-! ### The numbers in a value -/

mutual

/-- The numbers in a value, in the order in which they are written. -/
def numbers : Json → List JsonNumber
  | .null | .bool _ | .string _ => []
  | .number n => [n]
  | .array items => numbersOfItems items
  | .object members => numbersOfMembers members

/-- The numbers in some items. -/
def numbersOfItems : List Json → List JsonNumber
  | [] => []
  | item :: rest => numbers item ++ numbersOfItems rest

/-- The numbers in some members. -/
def numbersOfMembers : List (String × Json) → List JsonNumber
  | [] => []
  | (_, value) :: rest => numbers value ++ numbersOfMembers rest

end

/-- The numbers in an array are those in its items. -/
lemma mem_numbers_array {n : JsonNumber} {item : Json} {items : List Json} (hitem : item ∈ items)
    (hn : n ∈ item.numbers) : n ∈ (Json.array items).numbers := by
  rw [numbers]
  induction items with
  | nil => exact absurd hitem List.not_mem_nil
  | cons first rest ih =>
    rw [numbersOfItems, List.mem_append]
    rcases List.mem_cons.1 hitem with rfl | hrest
    · exact .inl hn
    · exact .inr (ih hrest)

/-- The numbers in an object are those in its members. -/
lemma mem_numbers_object {n : JsonNumber} {member : String × Json}
    {members : List (String × Json)} (hmember : member ∈ members) (hn : n ∈ member.2.numbers) :
    n ∈ (Json.object members).numbers := by
  rw [numbers]
  induction members with
  | nil => exact absurd hmember List.not_mem_nil
  | cons first rest ih =>
    obtain ⟨key, value⟩ := first
    rw [numbersOfMembers, List.mem_append]
    rcases List.mem_cons.1 hmember with rfl | hrest
    · exact .inl hn
    · exact .inr (ih hrest)

/-! ### The tokens of a compact text -/

namespace Token

variable {cs rest : List Char} {tokens more : List Token}

/-- A character that is a token stands in front of the other tokens. -/
lemma ofChars?_cons {c : Char} {t : Token} (hnext : next? (c :: cs) = some (some t, cs))
    (hcs : ofChars? cs = some tokens) : ofChars? (c :: cs) = some (t :: tokens) := by
  rw [ofChars?_of_next? hnext, hcs]
  rfl

/-- Two texts have the tokens of both. -/
lemma ofChars?_append_eq_some (hcs : ofChars? cs = some tokens)
    (hrest : ofChars? rest = some more) (hend : EndsNumeral rest) :
    ofChars? (cs ++ rest) = some (tokens ++ more) := by
  rw [ofChars?_append hcs hend, hrest, Option.map_some]

/-- What follows an item goes on with no numeral. -/
lemma endsNumeral_moreItemsChars (items : List Json) : EndsNumeral (moreItemsChars items) := by
  cases items <;> simp [moreItemsChars, EndsNumeral, Char.isDigit]

/-- What follows a member goes on with no numeral. -/
lemma endsNumeral_moreMembersChars (members : List (String × Json)) :
    EndsNumeral (moreMembersChars members) := by
  cases members <;> simp [moreMembersChars, EndsNumeral, Char.isDigit]

/-- What follows an item is written as its tokens if the items behind it are. -/
lemma ofChars?_moreItemsChars {items : List Json}
    (h : ∀ item ∈ items, ofChars? item.chars = some item.tokens) :
    ofChars? (moreItemsChars items) = some (moreItemsTokens items) := by
  induction items with
  | nil => exact ofChars?_cons rfl ofChars?_nil
  | cons item items ih =>
    rw [List.forall_mem_cons] at h
    exact ofChars?_cons rfl
      (ofChars?_append_eq_some h.1 (ih h.2) (endsNumeral_moreItemsChars items))

/-- The items of an array are written as their tokens if each of them is. -/
lemma ofChars?_itemsChars {items : List Json}
    (h : ∀ item ∈ items, ofChars? item.chars = some item.tokens) :
    ofChars? (itemsChars items) = some (itemsTokens items) := by
  cases items with
  | nil => exact ofChars?_cons rfl ofChars?_nil
  | cons item items =>
    rw [List.forall_mem_cons] at h
    exact ofChars?_append_eq_some h.1 (ofChars?_moreItemsChars h.2)
      (endsNumeral_moreItemsChars items)

/-- A member is written as its key, a colon and the tokens of its value. -/
lemma ofChars?_memberChars {key : String} {value : Json} {members : List (String × Json)}
    (hvalue : ofChars? value.chars = some value.tokens)
    (hrest : ofChars? (moreMembersChars members) = some (moreMembersTokens members)) :
    ofChars? (stringChars key ++ ':' :: (value.chars ++ moreMembersChars members)) =
      some (.string (some key) :: .colon :: (value.tokens ++ moreMembersTokens members)) := by
  have hcolon : ofChars? (':' :: (value.chars ++ moreMembersChars members)) =
      some (.colon :: (value.tokens ++ moreMembersTokens members)) :=
    ofChars?_cons rfl
      (ofChars?_append_eq_some hvalue hrest (endsNumeral_moreMembersChars members))
  refine ofChars?_append_eq_some (ofChars?_stringChars key) hcolon ?_
  simp [EndsNumeral, Char.isDigit]

/-- What follows a member is written as its tokens if the members behind it are. -/
lemma ofChars?_moreMembersChars {members : List (String × Json)}
    (h : ∀ member ∈ members, ofChars? member.2.chars = some member.2.tokens) :
    ofChars? (moreMembersChars members) = some (moreMembersTokens members) := by
  induction members with
  | nil => exact ofChars?_cons rfl ofChars?_nil
  | cons member members ih =>
    rw [List.forall_mem_cons] at h
    exact ofChars?_cons rfl (ofChars?_memberChars h.1 (ih h.2))

/-- The members of an object are written as their tokens if each of them is. -/
lemma ofChars?_membersChars {members : List (String × Json)}
    (h : ∀ member ∈ members, ofChars? member.2.chars = some member.2.tokens) :
    ofChars? (membersChars members) = some (membersTokens members) := by
  cases members with
  | nil => exact ofChars?_cons rfl ofChars?_nil
  | cons member members =>
    rw [List.forall_mem_cons] at h
    exact ofChars?_memberChars h.1 (ofChars?_moreMembersChars h.2)

/-- **Texts are written as tokens.**  The compact text of a value has the tokens of the value if
each number in it is written as one token. -/
theorem ofChars?_chars {json : Json}
    (h : ∀ n ∈ json.numbers, ofChars? n.chars = some [.number (some n)]) :
    ofChars? json.chars = some json.tokens := by
  induction json using Json.induction with
  | null => exact ofChars?_of_next?_nil rfl
  | bool b => cases b <;> exact ofChars?_of_next?_nil rfl
  | number n => exact h n List.mem_cons_self
  | string s => exact ofChars?_stringChars s
  | array items ih =>
    exact ofChars?_cons rfl <| ofChars?_itemsChars fun item hitem =>
      ih item hitem fun n hn => h n (mem_numbers_array hitem hn)
  | object members ih =>
    exact ofChars?_cons rfl <| ofChars?_membersChars fun member hmember =>
      ih member hmember fun n hn => h n (mem_numbers_object hmember hn)

end Token

/-! ### Texts of scalars -/

/-- Only a scalar has the draft of one. -/
lemma eq_draft_of_value? {draft : Draft} {json : Json} (h : draft.value? = some json)
    (hscalar : ¬ json.draft.IsContainer) : draft = json.draft := by
  cases draft with
  | void => cases h
  | array items =>
    obtain ⟨values, -, rfl⟩ := Option.map_eq_some_iff.1 h
    exact absurd trivial hscalar
  | object members =>
    obtain ⟨values, -, rfl⟩ := Option.map_eq_some_iff.1 h
    exact absurd trivial hscalar
  | _ =>
    obtain rfl := Option.some.inj h
    rfl

/-- A scalar has no keys to settle. -/
lemma eq_of_settled {value json : Json} (h : value.settled = json)
    (hscalar : ¬ json.draft.IsContainer) : value = json := by
  subst h
  cases value with
  | array items => exact absurd trivial hscalar
  | object members => exact absurd trivial hscalar
  | _ => rfl

/-- The token that delivers a scalar is the one that it is written as. -/
lemma singleton_eq_tokens {t : Token} {json : Json}
    (h : beginValue? [] t = some (.nothing json.draft)) (hscalar : ¬ json.draft.IsContainer) :
    [t] = json.tokens := by
  cases json with
  | array items => exact absurd trivial hscalar
  | object members => exact absurd trivial hscalar
  | _ =>
    cases t with
    | number n => cases n <;> simp_all [beginValue?, deliver, draft, tokens]
    | string s => cases s <;> simp_all [beginValue?, deliver, draft, tokens]
    | _ => simp_all [beginValue?, deliver, draft, tokens]

/-- A text that stands for a scalar has one token, the one that the scalar is written as. -/
lemma ofChars?_of_parse? {text : String} {json : Json} (h : parse? text = some json)
    (hscalar : ¬ json.draft.IsContainer) : Token.ofChars? text.toList = some json.tokens := by
  obtain ⟨value, hvalue, hsettled⟩ := Option.map_eq_some_iff.1 h
  obtain ⟨draft, hdraft, hvalue⟩ := Option.bind_eq_some_iff.1 hvalue
  obtain ⟨tokens, htokens, hdraft⟩ := Option.bind_eq_some_iff.1 hdraft
  obtain rfl := eq_of_settled hsettled hscalar
  obtain rfl := eq_draft_of_value? hvalue hscalar
  obtain ⟨t, rfl, ht⟩ := Draft.exists_eq_singleton_of_ofTokens? hdraft hscalar
  rw [htokens, singleton_eq_tokens ht hscalar]

/-- **Strings are shorter than their texts.**  A text that stands for a string has more bytes than
the string. -/
theorem utf8ByteSize_lt_of_parse? {text s : String} (h : parse? text = some (.string s)) :
    s.utf8ByteSize < text.utf8ByteSize := by
  have hlt := Token.utf8ByteSize_lt_of_ofChars? (ofChars?_of_parse? h id)
  rwa [String.ofList_toList] at hlt

/-! ### Reading back -/

/-- A value that can be read back from its text. -/
structure IsLegible (json : Json) : Prop where
  /-- It is nested no deeper than a text may be. -/
  depth_le : json.depth ≤ maxDepth
  /-- No object repeats a key. -/
  settled_eq : json.settled = json
  /-- The integers fit in 64 bits. -/
  integers : ∀ n, .integer n ∈ json.numbers → -(Nat.pow 2 63 : Int) ≤ n ∧ n < Numeral.wordBound
  /-- The numbers in double precision are those that their texts stand for. -/
  reals : ∀ x, .real x ∈ json.numbers →
    parse? (Json.number (.real x)).text = some (.number (.real x))

/-- The number in a legible value is one token. -/
lemma IsLegible.ofChars?_number {json : Json} (h : json.IsLegible) {n : JsonNumber}
    (hn : n ∈ json.numbers) : Token.ofChars? n.chars = some [.number (some n)] := by
  cases n with
  | integer n => exact Token.ofChars?_integerChars (h.integers n hn).1 (h.integers n hn).2
  | real x => simpa [text, chars, tokens] using ofChars?_of_parse? (h.reals x hn) id

/-- **Texts read back.**  A legible value is read back from its text. -/
theorem parse?_text {json : Json} (h : json.IsLegible) : parse? json.text = some json := by
  have hchars : Token.ofChars? json.chars = some json.tokens :=
    Token.ofChars?_chars fun n hn => h.ofChars?_number hn
  rw [parse?, Draft.ofText?, text, String.toList_ofList, hchars, Option.bind_some,
    Draft.ofTokens?_tokens h.depth_le, Option.bind_some, value?_draft, Option.map_some,
    h.settled_eq]

/-- Every string is legible. -/
lemma isLegible_string (s : String) : (Json.string s).IsLegible where
  depth_le := Nat.zero_le _
  settled_eq := rfl
  integers _ h := absurd h List.not_mem_nil
  reals _ h := absurd h List.not_mem_nil

end RecordFilter.Json
