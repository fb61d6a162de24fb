import RecordFilter.Json.Numeral

/-!
# The tokens of JSON text

A JSON text is a sequence of brackets, commas, colons and scalars with white space between them.
`Token.ofChars?` reads the sequence, or fails at the first character that belongs to no token.
White space is the space, the tab, the line feed and the carriage return only.

A string or a number may keep to the grammar and yet stand for nothing: a string that escapes
half of a surrogate pair, and a number beyond the greatest one.  Such a token has no value.
-/

namespace RecordFilter.Json

/-- A token of JSON text. -/
inductive Token where
  | openArray
  | closeArray
  | openObject
  | closeObject
  | comma
  | colon
  | null
  | bool (value : Bool)
  | number (value : Option JsonNumber)
  | string (value : Option String)
  deriving Repr

namespace Token

/-- The value of a hexadecimal digit. -/
def hexDigit? (c : Char) : Option Nat :=
  if '0' ≤ c ∧ c ≤ '9' then some (c.toNat - '0'.toNat)
  else if 'a' ≤ c ∧ c ≤ 'f' then some (c.toNat - 'a'.toNat + 10)
  else if 'A' ≤ c ∧ c ≤ 'F' then some (c.toNat - 'A'.toNat + 10)
  else none

/-- The value of four hexadecimal digits. -/
def hexWord? (a b c d : Char) : Option Nat := do
  return (((← hexDigit? a) * 16 + (← hexDigit? b)) * 16 + (← hexDigit? c)) * 16 + (← hexDigit? d)

/-- A part of a string: a character, or one half of a surrogate pair. -/
inductive StringPart where
  | char (c : Char)
  | half (unit : Nat)
  deriving DecidableEq, Repr

namespace StringPart

/-- Whether a code unit is the first half of a surrogate pair. -/
def isHighSurrogate (unit : Nat) : Bool := 0xD800 ≤ unit && unit ≤ 0xDBFF

/-- Whether a code unit is the second half of a surrogate pair. -/
def isLowSurrogate (unit : Nat) : Bool := 0xDC00 ≤ unit && unit ≤ 0xDFFF

/-- The part of a string that a code unit is. -/
def ofUnit (unit : Nat) : StringPart :=
  if isHighSurrogate unit || isLowSurrogate unit then .half unit else .char (Char.ofNat unit)

/-- The characters of some parts, given the character of a surrogate pair.  Halves must come in
pairs, a first half before a second one. -/
def join? (pair : Nat → Nat → Char) : List StringPart → Option (List Char)
  | [] => some []
  | .char c :: rest => (join? pair rest).map (c :: ·)
  | .half high :: .half low :: rest =>
    if isHighSurrogate high && isLowSurrogate low then
      (join? pair rest).map (pair high low :: ·)
    else none
  | .half _ :: _ => none

end StringPart

/-- The character of a surrogate pair. -/
def ofSurrogates (high low : Nat) : Char :=
  Char.ofNat ((high - 0xD800) * 0x400 + (low - 0xDC00) + 0x10000)

/-- The character that a backslash and a letter stand for. -/
def escaped? (c : Char) : Option Char :=
  if c = '"' ∨ c = '\\' ∨ c = '/' then some c
  else if c = 'b' then some '\x08'
  else if c = 'f' then some '\x0c'
  else if c = 'n' then some '\n'
  else if c = 'r' then some '\r'
  else if c = 't' then some '\t'
  else none

/-- Puts what has been read before what is read after it. -/
def before {α : Type} (a : α) : Option (List α × List Char) → Option (List α × List Char)
  | none => none
  | some (as, rest) => some (a :: as, rest)

/-- Reads a string after its opening quote: its parts, and what follows the closing quote.  A
bare control character is refused. -/
def stringBody? : List Char → Option (List StringPart × List Char)
  | [] => none
  | '"' :: rest => some ([], rest)
  | '\\' :: 'u' :: a :: b :: c :: d :: rest =>
    match hexWord? a b c d with
    | none => none
    | some unit => before (.ofUnit unit) (stringBody? rest)
  | '\\' :: c :: rest =>
    match escaped? c with
    | none => none
    | some e => before (.char e) (stringBody? rest)
  | c :: rest =>
    if c.toNat < 0x20 ∨ c = '\\' then none else before (.char c) (stringBody? rest)

/-- The token of a string with the given parts. -/
def ofParts (parts : List StringPart) : Token :=
  .string ((StringPart.join? ofSurrogates parts).map String.ofList)

/-- The leading digits of a text. -/
def digits (cs : List Char) : List Nat :=
  (cs.takeWhile Char.isDigit).map fun c => c.toNat - '0'.toNat

/-- What follows the leading digits of a text. -/
def afterDigits (cs : List Char) : List Char :=
  cs.dropWhile Char.isDigit

/-- Reads the fraction of a numeral, if there is one; a point needs a digit after it. -/
def fraction? : List Char → Option (Option (List Nat) × List Char)
  | '.' :: rest =>
    if (digits rest).isEmpty then none else some (some (digits rest), afterDigits rest)
  | cs => some (none, cs)

/-- Reads the digits of an exponent; there must be one. -/
def exponentDigits? (negative : Bool) (cs : List Char) : Option (Option Int × List Char) :=
  if (digits cs).isEmpty then none
  else
    let magnitude : Int := Numeral.natOf 0 (digits cs)
    some (some (if negative then -magnitude else magnitude), afterDigits cs)

/-- Reads what follows the `e` of an exponent. -/
def exponentBody? : List Char → Option (Option Int × List Char)
  | '+' :: rest => exponentDigits? false rest
  | '-' :: rest => exponentDigits? true rest
  | cs => exponentDigits? false cs

/-- Reads the exponent of a numeral, if there is one. -/
def exponent? : List Char → Option (Option Int × List Char)
  | 'e' :: rest => exponentBody? rest
  | 'E' :: rest => exponentBody? rest
  | cs => some (none, cs)

/-- Whether digits may stand before the point: there is one, and only zero starts with zero. -/
def areWholeDigits : List Nat → Bool
  | [] => false
  | [_] => true
  | first :: _ => first != 0

/-- Reads a numeral after its sign. -/
def numeral? (negative : Bool) (cs : List Char) : Option (Numeral × List Char) :=
  if areWholeDigits (digits cs) then
    match fraction? (afterDigits cs) with
    | none => none
    | some (fraction, rest) =>
      match exponent? rest with
      | none => none
      | some (exponent, rest) => some (⟨negative, digits cs, fraction, exponent⟩, rest)
  else none

/-- Reads a number after its sign. -/
def number? (negative : Bool) (cs : List Char) : Option (Token × List Char) :=
  (numeral? negative cs).map fun read => (.number read.1.value?, read.2)

/-- Reads one token or one character of white space. -/
def next? : List Char → Option (Option Token × List Char)
  | [] => none
  | '[' :: rest => some (some .openArray, rest)
  | ']' :: rest => some (some .closeArray, rest)
  | '\x7b' :: rest => some (some .openObject, rest)
  | '\x7d' :: rest => some (some .closeObject, rest)
  | ',' :: rest => some (some .comma, rest)
  | ':' :: rest => some (some .colon, rest)
  | ' ' :: rest => some (none, rest)
  | '\t' :: rest => some (none, rest)
  | '\n' :: rest => some (none, rest)
  | '\r' :: rest => some (none, rest)
  | 'n' :: 'u' :: 'l' :: 'l' :: rest => some (some .null, rest)
  | 't' :: 'r' :: 'u' :: 'e' :: rest => some (some (.bool true), rest)
  | 'f' :: 'a' :: 'l' :: 's' :: 'e' :: rest => some (some (.bool false), rest)
  | '"' :: rest =>
    (stringBody? rest).map fun read => (some (ofParts read.1), read.2)
  | '-' :: rest => (number? true rest).map fun read => (some read.1, read.2)
  | cs => (number? false cs).map fun read => (some read.1, read.2)

/-! ### Every token takes at least one character -/

theorem length_of_before {α : Type} {a : α} {read : Option (List α × List Char)}
    {s : List α} {rest : List Char} (h : before a read = some (s, rest)) :
    ∃ s', read = some (s', rest) := by
  cases read with
  | none => contradiction
  | some read =>
    simp only [before, Option.some.injEq, Prod.mk.injEq] at h
    exact ⟨read.1, by rw [← h.2]⟩

theorem length_of_stringBody? {cs rest : List Char} {s : List StringPart}
    (h : stringBody? cs = some (s, rest)) : rest.length < cs.length := by
  fun_induction stringBody? cs generalizing s rest with
  | case2 => simp_all
  | case4 | case6 | case8 =>
    rename_i ih
    have := ih (length_of_before h).choose_spec
    simp only [List.length_cons]
    omega
  | _ => contradiction

theorem length_afterDigits_le (cs : List Char) : (afterDigits cs).length ≤ cs.length :=
  (List.dropWhile_suffix _).length_le

theorem length_of_fraction? {cs rest : List Char} {f : Option (List Nat)}
    (h : fraction? cs = some (f, rest)) : rest.length ≤ cs.length := by
  unfold fraction? at h
  split at h
  · next digits =>
    have := length_afterDigits_le digits
    split at h
    · contradiction
    · simp only [Option.some.injEq, Prod.mk.injEq] at h
      simp only [← h.2, List.length_cons]
      omega
  · simp only [Option.some.injEq, Prod.mk.injEq] at h
    simp only [← h.2, Nat.le_refl]

theorem length_of_exponentDigits? {b : Bool} {cs rest : List Char} {e : Option Int}
    (h : exponentDigits? b cs = some (e, rest)) : rest.length ≤ cs.length := by
  unfold exponentDigits? at h
  split at h
  · contradiction
  · simp only [Option.some.injEq, Prod.mk.injEq] at h
    exact h.2 ▸ length_afterDigits_le cs

theorem length_of_exponentBody? {cs rest : List Char} {e : Option Int}
    (h : exponentBody? cs = some (e, rest)) : rest.length ≤ cs.length := by
  unfold exponentBody? at h
  split at h
  · exact Nat.le_succ_of_le (length_of_exponentDigits? h)
  · exact Nat.le_succ_of_le (length_of_exponentDigits? h)
  · exact length_of_exponentDigits? h

theorem length_of_exponent? {cs rest : List Char} {e : Option Int}
    (h : exponent? cs = some (e, rest)) : rest.length ≤ cs.length := by
  unfold exponent? at h
  split at h
  · exact Nat.le_succ_of_le (length_of_exponentBody? h)
  · exact Nat.le_succ_of_le (length_of_exponentBody? h)
  · simp only [Option.some.injEq, Prod.mk.injEq] at h
    simp only [← h.2, Nat.le_refl]

theorem length_afterDigits_lt {cs : List Char} (h : areWholeDigits (digits cs)) :
    (afterDigits cs).length < cs.length := by
  cases cs with
  | nil => simp [digits, areWholeDigits] at h
  | cons c rest =>
    by_cases hc : c.isDigit
    · have := length_afterDigits_le rest
      simp [afterDigits, hc] at this ⊢
      omega
    · simp [digits, hc, areWholeDigits] at h

theorem length_of_numeral? {b : Bool} {cs rest : List Char} {n : Numeral}
    (h : numeral? b cs = some (n, rest)) : rest.length < cs.length := by
  unfold numeral? at h
  split at h
  next hdigits =>
    have := length_afterDigits_lt hdigits
    split at h
    · contradiction
    · next hfraction =>
      have := length_of_fraction? hfraction
      split at h
      · contradiction
      · next hexponent =>
        have := length_of_exponent? hexponent
        simp only [Option.some.injEq, Prod.mk.injEq] at h
        rw [← h.2]
        omega
  · contradiction

theorem length_of_number? {b : Bool} {cs rest : List Char} {t : Token}
    (h : number? b cs = some (t, rest)) : rest.length < cs.length := by
  obtain ⟨_, hread, heq⟩ := Option.map_eq_some_iff.1 h
  simp only [Prod.mk.injEq] at heq
  exact heq.2 ▸ length_of_numeral? hread

theorem length_of_next? {cs rest : List Char} {t : Option Token}
    (h : next? cs = some (t, rest)) : rest.length < cs.length := by
  unfold next? at h
  split at h
  case h_15 body =>
    obtain ⟨⟨_, _⟩, hread, heq⟩ := Option.map_eq_some_iff.1 h
    have := length_of_stringBody? hread
    simp only [Prod.mk.injEq] at heq
    simp only [← heq.2, List.length_cons]
    omega
  case h_16 body =>
    obtain ⟨⟨_, _⟩, hread, heq⟩ := Option.map_eq_some_iff.1 h
    have := length_of_number? hread
    simp only [Prod.mk.injEq] at heq
    simp only [← heq.2, List.length_cons]
    omega
  case h_17 =>
    obtain ⟨⟨_, _⟩, hread, heq⟩ := Option.map_eq_some_iff.1 h
    simp only [Prod.mk.injEq] at heq
    exact heq.2 ▸ length_of_number? hread
  all_goals simp at h
  all_goals simp only [← h.2, List.length_cons]; omega

/-- The tokens of a text. -/
def ofChars? (cs : List Char) : Option (List Token) :=
  match cs with
  | [] => some []
  | c :: cs =>
    match _h : next? (c :: cs) with
    | none => none
    | some (token, rest) => (ofChars? rest).map (token.toList ++ ·)
termination_by cs.length
decreasing_by exact length_of_next? _h

end Token

end RecordFilter.Json
