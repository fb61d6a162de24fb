import Mathlib.Tactic.Common
import RecordFilter.Json.Token

/-!
# Reading a text piece by piece

The tokens of a text followed by another are the tokens of the one followed by the tokens of the
other (`Token.ofChars?_append`), unless the second text goes on with a numeral at the end of the
first: `12` and `34` are two tokens apart and one together.  `EndsNumeral` says of a text that it
goes on with no numeral.  Every other token ends with a character of its own.
-/

namespace RecordFilter.Json.Token

/-- A text that goes on with no numeral in front of it. -/
def EndsNumeral (rest : List Char) : Prop :=
  ∀ c ∈ rest.head?, c.isDigit = false ∧ c ≠ '.' ∧ c ≠ 'e' ∧ c ≠ 'E'

variable {cs tail rest : List Char}

/-! ### Numerals -/

/-- Behind some digits the same digits are read as without a text that follows. -/
lemma digits_append (h : afterDigits cs = [] → EndsNumeral rest) :
    digits (cs ++ rest) = digits cs := by
  induction cs with
  | nil =>
    cases rest with
    | nil => rfl
    | cons c rest => simp [digits, (h rfl c rfl).1]
  | cons c cs ih =>
    by_cases hc : c.isDigit
    · have hrest := ih fun hnil => h (by simpa [afterDigits, hc] using hnil)
      simpa [digits, hc] using hrest
    · simp [digits, hc]

/-- What follows the digits of a text stays in front of a text that follows. -/
lemma afterDigits_append (h : afterDigits cs = [] → EndsNumeral rest) :
    afterDigits (cs ++ rest) = afterDigits cs ++ rest := by
  induction cs with
  | nil =>
    cases rest with
    | nil => rfl
    | cons c rest => simp [afterDigits, (h rfl c rfl).1]
  | cons c cs ih =>
    by_cases hc : c.isDigit
    · have hrest := ih fun hnil => h (by simpa [afterDigits, hc] using hnil)
      simpa [afterDigits, hc] using hrest
    · simp [afterDigits, hc]

/-- A text that goes on with no numeral starts with no fraction. -/
lemma fraction?_of_endsNumeral (h : EndsNumeral rest) : fraction? rest = some (none, rest) := by
  unfold fraction?
  split
  · exact absurd rfl (h _ rfl).2.1
  · rfl

/-- A text that goes on with no numeral starts with no exponent. -/
lemma exponent?_of_endsNumeral (h : EndsNumeral rest) : exponent? rest = some (none, rest) := by
  unfold exponent?
  split
  · exact absurd rfl (h _ rfl).2.2.1
  · exact absurd rfl (h _ rfl).2.2.2
  · rfl

/-- A fraction is read in front of a text that follows. -/
lemma fraction?_append {f : Option (List Nat)} (h : fraction? cs = some (f, tail))
    (hend : tail = [] → EndsNumeral rest) : fraction? (cs ++ rest) = some (f, tail ++ rest) := by
  cases cs with
  | nil =>
    obtain ⟨rfl, rfl⟩ := by simpa [fraction?] using h
    exact fraction?_of_endsNumeral (hend rfl)
  | cons c cs =>
    by_cases hc : c = '.'
    · subst hc
      rw [fraction?] at h
      split_ifs at h with hdigits
      obtain ⟨rfl, rfl⟩ := by simpa using h
      rw [List.cons_append, fraction?, digits_append hend, afterDigits_append hend,
        if_neg hdigits]
    · obtain ⟨rfl, rfl⟩ := by simpa [fraction?, hc] using h
      simp [fraction?, hc]

/-- The digits of an exponent are read in front of a text that follows. -/
lemma exponentDigits?_append {b : Bool} {e : Option Int}
    (h : exponentDigits? b cs = some (e, tail)) (hend : tail = [] → EndsNumeral rest) :
    exponentDigits? b (cs ++ rest) = some (e, tail ++ rest) := by
  unfold exponentDigits? at h ⊢
  by_cases hdigits : (digits cs).isEmpty
  · rw [if_pos hdigits] at h
    contradiction
  · rw [if_neg hdigits] at h
    obtain ⟨rfl, rfl⟩ := Prod.mk.inj (Option.some.inj h)
    rw [digits_append hend, afterDigits_append hend, if_neg hdigits]

/-- What follows the `e` of an exponent is read in front of a text that follows. -/
lemma exponentBody?_append {e : Option Int} (h : exponentBody? cs = some (e, tail))
    (hend : tail = [] → EndsNumeral rest) :
    exponentBody? (cs ++ rest) = some (e, tail ++ rest) := by
  cases cs with
  | nil => simp [exponentBody?, exponentDigits?, digits] at h
  | cons c cs =>
    by_cases hplus : c = '+'
    · subst hplus
      exact exponentDigits?_append h hend
    · by_cases hminus : c = '-'
      · subst hminus
        exact exponentDigits?_append h hend
      · have hplain : ∀ body, exponentBody? (c :: body) = exponentDigits? false (c :: body) := by
          simp [exponentBody?, hplus, hminus]
        rw [hplain] at h
        rw [List.cons_append, hplain]
        exact exponentDigits?_append h hend

/-- An exponent is read in front of a text that follows. -/
lemma exponent?_append {e : Option Int} (h : exponent? cs = some (e, tail))
    (hend : tail = [] → EndsNumeral rest) : exponent? (cs ++ rest) = some (e, tail ++ rest) := by
  cases cs with
  | nil =>
    obtain ⟨rfl, rfl⟩ := by simpa [exponent?] using h
    exact exponent?_of_endsNumeral (hend rfl)
  | cons c cs =>
    by_cases hlower : c = 'e'
    · subst hlower
      exact exponentBody?_append h hend
    · by_cases hupper : c = 'E'
      · subst hupper
        exact exponentBody?_append h hend
      · obtain ⟨rfl, rfl⟩ := by simpa [exponent?, hlower, hupper] using h
        simp [exponent?, hlower, hupper]

/-- A numeral is read in front of a text that does not go on with it. -/
lemma numeral?_append {b : Bool} {n : Numeral} (h : numeral? b cs = some (n, tail))
    (hend : tail = [] → EndsNumeral rest) : numeral? b (cs ++ rest) = some (n, tail ++ rest) := by
  unfold numeral? at h
  split_ifs at h with hdigits
  split at h
  · contradiction
  next f afterFraction hfraction =>
  split at h
  · contradiction
  next e afterExponent hexponent =>
  obtain ⟨rfl, rfl⟩ := by simpa using h
  -- Where one stage has read everything, so have the stages behind it.
  have hafterFraction : afterFraction = [] → EndsNumeral rest := by
    rintro rfl
    exact hend (Prod.mk.inj (Option.some.inj hexponent)).2.symm
  have hafterDigits : afterDigits cs = [] → EndsNumeral rest := by
    intro hnil
    rw [hnil] at hfraction
    exact hafterFraction (Prod.mk.inj (Option.some.inj hfraction)).2.symm
  rw [numeral?, digits_append hafterDigits, if_pos hdigits, afterDigits_append hafterDigits,
    fraction?_append hfraction hafterFraction]
  simp only [exponent?_append hexponent hend]

/-- A number is read in front of a text that does not go on with it. -/
lemma number?_append {b : Bool} {t : Token} (h : number? b cs = some (t, tail))
    (hend : tail = [] → EndsNumeral rest) : number? b (cs ++ rest) = some (t, tail ++ rest) := by
  obtain ⟨read, hread, heq⟩ := Option.map_eq_some_iff.1 h
  obtain ⟨rfl, rfl⟩ := by simpa using heq
  rw [number?, numeral?_append hread hend, Option.map_some]

/-- A number starts with a digit. -/
lemma exists_isDigit_of_number? {b : Bool} {t : Token} (h : number? b cs = some (t, tail)) :
    ∃ c body, cs = c :: body ∧ c.isDigit := by
  obtain ⟨read, hread, -⟩ := Option.map_eq_some_iff.1 h
  cases cs with
  | nil => simp [numeral?, digits, areWholeDigits] at hread
  | cons c body =>
    refine ⟨c, body, rfl, ?_⟩
    by_contra hc
    simp [numeral?, digits, hc, areWholeDigits] at hread

/-! ### Strings -/

/-- What is read after a part is the rest of what is read from the part on. -/
lemma before_eq_some_iff {α : Type} {a : α} {read : Option (List α × List Char)} {as : List α} :
    before a read = some (as, tail) ↔ ∃ more, read = some (more, tail) ∧ a :: more = as := by
  cases read with
  | none => simp [before]
  | some read =>
    obtain ⟨more, rest⟩ := read
    simp only [before, Option.some.injEq, Prod.mk.injEq]
    constructor
    · rintro ⟨rfl, rfl⟩
      exact ⟨more, ⟨rfl, rfl⟩, rfl⟩
    · rintro ⟨_, ⟨rfl, rfl⟩, rfl⟩
      exact ⟨rfl, rfl⟩

/-- The body of a string is read in front of any text that follows. -/
lemma stringBody?_append {parts : List StringPart} (h : stringBody? cs = some (parts, tail)) :
    stringBody? (cs ++ rest) = some (parts, tail ++ rest) := by
  fun_induction stringBody? cs generalizing parts with
  | case1 => contradiction
  | case2 body =>
    obtain ⟨rfl, rfl⟩ := by simpa using h
    rfl
  | case3 a b c d body hword => contradiction
  | case4 a b c d body unit hword ih =>
    obtain ⟨more, hread, rfl⟩ := before_eq_some_iff.1 h
    simp [stringBody?, hword, ih hread, before]
  | case5 => contradiction
  | case6 c body hu e he ih =>
    obtain ⟨more, hread, rfl⟩ := before_eq_some_iff.1 h
    have hc : c ≠ 'u' := by
      rintro rfl
      contradiction
    rw [List.cons_append, List.cons_append, stringBody?]
    · simp [he, ih hread, before]
    · simp_all
  | case7 => contradiction
  | case8 c body hquote hu hslash hc ih =>
    obtain ⟨more, hread, rfl⟩ := before_eq_some_iff.1 h
    rw [not_or] at hc
    rw [List.cons_append, stringBody?]
    · simp [hc, ih hread, before]
    all_goals simp_all

/-! ### Tokens -/

/-- A text that starts with a digit starts with a number. -/
lemma next?_of_isDigit {c : Char} (hc : c.isDigit) (body : List Char) :
    next? (c :: body) = (number? false (c :: body)).map fun read => (some read.1, read.2) := by
  unfold next?
  split <;> first | rfl | exact absurd hc (by simp_all)

/-- A token is read in front of a text that does not go on with it. -/
lemma next?_append {t : Option Token} (h : next? cs = some (t, tail))
    (hend : tail = [] → EndsNumeral rest) : next? (cs ++ rest) = some (t, tail ++ rest) := by
  unfold next? at h
  split at h
  -- A string, a number behind a minus sign and a number without one are read on; the characters of
  -- every other token are matched as they stand.
  case h_15 body =>
    obtain ⟨⟨parts, _⟩, hread, heq⟩ := Option.map_eq_some_iff.1 h
    obtain ⟨rfl, rfl⟩ := by simpa using heq
    simp [next?, stringBody?_append hread]
  case h_16 body =>
    obtain ⟨⟨number, _⟩, hread, heq⟩ := Option.map_eq_some_iff.1 h
    obtain ⟨rfl, rfl⟩ := by simpa using heq
    simp [next?, number?_append hread hend]
  case h_17 =>
    obtain ⟨⟨number, _⟩, hread, heq⟩ := Option.map_eq_some_iff.1 h
    obtain ⟨rfl, rfl⟩ := by simpa using heq
    obtain ⟨c, body, rfl, hc⟩ := exists_isDigit_of_number? hread
    rw [List.cons_append, next?_of_isDigit hc, ← List.cons_append, number?_append hread hend,
      Option.map_some]
  all_goals simp at h
  all_goals
    obtain ⟨rfl, rfl⟩ := h
    rfl

/-- No text has no tokens. -/
@[simp] lemma ofChars?_nil : ofChars? [] = some [] := by
  rw [ofChars?]

/-- The tokens of a text are the first one and those of what follows it. -/
lemma ofChars?_of_next? {t : Option Token} (h : next? cs = some (t, tail)) :
    ofChars? cs = (ofChars? tail).map (t.toList ++ ·) := by
  cases cs with
  | nil => contradiction
  | cons c cs =>
    rw [ofChars?]
    split
    · next hnone => simp [h] at hnone
    · next token rest hsome =>
      obtain ⟨rfl, rfl⟩ := by simpa [h] using hsome
      rfl

/-- A text that one token takes up has this token only. -/
lemma ofChars?_of_next?_nil {t : Token} (h : next? cs = some (some t, [])) :
    ofChars? cs = some [t] := by
  rw [ofChars?_of_next? h, ofChars?_nil]
  rfl

/-- **Texts are read piece by piece.**  A text followed by one that does not go on with its last
numeral has the tokens of the two, one after the other. -/
theorem ofChars?_append {tokens : List Token} (h : ofChars? cs = some tokens)
    (hend : EndsNumeral rest) : ofChars? (cs ++ rest) = (ofChars? rest).map (tokens ++ ·) := by
  fun_induction ofChars? cs generalizing tokens with
  | case1 =>
    obtain rfl := Option.some.inj h
    simp
  | case2 c cs hnone => contradiction
  | case3 c cs token tail hnext ih =>
    obtain ⟨more, hmore, rfl⟩ := Option.map_eq_some_iff.1 h
    rw [ofChars?_of_next? (next?_append hnext fun _ => hend), ih hmore, Option.map_map]
    simp only [Function.comp_def, List.append_assoc]

end RecordFilter.Json.Token
