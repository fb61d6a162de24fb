import RecordFilter.Json.Printer
import RecordFilter.Proofs.Json.Token

/-!
# String literals

A string is read back from its literal (`Token.ofChars?_stringChars`): an escape stands for the
character that it was written for, and every other character for itself.

Conversely, a string takes fewer bytes than any text that stands for it
(`Token.utf8ByteSize_lt_of_ofChars?`).  An escape of a character takes no fewer bytes than the
character, a surrogate pair takes twelve for a character of four, and the two quotes come on top.
-/

namespace RecordFilter.Json

namespace Token

/-! ### Reading a literal back -/

/-- The four digits of a control character stand for it. -/
lemma fourHexDigits_of_lt : ∀ n < 0x20,
    fourHexDigits n = ['0', '0', (n / 16).digitChar, (n % 16).digitChar] ∧
      hexWord? '0' '0' (n / 16).digitChar (n % 16).digitChar = some n := by
  decide

/-- A control character is no half of a surrogate pair. -/
lemma StringPart.ofUnit_of_lt {n : Nat} (h : n < 0x20) :
    StringPart.ofUnit n = .char (Char.ofNat n) := by
  have hhigh : ¬ 0xD800 ≤ n := by omega
  have hlow : ¬ 0xDC00 ≤ n := by omega
  simp [ofUnit, isHighSurrogate, isLowSurrogate, hhigh, hlow]

/-- What a character is written as inside a string is read as the character. -/
lemma stringBody?_escapeChar_append (c : Char) (rest : List Char) :
    stringBody? (escapeChar c ++ rest) = before (.char c) (stringBody? rest) := by
  unfold escapeChar
  split_ifs with hquote hslash hn hr ht hb hf hcontrol
  case pos => subst hquote; rfl
  case pos => subst hslash; rfl
  case pos => subst hn; rfl
  case pos => subst hr; rfl
  case pos => subst ht; rfl
  case pos => subst hb; rfl
  case pos => subst hf; rfl
  case pos =>
    obtain ⟨hdigits, hword⟩ := fourHexDigits_of_lt c.toNat hcontrol
    rw [hdigits]
    simp [stringBody?, hword, StringPart.ofUnit_of_lt hcontrol, Char.ofNat_toNat]
  case neg =>
    rw [List.singleton_append, stringBody?]
    · simp [hcontrol, hslash]
    all_goals simp_all

/-- The characters of a string are read back up to the closing quote. -/
lemma stringBody?_flatMap_escapeChar (chars rest : List Char) :
    stringBody? (chars.flatMap escapeChar ++ '"' :: rest) = some (chars.map .char, rest) := by
  induction chars with
  | nil => rfl
  | cons c chars ih =>
    rw [List.flatMap_cons, List.append_assoc, stringBody?_escapeChar_append, ih, before,
      List.map_cons]

/-- Parts that are characters are joined to these. -/
lemma StringPart.join?_map_char (pair : Nat → Nat → Char) (chars : List Char) :
    join? pair (chars.map .char) = some chars := by
  induction chars with
  | nil => rfl
  | cons c chars ih => rw [List.map_cons, join?, ih, Option.map_some]

/-- **Literals read back.**  The literal of a string is one token, and it stands for the
string. -/
theorem ofChars?_stringChars (s : String) :
    ofChars? (stringChars s) = some [.string (some s)] := by
  refine ofChars?_of_next?_nil ?_
  simp [stringChars, next?, stringBody?_flatMap_escapeChar, ofParts, StringPart.join?_map_char]

/-! ### The bytes of a string and of its literal -/

/-- How many bytes a part of a string has at most: half of a pair, half of its character. -/
def StringPart.bytes : StringPart → Nat
  | .char c => c.utf8Size
  | .half _ => 2

/-- How many bytes some parts of a string have at most. -/
def StringPart.bytesOfAll : List StringPart → Nat
  | [] => 0
  | part :: rest => part.bytes + bytesOfAll rest

/-- How many bytes some characters have is how many the first has and how many the others have. -/
lemma utf8ByteSize_ofList_cons (c : Char) (cs : List Char) :
    (String.ofList (c :: cs)).utf8ByteSize = c.utf8Size + (String.ofList cs).utf8ByteSize := by
  rw [String.ofList_cons, String.utf8ByteSize_append, String.utf8ByteSize_singleton]

/-- The characters of some parts have no more bytes than the parts. -/
lemma utf8ByteSize_le_of_join? {pair : Nat → Nat → Char} {parts : List StringPart}
    {chars : List Char} (h : StringPart.join? pair parts = some chars) :
    (String.ofList chars).utf8ByteSize ≤ StringPart.bytesOfAll parts := by
  fun_induction StringPart.join? pair parts generalizing chars with
  | case1 =>
    obtain rfl := Option.some.inj h
    exact Nat.le_refl _
  | case2 c parts ih =>
    obtain ⟨more, hmore, rfl⟩ := Option.map_eq_some_iff.1 h
    have := ih hmore
    simp only [utf8ByteSize_ofList_cons, StringPart.bytesOfAll, StringPart.bytes]
    omega
  | case3 high low parts hpair ih =>
    obtain ⟨more, hmore, rfl⟩ := Option.map_eq_some_iff.1 h
    have := ih hmore
    have := (pair high low).utf8Size_le_four
    simp only [utf8ByteSize_ofList_cons, StringPart.bytesOfAll, StringPart.bytes]
    omega
  | case4 => contradiction
  | case5 => contradiction

/-- A character that a letter behind a backslash stands for has one byte. -/
lemma utf8Size_of_escaped? {c e : Char} (h : escaped? c = some e) : e.utf8Size = 1 := by
  unfold escaped? at h
  split_ifs at h with hself
  · obtain rfl := Option.some.inj h
    rcases hself with rfl | rfl | rfl <;> rfl
  all_goals
    obtain rfl := Option.some.inj h
    rfl

/-- A code unit has at most four bytes. -/
lemma StringPart.bytes_ofUnit_le (unit : Nat) : (StringPart.ofUnit unit).bytes ≤ 4 := by
  unfold ofUnit
  split_ifs
  · exact Nat.le_of_ble_eq_true rfl
  · exact Char.utf8Size_le_four _

/-- The parts of a string have fewer bytes than the text they are read from. -/
lemma bytes_lt_of_stringBody? {cs rest : List Char} {parts : List StringPart}
    (h : stringBody? cs = some (parts, rest)) :
    StringPart.bytesOfAll parts < (String.ofList cs).utf8ByteSize := by
  fun_induction stringBody? cs generalizing parts with
  | case2 body =>
    obtain ⟨rfl, rfl⟩ := by simpa using h
    have := Char.utf8Size_pos '"'
    simp only [utf8ByteSize_ofList_cons, StringPart.bytesOfAll]
    omega
  | case4 a b c d body unit hword ih =>
    obtain ⟨more, hread, rfl⟩ := before_eq_some_iff.1 h
    have := ih hread
    have := StringPart.bytes_ofUnit_le unit
    have := a.utf8Size_pos
    have := b.utf8Size_pos
    have := c.utf8Size_pos
    have := d.utf8Size_pos
    simp only [utf8ByteSize_ofList_cons, StringPart.bytesOfAll]
    omega
  | case6 c body hu e he ih =>
    obtain ⟨more, hread, rfl⟩ := before_eq_some_iff.1 h
    have := ih hread
    have := utf8Size_of_escaped? he
    have := c.utf8Size_pos
    have := Char.utf8Size_pos '\\'
    simp only [utf8ByteSize_ofList_cons, StringPart.bytesOfAll, StringPart.bytes]
    omega
  | case8 c body hquote hu hslash hc ih =>
    obtain ⟨more, hread, rfl⟩ := before_eq_some_iff.1 h
    have := ih hread
    simp only [utf8ByteSize_ofList_cons, StringPart.bytesOfAll, StringPart.bytes]
    omega
  | _ => contradiction

/-- What is read without a token is one character of white space. -/
lemma eq_of_next?_none {c : Char} {cs tail : List Char}
    (h : next? (c :: cs) = some (none, tail)) : tail = cs := by
  unfold next? at h
  split at h
  case h_15 => simp at h
  case h_16 => simp at h
  case h_17 => simp at h
  all_goals simp_all

/-- A string is read behind a quote. -/
lemma exists_stringBody?_of_next? {c : Char} {cs tail : List Char} {s : String}
    (h : next? (c :: cs) = some (some (.string (some s)), tail)) :
    ∃ parts chars, stringBody? cs = some (parts, tail) ∧
      StringPart.join? ofSurrogates parts = some chars ∧ s = String.ofList chars := by
  unfold next? at h
  split at h
  case h_15 body heq =>
    obtain ⟨⟨parts, rest⟩, hread, hparts⟩ := Option.map_eq_some_iff.1 h
    simp only [ofParts, Prod.mk.injEq, Option.some.injEq, Token.string.injEq] at hparts
    obtain ⟨hchars, rfl⟩ := hparts
    obtain ⟨chars, hjoin, rfl⟩ := Option.map_eq_some_iff.1 hchars
    obtain ⟨-, rfl⟩ := List.cons.inj heq
    exact ⟨parts, chars, hread, hjoin, rfl⟩
  case h_16 | h_17 => simp [number?] at h
  all_goals simp at h

/-- **Strings are shorter than their texts.**  A text that stands for a string has more bytes than
the string. -/
theorem utf8ByteSize_lt_of_ofChars? {cs : List Char} {s : String}
    (h : ofChars? cs = some [.string (some s)]) :
    s.utf8ByteSize < (String.ofList cs).utf8ByteSize := by
  fun_induction ofChars? cs with
  | case1 => simp at h
  | case2 => contradiction
  | case3 c cs token tail hnext ih =>
    obtain ⟨more, hmore, htokens⟩ := Option.map_eq_some_iff.1 h
    rw [utf8ByteSize_ofList_cons]
    cases token with
    -- White space in front of the string only makes the text longer.
    | none =>
      obtain rfl := eq_of_next?_none hnext
      have := ih (by simpa [← htokens] using hmore)
      omega
    | some token =>
      obtain ⟨rfl, -⟩ := by simpa using htokens
      obtain ⟨parts, chars, hbody, hjoin, rfl⟩ := exists_stringBody?_of_next? hnext
      have := utf8ByteSize_le_of_join? hjoin
      have := bytes_lt_of_stringBody? hbody
      omega

end Token

end RecordFilter.Json
