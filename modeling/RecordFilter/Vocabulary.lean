import RecordFilter.Text.Blank

/-!
# Vocabularies

Many enumerations of this library are written as fixed tokens.  `Vocabulary` pairs an
enumeration with its values in display order and their tokens; reading a token is looking it up.
-/

namespace RecordFilter

/-- An enumeration whose values are written as tokens. -/
class Vocabulary (α : Type) where
  /-- The values in display order. -/
  all : List α
  /-- The token of a value. -/
  token : α → String

namespace Vocabulary

variable {α : Type} [Vocabulary α]

/-- The tokens in display order. -/
def tokens (α : Type) [Vocabulary α] : List String :=
  (all : List α).map token

/-- The value with the given token. -/
def ofToken? (s : String) : Option α :=
  all.find? fun a => token a = s

/-- The value whose token is the given text up to the case of ASCII letters. -/
def ofTokenAnyCase? (s : String) : Option α :=
  all.find? fun a => Text.lowerAscii (token a) = Text.lowerAscii s

/-- The value whose token is the given text up to the case of ASCII letters and blank
characters at the ends. -/
def ofTokenLoosely? (s : String) : Option α :=
  ofTokenAnyCase? (Text.trim s)

end Vocabulary

end RecordFilter
