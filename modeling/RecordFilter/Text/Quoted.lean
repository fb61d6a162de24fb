import RecordFilter.Text.Unprintable

/-!
# Quoted texts

How a message shows a text that it quotes: between double quotes, with the quote and the
backslash escaped by a backslash, the usual control characters by their letters, and every
other character that is not shown as itself by its code point in hexadecimal.
-/

namespace RecordFilter.Text

/-- The code point of a character in hexadecimal, between braces. -/
def codePointEscape (c : Char) : List Char :=
  ['\\', 'u', '\x7b'] ++ Nat.toDigits 16 c.toNat ++ ['\x7d']

/-- One character of a quoted text. -/
def quoteChar (c : Char) : List Char :=
  if c = '"' then ['\\', '"']
  else if c = '\\' then ['\\', '\\']
  else if c = '\n' then ['\\', 'n']
  else if c = '\r' then ['\\', 'r']
  else if c = '\t' then ['\\', 't']
  else if c = '\x00' then ['\\', '0']
  else if isUnprintable c then codePointEscape c
  else [c]

/-- The text as a message quotes it. -/
def quoted (s : String) : String :=
  String.ofList ('"' :: (s.toList.flatMap quoteChar ++ ['"']))

end RecordFilter.Text
